import WindowPolicy.Config.Attributes
import WindowPolicy.Json.Printer
import WindowPolicy.Json.Reader
import WindowPolicy.Proofs.Attributes.Dim
import WindowPolicy.Proofs.Attributes.Explicit
import WindowPolicy.Proofs.Attributes.Flags
import WindowPolicy.Proofs.Attributes.Format
import WindowPolicy.Proofs.Attributes.Settling
import WindowPolicy.Proofs.Attributes.Theming
import WindowPolicy.Proofs.Attributes.Title
import WindowPolicy.Proofs.Config.Attributes
import WindowPolicy.Proofs.Dispatcher.Forwarding
import WindowPolicy.Proofs.Feature.Answer
import WindowPolicy.Proofs.Feature.History
import WindowPolicy.Proofs.Feature.Pin
import WindowPolicy.Proofs.Hierarchy.Activation
import WindowPolicy.Proofs.Hierarchy.Atomicity
import WindowPolicy.Proofs.Hierarchy.Coherence
import WindowPolicy.Proofs.Hierarchy.Completion
import WindowPolicy.Proofs.Hierarchy.Directory
import WindowPolicy.Proofs.Hierarchy.Footprint
import WindowPolicy.Proofs.Hierarchy.Foreign
import WindowPolicy.Proofs.Hierarchy.Identity
import WindowPolicy.Proofs.Hierarchy.Nesting
import WindowPolicy.Proofs.Hierarchy.Recording
import WindowPolicy.Proofs.Hierarchy.Return
import WindowPolicy.Proofs.Hierarchy.Slots
import WindowPolicy.Proofs.Window.Binding
import WindowPolicy.Proofs.Window.CaptionArea
import WindowPolicy.Proofs.Window.Destroyed
import WindowPolicy.Proofs.Window.Features
import WindowPolicy.Proofs.Window.FrameListeners
import WindowPolicy.Proofs.Window.Mirror
import WindowPolicy.Proofs.Window.Theme
import WindowPolicy.Window.Description
