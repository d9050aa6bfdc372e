/-
# WindowPolicy.Decor — what surrounds the content of a window

The decor is the root surface of a window with its caption and the system bars; the time
that its frames take is reported to whoever asked for it. The progress indicator of the title
bar is no longer drawn, but its codes still arrive and have to be recognised: four controls
below zero, then two ranges of progress values that do not overlap.
-/
import WindowPolicy.Flag.Text

namespace WindowPolicy

set_option autoImplicit false

/-- How the system bars look. -/
def barAppearanceVocabulary : Vocabulary where
  title := "SystemBarAppearance"
  names :=
    [("OPAQUE_STATUS_BARS", 0), ("OPAQUE_NAVIGATION_BARS", 1), ("LOW_PROFILE_BARS", 2),
     ("LIGHT_STATUS_BARS", 3), ("LIGHT_NAVIGATION_BARS", 4),
     ("SEMI_TRANSPARENT_STATUS_BARS", 5), ("SEMI_TRANSPARENT_NAVIGATION_BARS", 6)]

/-- The look of the system bars. -/
abbrev BarAppearance := FlagSet barAppearanceVocabulary

/-- The transition name of the background of the status bar. -/
def statusBarBackground : String := "android:status:background"

/-- The transition name of the background of the navigation bar. -/
def navigationBarBackground : String := "android:navigation:background"

/-- The shade of the controls in the caption. -/
inductive CaptionShade where
  /-- Whatever suits the content. -/
  | auto
  | light
  | dark
deriving DecidableEq, Repr

/-- The shade when nothing else is said. -/
def CaptionShade.standard : CaptionShade := auto

def CaptionShade.all : List CaptionShade := [auto, light, dark]

def CaptionShade.name : CaptionShade → String
  | auto => "Auto"
  | light => "Light"
  | dark => "Dark"

/-- A control of the progress indicator. -/
inductive ProgressControl where
  | visible
  | hidden
  | indeterminate
  | determinate
deriving DecidableEq, Repr

/-- The code of a control. -/
def ProgressControl.code : ProgressControl → Int
  | visible => -1
  | hidden => -2
  | indeterminate => -3
  | determinate => -4

/-- A range of progress values, ends included. -/
structure ProgressRange where
  first : Int
  last : Int
deriving DecidableEq, Repr

namespace ProgressRange

def primary : ProgressRange := ⟨0, 10000⟩

def secondary : ProgressRange := ⟨20000, 30000⟩

end ProgressRange

/-- Where the time of one frame went, in nanoseconds. -/
structure FrameTiming where
  inputHandling : UInt64 := 0
  animation : UInt64 := 0
  layoutMeasure : UInt64 := 0
  draw : UInt64 := 0
  sync : UInt64 := 0
  commandIssue : UInt64 := 0
  swapBuffers : UInt64 := 0
  total : UInt64 := 0
  /-- The frame was the first one drawn. -/
  firstDraw : Bool := false
deriving DecidableEq, Repr

/-- The name under which a window knows a listener for frame timing. -/
structure FrameListenerId where
  value : UInt32
deriving DecidableEq, Repr

def FrameListenerId.describe (id : FrameListenerId) : String :=
  "FrameMetricsListenerId(" ++ toString id.value.toNat ++ ")"

end WindowPolicy
