/-
# WindowPolicy.Note — what is worth logging

Notes say what happened, as values; `Note.level` and `Note.text` give them their weight
and their wording. Notes never change what a window or a hierarchy does. They know a window
by its id, a slot with the generation of its occupant: a slot that is used again gets the
next generation, so an id outlives its window without naming the next one.
-/
import WindowPolicy.Attributes.Basic
import WindowPolicy.Feature.Basic
import WindowPolicy.Text.Quoted

namespace WindowPolicy

set_option autoImplicit false

open WindowPolicy.Text (quote)

/-- The name of a window in a hierarchy. Generations count modulo `2 ^ 32`. -/
structure WindowId where
  slot : Nat
  generation : UInt32
deriving DecidableEq, Repr

def WindowId.describe (id : WindowId) : String :=
  "WindowId(" ++ toString id.slot ++ ", " ++ toString id.generation.toNat ++ ")"

/-- The weight of a note. -/
inductive Level where
  | trace
  | debug
  | warn
deriving DecidableEq, Repr

def Level.name : Level → String
  | .trace => "TRACE"
  | .debug => "DEBUG"
  | .warn => "WARN"

/-- The description of a value that may be missing. -/
def describeOption {α : Type} (describe : α → String) : Option α → String
  | none => "None"
  | some a => "Some(" ++ describe a ++ ")"

/-- Something that happened. -/
inductive Note where
  /-- The default features held conflicts or bits that are no feature. -/
  | defaultsSeeded (defaults seeded : Features)
  /-- A request named no feature. -/
  | unknownFeature (id : Int32)
  /-- A request met pinned features. -/
  | requestBlocked (feature : Feature) (pins : Features)
  /-- A feature without effect was granted. -/
  | deprecatedFeature (feature : Feature)
  /-- A granted feature displaced others. -/
  | conflictsCleared (feature : Feature) (cleared : Features)
  /-- A destroyed window was asked to change. -/
  | changeRejected
  /-- Neither the caller nor the context had a window manager. -/
  | boundWithoutManager (appName : String)
  | windowDestroyed (title : String)
  /-- A record was completed. -/
  | completed (category : Category) (type : TypeCode) (token : Option Token) (title : String)
  | contained (child container : WindowId)
  | madeTopLevel (child : WindowId)
  | deactivated (window : WindowId)
  | activated (window : WindowId)
  /-- The container of an owner is no longer in the hierarchy. -/
  | staleContainer (owner : WindowId)
deriving DecidableEq

namespace Note

/-- The note on a record that was completed. -/
def ofCompleted (a : Attributes) : Note := .completed a.type.category a.type a.token a.title

def level : Note → Level
  | unknownFeature _ | requestBlocked .. | deprecatedFeature _ | changeRejected => .warn
  | completed .. => .trace
  | _ => .debug

def text : Note → String
  | defaultsSeeded defaults seeded =>
      "default features " ++ defaults.describe ++ " seeded as " ++ seeded.describe
  | unknownFeature id => "rejected request for unknown feature id " ++ toString id.toInt
  | requestBlocked feature pins =>
      feature.describe ++ " conflicts with pinned features " ++ pins.describe
        ++ "; request rejected"
  | deprecatedFeature feature => feature.describe ++ " is deprecated and has no effect"
  | conflictsCleared feature cleared =>
      feature.describe ++ " clears conflicting features " ++ cleared.describe
  | changeRejected => "rejected change to a destroyed window"
  | boundWithoutManager appName =>
      "window bound to " ++ quote appName ++ " without a window manager"
  | windowDestroyed title => "destroyed window " ++ quote title
  | completed category type token title =>
      "derived " ++ category.name ++ " attributes: type " ++ type.text ++ ", token "
        ++ describeOption Token.describe token ++ ", title " ++ quote title
  | contained child container => child.describe ++ " contained by " ++ container.describe
  | madeTopLevel child => child.describe ++ " is now top level"
  | deactivated window => "deactivated " ++ window.describe
  | activated window => "activated " ++ window.describe
  | staleContainer owner =>
      owner.describe ++ " has a stale container; deriving as top level"

end Note

end WindowPolicy
