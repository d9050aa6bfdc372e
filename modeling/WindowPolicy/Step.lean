/-
# WindowPolicy.Step — what one operation comes to

An operation leaves a state and gives an answer. Along the way it may call on
collaborators and note what happened. Collaborators are known by names `κ`; calling one
is recorded as data, so a history of operations also says who was called, with what, and
in which order. No call can reach back into the state that it was made from. An operation
that is turned down answers with a refusal; a feature request that is turned down is no
refusal: its answer is `false`.
-/
import WindowPolicy.Decor
import WindowPolicy.Input
import WindowPolicy.Note

namespace WindowPolicy

set_option autoImplicit false

/-- Why an operation is turned down. -/
inductive Refusal where
  /-- The window was destroyed and takes no more changes. -/
  | destroyed
  /-- No window in the hierarchy has the id. -/
  | unknownWindow (id : WindowId)
  | selfContainment
  /-- No window manager is bound. -/
  | noManager
  /-- No decor surface is attached. -/
  | noDecor
deriving DecidableEq, Repr

/-- The wording of a refusal. -/
def Refusal.message : Refusal → String
  | destroyed => "window has been destroyed"
  | unknownWindow id => "unknown window " ++ id.describe
  | selfContainment => "a window cannot contain itself"
  | noManager => "no window manager is bound"
  | noDecor => "no decor surface is attached"

/-- A call to a collaborator. -/
inductive Call (κ : Type) where
  /-- A callback learns of changed attributes. -/
  | attributesChanged (callback : κ) (attributes : Attributes)
  /-- A window manager is given a window. -/
  | addWindow (manager : κ) (attributes : Attributes)
  /-- A context resolves the theme of a window. -/
  | resolveTheme (context : κ)
  | dismissed (listener : κ) (finishTask suppressTransition : Bool)
  | swipeDismissed (listener : κ)
  | barAppearanceChanged (decor : κ) (appearance : BarAppearance)
  | captionAreaChanged (listener : κ) (area : Rect)
  | frameTimed (listener : κ) (timing : FrameTiming) (droppedReports : UInt32)
deriving DecidableEq

/-- An operation on a state `S` with an answer `A`. -/
structure Step (κ S A : Type) where
  state : S
  answer : A
  calls : List (Call κ) := []
  notes : List Note := []

namespace Step

variable {κ S T A B : Type}

/-- The same operation with its answer read differently. -/
def map (f : A → B) (s : Step κ S A) : Step κ S B :=
  { state := s.state, answer := f s.answer, calls := s.calls, notes := s.notes }

/-- The same operation with its state put into a larger one. -/
def into (f : S → T) (s : Step κ S A) : Step κ T A :=
  { state := f s.state, answer := s.answer, calls := s.calls, notes := s.notes }

end Step

end WindowPolicy
