/-
# WindowPolicy.Hierarchy.Operation — everything that can be done to a hierarchy

The operations of a hierarchy as data, those of its windows among them, so that histories
are lists.

* `Hierarchy.Op`, `Hierarchy.step`: one operation;
* `Hierarchy.run`: operations from first to last.
-/
import WindowPolicy.Hierarchy.Completion
import WindowPolicy.Hierarchy.Links
import WindowPolicy.Window.Operation

namespace WindowPolicy

set_option autoImplicit false

namespace Hierarchy

/-- An operation on a hierarchy. -/
inductive Op (κ : Type) where
  | insert (window : Window κ)
  | remove (id : WindowId)
  | setContainer (child : WindowId) (container : Option WindowId)
  | makeActive (id : WindowId)
  | destroy (id : WindowId)
  /-- The decor surface of the owner has the token `attached`. -/
  | complete (owner : WindowId) (attributes : Attributes) (attached : Option Token)
  /-- The decor surface of the owner has the token `attached`. -/
  | addWindow (owner : WindowId) (attributes : Attributes) (attached : Option Token)
  /-- An operation on the window that an id names. -/
  | window (id : WindowId) (op : Window.Op κ)
deriving DecidableEq

/-- What an operation answers. -/
inductive Answer (κ : Type) where
  | issued (id : WindowId)
  | removed (window : Option (Window κ))
  | linked (result : Except Refusal Unit)
  | destroyed (result : Except Refusal Bool)
  | completed (result : Except Refusal (Category × Attributes))
  | added (result : Except Refusal Attributes)
  /-- None when the id names no window. -/
  | window (result : Option (Except Refusal (Window.Answer κ)))

variable {κ : Type}

/-- One operation. -/
def step (t : Hierarchy κ) : Op κ → Step κ (Hierarchy κ) (Answer κ)
  | .insert w =>
      let (id, state) := t.insert w
      { state, answer := .issued id }
  | .remove id =>
      let (window, state) := t.remove id
      { state, answer := .removed window }
  | .setContainer child container => (t.setContainer child container).map .linked
  | .makeActive id => (t.makeActive id).map .linked
  | .destroy id => (t.destroy id).map .destroyed
  | .complete owner attributes attached => (t.complete owner attributes attached).map .completed
  | .addWindow owner attributes attached => (t.addWindow owner attributes attached).map .added
  | .window id op =>
      match t.update? id (·.step op) with
      | some step => step.map fun answer => .window (some answer)
      | none => { state := t, answer := .window none }

/-- The hierarchy after operations, from first to last. -/
def run (t : Hierarchy κ) (ops : List (Op κ)) : Hierarchy κ :=
  ops.foldl (fun t op => (t.step op).state) t

end Hierarchy

end WindowPolicy
