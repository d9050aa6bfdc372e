/-
# WindowPolicy.Hierarchy.Completion — records on behalf of a window

A record is completed from the window that owns it and from that window's container. A
container that is no longer in the hierarchy counts as none. The token of the owner's decor
surface is what the surface has at the time.

* `Hierarchy.complete`: completes a record;
* `Hierarchy.addWindow`: completes a record and gives it to the owner's window manager.
-/
import WindowPolicy.Hierarchy.Basic

namespace WindowPolicy.Hierarchy

set_option autoImplicit false

variable {κ : Type} (t : Hierarchy κ)

/-- The container of a window, if it is there. -/
def containerOf (w : Window κ) : Option (Window κ) := w.container.bind t.get?

/-- A record with the token and the title that a window gives it. The decor surface of the
window has the token `attached`. -/
def completion (w : Window κ) (a : Attributes) (attached : Option Token) : Attributes :=
  a.completeFor (w.owner (t.containerOf w) attached)

def completionNotes (id : WindowId) (w : Window κ) (a : Attributes) (attached : Option Token) :
    List Note :=
  (if w.container.isSome && (t.containerOf w).isNone then [.staleContainer id] else [])
    ++ [.ofCompleted (t.completion w a attached)]

/-- Completes a record. The answer tells the category of its type code as well. -/
def complete (id : WindowId) (a : Attributes) (attached : Option Token) :
    Step κ (Hierarchy κ) (Except Refusal (Category × Attributes)) :=
  match t.live id with
  | .error refusal => { state := t, answer := .error refusal }
  | .ok w =>
      { state := t
        answer := .ok (a.type.category, t.completion w a attached)
        notes := t.completionNotes id w a attached }

/-- Completes a record and gives it to the window manager of its owner. The answer is the
record as it was given away. -/
def addWindow (id : WindowId) (a : Attributes) (attached : Option Token) :
    Step κ (Hierarchy κ) (Except Refusal Attributes) :=
  match t.live id with
  | .error refusal => { state := t, answer := .error refusal }
  | .ok w =>
      let record := t.completion w a attached
      let notes := t.completionNotes id w a attached
      if w.destroyed then { state := t, answer := .error .destroyed, notes }
      else
        match w.manager with
        | none => { state := t, answer := .error .noManager, notes }
        | some manager =>
            { state := t, answer := .ok record, calls := [.addWindow manager record], notes }

end WindowPolicy.Hierarchy
