/-
# WindowPolicy.Hierarchy.Basic — an arena of windows

A hierarchy owns its windows. They live in slots; a slot that was emptied is used again,
last freed first, and its occupants are told apart by generation. Links between windows
are ids, so a link keeps nothing alive: when a window is removed the ids that name it no
longer find anything.

* `Hierarchy.get?`: the window that an id names, the view through which a hierarchy is
  understood;
* `Hierarchy.insert`, `remove`, `modify`: the changes to that view.
-/
import WindowPolicy.Window.Basic

namespace WindowPolicy

set_option autoImplicit false

/-- A place for a window. -/
structure Slot (κ : Type) where
  /-- The generation of the occupant, or of the last one when the slot is empty. -/
  generation : UInt32
  window : Option (Window κ)
deriving DecidableEq

/-- Windows in slots. -/
structure Hierarchy (κ : Type) where
  slots : Array (Slot κ) := #[]
  /-- The empty slots, last freed first. -/
  free : List Nat := []
  /-- How many windows there are. -/
  size : Nat := 0
deriving DecidableEq

namespace Hierarchy

variable {κ : Type}

/-- The hierarchy without windows. -/
def empty : Hierarchy κ := {}

variable (t : Hierarchy κ)

def isEmpty : Bool := t.size = 0

/-- The window that an id names. -/
def get? (id : WindowId) : Option (Window κ) :=
  t.slots[id.slot]?.bind fun slot => if slot.generation = id.generation then slot.window else none

/-- The id names a window. -/
def isAlive (id : WindowId) : Bool := (t.get? id).isSome

/-- The window that an id names, or the refusal of an id that names none. -/
def live (id : WindowId) : Except Refusal (Window κ) :=
  match t.get? id with
  | some w => .ok w
  | none => .error (.unknownWindow id)

/-- Gives the slot of an id the generation of the id and an occupant, or none. -/
def write (id : WindowId) (window : Option (Window κ)) : Hierarchy κ :=
  { t with slots := t.slots.setIfInBounds id.slot ⟨id.generation, window⟩ }

/-- Changes the window that an id names. -/
def modify (id : WindowId) (change : Window κ → Window κ) : Hierarchy κ :=
  match t.get? id with
  | some w => t.write id (some (change w))
  | none => t

/-- The id that the next occupant of a slot gets. -/
def nextId (slot : Nat) : WindowId :=
  ⟨slot, ((t.slots[slot]?.map (·.generation)).getD 0) + 1⟩

/-- Takes in a window and names it. The slot freed last is used first; generations of a
slot begin at one. -/
def insert (w : Window κ) : WindowId × Hierarchy κ :=
  match t.free with
  | [] =>
      let id : WindowId := ⟨t.slots.size, 1⟩
      (id, { t with slots := t.slots.push ⟨id.generation, some w⟩, size := t.size + 1 })
  | slot :: rest =>
      let id := t.nextId slot
      (id, { t.write id (some w) with free := rest, size := t.size + 1 })

/-- A container, if it is there, forgets a child as its active one. -/
def forgetActive (container : Option WindowId) (child : WindowId) : Hierarchy κ :=
  match container with
  | none => t
  | some host =>
      t.modify host fun w =>
        if w.activeChild = some child then { w with activeChild := none } else w

/-- Takes a window out. Its container forgets it as the active child; its own children
stay, with a container that is no longer there. -/
def remove (id : WindowId) : Option (Window κ) × Hierarchy κ :=
  match t.get? id with
  | none => (none, t)
  | some w =>
      let rest := { t.write id none with free := id.slot :: t.free, size := t.size - 1 }
      (some w, rest.forgetActive w.container id)

/-- An operation on the window that an id names. -/
def update? {A : Type} (id : WindowId) (op : Window κ → Step κ (Window κ) A) :
    Option (Step κ (Hierarchy κ) A) :=
  (t.get? id).map fun w => (op w).into fun changed => t.write id (some changed)

end Hierarchy

end WindowPolicy
