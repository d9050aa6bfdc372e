/-
# WindowPolicy.Proofs.Hierarchy.View — every change as a change of the view

A hierarchy is understood through `get?`: which window an id names. Here every change of a
hierarchy is given as a change of that view, window by window, so that nothing further on
has to look at slots:

* `get?_modify`, `modify_modify`: a change at one id leaves what every other id names, and
  two changes at one id are one;
* `write_self`, `modify_eq_self`: a change that changes no window changes nothing at all;
* `get?_remove`: the id that is taken out names nothing, and the container of the window
  has forgotten it.

None of these facts asks for a hierarchy to be well formed. Taking in is different: a slot
that is used again must be empty (`WindowPolicy.Proofs.Hierarchy.Arena`).
-/
import WindowPolicy.Hierarchy.Operation
import Mathlib.Data.Option.Basic

namespace WindowPolicy

set_option autoImplicit false

theorem WindowId.eq_iff {i j : WindowId} :
    i = j ↔ i.slot = j.slot ∧ i.generation = j.generation := by
  cases i
  cases j
  simp

namespace Hierarchy

variable {κ : Type} {t : Hierarchy κ}

/-! ## Reading and writing slots -/

/-- An id names the occupant of its slot, if the generation is that of the id. -/
theorem get?_eq_some_iff {id : WindowId} {w : Window κ} :
    t.get? id = some w ↔ t.slots[id.slot]? = some ⟨id.generation, some w⟩ := by
  unfold get?
  constructor
  · intro named
    obtain ⟨⟨generation, occupant⟩, found, same⟩ := Option.bind_eq_some_iff.mp named
    split at same
    · rename_i current
      dsimp only at current same
      rw [found, current, same]
    · cases same
  · intro found
    simp [found]

theorem getElem?_write (id : WindowId) (occupant : Option (Window κ)) (i : Nat) :
    (t.write id occupant).slots[i]? =
      if id.slot = i then (if id.slot < t.slots.size then some ⟨id.generation, occupant⟩ else none)
      else t.slots[i]? := by
  unfold write
  rw [Array.getElem?_setIfInBounds]

theorem slot_lt_size {id : WindowId} {w : Window κ} (named : t.get? id = some w) :
    id.slot < t.slots.size := by
  obtain ⟨bound, -⟩ := Array.getElem?_eq_some_iff.mp (get?_eq_some_iff.mp named)
  exact bound

/-- What ids name once the window of one of them is replaced or taken away. -/
theorem get?_write {id : WindowId} {w : Window κ} (named : t.get? id = some w)
    (occupant : Option (Window κ)) (j : WindowId) :
    (t.write id occupant).get? j = if j = id then occupant else t.get? j := by
  have bound := slot_lt_size named
  have before := get?_eq_some_iff.mp named
  unfold get?
  rw [getElem?_write]
  by_cases slot : id.slot = j.slot
  · -- The generation tells whether `j` is the same id or an old one of the slot.
    rw [if_pos slot, if_pos bound, ← slot, before]
    by_cases generation : id.generation = j.generation
    · have same : j = id := WindowId.eq_iff.mpr ⟨slot.symm, generation.symm⟩
      simp [generation, same]
    · have other : j ≠ id := fun same => generation (same ▸ rfl)
      simp [generation, other]
  · have other : j ≠ id := fun same => slot (same ▸ rfl)
    rw [if_neg slot, if_neg other]

/-- Writing back what is there changes nothing. -/
theorem write_self {id : WindowId} {w : Window κ} (named : t.get? id = some w) :
    t.write id (some w) = t := by
  have bound := slot_lt_size named
  have before := get?_eq_some_iff.mp named
  have slots : (t.write id (some w)).slots = t.slots := by
    apply Array.ext_getElem?
    intro i
    rw [getElem?_write, if_pos bound]
    split
    · rename_i here
      rw [← here, before]
    · rfl
  cases t
  simp only [write] at slots ⊢
  rw [slots]

/-! ## Changing one window -/

theorem modify_of_get? {id : WindowId} {w : Window κ} (named : t.get? id = some w)
    (change : Window κ → Window κ) : t.modify id change = t.write id (some (change w)) := by
  simp [modify, named]

theorem modify_of_none {id : WindowId} (unnamed : t.get? id = none)
    (change : Window κ → Window κ) : t.modify id change = t := by
  simp [modify, unnamed]

/-- A change at one id changes what that id names and nothing else. -/
theorem get?_modify (id : WindowId) (change : Window κ → Window κ) (j : WindowId) :
    (t.modify id change).get? j = (t.get? j).map fun w => if j = id then change w else w := by
  cases named : t.get? id with
  | none =>
      rw [modify_of_none named]
      by_cases same : j = id
      · rw [same, named]
        rfl
      · simp [same]
  | some w =>
      rw [modify_of_get? named, get?_write named]
      by_cases same : j = id
      · rw [same, named]
        simp
      · simp [same]

/-- A change that leaves the window as it was leaves the hierarchy as it was. -/
theorem modify_eq_self {id : WindowId} {change : Window κ → Window κ}
    (still : ∀ w, t.get? id = some w → change w = w) : t.modify id change = t := by
  cases named : t.get? id with
  | none => exact modify_of_none named change
  | some w => rw [modify_of_get? named, still w named, write_self named]

/-- A change matters only at the window that the id names. -/
theorem modify_congr {id : WindowId} {change other : Window κ → Window κ}
    (same : ∀ w, t.get? id = some w → change w = other w) :
    t.modify id change = t.modify id other := by
  cases named : t.get? id with
  | none => rw [modify_of_none named, modify_of_none named]
  | some w => rw [modify_of_get? named, modify_of_get? named, same w named]

theorem get?_modify_self {id : WindowId} {w : Window κ} (named : t.get? id = some w)
    (change : Window κ → Window κ) : (t.modify id change).get? id = some (change w) := by
  rw [get?_modify, named]
  simp

/-- Two changes of one window are one change. -/
theorem modify_modify (id : WindowId) (first second : Window κ → Window κ) :
    (t.modify id first).modify id second = t.modify id (second ∘ first) := by
  cases named : t.get? id with
  | none => simp only [modify_of_none named]
  | some w =>
      rw [modify_of_get? (get?_modify_self named first), modify_of_get? named,
        modify_of_get? named]
      simp [write]

/-- An operation on a window changes the hierarchy at the window's id. -/
theorem update?_of_get? {A : Type} {id : WindowId} {w : Window κ} (named : t.get? id = some w)
    (op : Window κ → Step κ (Window κ) A) :
    t.update? id op =
      some { state := t.modify id fun w => (op w).state
             answer := (op w).answer
             calls := (op w).calls
             notes := (op w).notes } := by
  simp [update?, named, Step.into, modify_of_get? named]

theorem update?_of_none {A : Type} {id : WindowId} (unnamed : t.get? id = none)
    (op : Window κ → Step κ (Window κ) A) : t.update? id op = none := by
  simp [update?, unnamed]

/-! ## Taking out -/

/-- The window that `id` names once the window `child` has left `container`. -/
def forgotten (container : Option WindowId) (child id : WindowId) (w : Window κ) : Window κ :=
  if container = some id ∧ w.activeChild = some child then { w with activeChild := none } else w

theorem get?_forgetActive (container : Option WindowId) (child j : WindowId) :
    (t.forgetActive container child).get? j = (t.get? j).map (forgotten container child j) := by
  unfold forgetActive
  cases container with
  | none =>
      have still : forgotten (κ := κ) none child j = id := by
        funext w
        simp [forgotten]
      simp [still]
  | some host =>
      rw [get?_modify]
      congr 1
      funext w
      by_cases here : host = j
      · simp [forgotten, here]
      · simp [forgotten, here, Ne.symm here]

theorem remove_of_none {id : WindowId} (unnamed : t.get? id = none) : t.remove id = (none, t) := by
  simp [remove, unnamed]

theorem remove_answer (id : WindowId) : (t.remove id).1 = t.get? id := by
  unfold remove
  split <;> simp_all

/-- What ids name once a window was taken out. -/
theorem get?_remove {id : WindowId} {w : Window κ} (named : t.get? id = some w) (j : WindowId) :
    (t.remove id).2.get? j =
      if j = id then none else (t.get? j).map (forgotten w.container id j) := by
  have emptied (rest : List Nat) (size : Nat) :
      ({ t.write id none with free := rest, size := size } : Hierarchy κ).get? j =
        if j = id then none else t.get? j :=
    get?_write named none j
  simp only [remove, named, get?_forgetActive, emptied]
  split <;> rfl

/-- A window that is there after another one was taken out was there before. -/
theorem of_get?_remove {id j : WindowId} {x : Window κ} (after : (t.remove id).2.get? j = some x) :
    ∃ container y, t.get? j = some y ∧ forgotten container id j y = x := by
  cases named : t.get? id with
  | none =>
      rw [remove_of_none named] at after
      exact ⟨none, x, after, if_neg (by simp)⟩
  | some w =>
      rw [get?_remove named] at after
      split at after
      · cases after
      · exact ⟨w.container, Option.map_eq_some_iff.mp after⟩

end Hierarchy

end WindowPolicy
