/-
# WindowPolicy.Proofs.Hierarchy.Arena — slots are used again only when they are empty

The windows of a hierarchy are in slots, and a slot that was freed is handed out again. A
hierarchy is *tidy* when its list of free slots tells the truth: it holds every empty slot
once and nothing else. Tidiness depends only on the *outline* of a hierarchy, the part of
it that no window shows in, and an operation that takes no window in and none out leaves
the outline as it is (`Change.outline`).

* `Tidy`, `tidy_run`: every history from the empty hierarchy leaves it tidy, whatever
  windows were taken in;
* `get?_insert`: a tidy hierarchy takes a window in under an id that named nothing, and
  what other ids name stays.
-/
import WindowPolicy.Proofs.Hierarchy.Links

namespace WindowPolicy

set_option autoImplicit false

namespace Hierarchy

variable {κ : Type} {t : Hierarchy κ}

/-! ## Outlines -/

/-- What is left of a hierarchy when its windows are not looked at. -/
structure Outline where
  /-- The generation of each slot and whether a window is in it. -/
  slots : Array (UInt32 × Bool)
  free : List Nat
  size : Nat

def outline (t : Hierarchy κ) : Outline :=
  { slots := t.slots.map fun slot => (slot.generation, slot.window.isSome)
    free := t.free
    size := t.size }

theorem outline_write {id : WindowId} {w : Window κ} (named : t.get? id = some w)
    (changed : Window κ) : (t.write id (some changed)).outline = t.outline := by
  have before := get?_eq_some_iff.mp named
  unfold outline
  congr 1
  apply Array.ext_getElem?
  intro i
  rw [Array.getElem?_map, Array.getElem?_map, getElem?_write, if_pos (slot_lt_size named)]
  split
  · rename_i here
    rw [← here, before]
    rfl
  · rfl

@[simp] theorem outline_modify (id : WindowId) (change : Window κ → Window κ) :
    (t.modify id change).outline = t.outline := by
  cases named : t.get? id with
  | none => rw [modify_of_none named]
  | some w => rw [modify_of_get? named, outline_write named]

@[simp] theorem outline_forgetActive (container : Option WindowId) (child : WindowId) :
    (t.forgetActive container child).outline = t.outline := by
  cases container with
  | none => rfl
  | some host => exact outline_modify host _

@[simp] theorem outline_relink (child : WindowId) (container : Option WindowId) (w : Window κ) :
    (t.relink child container w).outline = t.outline := by
  unfold relink
  by_cases same : w.container = container <;> cases container <;> simp [same]

@[simp] theorem outline_activate (id : WindowId) (w : Window κ) :
    (t.activate id w).outline = t.outline := by
  unfold activate
  cases w.container <;> cases t.displaced? id w <;> simp

/-- Slots, generations, free slots and size change only when windows come and go. -/
theorem Change.outline {t' : Hierarchy κ} (change : t.Change t') : t'.outline = t.outline := by
  cases change with
  | none => rfl
  | linked => exact outline_relink ..
  | activated => exact outline_activate ..
  | own => exact outline_modify ..

/-! ## Tidy hierarchies -/

/-- The free slots are the empty ones, each listed once. -/
structure Tidy (t : Hierarchy κ) : Prop where
  nodup : t.free.Nodup
  mem_free_iff : ∀ i, i ∈ t.free ↔ ∃ slot, t.slots[i]? = some slot ∧ slot.window = none

theorem tidy_empty : Tidy (empty : Hierarchy κ) where
  nodup := List.nodup_nil
  mem_free_iff := by simp [empty]

theorem mem_free_iff_outline :
    (∀ i, i ∈ t.free ↔ ∃ slot, t.slots[i]? = some slot ∧ slot.window = none) ↔
      ∀ i, i ∈ t.outline.free ↔ ∃ g, t.outline.slots[i]? = some (g, false) := by
  refine forall_congr' fun i => ?_
  have empty : (∃ slot, t.slots[i]? = some slot ∧ slot.window = none) ↔
      ∃ g, t.outline.slots[i]? = some (g, false) := by
    simp only [outline, Array.getElem?_map, Option.map_eq_some_iff, Prod.mk.injEq,
      Option.isSome_eq_false_iff, Option.isNone_iff_eq_none]
    constructor
    · rintro ⟨slot, found, vacant⟩
      exact ⟨slot.generation, slot, found, rfl, vacant⟩
    · rintro ⟨g, slot, found, -, vacant⟩
      exact ⟨slot, found, vacant⟩
  rw [empty]
  rfl

/-- Tidiness does not depend on the windows. -/
theorem Tidy.of_outline_eq {t' : Hierarchy κ} (tidy : t.Tidy) (same : t'.outline = t.outline) :
    t'.Tidy where
  nodup := by
    have free : t'.free = t.free := congrArg Outline.free same
    rw [free]
    exact tidy.nodup
  mem_free_iff := by
    rw [mem_free_iff_outline, same, ← mem_free_iff_outline]
    exact tidy.mem_free_iff

/-! ## Taking in -/

/-- The slot that the next window goes to. -/
def nextSlot (t : Hierarchy κ) : Nat := t.free.head?.getD t.slots.size

theorem insert_id (w : Window κ) : (t.insert w).1 = t.nextId t.nextSlot := by
  unfold insert nextSlot
  cases t.free with
  | nil => simp [nextId]
  | cons slot rest => rfl

theorem slot_insert (w : Window κ) : (t.insert w).1.slot = t.nextSlot := by
  rw [insert_id]
  rfl

/-- The next slot is empty or not there yet. -/
theorem Tidy.vacant (tidy : t.Tidy) {slot : Slot κ} (found : t.slots[t.nextSlot]? = some slot) :
    slot.window = none := by
  unfold nextSlot at found
  cases free : t.free with
  | nil => simp [free] at found
  | cons first rest =>
      have listed : first ∈ t.free := by simp [free]
      obtain ⟨slot', found', vacant⟩ := (tidy.mem_free_iff first).mp listed
      rw [free] at found
      cases found'.symm.trans found
      exact vacant

/-- Taking in fills the next slot and touches no other. -/
theorem Tidy.getElem?_insert (tidy : t.Tidy) (w : Window κ) (i : Nat) :
    (t.insert w).2.slots[i]? =
      if i = t.nextSlot then some ⟨(t.insert w).1.generation, some w⟩ else t.slots[i]? := by
  rw [insert_id]
  unfold insert nextSlot
  cases free : t.free with
  | nil => simp [nextId, Array.getElem?_push]
  | cons first rest =>
      have listed : first ∈ t.free := by simp [free]
      obtain ⟨slot, found, -⟩ := (tidy.mem_free_iff first).mp listed
      obtain ⟨bound, -⟩ := Array.getElem?_eq_some_iff.mp found
      have written := getElem?_write (t := t) (t.nextId first) (some w) i
      rw [if_pos (show (t.nextId first).slot < t.slots.size from bound)] at written
      simp only [@eq_comm _ i]
      exact written

theorem Tidy.get?_nextId (tidy : t.Tidy) (w : Window κ) : t.get? (t.insert w).1 = none := by
  rw [insert_id]
  cases named : t.get? (t.nextId t.nextSlot) with
  | none => rfl
  | some x => cases tidy.vacant (get?_eq_some_iff.mp named)

/-- A window that is taken in gets an id that named nothing, and other ids name what they
named before. -/
theorem Tidy.get?_insert (tidy : t.Tidy) (w : Window κ) (j : WindowId) :
    (t.insert w).2.get? j = if j = (t.insert w).1 then some w else t.get? j := by
  have slot : (t.insert w).1.slot = t.nextSlot := slot_insert w
  by_cases here : j.slot = t.nextSlot
  · by_cases same : j = (t.insert w).1
    · rw [if_pos same]
      rw [get?_eq_some_iff, tidy.getElem?_insert, if_pos here, same]
    · rw [if_neg same]
      have generation : j.generation ≠ (t.insert w).1.generation := fun equal =>
        same (WindowId.eq_iff.mpr ⟨here.trans slot.symm, equal⟩)
      -- An old generation of a slot that was empty: it named nothing before, nor does it now.
      have before : t.get? j = none := by
        cases named : t.get? j with
        | none => rfl
        | some x =>
            rw [get?_eq_some_iff, here] at named
            cases tidy.vacant named
      rw [before]
      unfold get?
      rw [tidy.getElem?_insert, if_pos here]
      simp [Ne.symm generation]
  · have other : j ≠ (t.insert w).1 := fun same => here (same ▸ slot)
    rw [if_neg other]
    unfold get?
    rw [tidy.getElem?_insert, if_neg here]

/-- What an id names once a window was taken in is that window, or was named before. -/
theorem Tidy.get?_insert_eq_some_iff (tidy : t.Tidy) {w x : Window κ} {j : WindowId} :
    (t.insert w).2.get? j = some x ↔ j = (t.insert w).1 ∧ x = w ∨ t.get? j = some x := by
  rw [tidy.get?_insert]
  by_cases new : j = (t.insert w).1
  · have vacant : t.get? j = none := new ▸ tidy.get?_nextId w
    simp [new, new ▸ vacant, eq_comm]
  · simp [new]

theorem free_insert (w : Window κ) : (t.insert w).2.free = t.free.tail := by
  unfold insert
  cases t.free <;> rfl

theorem Tidy.insert (tidy : t.Tidy) (w : Window κ) : (t.insert w).2.Tidy where
  nodup := by
    rw [free_insert]
    exact tidy.nodup.tail
  mem_free_iff := by
    intro i
    rw [free_insert, tidy.getElem?_insert]
    have listed := tidy.mem_free_iff i
    have nodup := tidy.nodup
    by_cases here : i = t.nextSlot
    · -- The slot that was filled stood first in the list, and only there.
      rw [if_pos here]
      unfold nextSlot at here
      cases free : t.free with
      | nil => simp
      | cons first rest =>
          rw [free] at here nodup
          have unlisted : i ∉ rest := here ▸ (List.nodup_cons.mp nodup).1
          simp [unlisted]
    · rw [if_neg here, ← listed]
      unfold nextSlot at here
      cases free : t.free with
      | nil => simp
      | cons first rest =>
          rw [free] at here
          have other : i ≠ first := here
          simp [other]

/-! ## Taking out -/

theorem Tidy.remove (tidy : t.Tidy) (id : WindowId) : (t.remove id).2.Tidy := by
  cases named : t.get? id with
  | none =>
      rw [remove_of_none named]
      exact tidy
  | some w =>
      have occupied := get?_eq_some_iff.mp named
      have unlisted : id.slot ∉ t.free := by
        intro listed
        obtain ⟨slot, found, vacant⟩ := (tidy.mem_free_iff id.slot).mp listed
        cases occupied.symm.trans found
        cases vacant
      have emptied :
          ({ t.write id none with free := id.slot :: t.free, size := t.size - 1 } :
            Hierarchy κ).Tidy := by
        refine ⟨List.nodup_cons.mpr ⟨unlisted, tidy.nodup⟩, fun i => ?_⟩
        have written := getElem?_write (t := t) id none i
        rw [if_pos (slot_lt_size named)] at written
        by_cases here : id.slot = i
        · simp [written, here]
        · simp [written, here, Ne.symm here, tidy.mem_free_iff]
      simp only [Hierarchy.remove, named]
      exact emptied.of_outline_eq (outline_forgetActive w.container id)

/-! ## Histories -/

/-- One operation leaves a hierarchy tidy. -/
theorem Tidy.step (tidy : t.Tidy) (op : Op κ) : (t.step op).state.Tidy := by
  rcases op.kinds with ⟨w, rfl⟩ | ⟨id, rfl⟩ | internal
  · exact tidy.insert w
  · exact tidy.remove id
  · exact tidy.of_outline_eq internal.change.outline

theorem Tidy.run (tidy : t.Tidy) (ops : List (Op κ)) : (t.run ops).Tidy := by
  induction ops generalizing t with
  | nil => exact tidy
  | cons op ops ih => exact ih (tidy.step op)

/-- Every history leaves the hierarchy tidy. -/
theorem tidy_run (ops : List (Op κ)) : (empty.run ops : Hierarchy κ).Tidy := tidy_empty.run ops

end Hierarchy

end WindowPolicy
