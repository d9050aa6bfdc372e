/-
# WindowPolicy.Proofs.Hierarchy.Slots — as many slots as windows there were at once

A hierarchy keeps books on its slots: which of them are free, and how many windows there are.
The list of free slots is right in every tidy hierarchy. Here the counts are right as well, and
what depends on them: the slot that is handed out is there and empty, and there is a window to
count off when one is taken out. A slot is added only when every other one has a window. So
there are never more slots than windows there were at once, and never fewer, since no slot is
given up.

* `Outline.Counted`, `Outline.Grows`: the counts of an outline are right, and how slots are added;
* `Outline.Counted.insert`, `Outline.Counted.remove`: taking in and out go by both;
* `counted_play`, `sizes`, `isGreatest_slots_play`: runs, the sizes that they went through, and the
  greatest one;
* `Accounted`, `Tidy.accounted`: what can be relied on when a slot is handed out or given back;
* `slots_accounted`: all of it.
-/
import Mathlib.Order.Bounds.Basic
import WindowPolicy.Proofs.Hierarchy.Moves

namespace WindowPolicy

set_option autoImplicit false

namespace Hierarchy

variable {κ : Type} {t : Hierarchy κ}

/-! ## Counts -/

namespace Outline

variable {o o' : Outline} {slots : Array (UInt32 × Bool)} {i : Nat}

/-- The size is the number of occupied slots, and all others are listed as free. -/
structure Counted (o : Outline) : Prop where
  size_eq : o.size = o.slots.countP (·.2)
  slots_eq : o.slots.size = o.free.length + o.size

/-- There is a slot more only if there are more windows than there were slots. -/
def Grows (o o' : Outline) : Prop := o'.slots.size = max o.slots.size o'.size

theorem Counted.grows_self (counted : o.Counted) : o.Grows o := by
  have slots := counted.slots_eq
  unfold Grows
  omega

/-- Writing to a slot changes the number of occupied slots by what it does to this one. -/
theorem countP_write {generation : UInt32} {before : Bool}
    (found : slots[i]? = some (generation, before)) (generation' : UInt32) (now : Bool) :
    (slots.setIfInBounds i (generation', now)).countP (·.2) + before.toNat =
      slots.countP (·.2) + now.toNat := by
  obtain ⟨bound, here⟩ := Array.getElem?_eq_some_iff.mp found
  have counts : before = true → 0 < slots.countP (·.2) := fun occupied =>
    Array.countP_pos_iff.mpr ⟨slots[i], Array.getElem_mem bound, by rw [here]; exact occupied⟩
  rw [Array.setIfInBounds_def, dif_pos bound, Array.countP_set, here]
  cases before with
  | false => cases now <;> simp
  | true =>
      have positive := counts rfl
      cases now <;> simp <;> omega

/-- Taking in keeps the counts right as long as the free slots are empty. -/
theorem Counted.insert (counted : o.Counted)
    (vacant : ∀ i ∈ o.free, ∃ generation, o.slots[i]? = some (generation, false)) :
    o.insert.2.Counted ∧ o.Grows o.insert.2 := by
  have size := counted.size_eq
  have slots := counted.slots_eq
  unfold Outline.insert Grows
  cases free : o.free with
  | nil =>
      rw [free] at slots
      simp only [List.length_nil, Array.size_push] at slots ⊢
      refine ⟨⟨?_, ?_⟩, ?_⟩
      · simp [size]
      · simp only [Array.size_push, List.length_nil]
        omega
      · omega
  | cons slot rest =>
      obtain ⟨generation, found⟩ := vacant slot (by simp [free])
      have filled := countP_write found (o.nextId slot).generation true
      rw [free] at slots
      simp only [List.length_cons, Bool.toNat_false, Bool.toNat_true] at slots filled
      simp only [Outline.write, Array.size_setIfInBounds]
      refine ⟨⟨?_, ?_⟩, ?_⟩
      · exact (congrArg (· + 1) size).trans filled.symm
      · simp only [Array.size_setIfInBounds]
        omega
      · omega

/-- Taking out keeps them right, and there is a window to count off. -/
theorem Counted.remove (counted : o.Counted) (id : WindowId) :
    ((o.remove id).Counted ∧ o.Grows (o.remove id)) ∧
      (o.slots[id.slot]? = some (id.generation, true) → (o.remove id).size + 1 = o.size) := by
  unfold Outline.remove
  split
  · rename_i occupied
    have size := counted.size_eq
    have slots := counted.slots_eq
    have emptied := countP_write occupied id.generation false
    simp only [Bool.toNat_true, Bool.toNat_false, Nat.add_zero] at emptied
    simp only [Outline.write, Grows, Array.size_setIfInBounds]
    refine ⟨⟨⟨?_, ?_⟩, ?_⟩, fun _ => ?_⟩
    · show o.size - 1 = (o.slots.setIfInBounds id.slot (id.generation, false)).countP (·.2)
      omega
    · simp only [Array.size_setIfInBounds, List.length_cons]
      omega
    · omega
    · omega
  · rename_i vacant
    exact ⟨⟨counted, counted.grows_self⟩, fun occupied => absurd occupied vacant⟩

end Outline

/-! ## Runs -/

open Outline (Counted Grows)

/-- One move keeps the counts right. -/
theorem Tidy.counted_after (tidy : t.Tidy) (counted : t.outline.Counted) (move : Move κ) :
    (t.after move).outline.Counted ∧ t.outline.Grows (t.after move).outline := by
  have still {s : Hierarchy κ} (same : s.outline = t.outline) :
      s.outline.Counted ∧ t.outline.Grows s.outline := by
    rw [same]
    exact ⟨counted, counted.grows_self⟩
  cases move with
  | change id change => exact still (outline_modify id change)
  | op op =>
      rcases op.kinds with ⟨w, rfl⟩ | ⟨id, rfl⟩ | internal
      · have listed := mem_free_iff_outline.mp tidy.mem_free_iff
        have taken := counted.insert fun i free => (listed i).mp free
        rw [← outline_insert w] at taken
        exact taken
      · have out := (counted.remove id).1
        rw [← outline_remove id] at out
        exact out
      · exact still internal.change.outline

theorem counted_play (moves : List (Move κ)) : (empty.play moves).outline.Counted := by
  induction moves using List.reverseRecOn with
  | nil => exact ⟨by simp [play, empty, outline], by simp [play, empty, outline]⟩
  | append_singleton moves move ih =>
      rw [play_append]
      exact ((tidy_play moves).counted_after ih move).1

/-- How many windows there were at the beginning of a run and after each of its moves. -/
def sizes (moves : List (Move κ)) : Set Nat :=
  {n | ∃ past, past <+: moves ∧ (empty.play past).size = n}

theorem sizes_append_singleton (moves : List (Move κ)) (move : Move κ) :
    sizes (moves ++ [move]) = Insert.insert (empty.play (moves ++ [move])).size (sizes moves) := by
  ext n
  simp only [sizes, Set.mem_ofPred_eq, Set.mem_insert_iff, List.prefix_concat_iff, or_and_right,
    exists_or, exists_eq_left, @eq_comm _ n]

/-- There are as many slots as there were windows at once. -/
theorem isGreatest_slots_play (moves : List (Move κ)) :
    IsGreatest (sizes moves) (empty.play moves).slots.size := by
  induction moves using List.reverseRecOn with
  | nil =>
      have start : sizes ([] : List (Move κ)) = {0} := by
        ext n
        simp [sizes, play, empty, eq_comm]
      rw [start]
      exact isGreatest_singleton
  | append_singleton moves move ih =>
      have grows := ((tidy_play moves).counted_after (counted_play moves) move).2
      have slots : (empty.play (moves ++ [move])).slots.size =
          max (empty.play (moves ++ [move])).size (empty.play moves).slots.size := by
        rw [play_append, max_comm]
        simpa [Grows, outline, play] using grows
      rw [slots, sizes_append_singleton]
      exact ih.insert _

/-! ## The books -/

/-- The books on the slots are right, and can be relied on. -/
structure Accounted (t : Hierarchy κ) : Prop where
  nodup : t.free.Nodup
  lt_size : ∀ i ∈ t.free, i < t.slots.size
  mem_free_iff : ∀ i, i ∈ t.free ↔ ∃ slot, t.slots[i]? = some slot ∧ slot.window = none
  size_eq : t.size = t.slots.countP fun slot => slot.window.isSome
  /-- A free slot that is handed out is there and empty. -/
  popped : ∀ {i rest}, t.free = i :: rest → ∀ w : Window κ, (t.insert w).1.slot = i ∧
    ∃ slot, t.slots[i]? = some slot ∧ slot.window = none
  /-- No slot that has a window is written to when another one is taken in. -/
  untouched : ∀ (w : Window κ) {i : Nat} {slot : Slot κ}, t.slots[i]? = some slot →
    slot.window.isSome = true → (t.insert w).2.slots[i]? = some slot
  /-- There is a window to count off when one is taken out. -/
  size_remove : ∀ {id}, t.isAlive id = true → (t.remove id).2.size + 1 = t.size

theorem Tidy.accounted (tidy : t.Tidy) (counted : t.outline.Counted) : t.Accounted where
  nodup := tidy.nodup
  lt_size i listed := by
    obtain ⟨slot, found, -⟩ := (tidy.mem_free_iff i).mp listed
    exact (Array.getElem?_eq_some_iff.mp found).1
  mem_free_iff := tidy.mem_free_iff
  size_eq := by
    have size := counted.size_eq
    simpa [outline, Array.countP_map, Function.comp_def] using size
  popped {i rest} free w := by
    refine ⟨?_, (tidy.mem_free_iff i).mp (by simp [free])⟩
    rw [slot_insert, nextSlot, free]
    rfl
  untouched w {i slot} found occupied := by
    rw [tidy.getElem?_insert, if_neg, found]
    rintro rfl
    rw [tidy.vacant found] at occupied
    cases occupied
  size_remove {id} alive := by
    have released := (counted.remove id).2 ((isSome_get?_iff id).mp alive)
    rw [← outline_remove id] at released
    exact released

/-- After every run, whatever windows were taken in and however often slots were used again, the
books on the slots are right, and there are as many slots as there were windows at once. -/
theorem slots_accounted (moves : List (Move κ)) :
    (empty.play moves).Accounted ∧ IsGreatest (sizes moves) (empty.play moves).slots.size :=
  ⟨(tidy_play moves).accounted (counted_play moves), isGreatest_slots_play moves⟩

/-- Two windows are taken in, and the first one is taken out. -/
def vacating : List (Move Unit) :=
  [.op (.insert (.create () ∅)), .op (.insert (.create () ∅)), .op (.remove ⟨0, 1⟩)]

/-- The next window gets the slot that was left, next to the window that stayed, and two slots
are still enough. -/
theorem slots_accounted_vacating :
    let t := empty.play vacating
    t.free = [0] ∧ t.size = 1 ∧ IsGreatest (sizes vacating) 2 ∧
    ∀ w, (t.insert w).1.slot = 0 ∧ (t.insert w).2.slots[1]? = t.slots[1]? ∧
      IsGreatest (sizes (vacating ++ [.op (.insert w)])) 2 := by
  intro t
  obtain ⟨books, most⟩ := slots_accounted vacating
  have stayed : t.slots[1]? = some ⟨1, some (.create () ∅)⟩ := rfl
  refine ⟨rfl, rfl, most, fun w => ⟨(books.popped rfl w).1, ?_, ?_⟩⟩
  · rw [stayed]
    exact books.untouched w stayed rfl
  · exact (slots_accounted (vacating ++ [.op (.insert w)])).2

end Hierarchy

end WindowPolicy
