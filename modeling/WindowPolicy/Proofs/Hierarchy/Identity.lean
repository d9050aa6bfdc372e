/-
# WindowPolicy.Proofs.Hierarchy.Identity — how long an id names nobody else

An id names a slot and counts its occupants, in a word. So the id of an occupant that is
gone names nothing until the count comes round, and then it names somebody else: after
`UInt32.size` more occupants of the same slot, and not before. Runs here are of any length,
and the windows may be changed at will.

* `Occupied`, `HoldsNth`: the slot has a window, which is its `k`-th occupant;
* `isAlive_iff`: an id names a window exactly if it counts the occupant that is there;
* `occupied_of_play`: an empty slot has a window later only if it was filled in between;
* `exists_refill`: a slot that was emptied can be filled any number of times;
* `ids_count_occupants`: which ids are given out, and when an old one names a window again.
-/
import WindowPolicy.Proofs.Hierarchy.Moves
import Mathlib.Data.Nat.ModEq

namespace WindowPolicy

set_option autoImplicit false

namespace Hierarchy

variable {κ : Type} {t : Hierarchy κ} {i k : Nat}

/-! ## Occupied slots -/

/-- There is a window in the slot. -/
def Occupied (t : Hierarchy κ) (slot : Nat) : Prop :=
  ∃ generation w, t.slots[slot]? = some ⟨generation, some w⟩

theorem occupied_iff_isAlive : t.Occupied i ↔ ∃ generation, t.isAlive ⟨i, generation⟩ = true := by
  simp only [Occupied, isAlive, Option.isSome_iff_exists, get?_eq_some_iff]

theorem occupied_of_outline_eq {s : Hierarchy κ} (same : s.outline = t.outline) :
    s.Occupied i ↔ t.Occupied i := by
  simp only [occupied_iff_isAlive, isAlive, isSome_get?_iff, same]

/-- Taking a window out empties its slot. -/
theorem not_occupied_remove {id : WindowId} (alive : t.isAlive id = true) :
    ¬(t.remove id).2.Occupied id.slot := by
  obtain ⟨w, named⟩ := Option.isSome_iff_exists.mp alive
  rintro ⟨generation, x, found⟩
  have after : (t.remove id).2.get? ⟨id.slot, generation⟩ = some x := get?_eq_some_iff.mpr found
  rw [get?_remove named] at after
  split at after
  · cases after
  · rename_i other
    obtain ⟨y, before, -⟩ := Option.map_eq_some_iff.mp after
    -- Two ids of one slot that name a window are one.
    have here := get?_eq_some_iff.mp before
    rw [get?_eq_some_iff.mp named] at here
    cases here
    exact other rfl

/-- A move that occupies a slot fills it. -/
theorem Tidy.occupied_of_after (tidy : t.Tidy) {move : Move κ}
    (occupied : (t.after move).Occupied i) : t.Occupied i ∨ t.filled [move] i = 1 := by
  have kept {op : Op κ} (same : (t.step op).state.outline = t.outline)
      (occupied : (t.step op).state.Occupied i) : t.Occupied i :=
    (occupied_of_outline_eq same).mp occupied
  cases move with
  | change id change =>
      exact Or.inl ((occupied_of_outline_eq (outline_modify id change)).mp occupied)
  | op op =>
      rcases op.kinds with ⟨w, rfl⟩ | ⟨id, rfl⟩ | internal
      · obtain ⟨generation, x, found⟩ := occupied
        have filled := (tidy.getElem?_insert w i).symm.trans found
        split at filled
        · rename_i here
          have slot : (t.insert w).1.slot = i := (slot_insert w).trans here.symm
          right
          show [(t.insert w).1].countP (fun id => id.slot = i) = 1
          simp [slot]
        · exact Or.inl ⟨generation, x, filled⟩
      · obtain ⟨generation, alive⟩ := occupied_iff_isAlive.mp occupied
        obtain ⟨x, after⟩ := Option.isSome_iff_exists.mp alive
        obtain ⟨-, y, before, -⟩ := of_get?_remove after
        exact Or.inl (occupied_iff_isAlive.mpr ⟨generation, by simp [isAlive, before]⟩)
      · exact Or.inl (kept internal.change.outline occupied)

/-- An empty slot is occupied later only if it was filled in between. -/
theorem Tidy.occupied_of_play (tidy : t.Tidy) {moves : List (Move κ)}
    (occupied : (t.play moves).Occupied i) : t.Occupied i ∨ 0 < t.filled moves i := by
  induction moves generalizing t with
  | nil => exact Or.inl occupied
  | cons move moves ih =>
      have count : t.filled (move :: moves) i = t.filled [move] i + (t.after move).filled moves i :=
        filled_append [move] moves i
      rcases ih (tidy.after move) occupied with now | later
      · rcases tidy.occupied_of_after now with before | once
        · exact Or.inl before
        · omega
      · omega

/-! ## Counting occupants -/

theorem nth_eq_nth_iff {m : Nat} : nth i k = nth i m ↔ k ≡ m [MOD UInt32.size] := by
  rw [nth, nth, WindowId.eq_iff, Nat.ModEq]
  simp [← UInt32.toNat_inj]

/-- Words come round. -/
theorem nth_add_size : nth i (k + UInt32.size) = nth i k := by
  rw [nth_eq_nth_iff]
  simp [Nat.ModEq]

theorem generation?_play (moves : List (Move κ)) (i : Nat) :
    (empty.play moves).generation? i =
      if empty.filled moves i = 0 then none else some (.ofNat (empty.filled moves i)) := by
  rw [generation?_of_outline_eq (outline_play moves), filled_eq_fills]
  exact generation_eq_fills _ i

/-- An id names a window exactly if it counts the occupant that is there. -/
theorem isAlive_iff (moves : List (Move κ)) (id : WindowId) :
    (empty.play moves).isAlive id = true ↔
      (empty.play moves).Occupied id.slot ∧ id = nth id.slot (empty.filled moves id.slot) := by
  have generation := generation?_play moves id.slot
  unfold generation? at generation
  rw [isAlive, Option.isSome_iff_exists]
  constructor
  · rintro ⟨w, named⟩
    have found := get?_eq_some_iff.mp named
    refine ⟨⟨id.generation, w, found⟩, ?_⟩
    rw [found] at generation
    split at generation
    · cases generation
    · exact WindowId.eq_iff.mpr ⟨rfl, Option.some.inj generation⟩
  · rintro ⟨⟨g, w, found⟩, count⟩
    rw [found] at generation
    split at generation
    · cases generation
    · have same : g = id.generation := by
        rw [count]
        exact Option.some.inj generation
      exact ⟨w, get?_eq_some_iff.mpr (same ▸ found)⟩

/-- The next occupant of a slot gets the id that counts it. -/
theorem insert_eq_nth (moves : List (Move κ)) (w : Window κ) {id : WindowId}
    (new : id = ((empty.play moves).insert w).1) :
    id = nth id.slot (empty.filled moves id.slot + 1) := by
  have generation := generation?_play moves id.slot
  unfold generation? at generation
  have slot : id.slot = (empty.play moves).nextSlot := new ▸ slot_insert w
  rw [slot] at generation ⊢
  rw [new, insert_id, nextId, generation, generation_succ]
  rfl

/-- The slot has its `k`-th occupant. -/
def HoldsNth (moves : List (Move κ)) (i k : Nat) : Prop :=
  (empty.play moves).Occupied i ∧ empty.filled moves i = k

theorem HoldsNth.isAlive {moves : List (Move κ)} (holds : HoldsNth moves i k) :
    (empty.play moves).isAlive (nth i k) = true :=
  (isAlive_iff moves (nth i k)).mpr ⟨holds.1, by rw [show (nth i k).slot = i from rfl, holds.2]⟩

/-! ## Old ids -/

section Old

variable {before : List (Move κ)}

/-- Once the `k`-th occupant is taken out, what fills the slot again comes after it. -/
theorem HoldsNth.filled_eq (holds : HoldsNth before i k) (after : List (Move κ)) :
    empty.filled (before ++ .op (.remove (nth i k)) :: after) i =
      k + (empty.play (before ++ [.op (.remove (nth i k))])).filled after i := by
  have split : before ++ .op (.remove (nth i k)) :: after =
      (before ++ [.op (.remove (nth i k))]) ++ after := by simp
  have none_filled : (empty.play before).filled [.op (.remove (nth i k))] i = 0 := rfl
  rw [split, filled_append, filled_append, holds.2, none_filled, Nat.add_zero]

theorem HoldsNth.lt_of_occupied (holds : HoldsNth before i k) {after : List (Move κ)}
    (occupied : (empty.play (before ++ .op (.remove (nth i k)) :: after)).Occupied i) :
    k < empty.filled (before ++ .op (.remove (nth i k)) :: after) i := by
  have emptied : ¬((empty.play before).after (.op (.remove (nth i k)))).Occupied i :=
    not_occupied_remove holds.isAlive
  have tidy := (tidy_play before).after (.op (.remove (nth i k)))
  rw [play_append] at occupied
  rcases tidy.occupied_of_play occupied with now | later
  · exact absurd now emptied
  · rw [holds.filled_eq, play_append]
    exact Nat.lt_add_of_pos_right later

/-- The id of an occupant that was taken out names a window exactly if a later occupant is there
that counts alike. -/
theorem HoldsNth.isAlive_iff (holds : HoldsNth before i k) (after : List (Move κ)) :
    (empty.play (before ++ .op (.remove (nth i k)) :: after)).isAlive (nth i k) = true ↔
      ∃ m, HoldsNth (before ++ .op (.remove (nth i k)) :: after) i m ∧ k < m ∧
        m ≡ k [MOD UInt32.size] := by
  rw [Hierarchy.isAlive_iff, show (nth i k).slot = i from rfl, nth_eq_nth_iff]
  constructor
  · rintro ⟨occupied, alike⟩
    exact ⟨_, ⟨occupied, rfl⟩, holds.lt_of_occupied occupied, alike.symm⟩
  · rintro ⟨m, ⟨occupied, rfl⟩, -, alike⟩
    exact ⟨occupied, alike.symm⟩

end Old

/-! ## Filling a slot again -/

theorem free_remove {id : WindowId} (alive : t.isAlive id = true) :
    (t.remove id).2.free = id.slot :: t.free := by
  obtain ⟨w, named⟩ := Option.isSome_iff_exists.mp alive
  simp only [remove, named]
  exact congrArg Outline.free (outline_forgetActive w.container id)

/-- The slot that was emptied last is filled first. -/
theorem insert_slot (first : t.free.head? = some i) (w : Window κ) : (t.insert w).1.slot = i := by
  rw [slot_insert, nextSlot, first]
  rfl

/-- It can be filled any number of times. -/
theorem Tidy.exists_refill (tidy : t.Tidy) (w : Window κ) (first : t.free.head? = some i)
    (n : Nat) : ∃ moves, (t.play moves).free.head? = some i ∧ t.filled moves i = n := by
  induction n with
  | zero => exact ⟨[], first, rfl⟩
  | succ n ih =>
      obtain ⟨moves, first, count⟩ := ih
      let u := t.play moves
      let id := (u.insert w).1
      have slot : id.slot = i := insert_slot first w
      have alive : (u.insert w).2.isAlive id = true := by
        rw [isAlive, (tidy.play moves).get?_insert, if_pos rfl]
        rfl
      refine ⟨moves ++ [.op (.insert w), .op (.remove id)], ?_, ?_⟩
      · rw [play_append]
        show ((u.insert w).2.remove id).2.free.head? = some i
        rw [free_remove alive, slot]
        rfl
      · have once : u.filled [.op (.insert w), .op (.remove id)] i = 1 := by
          show [id].countP (fun id => id.slot = i) = 1
          simp [slot]
        rw [filled_append, count, once]

/-- After `UInt32.size` more occupants of its slot an old id names the last of them. -/
theorem HoldsNth.exists_revival {before : List (Move κ)} (holds : HoldsNth before i k)
    (w : Window κ) :
    ∃ after, HoldsNth (before ++ .op (.remove (nth i k)) :: after) i (k + UInt32.size) ∧
      (empty.play (before ++ .op (.remove (nth i k)) :: after)).get? (nth i k) = some w := by
  let base := before ++ [.op (.remove (nth i k))]
  have first : (empty.play base).free.head? = some i := by
    rw [play_append]
    show ((empty.play before).remove (nth i k)).2.free.head? = some i
    rw [free_remove holds.isAlive]
    rfl
  obtain ⟨after, first, count⟩ := (tidy_play base).exists_refill w first (UInt32.size - 1)
  have split : before ++ .op (.remove (nth i k)) :: (after ++ [.op (.insert w)]) =
      (base ++ after) ++ [.op (.insert w)] := by simp [base]
  have filled : empty.filled (base ++ after) i = k + (UInt32.size - 1) := by
    rw [← count, ← holds.filled_eq]
    simp [base]
  rw [← play_append] at first
  have slot := insert_slot first w
  have size : UInt32.size - 1 + 1 = UInt32.size := rfl
  have filled' : empty.filled ((base ++ after) ++ [.op (.insert w)]) i = k + UInt32.size := by
    have once : (empty.play (base ++ after)).filled [.op (.insert w)] i = 1 := by
      show [((empty.play (base ++ after)).insert w).1].countP (fun id => id.slot = i) = 1
      simp [slot]
    rw [filled_append, filled, once, Nat.add_assoc, size]
  have named : (empty.play ((base ++ after) ++ [.op (.insert w)])).get? (nth i k) = some w := by
    rw [play_append]
    show ((empty.play (base ++ after)).insert w).2.get? (nth i k) = some w
    have count := insert_eq_nth (base ++ after) w rfl
    rw [slot, filled, Nat.add_assoc, size, nth_add_size] at count
    rw [(tidy_play _).get?_insert, if_pos count.symm]
  refine ⟨after ++ [.op (.insert w)], ?_, ?_⟩
  · rw [split]
    exact ⟨⟨_, w, get?_eq_some_iff.mp named⟩, filled'⟩
  · rw [split]
    exact named

/-- The ids given out for a slot count its occupants. The id of an occupant that was taken out
names a window again exactly while a later occupant is there that counts alike: not before the
slot was filled `UInt32.size` times more, and then it does, whatever window came last. -/
theorem ids_count_occupants :
    (∀ (moves : List (Move κ)) (i : Nat),
      ((empty.given moves).filter fun id => id.slot = i) =
        (List.range (empty.filled moves i)).map fun k => nth i (k + 1)) ∧
    ∀ (before : List (Move κ)) (i k : Nat), HoldsNth before i k →
      (∀ after, let moves := before ++ .op (.remove (nth i k)) :: after
        ((empty.play moves).isAlive (nth i k) = true ↔
          ∃ m, HoldsNth moves i m ∧ k < m ∧ m ≡ k [MOD UInt32.size]) ∧
        (empty.filled moves i < k + UInt32.size → (empty.play moves).isAlive (nth i k) = false) ∧
        (HoldsNth moves i (k + UInt32.size) → (empty.play moves).isAlive (nth i k) = true)) ∧
      ∀ w, ∃ after, let moves := before ++ .op (.remove (nth i k)) :: after
        HoldsNth moves i (k + UInt32.size) ∧ (empty.play moves).get? (nth i k) = some w := by
  refine ⟨given_slot, fun before i k holds => ⟨fun after => ⟨holds.isAlive_iff after, ?_, ?_⟩,
    holds.exists_revival⟩⟩
  · intro few
    rw [← Bool.not_eq_true, holds.isAlive_iff]
    rintro ⟨m, ⟨-, rfl⟩, later, alike⟩
    have enough := Nat.ModEq.add_le_of_lt alike.symm later
    omega
  · intro full
    have alive := full.isAlive
    rw [nth_add_size] at alive
    exact alive

/-- The first window of a hierarchy, which is taken out later. -/
def firstComer : List (Move Unit) := [.op (.insert (.create () ∅))]

theorem ids_count_occupants_firstComer :
    HoldsNth firstComer 0 1 ∧
      (empty.play (firstComer ++ [.op (.remove (nth 0 1)), .op (.insert (.create () ∅))])).isAlive
        (nth 0 1) = false ∧
      ∃ after, (empty.play (firstComer ++ .op (.remove (nth 0 1)) :: after)).get? (nth 0 1) =
        some (.create () ⟨.allOnes 32⟩) := by
  have holds : HoldsNth firstComer 0 1 := ⟨⟨1, .create () ∅, rfl⟩, rfl⟩
  obtain ⟨-, old⟩ := ids_count_occupants (κ := Unit)
  obtain ⟨later, revived⟩ := old firstComer 0 1 holds
  obtain ⟨-, few, -⟩ := later [.op (.insert (.create () ∅))]
  obtain ⟨after, -, named⟩ := revived (.create () ⟨.allOnes 32⟩)
  exact ⟨holds, few (by decide), after, named⟩

end Hierarchy

end WindowPolicy
