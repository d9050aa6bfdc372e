/-
# WindowPolicy.Proofs.Hierarchy.Issued — no id is given out twice

Taking a window in gives out an id: the slot that is filled, with a generation that is one
more than the generation of the occupant before. Generations are words, so an id comes
back after `UInt32.size` windows in one slot, and not before:

* `issued`, `fills`: the ids that a history gave out, and how often it filled a slot;
* `generation_eq_fills`: the generation of a slot is the number of its occupants so far;
* `issued_slot`: the ids given out for a slot, in order, are its first, its second, ...;
* `issued_nodup`: while no slot was filled `UInt32.size` times the ids given out are distinct;
* `mem_issued_of_get?`: only an id that was given out names a window.
-/
import WindowPolicy.Proofs.Hierarchy.Arena
import Mathlib.Data.List.Induction
import Mathlib.Data.List.Nodup

namespace WindowPolicy

set_option autoImplicit false

namespace Hierarchy

variable {κ : Type} {t : Hierarchy κ}

/-! ## Histories -/

@[simp] theorem run_nil : t.run [] = t := rfl

theorem run_append (ops more : List (Op κ)) : t.run (ops ++ more) = (t.run ops).run more :=
  List.foldl_append

@[simp] theorem run_snoc (ops : List (Op κ)) (op : Op κ) :
    t.run (ops ++ [op]) = ((t.run ops).step op).state :=
  run_append ops [op]

/-- The id that an operation gave out. -/
def Answer.issued? : Answer κ → Option WindowId
  | .issued id => some id
  | _ => none

/-- The ids that operations give out, from first to last. -/
def issued (t : Hierarchy κ) : List (Op κ) → List WindowId
  | [] => []
  | op :: ops => (t.step op).answer.issued?.toList ++ issued (t.step op).state ops

/-- How often operations fill a slot. -/
def fills (t : Hierarchy κ) (ops : List (Op κ)) (slot : Nat) : Nat :=
  (t.issued ops).countP fun id => id.slot = slot

theorem issued_append (ops more : List (Op κ)) :
    t.issued (ops ++ more) = t.issued ops ++ (t.run ops).issued more := by
  induction ops generalizing t with
  | nil => rfl
  | cons op ops ih =>
      simp only [List.cons_append, issued, ih, List.append_assoc]
      rfl

theorem issued_insert (ops : List (Op κ)) (w : Window κ) :
    t.issued (ops ++ [.insert w]) = t.issued ops ++ [((t.run ops).insert w).1] := by
  rw [issued_append]
  rfl

theorem issued?_eq_none {op : Op κ} (other : ∀ w, op ≠ .insert w) :
    (t.step op).answer.issued? = none := by
  cases op with
  | insert w => exact absurd rfl (other w)
  | window id op =>
      simp only [step]
      split <;> rfl
  | _ => rfl

theorem issued_other (ops : List (Op κ)) {op : Op κ} (other : ∀ w, op ≠ .insert w) :
    t.issued (ops ++ [op]) = t.issued ops := by
  rw [issued_append, issued, issued?_eq_none other]
  simp [issued]

/-- An operation gives out one id at most. -/
theorem fills_le_length (ops : List (Op κ)) (slot : Nat) : t.fills ops slot ≤ ops.length := by
  have few : (t.issued ops).length ≤ ops.length := by
    induction ops generalizing t with
    | nil => exact Nat.le_refl 0
    | cons op ops ih =>
        have one : (t.step op).answer.issued?.toList.length ≤ 1 := by
          cases (t.step op).answer.issued? <;> simp
        have rest := ih (t := (t.step op).state)
        simp only [issued, List.length_append, List.length_cons]
        omega
  exact Nat.le_trans List.countP_le_length few

/-- What fills a slot is counted from the beginning of a history. -/
theorem fills_le_append (ops more : List (Op κ)) (slot : Nat) :
    t.fills ops slot ≤ t.fills (ops ++ more) slot := by
  unfold fills
  rw [issued_append, List.countP_append]
  omega

theorem fills_lt_of_append {ops more : List (Op κ)} {bound : Nat}
    (few : ∀ slot, t.fills (ops ++ more) slot < bound) (slot : Nat) : t.fills ops slot < bound :=
  Nat.lt_of_le_of_lt (fills_le_append ops more slot) (few slot)

/-! ## Generations -/

/-- The generation of a slot that was filled before. -/
def generation? (t : Hierarchy κ) (slot : Nat) : Option UInt32 :=
  t.slots[slot]?.map (·.generation)

theorem generation?_of_outline_eq {t' : Hierarchy κ} (same : t'.outline = t.outline) (i : Nat) :
    t'.generation? i = t.generation? i := by
  have read (s : Hierarchy κ) : s.generation? i = s.outline.slots[i]?.map Prod.fst := by
    simp [generation?, outline, Array.getElem?_map, Function.comp_def]
  rw [read, read, same]

theorem generation?_remove (id : WindowId) (i : Nat) :
    (t.remove id).2.generation? i = t.generation? i := by
  cases named : t.get? id with
  | none => rw [remove_of_none named]
  | some w =>
      simp only [remove, named]
      rw [generation?_of_outline_eq (outline_forgetActive w.container id)]
      have written := getElem?_write (t := t) id none i
      rw [if_pos (slot_lt_size named)] at written
      unfold generation?
      rw [written]
      split
      · rename_i here
        rw [← here, get?_eq_some_iff.mp named]
        rfl
      · rfl

theorem Tidy.generation?_insert (tidy : t.Tidy) (w : Window κ) (i : Nat) :
    (t.insert w).2.generation? i =
      if i = t.nextSlot then some ((t.generation? i).getD 0 + 1) else t.generation? i := by
  unfold generation?
  rw [tidy.getElem?_insert, insert_id]
  split
  · rename_i here
    rw [here]
    rfl
  · rfl

/-- One more than the generation that a slot has after `n` occupants. -/
theorem generation_succ (n : Nat) :
    (if n = 0 then none else some (UInt32.ofNat n)).getD 0 + 1 = .ofNat (n + 1) := by
  by_cases first : n = 0
  · simp [first]
  · simp [first, UInt32.ofNat_add]

/-- The generation of a slot is the number of its occupants so far, as a word; a slot that
was never filled is not there. -/
theorem generation_eq_fills (ops : List (Op κ)) (i : Nat) :
    (empty.run ops).generation? i =
      if empty.fills ops i = 0 then none else some (.ofNat (empty.fills ops i)) := by
  induction ops using List.reverseRecOn with
  | nil => simp [fills, issued, generation?, empty]
  | append_singleton ops op ih =>
      rw [run_snoc]
      rcases op.kinds with ⟨w, rfl⟩ | ⟨id, rfl⟩ | internal
      · have count : empty.fills (ops ++ [.insert w]) i =
            empty.fills ops i + if i = (empty.run ops).nextSlot then 1 else 0 := by
          unfold fills
          rw [issued_insert, List.countP_append]
          simp [slot_insert, eq_comm]
        refine ((tidy_run ops).generation?_insert w i).trans ?_
        rw [count, ih]
        by_cases here : i = (empty.run ops).nextSlot
        · simp only [if_pos here]
          rw [generation_succ, if_neg (Nat.succ_ne_zero _)]
        · simp only [if_neg here]
          rfl
      · refine (generation?_remove id i).trans ?_
        rw [ih, fills, fills, issued_other ops (by simp)]
      · refine (generation?_of_outline_eq internal.change.outline i).trans ?_
        rw [ih, fills, fills, issued_other ops internal.ne_insert]

/-- The ids given out for a slot are, in order, its first, its second, and so on. -/
theorem issued_slot (ops : List (Op κ)) (i : Nat) :
    ((empty.issued ops).filter fun id => id.slot = i) =
      (List.range (empty.fills ops i)).map fun k => ⟨i, .ofNat (k + 1)⟩ := by
  induction ops using List.reverseRecOn with
  | nil => rfl
  | append_singleton ops op ih =>
      by_cases other : ∀ w, op ≠ .insert w
      · rw [fills, issued_other ops other]
        exact ih
      · simp only [not_forall, not_not] at other
        obtain ⟨w, rfl⟩ := other
        unfold fills
        rw [issued_insert, List.filter_append, List.countP_append, ih]
        by_cases here : ((empty.run ops).insert w).1.slot = i
        · have new : ((empty.run ops).insert w).1 = ⟨i, .ofNat (empty.fills ops i + 1)⟩ := by
            rw [insert_id] at here ⊢
            have slot : (empty.run ops).nextSlot = i := here
            have generation := generation_eq_fills ops i
            unfold generation? at generation
            rw [slot, nextId, generation, generation_succ]
          simp only [new, List.filter_singleton, List.countP_singleton, decide_true, if_true]
          rw [List.range_succ, List.map_append]
          rfl
        · simp [here, fills]

/-- While no slot was filled `UInt32.size` times, no id was given out twice. -/
theorem issued_nodup {ops : List (Op κ)} (sparse : ∀ slot, empty.fills ops slot < UInt32.size) :
    (empty.issued ops).Nodup := by
  rw [List.nodup_iff_count_le_one]
  intro id
  -- An id can be repeated only among the ids of its slot.
  have own : ((empty.issued ops).filter fun j => j.slot = id.slot).count id =
      (empty.issued ops).count id := List.count_filter (by simp)
  rw [← own, issued_slot]
  apply List.nodup_iff_count_le_one.mp
  refine List.nodup_range.map_on ?_
  intro k below k' below' same
  have bound := sparse id.slot
  simp only [List.mem_range] at below below'
  have words : (k + 1) % UInt32.size = (k' + 1) % UInt32.size := by
    have equal := congrArg (fun j : WindowId => j.generation.toNat) same
    simpa using equal
  rw [Nat.mod_eq_of_lt (by omega), Nat.mod_eq_of_lt (by omega)] at words
  omega

/-- Until a slot was filled `UInt32.size` times a window is taken in under a new id. -/
theorem insert_not_mem_issued {ops : List (Op κ)} {w : Window κ}
    (sparse : ∀ slot, empty.fills (ops ++ [.insert w]) slot < UInt32.size) :
    ((empty.run ops).insert w).1 ∉ empty.issued ops := by
  have distinct := issued_nodup sparse
  rw [issued_insert] at distinct
  exact fun given => List.disjoint_of_nodup_append distinct given (List.mem_singleton_self _)

/-! ## Names -/

/-- Whether an id names a window shows in the outline. -/
theorem isSome_get?_iff (j : WindowId) :
    (t.get? j).isSome ↔ t.outline.slots[j.slot]? = some (j.generation, true) := by
  rw [Option.isSome_iff_exists]
  simp only [get?_eq_some_iff, outline, Array.getElem?_map, Option.map_eq_some_iff,
    Prod.mk.injEq, Option.isSome_iff_exists]
  constructor
  · rintro ⟨w, found⟩
    exact ⟨_, found, rfl, w, rfl⟩
  · rintro ⟨⟨generation, occupant⟩, found, rfl, w, rfl⟩
    exact ⟨w, found⟩

/-- Only an id that was given out names a window. -/
theorem mem_issued_of_get? {ops : List (Op κ)} {j : WindowId} {w : Window κ}
    (named : (empty.run ops).get? j = some w) : j ∈ empty.issued ops := by
  induction ops using List.reverseRecOn generalizing w with
  | nil => simp [get?, empty] at named
  | append_singleton ops op ih =>
      rw [run_snoc] at named
      rcases op.kinds with ⟨x, rfl⟩ | ⟨id, rfl⟩ | internal
      · rw [issued_insert, List.mem_append, List.mem_singleton]
        rcases (tidy_run ops).get?_insert_eq_some_iff.mp named with ⟨new, -⟩ | before
        · exact Or.inr new
        · exact Or.inl (ih before)
      · rw [issued_other ops (by simp)]
        obtain ⟨-, before, found, -⟩ := of_get?_remove named
        exact ih found
      · rw [issued_other ops internal.ne_insert]
        have alive : ((empty.run ops).get? j).isSome := by
          rw [isSome_get?_iff, ← internal.change.outline, ← isSome_get?_iff, named]
          rfl
        obtain ⟨before, found⟩ := Option.isSome_iff_exists.mp alive
        exact ih found

end Hierarchy

end WindowPolicy
