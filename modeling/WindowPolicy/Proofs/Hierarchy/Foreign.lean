/-
# WindowPolicy.Proofs.Hierarchy.Foreign — ids of another hierarchy

An id says which slot it names and counts the occupants of the slot. It does not say of which
hierarchy. A hierarchy that is handed an id of another one looks into its own slot of that
number: if an occupant is there that counts alike, the id is taken for the occupant's own, and
if not, the hierarchy disowns it. So what becomes of a foreign id hangs on how the histories of
the two hierarchies line up, slot by slot, and on nothing else.

* `Disowns`, `disowns_iff`: everything that is asked of an id is turned down, and when;
* `exists_nth_of_given`: the id of another hierarchy counts an occupant that it had;
* `foreign_disowned_iff`: when a hierarchy disowns the id of another one;
* `foreign_taken_for_own`: two hierarchies with a window each have one id between them.
-/
import WindowPolicy.Proofs.Hierarchy.Identity

namespace WindowPolicy

set_option autoImplicit false

namespace Hierarchy

variable {κ κ' : Type} {t : Hierarchy κ} {id : WindowId}

/-! ## Ids that are turned down -/

/-- The id names no window. Whatever is asked of it is turned down, for no other reason than
that, and changes nothing. -/
structure Disowns (t : Hierarchy κ) (id : WindowId) : Prop where
  get? : t.get? id = none
  remove : t.step (.remove id) = { state := t, answer := .removed none }
  setContainer : ∀ container, t.step (.setContainer id container) =
    { state := t, answer := .linked (.error (.unknownWindow id)) }
  /-- As a container it is looked up once the child was found fit. -/
  asContainer : ∀ child, ∃ refusal, t.step (.setContainer child (some id)) =
      { state := t, answer := .linked (.error refusal) } ∧
    ∀ w, t.get? child = some w → w.destroyed = false → refusal = .unknownWindow id
  makeActive : t.step (.makeActive id) =
    { state := t, answer := .linked (.error (.unknownWindow id)) }
  destroy : t.step (.destroy id) =
    { state := t, answer := .destroyed (.error (.unknownWindow id)) }
  complete : ∀ a attached, t.step (.complete id a attached) =
    { state := t, answer := .completed (.error (.unknownWindow id)) }
  addWindow : ∀ a attached, t.step (.addWindow id a attached) =
    { state := t, answer := .added (.error (.unknownWindow id)) }
  window : ∀ op, t.step (.window id op) = { state := t, answer := .window none }

theorem step_setContainer_of_refused {child : WindowId} {container : Option WindowId}
    {refusal : Refusal} (refused : t.linkable child container = .error refusal) :
    t.step (.setContainer child container) =
      { state := t, answer := .linked (.error refusal) } := by
  simp [step, setContainer_of_refused refused, Step.map]

/-- An unnamed id is refused as a container of a window that may have one. -/
theorem linkable_unnamed (unnamed : t.get? id = none) (child : WindowId) :
    ∃ refusal, t.linkable child (some id) = .error refusal ∧
      ∀ w, t.get? child = some w → w.destroyed = false → refusal = .unknownWindow id := by
  rw [linkable_eq]
  cases named : t.get? child with
  | none => exact ⟨.unknownWindow child, rfl, fun w impossible => by cases impossible⟩
  | some w =>
      have distinct : id ≠ child := by
        rintro rfl
        cases unnamed.symm.trans named
      cases gone : w.destroyed with
      | true =>
          refine ⟨.destroyed, by simp [gone], fun x same alive => ?_⟩
          cases same
          cases gone.symm.trans alive
      | false => exact ⟨.unknownWindow id, by simp [gone, distinct, unnamed], fun _ _ _ => rfl⟩

/-- A hierarchy disowns exactly the ids that name none of its windows. -/
theorem disowns_iff : t.Disowns id ↔ t.isAlive id = false := by
  unfold isAlive
  rw [Option.isSome_eq_false_iff, Option.isNone_iff_eq_none]
  refine ⟨Disowns.get?, fun unnamed => ?_⟩
  have dead : t.live id = .error (.unknownWindow id) := by simp [live, unnamed]
  constructor
  case get? => exact unnamed
  case remove => simp [step, remove_of_none unnamed]
  case setContainer =>
    intro container
    exact step_setContainer_of_refused (by rw [linkable_eq, unnamed])
  case asContainer =>
    intro child
    obtain ⟨refusal, refused, cause⟩ := linkable_unnamed unnamed child
    exact ⟨refusal, step_setContainer_of_refused refused, cause⟩
  case makeActive => simp [step, Hierarchy.makeActive, dead, Step.map]
  case destroy => simp [step, Hierarchy.destroy, update?_of_none unnamed, Step.map]
  case complete =>
    intro a attached
    simp [step, Hierarchy.complete, dead, Step.map]
  case addWindow =>
    intro a attached
    simp [step, Hierarchy.addWindow, dead, Step.map]
  case window =>
    intro op
    simp [step, update?_of_none unnamed]

/-! ## Two histories -/

/-- An id that was given out counts one of the occupants that its slot has had. -/
theorem exists_nth_of_given {moves : List (Move κ)} (given : id ∈ empty.given moves) :
    ∃ k, 1 ≤ k ∧ k ≤ empty.filled moves id.slot ∧ id = nth id.slot k := by
  have own : id ∈ (empty.given moves).filter fun j => j.slot = id.slot := by simp [given]
  rw [given_slot, List.mem_map] at own
  obtain ⟨k, below, same⟩ := own
  exact ⟨k + 1, by omega, List.mem_range.mp below, same.symm⟩

/-- A hierarchy disowns an id that another one gave out, unless it has an occupant in the slot
of that number that counts alike: the id of the `k`-th occupant there names the `m`-th one here,
if that one is present and `m` is `k`, as words go. -/
theorem foreign_disowned_iff (theirs : List (Move κ')) (own : List (Move κ))
    (given : id ∈ empty.given theirs) :
    ∃ k, 1 ≤ k ∧ k ≤ empty.filled theirs id.slot ∧ id = nth id.slot k ∧
      ((empty.play own).Disowns id ↔
        ∀ m, HoldsNth own id.slot m → ¬m ≡ k [MOD UInt32.size]) := by
  obtain ⟨k, first, last, counted⟩ := exists_nth_of_given given
  refine ⟨k, first, last, counted, ?_⟩
  rw [disowns_iff, ← Bool.not_eq_true, not_iff_comm, isAlive_iff]
  constructor
  · intro aligned
    simp only [not_forall, not_not] at aligned
    obtain ⟨m, ⟨occupied, rfl⟩, alike⟩ := aligned
    exact ⟨occupied, counted.trans (nth_eq_nth_iff.mpr alike.symm)⟩
  · rintro ⟨occupied, same⟩ apart
    exact apart _ ⟨occupied, rfl⟩ (nth_eq_nth_iff.mp (counted.symm.trans same)).symm

/-- A hierarchy with two windows. -/
def couple : List (Move Unit) := [.op (.insert (.create () ∅)), .op (.insert (.create () ∅))]

/-- Of the ids of two windows a hierarchy with one window disowns the second. -/
theorem foreign_disowned_iff_couple :
    ((⟨0, 1⟩ : WindowId) ∈ empty.given couple ∧ (⟨1, 1⟩ : WindowId) ∈ empty.given couple) ∧
      ¬(empty.play firstComer).Disowns ⟨0, 1⟩ ∧ (empty.play firstComer).Disowns ⟨1, 1⟩ := by
  have given : (⟨0, 1⟩ : WindowId) ∈ empty.given couple :=
    (List.mem_cons_self : (⟨0, 1⟩ : WindowId) ∈ [⟨0, 1⟩, ⟨1, 1⟩])
  have given' : (⟨1, 1⟩ : WindowId) ∈ empty.given couple :=
    (List.mem_cons_of_mem _ List.mem_cons_self : (⟨1, 1⟩ : WindowId) ∈ [⟨0, 1⟩, ⟨1, 1⟩])
  refine ⟨⟨given, given'⟩, ?_, ?_⟩
  · obtain ⟨k, first, last, -, disowned⟩ := foreign_disowned_iff couple firstComer given
    have one : k = 1 := Nat.le_antisymm last first
    rw [disowned, one]
    exact fun apart => apart 1 ⟨⟨1, .create () ∅, rfl⟩, rfl⟩ rfl
  · obtain ⟨k, -, -, -, disowned⟩ := foreign_disowned_iff couple firstComer given'
    rw [disowned]
    rintro m ⟨⟨generation, w, vacant⟩, -⟩
    cases vacant

/-- Two hierarchies with a window each give it the same id, and neither disowns the other's. -/
theorem foreign_taken_for_own :
    ¬∀ (theirs own : List (Move Unit)) (id : WindowId), id ∈ empty.given theirs →
      (empty.play own).Disowns id := by
  intro disowned
  have given : (⟨0, 1⟩ : WindowId) ∈ empty.given firstComer :=
    (List.mem_cons_self : (⟨0, 1⟩ : WindowId) ∈ [⟨0, 1⟩])
  cases (disowned firstComer firstComer ⟨0, 1⟩ given).get?

end Hierarchy

end WindowPolicy
