/-
# WindowPolicy.Proofs.Hierarchy.Return — windows that are taken out and put back

A window that is taken out keeps what it knew of its links: its container, its active child,
and whether it was active. Its container has forgotten it, and nobody that it named learns of
the new id under which it is put back. So it comes back to links that have only one end, unless
it had none to come back to: it has no active child, and where it was active there is no
container any more. This is all that can go wrong, as long as no id is given out twice.

* `ActiveLinksAgree.of_insert`: links of old that a window brings with it do not agree with the
  others, the converse of `Coherent.activeLinksAgree_insert`;
* `returned_links_agree_iff`: a window that a history took out is put back by it;
* `returned_child_disowned`: an active child that is put back at once says that it is active in
  a container that has forgotten it.
-/
import WindowPolicy.Proofs.Hierarchy.Coherence

namespace WindowPolicy

set_option autoImplicit false

namespace Hierarchy

variable {κ : Type} {t : Hierarchy κ}

/-- If the links agree once a window was taken in under an id that no window names, they were no
links of the window: it had no active child, and was active in no container that is there. -/
theorem ActiveLinksAgree.of_insert (coherent : t.Coherent) (tidy : t.Tidy) {w : Window κ}
    (unnamed : ∀ {j x}, (t.insert w).2.get? j = some x → x.container ≠ some (t.insert w).1)
    (agree : (t.insert w).2.ActiveLinksAgree) :
    w.activeChild = none ∧
      ¬∃ h, w.container = some h ∧ w.isActive = true ∧ t.isAlive h = true := by
  have here : (t.insert w).2.get? (t.insert w).1 = some w :=
    tidy.get?_insert_eq_some_iff.mpr (Or.inl ⟨rfl, rfl⟩)
  constructor
  · cases active : w.activeChild with
    | none => rfl
    | some c =>
        obtain ⟨child, named, inside⟩ := agree.active_within here active
        exact absurd inside (unnamed named)
  · rintro ⟨h, inside, active, alive⟩
    obtain ⟨host, hosting⟩ := Option.isSome_iff_exists.mp alive
    have still : (t.insert w).2.get? h = some host :=
      tidy.get?_insert_eq_some_iff.mpr (Or.inr hosting)
    have chosen := (agree.active_iff still here).mpr ⟨inside, active⟩
    exact coherent.activeChild_ne_new tidy hosting chosen

/-! ## Histories -/

/-- A window that was taken out, whatever happened to it and in the hierarchy since, is put back.
The links agree exactly if it had no active child and was not active in a container that is
still there. -/
theorem returned_links_agree_iff {before between : List (Op κ)} {id : WindowId} {w : Window κ}
    (new : ∀ x, .insert x ∈ before ++ between → x.IsNew)
    (gone : ((empty.run before).remove id).1 = some w) (own : List (Window.Op κ))
    (sparse : ∀ slot, empty.fills (before ++ .remove id :: between ++ [.insert (w.run own)]) slot <
      UInt32.size) :
    (empty.run (before ++ .remove id :: between ++ [.insert (w.run own)])).ActiveLinksAgree ↔
      w.activeChild = none ∧
        ¬∃ h, w.container = some h ∧ w.isActive = true ∧
          (empty.run (before ++ .remove id :: between)).isAlive h = true := by
  have links := Window.links_run (w := w) own
  generalize w.run own = back at sparse links ⊢
  obtain ⟨container, activeChild, isActive, -⟩ := Window.Links.mk.inj links
  have new' : ∀ x, .insert x ∈ before ++ .remove id :: between → x.IsNew := by
    intro x taken
    refine new x ?_
    simpa using taken
  have tidy := tidy_run (before ++ .remove id :: between)
  have coherent := coherent_run new' (fills_lt_of_append sparse)
  have fresh := insert_not_mem_issued sparse
  -- The new id was never given out, and every container that is named was.
  have unnamed {j : WindowId} {x : Window κ}
      (after : ((empty.run (before ++ .remove id :: between)).insert back).2.get? j = some x) :
      x.container ≠ some ((empty.run (before ++ .remove id :: between)).insert back).1 := by
    intro inside
    rcases tidy.get?_insert_eq_some_iff.mp after with ⟨-, rfl⟩ | named
    · have named : (empty.run before).get? id = some w := (remove_answer id).symm.trans gone
      have given := container_mem_issued (fun y taken => new y (List.mem_append_left between taken))
        named (container.symm.trans inside)
      rw [issued_append] at fresh
      exact fresh (List.mem_append_left _ given)
    · exact fresh (container_mem_issued new' named inside)
  rw [← container, ← activeChild, ← isActive, run_snoc]
  constructor
  · exact ActiveLinksAgree.of_insert coherent tidy unnamed
  · rintro ⟨childless, unclaimed⟩
    exact coherent.activeLinksAgree_insert tidy unnamed childless unclaimed

/-- One window in another, and active there. -/
def lodging : List (Op Unit) :=
  [.insert (.create () ∅), .insert (.create () ∅), .setContainer ⟨1, 1⟩ (some ⟨0, 1⟩),
   .makeActive ⟨1, 1⟩]

/-- The container leaves, and another window comes into its slot. -/
def eviction : List (Op Unit) := [.remove ⟨0, 1⟩, .insert (.create () ∅)]

theorem isNew_of_lodging : ∀ x, .insert x ∈ lodging ++ eviction → x.IsNew := by
  intro x taken
  simp only [lodging, eviction, List.cons_append, List.nil_append, List.mem_cons, Op.insert.injEq,
    reduceCtorEq, List.not_mem_nil, or_false, false_or, or_self] at taken
  exact ⟨(), ∅, [], taken⟩

/-- The active child is taken out, and put back under a new title when its container has left. -/
theorem returned_links_agree_iff_lodging :
    ∃ w, ((empty.run lodging).remove ⟨1, 1⟩).1 = some w ∧ w.isActive = true ∧
      let history :=
        lodging ++ .remove ⟨1, 1⟩ :: eviction ++ [.insert (w.run [.edit (.title "back")])]
      ((∀ x, .insert x ∈ lodging ++ eviction → x.IsNew) ∧
        ∀ slot, empty.fills history slot < UInt32.size) ∧
      (empty.run history).ActiveLinksAgree := by
  obtain ⟨w, gone, active, idle, container⟩ :
      ∃ w, ((empty.run lodging).remove ⟨1, 1⟩).1 = some w ∧ w.isActive = true ∧
        w.activeChild = none ∧ w.container = some ⟨0, 1⟩ := ⟨_, rfl, rfl, rfl, rfl⟩
  refine ⟨w, gone, active, ?_⟩
  intro history
  have sparse : ∀ slot, empty.fills history slot < UInt32.size := fun slot =>
    Nat.lt_of_le_of_lt (fills_le_length history slot) (show 8 < UInt32.size by decide)
  refine ⟨⟨isNew_of_lodging, sparse⟩,
    (returned_links_agree_iff isNew_of_lodging gone _ sparse).mpr ⟨idle, ?_⟩⟩
  rintro ⟨h, inside, -, alive⟩
  cases container.symm.trans inside
  cases alive

/-- The active child is taken out and put back at once. -/
theorem returned_child_disowned :
    ¬∀ (before between : List (Op Unit)) (id : WindowId) (w : Window Unit),
      (∀ x, .insert x ∈ before ++ between → x.IsNew) →
        ((empty.run before).remove id).1 = some w →
          (empty.run (before ++ .remove id :: between ++ [.insert w])).ActiveLinksAgree := by
  intro always
  have new : ∀ x, .insert x ∈ lodging ++ [] → x.IsNew := by
    intro x taken
    rw [List.append_nil] at taken
    exact isNew_of_lodging x (List.mem_append_left eviction taken)
  have agree := always lodging [] ⟨1, 1⟩ _ new rfl
  have claimed := (agree.active_iff (h := ⟨0, 1⟩) (c := ⟨1, 2⟩) rfl rfl).mpr ⟨rfl, rfl⟩
  cases claimed

end Hierarchy

end WindowPolicy
