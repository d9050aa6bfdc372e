/-
# WindowPolicy.Proofs.Hierarchy.Recording — who records an active child

A window records an active child when one that is in it is activated, and by nothing else:
every other operation leaves the active child of a window that is there, or makes the window
forget it. An activation asks whether the child was destroyed. It does not ask about the
container, so that a container that was destroyed goes on recording the children it has, where
putting a child into it is refused.

* `activeChildOf`, `Records`: the active child of a window, and an operation that records one;
* `activeChildOf_of_step`: what is recorded after any other operation was recorded before;
* `activeChildOf_makeActive`, `activated_of_recorded`: what an activation makes a window record;
* `records_iff_activated`: which operation records which child;
* `destroyed_container_records`: that the container was destroyed does not keep it from it.
-/
import WindowPolicy.Proofs.Hierarchy.Activation
import WindowPolicy.Proofs.Hierarchy.Reachable

namespace WindowPolicy

set_option autoImplicit false

namespace Hierarchy

variable {κ : Type} {t : Hierarchy κ}

/-- The active child of the window that an id names. -/
def activeChildOf (t : Hierarchy κ) (h : WindowId) : Option WindowId :=
  (t.get? h).bind (·.activeChild)

theorem activeChildOf_of_get? {h : WindowId} {host : Window κ} (hosting : t.get? h = some host) :
    t.activeChildOf h = host.activeChild := by
  simp [activeChildOf, hosting]

/-- After the operation `c` is the active child of the window that `h` names, and it was not
before. -/
def Records (t : Hierarchy κ) (op : Op κ) (h c : WindowId) : Prop :=
  t.activeChildOf h ≠ some c ∧ (t.step op).state.activeChildOf h = some c

/-- Where no window is activated nothing is recorded that was not recorded before. -/
theorem activeChildOf_of_step (tidy : t.Tidy) {op : Op κ} (other : ∀ id, op ≠ .makeActive id)
    {h c : WindowId} (alive : t.isAlive h = true)
    (after : (t.step op).state.activeChildOf h = some c) : t.activeChildOf h = some c := by
  obtain ⟨x, named, recorded⟩ := Option.bind_eq_some_iff.mp after
  have kept (keeps : op.KeepsLinks) : t.activeChildOf h = some c := by
    have same := activeChild_of_keepsLinks (t := t) keeps h
    rw [named] at same
    obtain ⟨y, before, kept⟩ := Option.map_eq_some_iff.mp same.symm
    rw [activeChildOf_of_get? before]
    exact kept.trans recorded
  cases op with
  | insert w =>
      rcases tidy.get?_insert_eq_some_iff.mp named with ⟨rfl, -⟩ | before
      · simp [isAlive, tidy.get?_nextId w] at alive
      · rw [activeChildOf_of_get? before]
        exact recorded
  | remove id =>
      obtain ⟨container, y, before, rfl⟩ := of_get?_remove named
      rw [activeChildOf_of_get? before]
      exact ((forgotten_activeChild_eq_some ..).mp recorded).1
  | setContainer child container =>
      change (t.setContainer child container).state.get? h = some x at named
      cases free : t.linkable child container with
      | error refusal =>
          rw [setContainer_of_refused free] at named
          rw [activeChildOf_of_get? named]
          exact recorded
      | ok w =>
          rw [setContainer_of_linkable free, get?_relink] at named
          obtain ⟨y, before, rfl⟩ := Option.map_eq_some_iff.mp named
          rw [activeChildOf_of_get? before]
          exact ((relinked_activeChild_eq_some ..).mp recorded).1
  | makeActive id => exact absurd rfl (other id)
  | destroy | complete | addWindow | window => exact kept trivial

/-- An activation is recorded by the container of the window that is activated. -/
theorem activeChildOf_makeActive {id h : WindowId} {w host : Window κ}
    (chosen : t.get? id = some w) (alive : w.destroyed = false) (hosting : t.get? h = some host) :
    (t.makeActive id).state.activeChildOf h =
      if w.container = some h then some id else host.activeChild := by
  have same : (t.makeActive id).state = t.activate id w := by simp [makeActive_state, chosen, alive]
  have view := get?_activate (t := t) id w h
  rw [hosting] at view
  rw [same, activeChildOf_of_get? view]
  exact activeChild_activate hosting view

/-- What an activation makes a window record is the child that was activated. -/
theorem activated_of_recorded {id h c : WindowId} {host : Window κ}
    (hosting : t.get? h = some host) (fresh : host.activeChild ≠ some c)
    (recorded : (t.makeActive id).state.activeChildOf h = some c) :
    id = c ∧ ∃ child, t.get? c = some child ∧ child.container = some h ∧
      child.destroyed = false := by
  have still : (t.makeActive id).state ≠ t := by
    intro still
    rw [still, activeChildOf_of_get? hosting] at recorded
    exact fresh recorded
  cases chosen : t.get? id with
  | none => exact absurd (by rw [makeActive_state, chosen]) still
  | some w =>
      cases gone : w.destroyed with
      | true => exact absurd (by simp [makeActive_state, chosen, gone]) still
      | false =>
          rw [activeChildOf_makeActive chosen gone hosting] at recorded
          split at recorded
          · rename_i inside
            cases recorded
            exact ⟨rfl, w, chosen, inside, gone⟩
          · exact absurd recorded fresh

/-- A window that is there, destroyed or not, records a child exactly when a child that it has
and that was not destroyed is activated and was not its active child already. -/
theorem records_iff_activated (reached : Reachable (.hierarchy t)) {h : WindowId} {host : Window κ}
    (hosting : t.get? h = some host) (op : Op κ) (c : WindowId) :
    t.Records op h c ↔
      host.activeChild ≠ some c ∧ op = .makeActive c ∧
        ∃ child, t.get? c = some child ∧ child.container = some h ∧ child.destroyed = false := by
  have before : t.activeChildOf h = host.activeChild := activeChildOf_of_get? hosting
  unfold Records
  rw [before]
  refine and_congr_right fun fresh => ?_
  constructor
  · intro recorded
    by_cases other : ∀ id, op ≠ .makeActive id
    · have alive : t.isAlive h = true := by simp [isAlive, hosting]
      have recorded_before := activeChildOf_of_step reached.tidy other alive recorded
      exact absurd (before.symm.trans recorded_before) fresh
    · simp only [not_forall, not_not] at other
      obtain ⟨id, rfl⟩ := other
      obtain ⟨rfl, activated⟩ := activated_of_recorded hosting fresh recorded
      exact ⟨rfl, activated⟩
  · rintro ⟨rfl, child, chosen, inside, alive⟩
    exact (activeChildOf_makeActive chosen alive hosting).trans (if_pos inside)

/-- A window is put into another one, which is then destroyed. -/
def bereavement : List (Op Unit) :=
  [.insert (.create () ∅), .insert (.create () ∅), .setContainer ⟨1, 1⟩ (some ⟨0, 1⟩),
   .destroy ⟨0, 1⟩]

theorem reachable_bereavement : Reachable (.hierarchy (empty.run bereavement)) :=
  .history (show _ ∧ _ from ⟨.created () ∅, .created () ∅⟩)

theorem records_iff_activated_bereavement :
    ∃ host child, (empty.run bereavement).get? ⟨0, 1⟩ = some host ∧ host.destroyed = true ∧
      (empty.run bereavement).get? ⟨1, 1⟩ = some child ∧ child.destroyed = false ∧
      (empty.run bereavement).Records (.makeActive ⟨1, 1⟩) ⟨0, 1⟩ ⟨1, 1⟩ ∧
      ¬(empty.run bereavement).Records (.remove ⟨1, 1⟩) ⟨0, 1⟩ ⟨1, 1⟩ := by
  have which := records_iff_activated reachable_bereavement (h := ⟨0, 1⟩) rfl
  refine ⟨_, _, rfl, rfl, rfl, rfl, (which (.makeActive ⟨1, 1⟩) ⟨1, 1⟩).mpr ?_, ?_⟩
  · exact ⟨by decide, rfl, _, rfl, rfl, rfl⟩
  · rw [which]
    rintro ⟨-, impossible, -⟩
    cases impossible

/-- The child that is left in a destroyed container is activated, and the container records it. -/
theorem destroyed_container_records :
    ¬∀ (t : Hierarchy Unit), Reachable (.hierarchy t) → ∀ (h : WindowId) (host : Window Unit),
      t.get? h = some host → host.destroyed = true → ∀ (op : Op Unit) (c : WindowId),
        ¬t.Records op h c := by
  intro never
  refine never _ reachable_bereavement ⟨0, 1⟩ _ rfl rfl (.makeActive ⟨1, 1⟩) ⟨1, 1⟩ ?_
  exact ⟨by decide, rfl⟩

end Hierarchy

end WindowPolicy
