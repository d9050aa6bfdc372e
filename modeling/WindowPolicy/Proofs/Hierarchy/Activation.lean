/-
# WindowPolicy.Proofs.Hierarchy.Activation — the active child is the last one activated

A container keeps a single id, that of its active child, and other operations than
activations write to it: a window that leaves is forgotten, be it removed or put elsewhere.
Told by the history, the active child of a container is the window that the latest
activation in this container was about, unless that window has left since.

* `Moment`, `moments`: the operations of a history, each with the hierarchy that it met;
* `Activates`, `Departs`, `Unseats`: what a moment means for a container and a child;
* `activeChild_step`: what one operation does to the active child of a container;
* `Unrelated`: what does nothing to it;
* `active_child_last_activated`: the active child of a container that is there, told by the
  history.
-/
import WindowPolicy.Proofs.Hierarchy.Atomicity
import WindowPolicy.Proofs.Hierarchy.Coherence
import WindowPolicy.Proofs.Hierarchy.Touch
import WindowPolicy.Proofs.Since

namespace WindowPolicy

set_option autoImplicit false

namespace Hierarchy

variable {κ : Type} {t : Hierarchy κ}

/-! ## Moments -/

/-- An operation and the hierarchy that it met. -/
structure Moment (κ : Type) where
  before : Hierarchy κ
  op : Op κ

/-- The moments of a history, from first to last. -/
def moments (t : Hierarchy κ) : List (Op κ) → List (Moment κ)
  | [] => []
  | op :: ops => ⟨t, op⟩ :: moments (t.step op).state ops

theorem moments_append_singleton (ops : List (Op κ)) (op : Op κ) :
    t.moments (ops ++ [op]) = t.moments ops ++ [⟨t.run ops, op⟩] := by
  induction ops generalizing t with
  | nil => rfl
  | cons first ops ih => exact congrArg (⟨t, first⟩ :: ·) ih

/-- What a moment met was left by the operations before it. -/
theorem exists_of_mem_moments {ops : List (Op κ)} {m : Moment κ} (member : m ∈ t.moments ops) :
    ∃ earlier later, ops = earlier ++ later ∧ m.before = t.run earlier := by
  induction ops generalizing t with
  | nil => cases member
  | cons op ops ih =>
      rcases List.mem_cons.mp member with rfl | later
      · exact ⟨[], op :: ops, rfl, rfl⟩
      · obtain ⟨earlier, rest, rfl, met⟩ := ih later
        exact ⟨op :: earlier, rest, rfl, met⟩

namespace Moment

/-- `c` is activated, and `h` is its container. -/
def Activates (m : Moment κ) (h c : WindowId) : Prop :=
  match m.op with
  | .makeActive id =>
      id = c ∧ (m.before.makeActive id).answer = .ok () ∧
        ∃ w, m.before.get? id = some w ∧ w.container = some h
  | _ => False

/-- `c` is removed, or is given another container than `h`, or none. -/
def Departs (m : Moment κ) (h c : WindowId) : Prop :=
  match m.op with
  | .remove id => id = c ∧ m.before.isAlive id = true
  | .setContainer child container =>
      child = c ∧ (m.before.setContainer child container).answer = .ok () ∧ container ≠ some h
  | _ => False

/-- `c` is the last one activated in `h` no longer: some child is activated, or `c` leaves. -/
def Unseats (m : Moment κ) (h c : WindowId) : Prop := (∃ child, m.Activates h child) ∨ m.Departs h c

end Moment

/-! ## One operation -/

theorem makeActive_answer_eq_ok_iff {id : WindowId} :
    (t.makeActive id).answer = .ok () ↔ ∃ w, t.get? id = some w ∧ w.destroyed = false := by
  unfold makeActive live
  cases t.get? id with
  | none => simp
  | some w => cases gone : w.destroyed <;> simp [gone]

/-- The operation takes nothing in or out, moves no window and activates none. -/
def Op.KeepsLinks : Op κ → Prop
  | .insert _ | .remove _ | .setContainer .. | .makeActive _ => False
  | _ => True

theorem activeChild_of_keepsLinks {op : Op κ} (keeps : op.KeepsLinks) (h : WindowId) :
    ((t.step op).state.get? h).map (·.activeChild) = (t.get? h).map (·.activeChild) := by
  have own (id : WindowId) (op : Window.Op κ) :
      ((t.modify id fun w => (w.step op).state).get? h).map (·.activeChild) =
        (t.get? h).map (·.activeChild) := by
    have kept (w : Window κ) : (w.step op).state.activeChild = w.activeChild :=
      congrArg Window.Links.activeChild (Window.links_step op)
    rw [get?_modify, Option.map_map]
    congr 1
    funext w
    simp only [Function.comp_apply, apply_ite Window.activeChild, kept, ite_self]
  cases op with
  | insert | remove | setContainer | makeActive => exact keeps.elim
  | destroy id =>
      change ((t.destroy id).state.get? h).map _ = _
      rw [destroy_state]
      exact own id .destroy
  | complete owner attributes attached =>
      change ((t.complete owner attributes attached).state.get? h).map _ = _
      rw [complete_state]
  | addWindow owner attributes attached =>
      change ((t.addWindow owner attributes attached).state.get? h).map _ = _
      rw [addWindow_state]
  | window id op =>
      rw [window_state]
      exact own id op

section Step

variable {h : WindowId} {host host' : Window κ}

theorem activeChild_remove (coherent : t.Coherent) (hosting : t.get? h = some host)
    {id : WindowId} (after : (t.remove id).2.get? h = some host') (c : WindowId) :
    host'.activeChild = some c ↔
      host.activeChild = some c ∧ ¬(id = c ∧ t.isAlive id = true) := by
  cases named : t.get? id with
  | none =>
      rw [remove_of_none named, hosting] at after
      cases after
      simp [isAlive, named]
  | some w =>
      have other : h ≠ id := by
        rintro rfl
        rw [get?_remove named, if_pos rfl] at after
        cases after
      rw [get?_remove named, if_neg other, hosting] at after
      cases after
      rw [forgotten_activeChild_eq_some]
      refine and_congr_right fun active => not_congr ?_
      constructor
      · rintro ⟨-, rfl⟩
        exact ⟨rfl, by simp [isAlive, named]⟩
      · rintro ⟨rfl, -⟩
        exact ⟨((coherent.active_iff hosting named).mp active).1, rfl⟩

theorem activeChild_relink (coherent : t.Coherent) (hosting : t.get? h = some host)
    {child : WindowId} {container : Option WindowId} {w : Window κ}
    (moving : t.get? child = some w)
    (after : (t.relink child container w).get? h = some host') (c : WindowId) :
    host'.activeChild = some c ↔
      host.activeChild = some c ∧ ¬(child = c ∧ container ≠ some h) := by
  rw [get?_relink, hosting] at after
  cases after
  rw [relinked_activeChild_eq_some]
  refine and_congr_right fun active => not_congr ?_
  constructor
  · rintro ⟨moved, here, rfl⟩
    exact ⟨rfl, fun same => moved (here.trans same.symm)⟩
  · rintro ⟨rfl, elsewhere⟩
    have here := ((coherent.active_iff hosting moving).mp active).1
    exact ⟨fun same => elsewhere (same.symm.trans here), here, rfl⟩

theorem activeChild_activate (hosting : t.get? h = some host) {id : WindowId} {w : Window κ}
    (after : (t.activate id w).get? h = some host') :
    host'.activeChild = if w.container = some h then some id else host.activeChild := by
  rw [get?_activate, hosting] at after
  cases after
  exact activated_activeChild ..

end Step

/-- After an operation the active child of a container is the one activated in it just now, or
the one before if it was not unseated. -/
theorem activeChild_step (coherent : t.Coherent) (tidy : t.Tidy) {op : Op κ} {h : WindowId}
    {host host' : Window κ} (hosting : t.get? h = some host)
    (after : (t.step op).state.get? h = some host') (c : WindowId) :
    host'.activeChild = some c ↔
      Moment.Activates ⟨t, op⟩ h c ∨ host.activeChild = some c ∧ ¬Moment.Unseats ⟨t, op⟩ h c := by
  have kept (keeps : op.KeepsLinks) : host'.activeChild = host.activeChild := by
    have same := activeChild_of_keepsLinks (t := t) keeps h
    rw [after, hosting] at same
    exact Option.some.inj same
  cases op with
  | insert w =>
      have still : (t.insert w).2.get? h = some host :=
        tidy.get?_insert_eq_some_iff.mpr (Or.inr hosting)
      cases still.symm.trans after
      simp [Moment.Unseats, Moment.Activates, Moment.Departs]
  | remove id =>
      have outcome := activeChild_remove coherent hosting after c
      simpa [Moment.Unseats, Moment.Activates, Moment.Departs] using outcome
  | setContainer child container =>
      simp only [Moment.Unseats, Moment.Activates, Moment.Departs, false_or,
        setContainer_answer_eq_ok_iff]
      change (t.setContainer child container).state.get? h = some host' at after
      cases free : t.linkable child container with
      | error refusal =>
          rw [setContainer_of_refused free, hosting] at after
          cases after
          simp
      | ok w =>
          obtain ⟨moving, -, -⟩ := linkable_eq_ok_iff.mp free
          rw [setContainer_of_linkable free] at after
          simpa using activeChild_relink coherent hosting moving after c
  | makeActive id =>
      simp only [Moment.Unseats, Moment.Activates, Moment.Departs, or_false,
        makeActive_answer_eq_ok_iff]
      change (t.makeActive id).state.get? h = some host' at after
      rw [makeActive_state] at after
      split at after
      · rename_i w chosen
        split at after
        · rename_i gone
          cases hosting.symm.trans after
          simp [chosen, gone]
        · rename_i alive
          have activated := activeChild_activate hosting after
          by_cases here : w.container = some h
          · simp [activated, chosen, alive, here]
          · simp [activated, chosen, here]
      · rename_i unnamed
        cases hosting.symm.trans after
        simp [unnamed]
  | destroy | complete | addWindow | window =>
      have same := kept trivial
      simp [same, Moment.Unseats, Moment.Activates, Moment.Departs]

/-! ## Histories -/

/-- Only a container that was given out as an id had a child activated in it. -/
theorem mem_issued_of_activates {ops : List (Op κ)} (new : ∀ w, .insert w ∈ ops → w.IsNew)
    {m : Moment κ} (member : m ∈ empty.moments ops) {h c : WindowId} (activates : m.Activates h c) :
    h ∈ empty.issued ops := by
  obtain ⟨earlier, later, rfl, met⟩ := exists_of_mem_moments member
  have inside : ∃ id w, m.before.get? id = some w ∧ w.container = some h := by
    unfold Moment.Activates at activates
    split at activates
    · exact ⟨_, activates.2.2⟩
    · exact activates.elim
  obtain ⟨id, w, named, inside⟩ := inside
  rw [met] at named
  have given := container_mem_issued (fun x taken => new x (List.mem_append_left later taken))
    named inside
  rw [issued_append]
  exact List.mem_append_left _ given

theorem activeChild_run {ops : List (Op κ)} (new : ∀ w, .insert w ∈ ops → w.IsNew)
    (sparse : ∀ slot, empty.fills ops slot < UInt32.size) {h : WindowId} {host : Window κ}
    (hosting : (empty.run ops).get? h = some host) (c : WindowId) :
    host.activeChild = some c ↔
      Since (fun m => m.Activates h c) (fun m => m.Unseats h c) (empty.moments ops) := by
  induction ops using List.reverseRecOn generalizing host with
  | nil => cases hosting
  | append_singleton ops op ih =>
      have new' : ∀ w, .insert w ∈ ops → w.IsNew := fun w taken =>
        new w (List.mem_append_left [op] taken)
      have sparse' : ∀ slot, empty.fills ops slot < UInt32.size := fills_lt_of_append sparse
      rw [run_snoc] at hosting
      rw [moments_append_singleton]
      cases before : (empty.run ops).get? h with
      | some host₀ =>
          rw [since_append_singleton, ← ih new' sparse' before]
          exact activeChild_step (coherent_run new' sparse') (tidy_run ops) before hosting c
      | none =>
          -- The container was taken in just now: it has no active child, and its id is new, so
          -- that nothing was activated in it before.
          rcases get?_origin (tidy_run ops) hosting with rfl | ⟨w, named, -⟩
          · have fresh : h = ((empty.run ops).insert host).1 := by
              rcases (tidy_run ops).get?_insert_eq_some_iff.mp hosting with ⟨new, -⟩ | named
              · exact new
              · cases before.symm.trans named
            have unissued : h ∉ empty.issued ops := fresh ▸ insert_not_mem_issued sparse
            refine iff_of_false (by simp [(new host (by simp)).activeChild]) ?_
            rw [since_append_singleton]
            rintro (activates | ⟨since, -⟩)
            · exact activates
            · obtain ⟨m, member, activates⟩ := since.exists_start
              exact unissued (mem_issued_of_activates new' member activates)
          · cases before.symm.trans named

/-! ## What does not count -/

/-- Moments that are no matter of the active child of `h`. -/
inductive Moment.Unrelated (h : WindowId) : Moment κ → Prop
  /-- A window is put where it is. -/
  | again {t : Hierarchy κ} {child : WindowId} {w : Window κ} (named : t.get? child = some w) :
      Unrelated h ⟨t, .setContainer child w.container⟩
  | destroy (t : Hierarchy κ) (id : WindowId) : Unrelated h ⟨t, .destroy id⟩
  /-- A window is destroyed, or does anything else of its own. -/
  | own (t : Hierarchy κ) (id : WindowId) (op : Window.Op κ) : Unrelated h ⟨t, .window id op⟩
  | declined {t : Hierarchy κ} {op : Op κ} (declined : (t.step op).answer.declined = true) :
      Unrelated h ⟨t, op⟩
  /-- A window is activated in another container, or in none. -/
  | elsewhere {t : Hierarchy κ} {id : WindowId} {w : Window κ} (named : t.get? id = some w)
      (outside : w.container ≠ some h) : Unrelated h ⟨t, .makeActive id⟩

theorem Moment.Unrelated.activeChild {h : WindowId} {m : Moment κ} (unrelated : m.Unrelated h) :
    ((m.before.step m.op).state.get? h).map (·.activeChild) =
      (m.before.get? h).map (·.activeChild) := by
  cases unrelated with
  | @again t child w named =>
      change ((t.setContainer child w.container).state.get? h).map _ = (t.get? h).map _
      cases free : t.linkable child w.container with
      | error refusal => rw [setContainer_of_refused free]
      | ok x =>
          obtain ⟨moving, -, -⟩ := linkable_eq_ok_iff.mp free
          cases named.symm.trans moving
          rw [setContainer_of_linkable free, get?_relink, Option.map_map]
          congr 1
          funext x
          exact Option.ext fun c => by simp [relinked_activeChild_eq_some]
  | destroy t id =>
      exact activeChild_of_keepsLinks (show Op.KeepsLinks (.destroy id) from trivial) h
  | own t id op =>
      exact activeChild_of_keepsLinks (show Op.KeepsLinks (.window id op) from trivial) h
  | declined rejected => rw [(step_of_declined rejected).state]
  | @elsewhere t id w named outside =>
      change ((t.makeActive id).state.get? h).map _ = (t.get? h).map _
      rw [makeActive_state, named]
      dsimp only
      split
      · rfl
      · rw [get?_activate, Option.map_map]
        congr 1
        funext x
        simp [outside]

/-- After every history of new windows the active child of a container that is there is the
window that the latest activation in it was about, if it did not depart since; otherwise there
is none. Putting a window where it is, destroying windows, what is declined and activations
elsewhere do not count. -/
theorem active_child_last_activated {ops : List (Op κ)} (new : ∀ w, .insert w ∈ ops → w.IsNew)
    (sparse : ∀ slot, empty.fills ops slot < UInt32.size) {h : WindowId} {host : Window κ}
    (hosting : (empty.run ops).get? h = some host) :
    (∀ c, host.activeChild = some c ↔
      Since (fun m => m.Activates h c)
        (fun m => (∃ child, m.Activates h child) ∨ m.Departs h c) (empty.moments ops)) ∧
    ∀ op, Moment.Unrelated h ⟨empty.run ops, op⟩ →
      ∃ host', (empty.run (ops ++ [op])).get? h = some host' ∧
        host'.activeChild = host.activeChild := by
  refine ⟨activeChild_run new sparse hosting, fun op unrelated => ?_⟩
  have same := unrelated.activeChild
  dsimp only at same
  rw [hosting] at same
  rw [run_snoc]
  exact Option.map_eq_some_iff.mp same

/-- Two children of one container are activated; the second is put elsewhere and back, the first
is activated again, put where it is and destroyed. -/
def wandering : List (Op Unit) :=
  [.insert (.create () ∅), .insert (.create () ∅), .insert (.create () ∅), .insert (.create () ∅),
   .setContainer ⟨2, 1⟩ (some ⟨0, 1⟩), .setContainer ⟨3, 1⟩ (some ⟨0, 1⟩),
   .makeActive ⟨2, 1⟩, .makeActive ⟨3, 1⟩,
   .setContainer ⟨3, 1⟩ (some ⟨1, 1⟩), .setContainer ⟨3, 1⟩ (some ⟨0, 1⟩),
   .makeActive ⟨2, 1⟩, .setContainer ⟨2, 1⟩ (some ⟨0, 1⟩), .destroy ⟨2, 1⟩]

theorem active_child_last_activated_wandering :
    ((∀ w, .insert w ∈ wandering → w.IsNew) ∧ ∀ slot, empty.fills wandering slot < UInt32.size) ∧
      ∃ host, (empty.run wandering).get? ⟨0, 1⟩ = some host ∧ host.activeChild = some ⟨2, 1⟩ ∧
        Since (fun m => m.Activates ⟨0, 1⟩ ⟨2, 1⟩)
          (fun m => (∃ child, m.Activates ⟨0, 1⟩ child) ∨ m.Departs ⟨0, 1⟩ ⟨2, 1⟩)
          (empty.moments wandering) ∧
        ∃ host', (empty.run (wandering ++ [.destroy ⟨0, 1⟩])).get? ⟨0, 1⟩ = some host' ∧
          host'.activeChild = some ⟨2, 1⟩ := by
  have new : ∀ w, .insert w ∈ wandering → w.IsNew := by
    intro w taken
    simp only [wandering, List.mem_cons, Op.insert.injEq, reduceCtorEq, List.not_mem_nil, or_false,
      or_self] at taken
    exact ⟨(), ∅, [], taken⟩
  have sparse : ∀ slot, empty.fills wandering slot < UInt32.size := fun slot =>
    Nat.lt_of_le_of_lt (fills_le_length wandering slot) (by decide)
  obtain ⟨host, hosting⟩ : ∃ host, (empty.run wandering).get? ⟨0, 1⟩ = some host := ⟨_, rfl⟩
  obtain ⟨last, unrelated⟩ := active_child_last_activated new sparse hosting
  have active : host.activeChild = some ⟨2, 1⟩ := by
    have seen : ((empty.run wandering).get? ⟨0, 1⟩).map (·.activeChild) = some (some ⟨2, 1⟩) := rfl
    rw [hosting] at seen
    exact Option.some.inj seen
  obtain ⟨host', after, same⟩ := unrelated (.destroy ⟨0, 1⟩) (.destroy _ ⟨0, 1⟩)
  exact ⟨⟨new, sparse⟩, host, hosting, active, (last ⟨2, 1⟩).mp active, host', after,
    same.trans active⟩

end Hierarchy

end WindowPolicy
