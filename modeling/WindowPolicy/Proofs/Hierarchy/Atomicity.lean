/-
# WindowPolicy.Proofs.Hierarchy.Atomicity — what is declined leaves no trace

An operation is declined when its answer is a refusal, or `false`, or nothing at all. A
declined operation leaves the hierarchy exactly as it was, slots and generations included,
and calls nobody. That is more than refusing before the first write: an operation that is
answered by `false` has already decided that it would write what is there.

* `Answer.declined`, `step_of_declined`: operations on a hierarchy;
* `Whole`: a procedure that writes all it has to, or nothing;
* `declined_leaves_no_trace`: all of it, for windows, hierarchies and their procedures.
-/
import WindowPolicy.Proofs.Hierarchy.Stepwise
import WindowPolicy.Proofs.Window.Operation

namespace WindowPolicy

set_option autoImplicit false

namespace Hierarchy

variable {κ : Type} {t : Hierarchy κ}

/-- The answer is a refusal, or `false`, or there was no window to answer. -/
def Answer.declined : Answer κ → Bool
  | .removed none | .window none => true
  | .linked (.error _) | .destroyed (.error _) | .completed (.error _) | .added (.error _) => true
  | .destroyed (.ok value) => !value
  | .window (some result) => Window.declined result
  | .issued _ | .removed (some _) | .linked (.ok _) | .completed (.ok _) | .added (.ok _) => false

/-! ## Operations -/

theorem setContainer_of_error {child : WindowId} {container : Option WindowId} {refusal : Refusal}
    (refused : (t.setContainer child container).answer = .error refusal) :
    (t.setContainer child container).Traceless t := by
  unfold setContainer at refused ⊢
  split at refused
  · exact ⟨rfl, rfl⟩
  · cases refused

theorem makeActive_of_error {id : WindowId} {refusal : Refusal}
    (refused : (t.makeActive id).answer = .error refusal) : (t.makeActive id).Traceless t := by
  unfold makeActive at refused ⊢
  split at refused
  · exact ⟨rfl, rfl⟩
  · split at refused
    · rename_i gone
      rw [if_pos gone]
      exact ⟨rfl, rfl⟩
    · cases refused

theorem addWindow_of_error {id : WindowId} {attributes : Attributes} {attached : Option Token}
    {refusal : Refusal}
    (refused : (t.addWindow id attributes attached).answer = .error refusal) :
    (t.addWindow id attributes attached).Traceless t := by
  refine ⟨addWindow_state id attributes attached, ?_⟩
  unfold addWindow at refused ⊢
  cases live : t.live id with
  | error => rfl
  | ok w =>
      simp only [live] at refused ⊢
      split at refused
      · rename_i gone
        rw [if_pos gone]
      · rename_i alive
        rw [if_neg alive]
        cases bound : w.manager with
        | none => rfl
        | some manager =>
            rw [bound] at refused
            cases refused

theorem complete_traceless (id : WindowId) (attributes : Attributes) (attached : Option Token) :
    (t.complete id attributes attached).Traceless t := by
  unfold complete
  split <;> exact ⟨rfl, rfl⟩

/-- An operation that leaves its window as it was leaves the hierarchy as it was. -/
theorem update?_traceless {A : Type} {id : WindowId} {op : Window κ → Step κ (Window κ) A}
    {step : Step κ (Hierarchy κ) A} (made : t.update? id op = some step)
    (still : ∀ w, (op w).answer = step.answer → (op w).Traceless w) : step.Traceless t := by
  cases named : t.get? id with
  | none =>
      rw [update?_of_none named] at made
      cases made
  | some w =>
      rw [update?_of_get? named] at made
      cases made
      have kept := still w rfl
      refine ⟨modify_eq_self fun x found => ?_, kept.calls⟩
      cases named.symm.trans found
      exact kept.state

theorem step_of_declined {op : Op κ} (rejected : (t.step op).answer.declined = true) :
    (t.step op).Traceless t := by
  cases op with
  | insert w => cases rejected
  | remove id =>
      cases named : t.get? id with
      | none => exact ⟨congrArg Prod.snd (remove_of_none named), rfl⟩
      | some w =>
          have answer : (t.step (.remove id)).answer = .removed (some w) :=
            congrArg Answer.removed ((remove_answer id).trans named)
          rw [answer] at rejected
          cases rejected
  | setContainer child container =>
      change (Answer.linked (t.setContainer child container).answer).declined = true at rejected
      cases answered : (t.setContainer child container).answer with
      | error refusal => exact (setContainer_of_error answered).map Answer.linked
      | ok =>
          rw [answered] at rejected
          cases rejected
  | makeActive id =>
      change (Answer.linked (t.makeActive id).answer).declined = true at rejected
      cases answered : (t.makeActive id).answer with
      | error refusal => exact (makeActive_of_error answered).map Answer.linked
      | ok =>
          rw [answered] at rejected
          cases rejected
  | destroy id =>
      change (Answer.destroyed (t.destroy id).answer).declined = true at rejected
      refine Step.Traceless.map ?_ Answer.destroyed
      unfold destroy at rejected ⊢
      cases made : t.update? id Window.destroy with
      | none => exact ⟨rfl, rfl⟩
      | some step =>
          simp only [made, Step.map, Answer.declined, Bool.not_eq_true'] at rejected
          refine (update?_traceless made fun w same => ?_).map Except.ok
          have still : Window.declined (w.step .destroy).answer = true := by
            show (!(w.destroy).answer) = true
            rw [same, rejected]
            rfl
          obtain ⟨state, calls⟩ := Window.step_of_declined still
          exact ⟨state, calls⟩
  | complete owner attributes attached =>
      exact (complete_traceless owner attributes attached).map Answer.completed
  | addWindow owner attributes attached =>
      change (Answer.added (t.addWindow owner attributes attached).answer).declined = true
        at rejected
      cases answered : (t.addWindow owner attributes attached).answer with
      | error refusal => exact (addWindow_of_error answered).map Answer.added
      | ok =>
          rw [answered] at rejected
          cases rejected
  | window id op =>
      simp only [step] at rejected ⊢
      cases made : t.update? id (·.step op) with
      | none => exact ⟨rfl, rfl⟩
      | some step =>
          rw [made] at rejected
          refine (update?_traceless made fun w same => ?_).map _
          refine Window.step_of_declined ?_
          rw [same]
          exact rejected

/-! ## Procedures -/

/-- The procedure does all that it has to, or is turned down before it writes anything. -/
def Whole {S A : Type} (procedure : Procedure S A) : Prop :=
  ∀ s, match procedure.run s with
    | .ok _ _ => True
    | .error (.refused _) s' => s' = s
    | .error (.lost _) _ => False

/-- The procedure is a step that happens at once, and is never left halfway. -/
structure Implements {A : Type} (procedure : Procedure (Hierarchy κ) A)
    (op : Hierarchy κ → Step κ (Hierarchy κ) (Except Refusal A)) : Prop where
  whole : Whole procedure
  run : ∀ t, procedure.run t = outcome (op t)

/-- A step that is refused before it writes makes its procedure whole. -/
theorem Implements.of_run {A : Type} {procedure : Procedure (Hierarchy κ) A}
    {op : Hierarchy κ → Step κ (Hierarchy κ) (Except Refusal A)}
    (run : ∀ t, procedure.run t = outcome (op t))
    (refused : ∀ {t refusal}, (op t).answer = .error refusal → (op t).Traceless t) :
    Implements procedure op where
  run := run
  whole t := by
    rw [run, outcome]
    cases answered : (op t).answer with
    | error refusal => exact (refused answered).state
    | ok => trivial

theorem completeStepwise_whole (id : WindowId) (attached : Option Token) :
    Whole (t.completeStepwise id attached) := by
  intro a
  rw [completeStepwise_run]
  cases (t.complete id a attached).answer with
  | error refusal => exact rfl
  | ok => trivial

/-- An operation that is declined leaves no trace, be it on a window or on a hierarchy. Write
by write, links and activations are what they are in one step, and neither they nor the
completion of a record in place are ever left halfway. -/
theorem declined_leaves_no_trace :
    (∀ (w : Window κ) (op : Window.Op κ), Window.declined (w.step op).answer = true →
      (w.step op).Traceless w) ∧
    (∀ (t : Hierarchy κ) (op : Op κ), (t.step op).answer.declined = true →
      (t.step op).Traceless t) ∧
    (∀ child container, Implements (κ := κ) (setContainerStepwise child container)
      (·.setContainer child container)) ∧
    (∀ id, Implements (κ := κ) (makeActiveStepwise id) (·.makeActive id)) ∧
    (∀ (t : Hierarchy κ) (id : WindowId) (attached : Option Token),
      Whole (t.completeStepwise id attached) ∧
      ∀ a refusal, (t.complete id a attached).answer = .error refusal →
        (t.completeStepwise id attached).run a = .error (.refused refusal) a) := by
  refine ⟨fun w op => Window.step_of_declined, fun t op => step_of_declined,
    fun child container => ?_, fun id => ?_, fun t id attached =>
      ⟨completeStepwise_whole id attached, ?_⟩⟩
  · exact .of_run (fun t => setContainerStepwise_run child container) setContainer_of_error
  · exact .of_run (fun t => makeActiveStepwise_run id) makeActive_of_error
  · intro a refusal refused
    rw [completeStepwise_run, refused]

/-- A window is not put into itself and is destroyed only once. -/
theorem declined_leaves_no_trace_self :
    let t := (empty : Hierarchy Unit).run [.insert (.create () ∅)]
    let gone := t.run [.destroy ⟨0, 1⟩]
    ((t.step (.setContainer ⟨0, 1⟩ (some ⟨0, 1⟩))).answer.declined = true ∧
      (t.step (.setContainer ⟨0, 1⟩ (some ⟨0, 1⟩))).Traceless t) ∧
      (gone.step (.destroy ⟨0, 1⟩)).answer.declined = true ∧
      (gone.step (.destroy ⟨0, 1⟩)).Traceless gone := by
  intro t gone
  obtain ⟨-, traceless, -⟩ := declined_leaves_no_trace (κ := Unit)
  exact ⟨⟨rfl, traceless t _ rfl⟩, rfl, traceless gone _ rfl⟩

end Hierarchy

end WindowPolicy
