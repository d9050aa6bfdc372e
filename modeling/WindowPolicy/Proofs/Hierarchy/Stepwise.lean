/-
# WindowPolicy.Proofs.Hierarchy.Stepwise — linking and activating, write by write

An operation that changes several windows is done by several writes, and every write but
the first looks its window up in a hierarchy that is already changed. If such a look-up
failed the operation would stop halfway. Here the operations are written down as such
sequences, in which a failed look-up ends the procedure where it is (`Halt.lost`), and are
shown to be the operations of the hierarchy: a procedure ends early only when a guard
turns it down, before the first write.

* `still`: a write to a window that has to be there;
* `setContainerStepwise_run`, `makeActiveStepwise_run`: the two procedures;
* `completeStepwise_run`: completing a record that the caller holds.
-/
import WindowPolicy.Proofs.Hierarchy.Links

namespace WindowPolicy

set_option autoImplicit false

namespace Hierarchy

variable {κ : Type} {t : Hierarchy κ}

/-! ## Procedures -/

/-- How a procedure ends early. -/
inductive Halt where
  /-- A guard turned it down. -/
  | refused (refusal : Refusal)
  /-- A window that has to be there is not. -/
  | lost (id : WindowId)

/-- A sequence of reads and writes. What was written stays written when it ends early. -/
abbrev Procedure (S : Type) := EStateM Halt S

/-- Asks something that may be refused. -/
def guarded {S A : Type} (ask : S → Except Refusal A) : Procedure S A := do
  match ask (← get) with
  | .ok answer => return answer
  | .error refusal => throw (.refused refusal)

/-- Writes without a condition. -/
def act {S : Type} (change : S → S) : Procedure S Unit := do
  set (change (← get))

/-- Changes a window that has to be there. -/
def still (id : WindowId) (change : Window κ → Window κ) : Procedure (Hierarchy κ) Unit := do
  let t ← get
  match t.get? id with
  | some w => set (t.write id (some (change w)))
  | none => throw (.lost id)

section Run

variable {S A B : Type} {s : S}

theorem guarded_run_ok (ask : S → Except Refusal A) {answer : A} (asked : ask s = .ok answer) :
    (guarded ask).run s = .ok answer s := by
  unfold guarded
  rw [EStateM.run_bind, EStateM.run_get]
  simp [asked]

/-- A guard that turns a procedure down ends it with everything as it was. -/
theorem guarded_bind_run_error (ask : S → Except Refusal A) {refusal : Refusal}
    (asked : ask s = .error refusal) (next : A → Procedure S B) :
    (guarded ask >>= next).run s = .error (.refused refusal) s := by
  unfold guarded
  rw [EStateM.run_bind, EStateM.run_bind, EStateM.run_get]
  simp only [asked]
  rfl

theorem act_run (change : S → S) : (act change).run s = .ok () (change s) := rfl

theorem still_run {id : WindowId} {w : Window κ} (named : t.get? id = some w)
    (change : Window κ → Window κ) : (still id change).run t = .ok () (t.modify id change) := by
  unfold still
  rw [EStateM.run_bind, EStateM.run_get]
  simp [named, modify_of_get?]

/-- What follows a part that ends well. -/
theorem run_bind_ok {first : Procedure S A} {next : A → Procedure S B} {answer : A} {s' : S}
    (well : first.run s = .ok answer s') : (first >>= next).run s = (next answer).run s' := by
  rw [EStateM.run_bind, well]

end Run

/-- How a step ends, as the end of a procedure. -/
def outcome {S A : Type} (step : Step κ S (Except Refusal A)) : EStateM.Result Halt S A :=
  match step.answer with
  | .ok answer => .ok answer step.state
  | .error refusal => .error (.refused refusal) step.state

/-! ## Links -/

/-- The window names another container. -/
def naming (container : Option WindowId) (w : Window κ) : Window κ := { w with container }

def withoutTitle (w : Window κ) : Window κ := { w with features := w.features.force .noTitle }

def withTitle (w : Window κ) : Window κ := { w with features := w.features.unpin .noTitle }

/-- A window is no longer active when it comes from another container than this one. -/
def settled (previous container : Option WindowId) (w : Window κ) : Window κ :=
  if previous = container then w else acting false w

theorem contain_eq_writes (host : WindowId) (w : Window κ) :
    contain host w = settled w.container (some host) (withoutTitle (naming (some host) w)) := by
  unfold settled
  split
  · rename_i same
    simp [contain, withoutTitle, naming, same]
  · rename_i other
    simp [contain, withoutTitle, naming, acting, other]

/-- Puts a window into a container or takes it out of one, write by write. -/
def setContainerStepwise (child : WindowId) (container : Option WindowId) :
    Procedure (Hierarchy κ) Unit := do
  let w ← guarded fun t => linkable t child container
  act fun t => if w.container = container then t else t.forgetActive w.container child
  still child (naming container)
  match container with
  | some host =>
      still child withoutTitle
      still child (settled w.container container)
      still host asHost
  | none =>
      still child withTitle
      still child (acting false)

/-- The old container was told: the windows are where they were, in the containers they were. -/
theorem get?_unlinked {w : Window κ} (child : WindowId) (container : Option WindowId) {j : WindowId}
    {x : Window κ} (named : t.get? j = some x) :
    ∃ y, (if w.container = container then t else t.forgetActive w.container child).get? j = some y ∧
      y.container = x.container := by
  split
  · exact ⟨x, named, rfl⟩
  · refine ⟨forgotten w.container child j x, ?_, forgotten_container w.container child j x⟩
    rw [get?_forgetActive, named]
    rfl

/-- Write by write, a link is changed as in one step, and no window is lost on the way. -/
theorem setContainerStepwise_run (child : WindowId) (container : Option WindowId) :
    (setContainerStepwise child container).run t = outcome (t.setContainer child container) := by
  unfold setContainerStepwise
  cases free : t.linkable child container with
  | error refusal =>
      rw [guarded_bind_run_error (fun t => linkable t child container) free,
        setContainer_of_refused free]
      rfl
  | ok w =>
      obtain ⟨moving, -, ends⟩ := linkable_eq_ok_iff.mp free
      have linked :
          outcome (t.setContainer child container) = .ok () (t.relink child container w) := by
        simp [outcome, setContainer, free]
      rw [linked, run_bind_ok (guarded_run_ok (fun t => linkable t child container) free),
        run_bind_ok (act_run _)]
      unfold relink
      have kept {j : WindowId} {x : Window κ} (named : t.get? j = some x) :=
        get?_unlinked (w := w) child container named
      generalize (if w.container = container then t
        else t.forgetActive w.container child) = u at kept ⊢
      obtain ⟨y, named, same⟩ := kept moving
      have first := get?_modify_self named (naming container)
      rw [run_bind_ok (still_run named _)]
      cases container with
      | none =>
          rw [run_bind_ok (still_run first _), still_run (get?_modify_self first _), modify_modify,
            modify_modify]
          rfl
      | some host =>
          obtain ⟨distinct, h, hosting, -⟩ := ends host rfl
          obtain ⟨h', found, -⟩ := kept hosting
          have second := get?_modify_self first withoutTitle
          rw [run_bind_ok (still_run first _), run_bind_ok (still_run second _), modify_modify,
            modify_modify]
          have merged : u.modify child ((settled w.container (some host) ∘ withoutTitle) ∘
              naming (some host)) = u.modify child (contain host) := by
            refine modify_congr fun x here => ?_
            cases named.symm.trans here
            rw [contain_eq_writes, same]
            rfl
          have there : (u.modify child (contain host)).get? host = some h' := by
            rw [get?_modify, found]
            simp [distinct]
          rw [merged, still_run there]
          rfl

/-! ## Activation -/

/-- The window that an activation starts from. -/
def activatable (t : Hierarchy κ) (id : WindowId) : Except Refusal (Window κ) :=
  match t.live id with
  | .error refusal => .error refusal
  | .ok w => if w.destroyed then .error .destroyed else .ok w

theorem activatable_eq_ok_iff {id : WindowId} {w : Window κ} :
    t.activatable id = .ok w ↔ t.get? id = some w ∧ w.destroyed = false := by
  unfold activatable live
  cases t.get? id with
  | none => simp
  | some x => grind

/-- The container, if it is there, takes the window for its active child. The answer is the
child that it had before. -/
def takeOver (container : Option WindowId) (id : WindowId) :
    Procedure (Hierarchy κ) (Option WindowId) := do
  let t ← get
  match container with
  | none => return none
  | some host =>
      set (t.modify host (choosing id))
      return (t.get? host).bind (·.activeChild)

/-- Makes a window the active child of its container, write by write. -/
def makeActiveStepwise (id : WindowId) : Procedure (Hierarchy κ) Unit := do
  let w ← guarded fun t => activatable t id
  let previous ← takeOver w.container id
  act fun t =>
    match previous.filter (· ≠ id) with
    | some sibling => t.modify sibling (acting false)
    | none => t
  still id (acting true)

theorem makeActive_outcome (id : WindowId) :
    outcome (t.makeActive id) =
      match t.activatable id with
      | .error refusal => .error (.refused refusal) t
      | .ok w => .ok () (t.activate id w) := by
  unfold makeActive activatable live
  cases t.get? id with
  | none => rfl
  | some w => cases gone : w.destroyed <;> simp [gone, outcome]

/-- Write by write, a window is activated as in one step, and is not lost on the way. -/
theorem makeActiveStepwise_run (id : WindowId) :
    (makeActiveStepwise id).run t = outcome (t.makeActive id) := by
  unfold makeActiveStepwise
  rw [makeActive_outcome]
  cases asked : t.activatable id with
  | error refusal => exact guarded_bind_run_error (fun t => activatable t id) asked _
  | ok w =>
      obtain ⟨named, -⟩ := activatable_eq_ok_iff.mp asked
      rw [run_bind_ok (guarded_run_ok (fun t => activatable t id) asked)]
      -- Changes of other windows, and of this one, leave it where it is.
      have stays {u : Hierarchy κ} {x : Window κ} (there : u.get? id = some x) (j : WindowId)
          (change : Window κ → Window κ) : ∃ y, (u.modify j change).get? id = some y := by
        rw [get?_modify, there]
        exact ⟨_, rfl⟩
      dsimp only
      unfold activate displaced?
      cases inside : w.container with
      | none =>
          have taking : (takeOver none id).run t = .ok none t := rfl
          rw [run_bind_ok taking, run_bind_ok (act_run _)]
          exact still_run named _
      | some host =>
          have taking : (takeOver (some host) id).run t =
              .ok ((t.get? host).bind (·.activeChild)) (t.modify host (choosing id)) := rfl
          rw [run_bind_ok taking, run_bind_ok (act_run _)]
          obtain ⟨x, there⟩ := stays named host (choosing id)
          simp only [Option.bind_some]
          cases ((t.get? host).bind (·.activeChild)).filter (· ≠ id) with
          | none => exact still_run there _
          | some sibling =>
              obtain ⟨y, there⟩ := stays there sibling (acting false)
              exact still_run there _

/-! ## Records -/

/-- Completes a record that the caller holds. -/
def completeStepwise (t : Hierarchy κ) (id : WindowId) (attached : Option Token) :
    Procedure Attributes Category := do
  let w ← guarded fun _ => t.live id
  let a ← get
  act fun record => t.completion w record attached
  return a.type.category

/-- The record that the caller holds is completed, or is left as it was. -/
theorem completeStepwise_run (id : WindowId) (a : Attributes) (attached : Option Token) :
    (t.completeStepwise id attached).run a =
      match (t.complete id a attached).answer with
      | .ok (category, completed) => .ok category completed
      | .error refusal => .error (.refused refusal) a := by
  unfold completeStepwise complete
  cases t.live id with
  | error refusal => exact guarded_bind_run_error (fun _ => .error refusal) rfl _
  | ok w => exact run_bind_ok (guarded_run_ok (fun _ => .ok w) rfl)

end Hierarchy

end WindowPolicy
