/-
# WindowPolicy.Proofs.Window.Binding — the window manager that a record is given to

A window may be bound time and again, with a window manager of its own or with the one that its
context has at that moment. The binding that was accepted last holds, wherever the window has
been since, also if it left the window without a window manager. A record that is added is given
to that window manager and to no other, once, as it is after its completion.

* `Deed.bound?`, `bound?`: what a deed, and a life, binds a window to;
* `manager_eq_bound?`: the window manager of a window is the one it was bound to;
* `addWindow_reaches_bound_manager`: who is called with what when a record is added.
-/
import WindowPolicy.Proofs.Window.Life
import WindowPolicy.Proofs.Since

namespace WindowPolicy

set_option autoImplicit false

variable {κ : Type}

/-- The window manager, if any, that an accepted binding leaves a window with. -/
def Deed.bound? : Deed κ → Option (Option κ)
  | ⟨.bindTo b supplied, .ok _, _⟩ => some (b.manager.or supplied)
  | _ => none

/-- The window manager of the binding that was accepted last. -/
def bound? (deeds : List (Deed κ)) : Option κ := (latest Deed.bound? deeds).join

/-- A window has another window manager only by an accepted binding. -/
theorem Window.manager_step (w : Window κ) (op : Window.Op κ) :
    (w.step op).state.manager = (w.deed op).bound?.getD w.manager := by
  cases op with
  | bindTo b supplied =>
      cases gone : w.destroyed <;>
        simp [step, attempt, bindTo, whenAlive, deed, Deed.bound?, Step.map, Except.map, gone]
  | _ =>
      rw [step_state]
      split <;> rfl

theorem bound?_append_singleton (deeds : List (Deed κ)) (last : Deed κ) :
    bound? (deeds ++ [last]) = last.bound?.getD (bound? deeds) := by
  rw [bound?, latest_append_singleton]
  cases last.bound? <;> rfl

/-- A window has the window manager that it was bound to last. -/
theorem manager_eq_bound? {p : Place κ} {w : Window κ} {deeds : List (Deed κ)}
    (lived : p.Lived deeds) (here : p.window? = some w) : w.manager = bound? deeds := by
  have own {deeds : List (Deed κ)} {w : Window κ} (op : Window.Op κ)
      (bound : w.manager = bound? deeds) :
      (w.step op).state.manager = bound? (deeds ++ [w.deed op]) := by
    rw [w.manager_step, bound?_append_singleton, bound]
  have apart {deeds : List (Deed κ)} {w x : Window κ} (same : x.core = w.core)
      (bound : w.manager = bound? deeds) : x.manager = bound? deeds :=
    (congrArg Window.manager same).trans bound
  obtain ⟨x, occupied, bound⟩ :=
    lived.tells (P := fun deeds w => w.manager = bound? deeds) (fun _ _ => rfl) own apart
  cases here.symm.trans occupied.window?
  exact bound

/-- The step changed nothing, and this is what it answered and whom it called. -/
structure Step.Replies {S A : Type} (s : Step κ S A) (before : S) (answer : A)
    (calls : List (Call κ)) : Prop where
  state : s.state = before
  answer : s.answer = answer
  calls : s.calls = calls

namespace Hierarchy

variable {t : Hierarchy κ}

theorem addWindow_of_none {id : WindowId} (unknown : t.get? id = none) (a : Attributes)
    (attached : Option Token) :
    (t.addWindow id a attached).Replies t (.error (.unknownWindow id)) [] := by
  simp only [addWindow, live, unknown]
  exact ⟨rfl, rfl, rfl⟩

theorem addWindow_of_destroyed {id : WindowId} {w : Window κ} (named : t.get? id = some w)
    (gone : w.destroyed = true) (a : Attributes) (attached : Option Token) :
    (t.addWindow id a attached).Replies t (.error .destroyed) [] := by
  simp only [addWindow, live, named, gone, if_true]
  exact ⟨rfl, rfl, rfl⟩

/-- What a window that was not destroyed does with a record. -/
theorem addWindow_of_alive {id : WindowId} {w : Window κ} (named : t.get? id = some w)
    (alive : w.destroyed = false) (a : Attributes) (attached : Option Token) :
    match w.manager with
    | none => (t.addWindow id a attached).Replies t (.error .noManager) []
    | some manager => ∃ c b, (t.complete id a attached).answer = .ok (c, b) ∧
        (t.addWindow id a attached).Replies t (.ok b) [.addWindow manager b] := by
  simp only [addWindow, complete, live, named, alive]
  cases w.manager with
  | none => exact ⟨rfl, rfl, rfl⟩
  | some manager => exact ⟨_, _, rfl, rfl, rfl, rfl⟩

/-- A record that is added for a window is refused, and given to nobody, if the window is not
there, or else was destroyed, or else has no window manager. Otherwise it is completed and given
to the window manager that the window was bound to last, whatever it did since it was created. -/
theorem addWindow_reaches_bound_manager (reached : Reachable (.hierarchy t)) (id : WindowId)
    (a : Attributes) (attached : Option Token) :
    (t.get? id = none → (t.addWindow id a attached).Replies t (.error (.unknownWindow id)) []) ∧
    ∀ w, t.get? id = some w →
      (w.destroyed = true → (t.addWindow id a attached).Replies t (.error .destroyed) []) ∧
      (∃ deeds, (Place.within t id).Lived deeds) ∧
      ∀ deeds, (Place.within t id).Lived deeds → w.destroyed = false →
        match bound? deeds with
        | none => (t.addWindow id a attached).Replies t (.error .noManager) []
        | some manager => ∃ c b, (t.complete id a attached).answer = .ok (c, b) ∧
            (t.addWindow id a attached).Replies t (.ok b) [.addWindow manager b] := by
  refine ⟨fun unknown => addWindow_of_none unknown a attached, fun w named =>
    ⟨fun gone => addWindow_of_destroyed named gone a attached, reached.lived id w named, ?_⟩⟩
  intro deeds lived alive
  rw [← manager_eq_bound? lived named]
  exact addWindow_of_alive named alive a attached

/-- A window is bound to the window manager of its context, `7`, and then to one of its own. -/
def rebound : List (Op Nat) :=
  [.insert (.create 0 ∅), .window ⟨0, 1⟩ (.bindTo ⟨none, none, "demo", false⟩ (some 7)),
   .window ⟨0, 1⟩ (.bindTo ⟨some 9, none, "demo", false⟩ (some 7))]

theorem addWindow_reaches_bound_manager_rebound :
    let t := empty.run rebound
    let panel : Attributes := { type := ⟨1000⟩ }
    let titled := { panel with title := "Panel:demo" }
    ∃ deeds, (Place.within t ⟨0, 1⟩).Lived deeds ∧ bound? deeds = some 9 ∧
      (t.addWindow ⟨0, 1⟩ panel none).Replies t (.ok titled) [.addWindow 9 titled] := by
  intro t panel titled
  have reached : Reachable (.hierarchy t) := .history (.created 0 ∅)
  obtain ⟨-, there⟩ := addWindow_reaches_bound_manager reached ⟨0, 1⟩ panel none
  obtain ⟨w, named⟩ : ∃ w, t.get? ⟨0, 1⟩ = some w := ⟨_, rfl⟩
  obtain ⟨-, ⟨deeds, lived⟩, added⟩ := there w named
  refine ⟨deeds, lived, ?_⟩
  have replies := added deeds lived (by cases named; rfl)
  cases bound : bound? deeds with
  | none =>
      simp only [bound] at replies
      cases replies.answer
  | some manager =>
      simp only [bound] at replies
      obtain ⟨c, b, completed, replies⟩ := replies
      cases completed
      cases replies.calls
      exact ⟨rfl, replies⟩

end Hierarchy

end WindowPolicy
