/-
# WindowPolicy.Proofs.Dispatcher.Forwarding — every event reaches one callback, once

Between the events that are dispatched the slot changes hands, and whoever has it last is
registered: `registered` tells it from the past alone. A run is a list of uses of one
dispatcher, and the state `σ` on which callbacks and default handlings act goes through all
of them.

* `Dispatcher.run_eq_mapM`: in a run each dispatch is the one reaction of the callback that
  is registered then, whatever the reactions do, and without one it is nothing; setting a
  callback gives back the one before.

This compares what is done, not who is asked. So that contacts can be counted, callbacks and
default handlings are also given by what they do, and note that they were called before they
do it. A `Script` is what a callback does on an input: it looks at the state, changes it, hands
inputs on, and replies. `Script.play` tells what that comes to and which inputs are handed
on. A `Conduct` has a script for each input, and an action for each notice, or keeps the
reaction that a callback has without one.

* `Script.perform_eq`: performed with the default handling at hand, a script has its
  effect, and the default handling is contacted for the inputs that the script hands on;
* `Dispatcher.forwarded_exactly_once`: in a run the contacts are those of the callbacks that
  were registered, one for each dispatch, each followed by its own contacts with the default
  handling, and no others.
-/
import WindowPolicy.Proofs.Dispatcher.Event
import WindowPolicy.Proofs.Since

namespace WindowPolicy

set_option autoImplicit false

variable {σ κ β α : Type}

namespace Dispatcher

/-! ## Runs -/

/-- One use of a dispatcher: another callback takes the slot, or none, or an event is
dispatched, with the name of its default handling. -/
inductive Act (κ β : Type) where
  | set (callback : Option κ)
  | dispatch (event : Event) (base : β)

/-- What comes back from it. -/
inductive Outcome (κ : Type) where
  | replaced (previous : Option κ)
  | returned (event : Event) (answer : Option event.Answer) (argument : event.Argument)

/-- What a use of a dispatcher does, and the dispatcher after it. -/
def act (d : Dispatcher κ) (reactions : κ → Callback σ) (bases : β → Fallback σ) :
    Act κ β → StateM σ (Outcome κ × Dispatcher κ)
  | .set callback => pure (.replaced (d.set callback).1, (d.set callback).2)
  | .dispatch event base =>
      (fun result => (.returned event result.1 result.2, d)) <$>
        d.dispatch reactions (bases base) event

/-- What many uses do, one after the other. -/
def run (d : Dispatcher κ) (reactions : κ → Callback σ) (bases : β → Fallback σ) :
    List (Act κ β) → StateM σ (List (Outcome κ))
  | [] => pure []
  | act :: acts => do
    let (outcome, d') ← d.act reactions bases act
    let outcomes ← d'.run reactions bases acts
    pure (outcome :: outcomes)

/-- The callback that a use puts into the slot, where it puts any or none. -/
def Act.callback? : Act κ β → Option (Option κ)
  | .set callback => some callback
  | .dispatch _ _ => none

/-- The callback that is registered after the uses. -/
def registered (acts : List (Act κ β)) : Option κ := (latest Act.callback? acts).join

/-- What a use comes to while a callback is registered, or none. -/
def respond (reactions : κ → Callback σ) (bases : β → Fallback σ) (registered : Option κ) :
    Act κ β → StateM σ (Outcome κ)
  | .set _ => pure (.replaced registered)
  | .dispatch event base =>
    match registered with
    | none => pure (.returned event none event.argument)
    | some k =>
        (fun reply => .returned event (some reply.1) reply.2) <$>
          (reactions k).react (bases base) event

section

variable (reactions : κ → Callback σ) (bases : β → Fallback σ)

theorem act_eq (d : Dispatcher κ) (act : Act κ β) :
    d.act reactions bases act =
      (fun outcome => (outcome, ⟨act.callback?.getD d.callback⟩)) <$>
        respond reactions bases d.callback act := by
  obtain ⟨slot⟩ := d
  cases act with
  | set callback => rfl
  | dispatch event base =>
    cases slot with
    | none =>
      rw [Dispatcher.act, dispatch_of_vacant rfl]
      rfl
    | some k =>
      rw [Dispatcher.act, dispatch_of_registered rfl]
      rfl

theorem registered_append_singleton (acts : List (Act κ β)) (act : Act κ β) :
    registered (acts ++ [act]) = act.callback?.getD (registered acts) := by
  rw [registered, latest_append_singleton, registered]
  cases act <;> rfl

/-- A run that goes on from a past. -/
theorem run_eq_mapM_datedFrom (before acts : List (Act κ β)) :
    (⟨registered before⟩ : Dispatcher κ).run reactions bases acts =
      (datedFrom before acts).mapM fun entry =>
        respond reactions bases (registered entry.1) entry.2 := by
  induction acts generalizing before with
  | nil => rfl
  | cons act acts ih =>
    rw [run, act_eq, datedFrom, List.mapM_cons, ← ih, registered_append_singleton, bind_map_left]

/-- Each use comes to what it comes to while the callback set last is registered. -/
theorem run_eq_mapM (acts : List (Act κ β)) :
    ({} : Dispatcher κ).run reactions bases acts =
      (dated acts).mapM fun entry => respond reactions bases (registered entry.1) entry.2 :=
  run_eq_mapM_datedFrom reactions bases [] acts

end

end Dispatcher

/-! ## Scripts -/

/-- What a callback does on an input, step by step. -/
inductive Script (σ α : Type) where
  | reply (answer : α)
  | look (next : σ → Script σ α)
  | keep (state : σ) (next : Script σ α)
  /-- The default handling is called on. -/
  | handOn (input : Input) (next : input.Reply → Script σ α)

/-- What a script comes to, and the inputs that it hands on. -/
def Script.play (handling : Handling σ) : Script σ α → StateM σ (α × List Input)
  | .reply answer => pure (answer, [])
  | .look next => do (next (← get)).play handling
  | .keep state next => do
    set state
    next.play handling
  | .handOn input next => do
    let reply ← handling input
    let (answer, inputs) ← (next reply).play handling
    pure (answer, input :: inputs)

/-- What a callback does on each event; where nothing is said, it keeps the reaction that a
callback has without one of its own. -/
structure Conduct (σ : Type) where
  input : (input : Input) → Option (Script σ input.Reply)
  notice : (notice : Notice) → Option (StateM σ notice.Reply)

namespace Conduct

/-- What a callback comes to on an input, and the inputs that it hands on. -/
def onInput (conduct : Conduct σ) (handling : Handling σ) (i : Input) :
    StateM σ (i.Reply × List Input) :=
  match conduct.input i with
  | some script => script.play handling
  | none => pure ((false, i.argument), [])

/-- What a callback comes to on a notice. -/
def onNotice (conduct : Conduct σ) (n : Notice) : StateM σ n.Reply :=
  (conduct.notice n).getD (pure (n.standard, n.argument))

/-- What a callback comes to on an event, and the inputs that it hands on. -/
def play (conduct : Conduct σ) (handling : Handling σ) :
    (event : Event) → StateM σ (event.Reply × List Input)
  | .input i => conduct.onInput handling i
  | .notice n => (·, []) <$> conduct.onNotice n

end Conduct

/-! ## Contacts -/

/-- A call of a callback, or of a default handling. -/
inductive Contact (κ β : Type) where
  | callback (name : κ) (event : Event)
  | base (name : β) (input : Input)

/-- A state beside the contacts that there have been. -/
abbrev Observed (κ β σ : Type) : Type := σ × List (Contact κ β)

namespace Observed

/-- An action on the state alone. -/
def unseen (action : StateM σ α) : StateM (Observed κ β σ) α := fun observed =>
  ((action observed.1).1, (action observed.1).2, observed.2)

/-- Notes contacts. -/
def note (contacts : List (Contact κ β)) : StateM (Observed κ β σ) Unit :=
  modify fun observed => (observed.1, observed.2 ++ contacts)

/-- A default handling that notes each of its calls. -/
def base (name : β) (handling : Handling σ) : Fallback (Observed κ β σ) :=
  Fallback.of fun input => do
    note [.base name input]
    unseen (handling input)

/-- A script, performed with the default handling at hand. -/
def perform (base : Fallback (Observed κ β σ)) : Script σ α → StateM (Observed κ β σ) α
  | .reply answer => pure answer
  | .look next => do perform base (next (← get).1)
  | .keep state next => do
    modify fun observed => (state, observed.2)
    perform base next
  | .handOn input next => do perform base (next (← base.handle input))

/-- A callback that notes each of its calls and does what is said. -/
def callback (name : κ) (conduct : Conduct σ) : Callback (Observed κ β σ) :=
  Callback.of
    (fun input base => do
      note [.callback name (.input input)]
      match conduct.input input with
      | some script => perform base script
      | none => ({} : Callback (Observed κ β σ)).input base input)
    (fun notice => do
      note [.callback name (.notice notice)]
      match conduct.notice notice with
      | some action => unseen action
      | none => ({} : Callback (Observed κ β σ)).notice notice)

/-- Contacts, then an action, then the contacts for the inputs that it has handed on. -/
def recount (contacts : List (Contact κ β)) (name : β) (action : StateM σ (α × List Input)) :
    StateM (Observed κ β σ) α := do
  note contacts
  let (answer, inputs) ← unseen action
  note (inputs.map (.base name))
  pure answer

theorem recount_apply (contacts : List (Contact κ β)) (name : β)
    (action : StateM σ (α × List Input)) (state : σ) (before : List (Contact κ β)) :
    recount contacts name action (state, before) =
      ((action state).1.1, (action state).2,
        before ++ (contacts ++ (action state).1.2.map (.base name))) := by
  rw [← List.append_assoc]
  rfl

theorem note_bind_recount (contacts later : List (Contact κ β)) (name : β)
    (action : StateM σ (α × List Input)) :
    (do note contacts; recount later name action) = recount (contacts ++ later) name action := by
  funext ⟨state, before⟩
  rw [recount_apply, List.append_assoc, ← List.append_assoc before, ← recount_apply]
  rfl

theorem recount_none (contacts : List (Contact κ β)) (name : β) (action : StateM σ α) :
    recount contacts name ((·, []) <$> action) = (do note contacts; unseen action) := by
  funext ⟨state, before⟩
  rw [recount_apply]
  exact congrArg (fun later => (_, _, before ++ later)) (List.append_nil contacts)

/-- A script that is performed has its effect, and contacts the default handling for what it
hands on. -/
theorem perform_base (name : β) (handling : Handling σ) (script : Script σ α) :
    perform (κ := κ) (base name handling) script = recount [] name (script.play handling) := by
  induction script with
  | reply answer =>
    funext ⟨state, contacts⟩
    rw [recount_apply]
    exact congrArg (fun later => (answer, state, later)) (List.append_nil contacts).symm
  | look next ih =>
    funext ⟨state, contacts⟩
    exact congrFun (ih state) (state, contacts)
  | keep state next ih =>
    funext ⟨_, contacts⟩
    exact congrFun ih (state, contacts)
  | handOn input next ih =>
    funext ⟨state, contacts⟩
    have handed : perform (base name handling) (.handOn input next) (state, contacts) =
        perform (base name handling) (next (handling input state).1)
          ((handling input state).2, contacts ++ [.base name input]) := by
      rw [perform, base, Fallback.handle_of]
      rfl
    rw [handed, ih, recount_apply, recount_apply, List.append_assoc]
    rfl

theorem callback_input (k : κ) (conduct : Conduct σ) (name : β) (handling : Handling σ)
    (i : Input) :
    (callback k conduct).input (base name handling) i =
      recount [.callback k (.input i)] name (conduct.onInput handling i) := by
  rw [callback, Callback.input_of, Conduct.onInput]
  cases conduct.input i with
  | some script =>
    simp only [perform_base, note_bind_recount, List.append_nil]
  | none =>
    simp only [Callback.input_default]
    exact (recount_none [.callback k (.input i)] name (pure (false, i.argument))).symm

theorem callback_notice (k : κ) (conduct : Conduct σ) (n : Notice) :
    (callback (β := β) k conduct).notice n = (do
      note [.callback k (.notice n)]
      unseen (conduct.onNotice n)) := by
  rw [callback, Callback.notice_of, Conduct.onNotice]
  cases conduct.notice n with
  | some action => rfl
  | none =>
    simp only [Callback.notice_default]
    rfl

/-- A callback is contacted first, and then itself contacts the default handling. -/
theorem react_callback (k : κ) (conduct : Conduct σ) (name : β) (handling : Handling σ)
    (event : Event) :
    (callback k conduct).react (base name handling) event =
      recount [.callback k event] name (conduct.play handling event) := by
  cases event with
  | input i => exact callback_input k conduct name handling i
  | notice n =>
    calc
      (callback k conduct).notice n = (do
          note [.callback k (.notice n)]
          unseen (conduct.onNotice n)) :=
        callback_notice k conduct n
      _ = recount [.callback k (.notice n)] name ((·, []) <$> conduct.onNotice n) :=
        (recount_none [.callback k (.notice n)] name (conduct.onNotice n)).symm

end Observed

namespace Dispatcher

/-! ## Observed runs -/

/-- What a use comes to while a callback is registered, or none, and the contacts in it. -/
def account (conducts : κ → Conduct σ) (bases : β → Handling σ) (registered : Option κ) :
    Act κ β → StateM (Observed κ β σ) (Outcome κ)
  | .set _ => pure (.replaced registered)
  | .dispatch event base =>
    match registered with
    | none => pure (.returned event none event.argument)
    | some k =>
        (fun reply => .returned event (some reply.1) reply.2) <$>
          Observed.recount [.callback k event] base ((conducts k).play (bases base) event)

theorem respond_observed (conducts : κ → Conduct σ) (bases : β → Handling σ)
    (registered : Option κ) (act : Act κ β) :
    respond (fun k => Observed.callback k (conducts k))
        (fun name => Observed.base name (bases name)) registered act =
      account conducts bases registered act := by
  cases act with
  | set callback => rfl
  | dispatch event base =>
    cases registered with
    | none => rfl
    | some k =>
      rw [respond, Observed.react_callback]
      rfl

/-- Every dispatch is forwarded once to the callback that is registered then, and to no other:
its answer is the answer of the dispatch, its changes to the argument are kept, and the default
handling is called on for the inputs that it hands on and no others, which are none where it has
no reaction of its own. Without a callback nothing happens, and setting one gives back the one
before. -/
theorem forwarded_exactly_once :
    (∀ (σ : Type) (reactions : κ → Callback σ) (bases : β → Fallback σ) (acts : List (Act κ β)),
      ({} : Dispatcher κ).run reactions bases acts =
        (dated acts).mapM fun entry => respond reactions bases (registered entry.1) entry.2) ∧
    (∀ (σ : Type) (conducts : κ → Conduct σ) (bases : β → Handling σ) (acts : List (Act κ β)),
      ({} : Dispatcher κ).run (fun k => Observed.callback k (conducts k))
          (fun name => Observed.base name (bases name)) acts =
        (dated acts).mapM fun entry => account conducts bases (registered entry.1) entry.2) := by
  refine ⟨fun σ => run_eq_mapM, fun σ conducts bases acts => ?_⟩
  rw [run_eq_mapM]
  simp only [respond_observed]

-- A callback that consumes the back key and hands other keys on.
example :
    let conduct : Conduct Unit :=
      { input
          | .key event =>
              some (if event.code = 4 then .reply (true, ()) else .handOn (.key event) .reply)
          | _ => none
        notice _ := none }
    let back : KeyEvent := { code := 4, action := .down }
    let other : KeyEvent := { code := 29, action := .down }
    ({} : Dispatcher Unit).run (fun name => Observed.callback name conduct)
        (fun name => Observed.base name fun input => pure (false, input.argument))
        [.dispatch (.input (.key back)) (), .set (some ()), .dispatch (.input (.key back)) (),
          .dispatch (.input (.key other)) (), .dispatch (.input (.keyShortcut other)) ()] ((), []) =
      ([.returned (.input (.key back)) none (), .replaced none,
          .returned (.input (.key back)) (some true) (),
          .returned (.input (.key other)) (some false) (),
          .returned (.input (.keyShortcut other)) (some false) ()],
        (),
        [.callback () (.input (.key back)), .callback () (.input (.key other)),
          .base () (.key other), .callback () (.input (.keyShortcut other))]) := by
  rfl

end Dispatcher

end WindowPolicy
