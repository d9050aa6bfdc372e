/-
# WindowPolicy.Proofs.Window.Theme — a theme that is asked for once

A window asks its context for the theme when it first needs it, and not before: to read it, if only
for whether it floats, or to fill its attributes, which a destroyed window refuses to do. It keeps
what it was answered then. So however the context would change its answer, and wherever the
window goes, its theme is the first one that it needed in its life, and the context was asked for
it that one time.

* `Deed.wanted?`, `firstTheme?`: what a deed, and a life, learns of the theme;
* `theme_step`, `asked_step`: one operation;
* `Deed.Consulted`, `Themed`: what was asked in each deed, and what the window knows of it;
* `Window.Consults`: what it comes to when the theme is needed next;
* `theme_resolved_once`: all of it.
-/
import WindowPolicy.Proofs.Since
import WindowPolicy.Proofs.Window.Calls

namespace WindowPolicy

set_option autoImplicit false

variable {κ : Type}

/-! ## What the past says -/

/-- The context that a call asks for a theme. -/
def Call.asked? : Call κ → Option κ
  | .resolveTheme context => some context
  | _ => none

/-- The contexts that calls ask for a theme, one after the other. -/
def asked (calls : List (Call κ)) : List κ := calls.filterMap Call.asked?

theorem asked_append (calls calls' : List (Call κ)) :
    asked (calls ++ calls') = asked calls ++ asked calls' := List.filterMap_append

/-- What the context would answer at a deed that needs the theme. -/
def Deed.wanted? : Deed κ → Option Theme
  | ⟨.resolveTheme now, _, _⟩ => some now
  | ⟨.applyTheme now, .ok _, _⟩ => some now
  | _ => none

/-- What the context would answer when the theme was first needed. -/
def firstTheme? (deeds : List (Deed κ)) : Option Theme := deeds.findSome? Deed.wanted?

theorem firstTheme?_append_singleton (deeds : List (Deed κ)) (last : Deed κ) :
    firstTheme? (deeds ++ [last]) = (firstTheme? deeds).or last.wanted? := by
  rw [firstTheme?, List.findSome?_append, List.findSome?_singleton]
  rfl

/-! ## One operation -/

namespace Window

variable {w : Window κ}

/-- Whoever reads the theme needs it, and so does a window that is to fill its attributes, unless
it was destroyed. -/
theorem wanted?_deed (op : Op κ) :
    (w.deed op).wanted? =
      match op with
      | .resolveTheme now => some now
      | .applyTheme now => if w.destroyed then none else some now
      | _ => none := by
  cases op with
  | applyTheme now =>
      cases gone : w.destroyed <;>
        simp [deed, step, attempt, applyTheme, whenAlive, Step.map, Except.map, Deed.wanted?, gone]
  | _ => rfl

/-- A window that has no theme has the one that it needs now. -/
theorem theme_step (op : Op κ) : (w.step op).state.theme = w.theme.or (w.deed op).wanted? := by
  rw [step_state, wanted?_deed]
  cases op with
  | resolveTheme now => cases kept : w.theme <;> simp [changed, Op.refusable, kept]
  | applyTheme now =>
      cases gone : w.destroyed <;> cases kept : w.theme <;>
        simp [changed, Op.refusable, gone, kept]
  | _ => split <;> exact Option.or_none.symm

theorem context_step (op : Op κ) : (w.step op).state.context = w.context := by
  rw [step_state]
  split
  · rfl
  · cases op <;> rfl

theorem resolveTheme_eq (now : Theme) :
    w.resolveTheme now =
      { state := { w with theme := some (w.theme.getD now) }
        answer := w.theme.getD now
        calls := if w.theme.isNone then [.resolveTheme w.context] else [] } := by
  unfold resolveTheme
  cases kept : w.theme with
  | some theme =>
      have same : { w with theme := some theme } = w := by rw [← kept]
      simp [same]
  | none => rfl

theorem asked_resolveTheme (now : Theme) :
    asked (w.resolveTheme now).calls = if w.theme.isNone then [w.context] else [] := by
  rw [resolveTheme_eq]
  cases w.theme <;> rfl

theorem asked_applyTheme (alive : w.destroyed = false) (now : Theme) :
    asked (w.step (.applyTheme now)).calls = if w.theme.isNone then [w.context] else [] := by
  have silent (x : Window κ) : asked x.attributeCalls = [] := by
    unfold attributeCalls
    cases x.dispatcher.callback <;> rfl
  simp only [step, attempt, Step.map, applyTheme, whenAlive_of_alive alive, asked_append, silent,
    List.append_nil]
  exact asked_resolveTheme now

/-- The context is asked for a theme that is needed and not there. -/
theorem asked_step (op : Op κ) :
    asked (w.step op).calls =
      if w.theme.isNone then (w.deed op).wanted?.toList.map fun _ => w.context else [] := by
  rw [wanted?_deed]
  cases op with
  | resolveTheme now => exact asked_resolveTheme now
  | applyTheme now =>
      cases gone : w.destroyed with
      | false => exact asked_applyTheme gone now
      | true =>
          rw [step_of_destroyed gone rfl]
          exact (ite_self _).symm
  | _ =>
      refine (filterMap_calls_eq_nil fun call made => ?_).trans (ite_self _).symm
      cases call with
      | resolveTheme => cases made
      | _ => rfl

end Window

/-! ## A whole life -/

/-- What was asked of the context in a deed of a window that had the theme `known`, and what was
answered when the theme was read. -/
structure Deed.Consulted (deed : Deed κ) (context : κ) (known : Option Theme) : Prop where
  called : asked deed.calls =
    if known.isNone then deed.wanted?.toList.map fun _ => context else []
  answered : ∀ now, deed.op = .resolveTheme now → deed.answer = .ok (.theme (known.getD now))

theorem Window.consulted_deed (w : Window κ) (op : Op κ) :
    (w.deed op).Consulted w.context w.theme where
  called := asked_step op
  answered now read := by
    subst read
    show Except.ok (Answer.theme (w.resolveTheme now).answer) = _
    rw [resolveTheme_answer]

/-- What a window knows of the theme, and what was asked, told by its past. -/
structure Themed (context : κ) (deeds : List (Deed κ)) (w : Window κ) : Prop where
  theme : w.theme = firstTheme? deeds
  once : asked (deeds.flatMap (·.calls)) = (firstTheme? deeds).toList.map fun _ => context
  each : ∀ before deed, (before, deed) ∈ dated deeds →
    deed.Consulted context (firstTheme? before)
  context : w.context = context

namespace Themed

variable {context : κ} {deeds : List (Deed κ)} {w x : Window κ}

theorem created (context : κ) (defaults : Features) :
    Themed context [] (.create context defaults) where
  theme := rfl
  once := rfl
  each before deed impossible := by cases impossible
  context := rfl

theorem apart (themed : Themed context deeds w) (same : x.core = w.core) :
    Themed context deeds x where
  theme := (congrArg Window.theme same :).trans themed.theme
  once := themed.once
  each := themed.each
  context := (congrArg Window.context same :).trans themed.context

theorem own (themed : Themed context deeds w) (op : Window.Op κ) :
    Themed context (deeds ++ [w.deed op]) (w.step op).state where
  theme := by rw [w.theme_step, firstTheme?_append_singleton, themed.theme]
  once := by
    have now := (w.consulted_deed op).called
    rw [themed.context, themed.theme] at now
    rw [List.flatMap_append, asked_append, themed.once, List.flatMap_singleton, now,
      firstTheme?_append_singleton]
    cases firstTheme? deeds with
    | none => rfl
    | some theme => rfl
  each := by
    refine forall_dated_append_singleton.mpr ⟨themed.each, ?_⟩
    rw [← themed.context, ← themed.theme]
    exact w.consulted_deed op
  context := (w.context_step op).trans themed.context

theorem of_lives {p : Place κ} {defaults : Features}
    (lives : (Place.alone (.create context defaults)).Lives deeds p) :
    ∃ w, p.window? = some w ∧ Themed context deeds w := by
  obtain ⟨w, occupied, themed⟩ :=
    lives.tells (created context defaults) (fun op themed => themed.own op)
      (fun same themed => themed.apart same) (.alone _)
  exact ⟨w, occupied.window?, themed⟩

end Themed

/-! ## The next need -/

/-- What it comes to when the theme is needed of a window that has the theme `known`, and its
context would answer `now`. -/
structure Window.Consults (w : Window κ) (context : κ) (known : Option Theme) : Prop where
  read : ∀ now, w.resolveTheme now =
    { state := { w with theme := some (known.getD now) }
      answer := known.getD now
      calls := if known.isNone then [.resolveTheme context] else [] }
  floating : ∀ now, w.isFloating now =
    { state := { w with theme := some (known.getD now) }
      answer := (known.getD now).floating
      calls := if known.isNone then [.resolveTheme context] else [] }
  applied : w.destroyed = false → ∀ now,
    (w.step (.applyTheme now)).answer = .ok .done ∧
      (w.step (.applyTheme now)).state =
        { w with
          theme := some (known.getD now)
          layers := w.layers.applyTheme (known.getD now) } ∧
      asked (w.step (.applyTheme now)).calls = if known.isNone then [context] else []
  /-- A destroyed window refuses before it asks. -/
  barred : w.destroyed = true → ∀ now, (w.step (.applyTheme now)).Barred w

theorem Window.consults (w : Window κ) : w.Consults w.context w.theme where
  read := resolveTheme_eq
  floating now := by
    rw [isFloating, resolveTheme_eq]
    rfl
  applied alive now := by
    refine ⟨?_, ?_, asked_applyTheme alive now⟩
    · simp only [step, applyTheme, whenAlive_of_alive alive]
      rfl
    · have accepted : ¬(w.destroyed && (Op.applyTheme now : Op κ).refusable) = true := by
        simp [alive]
      rw [step_state, if_neg accepted]
      rfl
  barred gone now := by
    rw [step_of_destroyed gone rfl]
    exact ⟨rfl, rfl, rfl⟩

/-- In the life of a window its context is asked for the theme once if at all, in the deed that
needs it first. From then on the window goes by what it was answered there. Others ask for it
only in operations of its own. -/
theorem theme_resolved_once {context : κ} {defaults : Features} {p : Place κ}
    {deeds : List (Deed κ)} (lives : (Place.alone (.create context defaults)).Lives deeds p) :
    asked (deeds.flatMap (·.calls)) = ((firstTheme? deeds).toList.map fun _ => context) ∧
    (∀ before deed, (before, deed) ∈ dated deeds → deed.Consulted context (firstTheme? before)) ∧
    (∃ w, p.window? = some w ∧ w.Consults context (firstTheme? deeds)) ∧
    ∀ (t : Hierarchy κ) (op : Hierarchy.Op κ), asked (t.step op).calls = asked (t.relayed op) := by
  obtain ⟨w, here, themed⟩ := Themed.of_lives lives
  refine ⟨themed.once, themed.each, ⟨w, here, ?_⟩, fun t op => ?_⟩
  · have consults := w.consults
    rw [themed.context, themed.theme] at consults
    exact consults
  · exact t.filterMap_calls op fun _ _ => rfl

/-- A window of the context `7` is asked whether it floats, put into a hierarchy, destroyed there,
asked to apply a theme that does not float any more, and taken out. -/
theorem theme_resolved_once_removed :
    let w := Window.create 7 ∅
    let t := (Hierarchy.empty.insert (w.isFloating { floating := true }).state).2
    let rest := (t.step (.destroy ⟨0, 1⟩)).state
    let later := (rest.step (.window ⟨0, 1⟩ (.applyTheme {}))).state
    ∃ last deeds, (later.remove ⟨0, 1⟩).1 = some last ∧
      (Place.alone w).Lives deeds (.alone last) ∧ asked (deeds.flatMap (·.calls)) = [7] ∧
      last.Consults 7 (some { floating := true }) ∧ last.destroyed = true := by
  intro w t rest later
  have placed : Place.Does (.alone (w.step (.resolveTheme { floating := true })).state) none
      (.within t ⟨0, 1⟩) := .enters .empty _
  obtain ⟨x, named⟩ : ∃ x, t.get? ⟨0, 1⟩ = some x := ⟨_, rfl⟩
  obtain ⟨y, named'⟩ : ∃ y, rest.get? ⟨0, 1⟩ = some y := ⟨_, rfl⟩
  obtain ⟨last, gone⟩ : ∃ last, (later.remove ⟨0, 1⟩).1 = some last := ⟨_, rfl⟩
  have lives : (Place.alone w).Lives
      [w.deed (.resolveTheme { floating := true }), x.deed .destroy, y.deed (.applyTheme {})]
      (.alone last) :=
    .tail (.tail (.tail (.tail (.tail .refl (.own w _)) placed) (.acts named (by simp)))
      (.acts named' (by simp))) (.leaves gone)
  obtain ⟨once, -, ⟨z, here, consults⟩, -⟩ := theme_resolved_once lives
  cases here
  have first : firstTheme? [w.deed (.resolveTheme { floating := true }), x.deed .destroy,
      y.deed (.applyTheme {})] = some { floating := true } := rfl
  rw [first] at once consults
  refine ⟨last, _, gone, lives, once, consults, ?_⟩
  cases gone
  rfl

end WindowPolicy
