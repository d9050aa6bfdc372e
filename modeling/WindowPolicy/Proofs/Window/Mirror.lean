/-
# WindowPolicy.Proofs.Window.Mirror — a callback that keeps up with the attributes

The attributes of a window change by two of its operations, edits and themes, and by nothing
else: neither by what a hierarchy does nor by the events that a dispatcher forwards. Each of
these changes is reported once, to the callback that is registered at that moment, with the
attributes as they are afterwards, and nothing else is reported. So a callback that starts from a
copy and stores what is reported to it has the attributes at all times, while it is registered.
A callback is registered with one window, so that this window's calls are all that it learns.

* `Reports`: what an operation of a window, and one of a hierarchy, reports and leaves alone;
* `Forwards.unaware`: no event is forwarded to the reaction to changed attributes but that one;
* `mirrored_step`, `Follows.of_lives`: the copy follows every operation, and so a whole life;
* `callback_mirrors_attributes`: all of it.
-/
import WindowPolicy.Proofs.Window.Life

namespace WindowPolicy

set_option autoImplicit false

variable {κ : Type}

/-- What a call reports, and to whom. -/
def Call.report? : Call κ → Option (κ × Attributes)
  | .attributesChanged callback attributes => some (callback, attributes)
  | _ => none

/-- What calls report, one after the other. -/
def reports (calls : List (Call κ)) : List (κ × Attributes) := calls.filterMap Call.report?

@[simp] theorem reports_nil : reports ([] : List (Call κ)) = [] := rfl

@[simp] theorem reports_append (calls calls' : List (Call κ)) :
    reports (calls ++ calls') = reports calls ++ reports calls' := List.filterMap_append

theorem reports_map {α : Type} {call : α → Call κ} (silent : ∀ a, (call a).report? = none)
    (receivers : List α) : reports (receivers.map call) = [] := by
  simp [reports, silent]

/-! ## One operation of a window -/

namespace Window

variable {w : Window κ}

/-- The operations that set attributes. -/
def Op.sets : Op κ → Bool
  | .edit _ | .applyTheme _ => true
  | _ => false

/-- An operation reports what it sets, once, if it is accepted. If it sets nothing or is refused
it reports nothing and leaves the attributes. -/
structure Reports (w : Window κ) (op : Op κ) : Prop where
  told : op.sets = true → ∀ answer, (w.step op).answer = .ok answer →
    reports (w.step op).calls =
      w.dispatcher.callback.toList.map fun k => (k, (w.step op).state.attributes)
  silent : op.sets = false ∨ (∃ refusal, (w.step op).answer = .error refusal) →
    reports (w.step op).calls = [] ∧ (w.step op).state.attributes = w.attributes

theorem reports_attributeCalls (w : Window κ) :
    reports w.attributeCalls = w.dispatcher.callback.toList.map fun k => (k, w.attributes) := by
  unfold attributeCalls
  cases w.dispatcher.callback <;> rfl

theorem reports_resolveTheme (resolved : Theme) : reports (w.resolveTheme resolved).calls = [] := by
  unfold resolveTheme
  split <;> rfl

theorem attempt_whenAlive_calls {A : Type} (read : A → Answer κ)
    (change : Step κ (Window κ) (Except Refusal A)) :
    (attempt read (w.whenAlive change)).calls = if w.destroyed then [] else change.calls := by
  unfold attempt whenAlive
  split <;> rfl

theorem reports_of_sets {op : Op κ} (sets : op.sets = true) (alive : w.destroyed = false) :
    reports (w.step op).calls =
      w.dispatcher.callback.toList.map fun k => (k, (w.step op).state.attributes) := by
  have accepted : ¬w.destroyed = true := by simp [alive]
  cases op with
  | edit e =>
      simp only [step, edit, attempt_whenAlive_calls, attempt_whenAlive_state, if_neg accepted]
      exact reports_attributeCalls _
  | applyTheme resolved =>
      simp only [step, applyTheme, attempt_whenAlive_calls, attempt_whenAlive_state,
        if_neg accepted, reports_append, reports_resolveTheme, List.nil_append]
      rw [reports_attributeCalls, resolveTheme_state]
  | _ => cases sets

theorem reports_of_not_sets {op : Op κ} (other : op.sets = false) :
    reports (w.step op).calls = [] := by
  have unheard {A : Type} (read : A → Answer κ) {change : Step κ (Window κ) (Except Refusal A)}
      (silent : change.calls = []) : reports (attempt read (w.whenAlive change)).calls = [] := by
    rw [attempt_whenAlive_calls, silent, ite_self, reports_nil]
  cases op with
  | edit | applyTheme => cases other
  | request | requestId | closeOnTouchOutside | closeOnTouchOutsideIfUnset | closeOnSwipe
  | overlayCaption | captionShade | bindTo | decor => exact unheard _ rfl
  | addFrameListener =>
      refine unheard _ ?_
      split <;> rfl
  | resolveTheme resolved => exact reports_resolveTheme resolved
  | destroy =>
      simp only [step, accept, Step.map, destroy]
      split <;> rfl
  | dismissed | swipeDismissed | barAppearance | frameTimed => exact reports_map (fun _ => rfl) _
  | captionArea =>
      simp only [step, accept, Step.map, captionAreaChanged]
      split <;> rfl
  | _ => rfl

theorem attributes_of_not_sets {op : Op κ} (other : op.sets = false) :
    (w.step op).state.attributes = w.attributes := by
  rw [step_state]
  split
  · rfl
  · cases op with
    | edit | applyTheme => cases other
    | closeOnTouchOutsideIfUnset close =>
        show (w.layers.setCloseOnTouchOutsideIfUnset close).current = w.layers.current
        unfold Layers.setCloseOnTouchOutsideIfUnset
        split <;> rfl
    | bindTo b =>
        show (if b.hardwareAccelerated then _ else w.layers).current = w.layers.current
        split <;> rfl
    | _ => rfl

theorem reports_step (w : Window κ) (op : Op κ) : w.Reports op where
  told sets answer accepted := by
    refine reports_of_sets sets ?_
    cases gone : w.destroyed with
    | false => rfl
    | true =>
        have refusable : op.refusable = true := by cases op <;> first | rfl | cases sets
        rw [step_of_destroyed gone refusable] at accepted
        cases accepted
  silent := by
    rintro (other | ⟨refusal, refused⟩)
    · exact ⟨reports_of_not_sets other, attributes_of_not_sets other⟩
    · have rejected : declined (w.step op).answer = true := by
        rw [refused]
        rfl
      rw [(step_of_declined rejected).calls, (step_of_declined rejected).state]
      exact ⟨rfl, rfl⟩

end Window

/-! ## One operation of a hierarchy -/

namespace Hierarchy

variable {t : Hierarchy κ}

/-- What is reported is what the one window reports whose own operation it is, and what other
windows have for attributes stays. -/
structure Reports (t : Hierarchy κ) (op : Op κ) : Prop where
  own : ∀ {id own w}, op = .window id own → t.get? id = some w →
    reports (t.step op).calls = reports (w.step own).calls ∧
      (t.step op).state.get? id = some (w.step own).state
  silent : (∀ id own, op = .window id own → t.get? id = none) → reports (t.step op).calls = []
  kept : ∀ {id w x}, t.get? id = some w → (t.step op).state.get? id = some x →
    (∀ own, op ≠ .window id own) → x.attributes = w.attributes

theorem reports_of_unowned {op : Op κ}
    (unowned : ∀ id own, op = .window id own → t.get? id = none) :
    reports (t.step op).calls = [] := by
  cases op with
  | insert | remove => rfl
  | setContainer child container =>
      simp only [step, Step.map, setContainer]
      split <;> rfl
  | makeActive id =>
      simp only [step, Step.map, makeActive]
      split
      · rfl
      · split <;> rfl
  | destroy id =>
      simp only [step, Step.map, destroy]
      cases named : t.get? id with
      | none =>
          rw [update?_of_none named]
          rfl
      | some w =>
          rw [update?_of_get? named]
          have silent : reports (w.step .destroy).calls = [] := Window.reports_of_not_sets rfl
          exact silent
  | complete owner attributes attached =>
      simp only [step, Step.map, complete]
      split <;> rfl
  | addWindow owner attributes attached =>
      simp only [step, Step.map, addWindow]
      split
      · rfl
      · split
        · rfl
        · split <;> rfl
  | window id own =>
      simp only [step, update?_of_none (unowned id own rfl)]
      rfl

theorem reports_step (tidy : t.Tidy) (op : Op κ) : t.Reports op where
  own {id own w} same named := by
    subst same
    constructor
    · simp [step, update?_of_get? named, Step.map]
    · rw [window_state]
      exact get?_modify_self named _
  silent := reports_of_unowned
  kept {id w x} named after other := by
    by_cases stays : op = .remove id
    · subst stays
      cases (get?_remove_self id).symm.trans after
    · obtain ⟨y, there, passes⟩ := passes_step tidy named stays
      cases there.symm.trans after
      cases deed : op.own? id with
      | none =>
          rw [deed] at passes
          have attributes := congrArg Window.attributes passes.core
          exact attributes
      | some own =>
          rw [deed] at passes
          rcases Op.own?_eq_some deed with rfl | ⟨-, rfl⟩
          · exact absurd rfl (other own)
          · rw [passes.state]
            exact Window.attributes_of_not_sets rfl

end Hierarchy

/-! ## Events -/

namespace Dispatcher

variable {σ α : Type} {d : Dispatcher κ}

/-- The dispatches, but for the one of changed attributes. -/
inductive Forwards (d : Dispatcher κ) : {α : Type} → ((κ → Callback σ) → StateM σ α) → Prop
  | key (event : KeyEvent) (base : Fallback σ) : Forwards d (d.key · event base)
  | keyShortcut (event : KeyEvent) (base : Fallback σ) : Forwards d (d.keyShortcut · event base)
  | touch (event : MotionEvent) (base : Fallback σ) : Forwards d (d.touch · event base)
  | trackball (event : MotionEvent) (base : Fallback σ) : Forwards d (d.trackball · event base)
  | genericMotion (event : MotionEvent) (base : Fallback σ) :
      Forwards d (d.genericMotion · event base)
  | populate (event : AccessibilityEvent) (base : Fallback σ) :
      Forwards d (d.populate · event base)
  | createPanelView (panel : Feature) : Forwards d (d.createPanelView · panel)
  | createPanelMenu (panel : Feature) (menu : Menu) : Forwards d (d.createPanelMenu · panel menu)
  | preparePanel (panel : Feature) (view : Option ViewHandle) (menu : Menu) :
      Forwards d (d.preparePanel · panel view menu)
  | menuOpened (panel : Feature) (menu : Menu) : Forwards d (d.menuOpened · panel menu)
  | menuItemSelected (panel : Feature) (item : MenuItem) :
      Forwards d (d.menuItemSelected · panel item)
  | panelClosed (panel : Feature) (menu : Menu) : Forwards d (d.panelClosed · panel menu)
  | startingActionMode (kind : ActionModeKind) : Forwards d (d.startingActionMode · kind)
  | actionModeStarted (mode : ActionMode) : Forwards d (d.actionModeStarted · mode)
  | actionModeFinished (mode : ActionMode) : Forwards d (d.actionModeFinished · mode)
  | contentChanged : Forwards d (d.contentChanged ·)
  | focusChanged (focused : Bool) : Forwards d (d.focusChanged · focused)
  | attached : Forwards d (d.attached ·)
  | detached : Forwards d (d.detached ·)
  | searchRequested (event : Option SearchEvent) : Forwards d (d.searchRequested · event)
  | provideShortcuts (groups : List ShortcutGroup) (menu : Option Menu) (device : Int32) :
      Forwards d (d.provideShortcuts · groups menu device)
  | pointerCaptureChanged (captured : Bool) : Forwards d (d.pointerCaptureChanged · captured)

/-- They do the same however callbacks react to changed attributes: no such reaction is run. -/
theorem Forwards.unaware {dispatch : (κ → Callback σ) → StateM σ α} (forwards : d.Forwards dispatch)
    (reactions : κ → Callback σ) (react : κ → Attributes → StateM σ Unit) :
    dispatch (fun k => { reactions k with attributesChanged := react k }) = dispatch reactions := by
  cases forwards <;> rfl

end Dispatcher

/-! ## The copy -/

/-- What a callback has that starts from a copy and stores what is reported to it. -/
def mirrored [DecidableEq κ] (k : κ) (copy : Attributes) (calls : List (Call κ)) : Attributes :=
  (reports calls).foldl (fun copy report => if report.1 = k then report.2 else copy) copy

/-- The deed does not take the callback's registration away. -/
def Deed.Keeps (k : κ) (deed : Deed κ) : Prop :=
  ∀ callback, deed.op = .callback callback → callback = some k

section

variable {k : κ} {w : Window κ}

theorem registered_step (registered : w.dispatcher.callback = some k) {op : Window.Op κ}
    (keeps : (w.deed op).Keeps k) : (w.step op).state.dispatcher.callback = some k := by
  rw [Window.step_state]
  split
  · exact registered
  · cases op with
    | callback callback => exact keeps callback rfl
    | _ => exact registered

variable [DecidableEq κ]

theorem mirrored_append (copy : Attributes) (calls calls' : List (Call κ)) :
    mirrored k copy (calls ++ calls') = mirrored k (mirrored k copy calls) calls' := by
  rw [mirrored, reports_append, List.foldl_append]
  rfl

/-- The copy of the callback that is registered follows every operation. -/
theorem mirrored_step (registered : w.dispatcher.callback = some k) (op : Window.Op κ) :
    mirrored k w.attributes (w.step op).calls = (w.step op).state.attributes := by
  have reported := w.reports_step op
  cases sets : op.sets with
  | false =>
      obtain ⟨silent, kept⟩ := reported.silent (Or.inl sets)
      rw [mirrored, silent, kept]
      rfl
  | true =>
      cases answered : (w.step op).answer with
      | error refusal =>
          obtain ⟨silent, kept⟩ := reported.silent (Or.inr ⟨refusal, answered⟩)
          rw [mirrored, silent, kept]
          rfl
      | ok answer =>
          rw [mirrored, reported.told sets answer answered, registered]
          exact if_pos rfl

/-- Unless one of the deeds took its registration away, the callback is registered and has what
the window has. -/
def Follows (k : κ) (copy : Attributes) (deeds : List (Deed κ)) (w : Window κ) : Prop :=
  (∀ deed ∈ deeds, deed.Keeps k) →
    w.dispatcher.callback = some k ∧ mirrored k copy (deeds.flatMap (·.calls)) = w.attributes

namespace Follows

variable {copy : Attributes} {deeds : List (Deed κ)}

theorem own (follows : Follows k copy deeds w) (op : Window.Op κ) :
    Follows k copy (deeds ++ [w.deed op]) (w.step op).state := by
  intro keeps
  obtain ⟨registered, copied⟩ := follows fun deed earlier => keeps deed (by simp [earlier])
  refine ⟨registered_step registered (keeps _ (by simp)), ?_⟩
  rw [List.flatMap_append, mirrored_append, copied, List.flatMap_singleton]
  exact mirrored_step registered op

theorem apart (follows : Follows k copy deeds w) {x : Window κ} (same : x.core = w.core) :
    Follows k copy deeds x := by
  intro keeps
  obtain ⟨registered, copied⟩ := follows keeps
  have callback := congrArg (fun w => w.dispatcher.callback) same
  have attributes := congrArg Window.attributes same
  exact ⟨callback.trans registered, copied.trans attributes.symm⟩

/-- The copy follows a whole life. -/
theorem of_lives {p q : Place κ} (occupied : p.Occupied w)
    (registered : w.dispatcher.callback = some k) (lives : p.Lives deeds q) :
    ∃ x, q.Occupied x ∧ Follows k w.attributes deeds x :=
  lives.tells (fun _ => ⟨registered, rfl⟩) (fun op follows => follows.own op)
    (fun same follows => follows.apart same) occupied

end Follows

end

/-- Every operation of a window and of a hierarchy reports what it sets of the attributes and
nothing else, and no event that is forwarded does. A callback that is registered somewhere, and
has a copy of the attributes then, has them wherever the window gets while it stays registered,
by storing what is reported to it. -/
theorem callback_mirrors_attributes [DecidableEq κ] :
    (∀ (w : Window κ) (op : Window.Op κ), w.Reports op) ∧
    (∀ t : Hierarchy κ, Reachable (.hierarchy t) → ∀ op, t.Reports op) ∧
    (∀ (σ α : Type) (d : Dispatcher κ) (dispatch : (κ → Callback σ) → StateM σ α),
      d.Forwards dispatch → ∀ reactions (react : κ → Attributes → StateM σ Unit),
        dispatch (fun k => { reactions k with attributesChanged := react k }) =
          dispatch reactions) ∧
    ∀ (p q : Place κ) (w : Window κ) (k : κ) (deeds : List (Deed κ)), p.Reached →
      p.window? = some w → w.dispatcher.callback = some k → p.Lives deeds q →
      (∀ deed ∈ deeds, deed.Keeps k) →
        ∃ x, q.window? = some x ∧ x.dispatcher.callback = some k ∧
          mirrored k w.attributes (deeds.flatMap (·.calls)) = x.attributes := by
  refine ⟨Window.reports_step, fun t reached op => Hierarchy.reports_step reached.tidy op,
    fun σ α d dispatch forwards => forwards.unaware, ?_⟩
  intro p q w k deeds reached here registered lives keeps
  obtain ⟨x, there, follows⟩ := Follows.of_lives (reached.occupied here) registered lives
  exact ⟨x, there.window?, follows keeps⟩

/-- Two windows, the second with a callback. -/
def observed : List (Hierarchy.Op Nat) :=
  [.insert (.create 0 ∅), .insert (.create 0 ∅), .window ⟨1, 1⟩ (.callback (some 5))]

/-- The second window is given a title, put into the first one, and taken out. -/
theorem callback_mirrors_attributes_observed :
    let t := Hierarchy.empty.run observed
    let titled := (t.step (.window ⟨1, 1⟩ (.edit (.title "notes")))).state
    let housed := (titled.step (.setContainer ⟨1, 1⟩ (some ⟨0, 1⟩))).state
    ∃ w last deeds, t.get? ⟨1, 1⟩ = some w ∧ (housed.remove ⟨1, 1⟩).1 = some last ∧
      (Place.within t ⟨1, 1⟩).Lives deeds (.alone last) ∧
      mirrored 5 w.attributes (deeds.flatMap (·.calls)) = last.attributes ∧
      last.attributes.title = "notes" := by
  intro t titled housed
  have reached : (Place.within t ⟨1, 1⟩).Reached :=
    ⟨.history (show _ ∧ _ from ⟨.created 0 ∅, .created 0 ∅⟩), rfl⟩
  obtain ⟨w, named⟩ : ∃ w, t.get? ⟨1, 1⟩ = some w := ⟨_, rfl⟩
  obtain ⟨x, named'⟩ : ∃ x, titled.get? ⟨1, 1⟩ = some x := ⟨_, rfl⟩
  obtain ⟨last, gone⟩ : ∃ last, (housed.remove ⟨1, 1⟩).1 = some last := ⟨_, rfl⟩
  have lives : (Place.within t ⟨1, 1⟩).Lives [w.deed (.edit (.title "notes"))] (.alone last) :=
    .tail (.tail (.tail .refl (.acts named (by simp))) (.acts named' (by simp))) (.leaves gone)
  obtain ⟨-, -, -, mirrors⟩ := callback_mirrors_attributes (κ := Nat)
  have registered : w.dispatcher.callback = some 5 := by
    cases named
    rfl
  have keeps : ∀ deed ∈ [w.deed (.edit (.title "notes"))], deed.Keeps 5 := by
    intro deed done callback impossible
    rw [List.mem_singleton.mp done] at impossible
    cases impossible
  obtain ⟨y, here, -, copied⟩ := mirrors _ _ w 5 _ reached named registered lives keeps
  cases here
  refine ⟨w, last, _, named, gone, lives, copied, ?_⟩
  cases gone
  rfl

end WindowPolicy
