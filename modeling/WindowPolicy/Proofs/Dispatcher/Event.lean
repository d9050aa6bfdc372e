/-
# WindowPolicy.Proofs.Dispatcher.Event — the dispatches as one

A dispatcher has one dispatch for each reaction of a callback, and they differ in what they
are given and in what comes back. An `Event` says which of them is made, with its arguments:
an `Input`, which comes with a default handling, or a `Notice`, which has none. Answered is
an `Event.Reply`: the answer, beside the argument that handling may change, as it was left.

Three tables read the fields of the model by events. Nothing but the names of the fields
stands in them, each event beside the method of its own name:

* `Fallback.handle`, what the default handling does with an input;
* `Callback.react`, what a callback does on an event;
* `Dispatcher.dispatch`, what a dispatcher does with it.

`Dispatcher.dispatch_of_registered` and `Dispatcher.dispatch_of_vacant` say once for all
events what a dispatch is, and `Callback.input_default` and
`Callback.notice_default` what a reaction is that was left out.
-/
import WindowPolicy.Dispatcher

namespace WindowPolicy

set_option autoImplicit false

variable {σ κ : Type}

/-! ## Input -/

/-- An input event, by the method that handles it. -/
inductive Input where
  | key (event : KeyEvent)
  | keyShortcut (event : KeyEvent)
  | touch (event : MotionEvent)
  | trackball (event : MotionEvent)
  | genericMotion (event : MotionEvent)
  | populate (event : AccessibilityEvent)

namespace Input

/-- The argument that handling may change. -/
def Argument : Input → Type
  | populate _ => AccessibilityEvent
  | _ => Unit

/-- That argument as it is given. -/
def argument : (input : Input) → input.Argument
  | populate event => event
  | key _ | keyShortcut _ | touch _ | trackball _ | genericMotion _ => ()

/-- Whether the input was consumed, and the argument as handling left it. -/
abbrev Reply (input : Input) : Type := Bool × input.Argument

end Input

/-- What a default handling does with each input. -/
abbrev Handling (σ : Type) : Type := (input : Input) → StateM σ input.Reply

/-- A default handling, told by inputs. -/
def Fallback.handle (base : Fallback σ) : Handling σ
  | .key event => (·, ()) <$> base.key event
  | .keyShortcut event => (·, ()) <$> base.keyShortcut event
  | .touch event => (·, ()) <$> base.touch event
  | .trackball event => (·, ()) <$> base.trackball event
  | .genericMotion event => (·, ()) <$> base.genericMotion event
  | .populate event => base.populate event

/-- The default handling that is told by inputs so. -/
def Fallback.of (handling : Handling σ) : Fallback σ where
  key event := Prod.fst <$> handling (.key event)
  keyShortcut event := Prod.fst <$> handling (.keyShortcut event)
  touch event := Prod.fst <$> handling (.touch event)
  trackball event := Prod.fst <$> handling (.trackball event)
  genericMotion event := Prod.fst <$> handling (.genericMotion event)
  populate event := handling (.populate event)

@[simp] theorem Fallback.handle_of (handling : Handling σ) :
    (Fallback.of handling).handle = handling := by
  funext input
  cases input <;> rfl

/-! ## Notices -/

/-- An event without default handling, by the method that handles it. -/
inductive Notice where
  | createPanelView (panel : Feature)
  | createPanelMenu (panel : Feature) (menu : Menu)
  | preparePanel (panel : Feature) (view : Option ViewHandle) (menu : Menu)
  | menuOpened (panel : Feature) (menu : Menu)
  | menuItemSelected (panel : Feature) (item : MenuItem)
  | panelClosed (panel : Feature) (menu : Menu)
  | startingActionMode (kind : ActionModeKind)
  | actionModeStarted (mode : ActionMode)
  | actionModeFinished (mode : ActionMode)
  | attributesChanged (attributes : Attributes)
  | contentChanged
  | focusChanged (focused : Bool)
  | attached
  | detached
  | searchRequested (event : Option SearchEvent)
  | provideShortcuts (groups : List ShortcutGroup) (menu : Option Menu) (device : Int32)
  | pointerCaptureChanged (captured : Bool)

namespace Notice

/-- What is answered. -/
def Answer : Notice → Type
  | createPanelView _ => Option ViewHandle
  | startingActionMode _ => Option ActionMode
  | createPanelMenu _ _ | preparePanel _ _ _ | menuOpened _ _ | menuItemSelected _ _
  | searchRequested _ => Bool
  | _ => Unit

/-- The argument that handling may change. -/
def Argument : Notice → Type
  | createPanelMenu _ _ | preparePanel _ _ _ => Menu
  | provideShortcuts _ _ _ => List ShortcutGroup
  | _ => Unit

/-- That argument as it is given. -/
def argument : (notice : Notice) → notice.Argument
  | createPanelMenu _ menu | preparePanel _ _ menu => menu
  | provideShortcuts groups _ _ => groups
  | createPanelView _ | menuOpened _ _ | menuItemSelected _ _ | panelClosed _ _
  | startingActionMode _ | actionModeStarted _ | actionModeFinished _ | attributesChanged _
  | contentChanged | focusChanged _ | attached | detached | searchRequested _
  | pointerCaptureChanged _ => ()

/-- What a callback answers that has no reaction of its own. -/
def standard : (notice : Notice) → notice.Answer
  | createPanelView _ | startingActionMode _ => none
  | createPanelMenu _ _ | menuItemSelected _ _ | searchRequested _ => false
  | preparePanel _ _ _ | menuOpened _ _ => true
  | panelClosed _ _ | actionModeStarted _ | actionModeFinished _ | attributesChanged _
  | contentChanged | focusChanged _ | attached | detached | provideShortcuts _ _ _
  | pointerCaptureChanged _ => ()

/-- The answer, and the argument as handling left it. -/
abbrev Reply (notice : Notice) : Type := notice.Answer × notice.Argument

end Notice

/-! ## Events -/

/-- An event that can be dispatched, with its arguments. -/
inductive Event where
  | input (input : Input)
  | notice (notice : Notice)

namespace Event

/-- What is answered. -/
def Answer : Event → Type
  | .input _ => Bool
  | .notice n => n.Answer

/-- The argument that handling may change. -/
def Argument : Event → Type
  | .input i => i.Argument
  | .notice n => n.Argument

/-- That argument as it is given. -/
def argument : (event : Event) → event.Argument
  | .input i => i.argument
  | .notice n => n.argument

/-- The answer, and the argument as handling left it. -/
abbrev Reply (event : Event) : Type := event.Answer × event.Argument

end Event

/-- The reaction of a callback to a notice. -/
def Callback.notice (callback : Callback σ) : (notice : Notice) → StateM σ notice.Reply
  | .createPanelView panel => (·, ()) <$> callback.createPanelView panel
  | .createPanelMenu panel menu => callback.createPanelMenu panel menu
  | .preparePanel panel view menu => callback.preparePanel panel view menu
  | .menuOpened panel menu => (·, ()) <$> callback.menuOpened panel menu
  | .menuItemSelected panel item => (·, ()) <$> callback.menuItemSelected panel item
  | .panelClosed panel menu => (·, ()) <$> callback.panelClosed panel menu
  | .startingActionMode kind => (·, ()) <$> callback.startingActionMode kind
  | .actionModeStarted mode => (·, ()) <$> callback.actionModeStarted mode
  | .actionModeFinished mode => (·, ()) <$> callback.actionModeFinished mode
  | .attributesChanged attributes => (·, ()) <$> callback.attributesChanged attributes
  | .contentChanged => (·, ()) <$> callback.contentChanged
  | .focusChanged focused => (·, ()) <$> callback.focusChanged focused
  | .attached => (·, ()) <$> callback.attached
  | .detached => (·, ()) <$> callback.detached
  | .searchRequested event => (·, ()) <$> callback.searchRequested event
  | .provideShortcuts groups menu device =>
      ((), ·) <$> callback.provideShortcuts groups menu device
  | .pointerCaptureChanged captured => (·, ()) <$> callback.pointerCaptureChanged captured

/-- The reaction of a callback to an input, given the default handling. -/
def Callback.input (callback : Callback σ) (base : Fallback σ) :
    (input : Input) → StateM σ input.Reply
  | .key event => (·, ()) <$> callback.key event base
  | .keyShortcut event => (·, ()) <$> callback.keyShortcut event base
  | .touch event => (·, ()) <$> callback.touch event base
  | .trackball event => (·, ()) <$> callback.trackball event base
  | .genericMotion event => (·, ()) <$> callback.genericMotion event base
  | .populate event => callback.populate event base

/-- The reaction of a callback to an event. -/
def Callback.react (callback : Callback σ) (base : Fallback σ) :
    (event : Event) → StateM σ event.Reply
  | .input i => callback.input base i
  | .notice n => callback.notice n

/-- The callback whose reactions are told by events so. -/
def Callback.of (input : (input : Input) → Fallback σ → StateM σ input.Reply)
    (notice : (notice : Notice) → StateM σ notice.Reply) : Callback σ where
  key event base := Prod.fst <$> input (.key event) base
  keyShortcut event base := Prod.fst <$> input (.keyShortcut event) base
  touch event base := Prod.fst <$> input (.touch event) base
  trackball event base := Prod.fst <$> input (.trackball event) base
  genericMotion event base := Prod.fst <$> input (.genericMotion event) base
  populate event base := input (.populate event) base
  createPanelView panel := Prod.fst <$> notice (.createPanelView panel)
  createPanelMenu panel menu := notice (.createPanelMenu panel menu)
  preparePanel panel view menu := notice (.preparePanel panel view menu)
  menuOpened panel menu := Prod.fst <$> notice (.menuOpened panel menu)
  menuItemSelected panel item := Prod.fst <$> notice (.menuItemSelected panel item)
  panelClosed panel menu := Prod.fst <$> notice (.panelClosed panel menu)
  startingActionMode kind := Prod.fst <$> notice (.startingActionMode kind)
  actionModeStarted mode := Prod.fst <$> notice (.actionModeStarted mode)
  actionModeFinished mode := Prod.fst <$> notice (.actionModeFinished mode)
  attributesChanged attributes := Prod.fst <$> notice (.attributesChanged attributes)
  contentChanged := Prod.fst <$> notice .contentChanged
  focusChanged focused := Prod.fst <$> notice (.focusChanged focused)
  attached := Prod.fst <$> notice .attached
  detached := Prod.fst <$> notice .detached
  searchRequested event := Prod.fst <$> notice (.searchRequested event)
  provideShortcuts groups menu device := Prod.snd <$> notice (.provideShortcuts groups menu device)
  pointerCaptureChanged captured := Prod.fst <$> notice (.pointerCaptureChanged captured)

section

variable (input : (input : Input) → Fallback σ → StateM σ input.Reply)
  (notice : (notice : Notice) → StateM σ notice.Reply)

@[simp] theorem Callback.input_of (base : Fallback σ) (i : Input) :
    (Callback.of input notice).input base i = input i base := by
  cases i <;> rfl

@[simp] theorem Callback.notice_of (n : Notice) :
    (Callback.of input notice).notice n = notice n := by
  cases n <;> rfl

end

/-- A reaction that was left out does nothing: it answers the standard answer, and leaves the
default handling alone. -/
theorem Callback.input_default (base : Fallback σ) (i : Input) :
    ({} : Callback σ).input base i = pure (false, i.argument) := by
  cases i <;> rfl

theorem Callback.notice_default (n : Notice) :
    ({} : Callback σ).notice n = pure (n.standard, n.argument) := by
  cases n <;> rfl

/-! ## Dispatches -/

namespace Dispatcher

/-- The dispatch of an event: the answer, if there is one, and the argument that a callback
may have changed. -/
def dispatch (d : Dispatcher κ) (reactions : κ → Callback σ) (base : Fallback σ) :
    (event : Event) → StateM σ (Option event.Answer × event.Argument)
  | .input (.key event) => (·, ()) <$> d.key reactions event base
  | .input (.keyShortcut event) => (·, ()) <$> d.keyShortcut reactions event base
  | .input (.touch event) => (·, ()) <$> d.touch reactions event base
  | .input (.trackball event) => (·, ()) <$> d.trackball reactions event base
  | .input (.genericMotion event) => (·, ()) <$> d.genericMotion reactions event base
  | .input (.populate event) => d.populate reactions event base
  | .notice (.createPanelView panel) => (·, ()) <$> d.createPanelView reactions panel
  | .notice (.createPanelMenu panel menu) => d.createPanelMenu reactions panel menu
  | .notice (.preparePanel panel view menu) => d.preparePanel reactions panel view menu
  | .notice (.menuOpened panel menu) => (·, ()) <$> d.menuOpened reactions panel menu
  | .notice (.menuItemSelected panel item) => (·, ()) <$> d.menuItemSelected reactions panel item
  | .notice (.panelClosed panel menu) => (·, ()) <$> d.panelClosed reactions panel menu
  | .notice (.startingActionMode kind) => (·, ()) <$> d.startingActionMode reactions kind
  | .notice (.actionModeStarted mode) => (·, ()) <$> d.actionModeStarted reactions mode
  | .notice (.actionModeFinished mode) => (·, ()) <$> d.actionModeFinished reactions mode
  | .notice (.attributesChanged attributes) => (·, ()) <$> d.attributesChanged reactions attributes
  | .notice .contentChanged => (·, ()) <$> d.contentChanged reactions
  | .notice (.focusChanged focused) => (·, ()) <$> d.focusChanged reactions focused
  | .notice .attached => (·, ()) <$> d.attached reactions
  | .notice .detached => (·, ()) <$> d.detached reactions
  | .notice (.searchRequested event) => (·, ()) <$> d.searchRequested reactions event
  | .notice (.provideShortcuts groups menu device) =>
      d.provideShortcuts reactions groups menu device
  | .notice (.pointerCaptureChanged captured) =>
      (·, ()) <$> d.pointerCaptureChanged reactions captured

/-- A dispatch is the reaction of the registered callback to the same event. -/
theorem dispatch_of_registered {d : Dispatcher κ} {k : κ} (registered : d.callback = some k)
    (reactions : κ → Callback σ) (base : Fallback σ) (event : Event) :
    d.dispatch reactions base event =
      (fun reply => (some reply.1, reply.2)) <$> (reactions k).react base event := by
  obtain ⟨_⟩ := d
  cases registered
  rcases event with i | n
  · cases i <;> rfl
  · cases n <;> rfl

/-- Without a callback a dispatch does nothing. -/
theorem dispatch_of_vacant {d : Dispatcher κ} (vacant : d.callback = none)
    (reactions : κ → Callback σ) (base : Fallback σ) (event : Event) :
    d.dispatch reactions base event = pure (none, event.argument) := by
  obtain ⟨_⟩ := d
  cases vacant
  rcases event with i | n
  · cases i <;> rfl
  · cases n <;> rfl

end Dispatcher

end WindowPolicy
