/-
# WindowPolicy.Dispatcher — forwarding events to the registered callback

A dispatcher holds the name `κ` of at most one callback. Every event is forwarded to it
once, with its arguments as they are, and its answer is the answer of the dispatch. While
none is registered there is no answer, nobody is called, and the arguments that a callback
might have changed stay as they were.

* `Dispatcher.forward`: the one rule behind every dispatch;
* the dispatches, one for each reaction of a `Callback`.
-/
import WindowPolicy.Callback

namespace WindowPolicy

set_option autoImplicit false

/-- The slot for a callback. -/
structure Dispatcher (κ : Type) where
  callback : Option κ := none
deriving DecidableEq

namespace Dispatcher

variable {κ σ α β : Type}

/-- Another callback, or none, takes the slot; the one before comes back. -/
def set (d : Dispatcher κ) (callback : Option κ) : Option κ × Dispatcher κ :=
  (d.callback, ⟨callback⟩)

def isSet (d : Dispatcher κ) : Bool := d.callback.isSome

/-- Forwards to one reaction of the registered callback. -/
def forward (d : Dispatcher κ) (reactions : κ → Callback σ)
    (reaction : Callback σ → StateM σ α) : StateM σ (Option α) :=
  match d.callback with
  | none => pure none
  | some callback => some <$> reaction (reactions callback)

/-- Forwards to a reaction that may change an argument. -/
def forwardOn (d : Dispatcher κ) (reactions : κ → Callback σ) (argument : β)
    (reaction : Callback σ → StateM σ (α × β)) : StateM σ (Option α × β) := do
  match ← d.forward reactions reaction with
  | none => pure (none, argument)
  | some (answer, changed) => pure (some answer, changed)

variable (d : Dispatcher κ) (reactions : κ → Callback σ)

/-! ## Input -/

def key (event : KeyEvent) (base : Fallback σ) : StateM σ (Option Bool) :=
  d.forward reactions (·.key event base)

def keyShortcut (event : KeyEvent) (base : Fallback σ) : StateM σ (Option Bool) :=
  d.forward reactions (·.keyShortcut event base)

def touch (event : MotionEvent) (base : Fallback σ) : StateM σ (Option Bool) :=
  d.forward reactions (·.touch event base)

def trackball (event : MotionEvent) (base : Fallback σ) : StateM σ (Option Bool) :=
  d.forward reactions (·.trackball event base)

def genericMotion (event : MotionEvent) (base : Fallback σ) : StateM σ (Option Bool) :=
  d.forward reactions (·.genericMotion event base)

def populate (event : AccessibilityEvent) (base : Fallback σ) :
    StateM σ (Option Bool × AccessibilityEvent) :=
  d.forwardOn reactions event (·.populate event base)

/-! ## Panels -/

def createPanelView (panel : Feature) : StateM σ (Option (Option ViewHandle)) :=
  d.forward reactions (·.createPanelView panel)

def createPanelMenu (panel : Feature) (menu : Menu) : StateM σ (Option Bool × Menu) :=
  d.forwardOn reactions menu (·.createPanelMenu panel menu)

def preparePanel (panel : Feature) (view : Option ViewHandle) (menu : Menu) :
    StateM σ (Option Bool × Menu) :=
  d.forwardOn reactions menu (·.preparePanel panel view menu)

def menuOpened (panel : Feature) (menu : Menu) : StateM σ (Option Bool) :=
  d.forward reactions (·.menuOpened panel menu)

def menuItemSelected (panel : Feature) (item : MenuItem) : StateM σ (Option Bool) :=
  d.forward reactions (·.menuItemSelected panel item)

def panelClosed (panel : Feature) (menu : Menu) : StateM σ (Option Unit) :=
  d.forward reactions (·.panelClosed panel menu)

/-! ## Action modes -/

def startingActionMode (kind : ActionModeKind) : StateM σ (Option (Option ActionMode)) :=
  d.forward reactions (·.startingActionMode kind)

def actionModeStarted (mode : ActionMode) : StateM σ (Option Unit) :=
  d.forward reactions (·.actionModeStarted mode)

def actionModeFinished (mode : ActionMode) : StateM σ (Option Unit) :=
  d.forward reactions (·.actionModeFinished mode)

/-! ## Window state -/

def attributesChanged (attributes : Attributes) : StateM σ (Option Unit) :=
  d.forward reactions (·.attributesChanged attributes)

def contentChanged : StateM σ (Option Unit) := d.forward reactions (·.contentChanged)

def focusChanged (focused : Bool) : StateM σ (Option Unit) :=
  d.forward reactions (·.focusChanged focused)

def attached : StateM σ (Option Unit) := d.forward reactions (·.attached)

def detached : StateM σ (Option Unit) := d.forward reactions (·.detached)

def searchRequested (event : Option SearchEvent) : StateM σ (Option Bool) :=
  d.forward reactions (·.searchRequested event)

def provideShortcuts (groups : List ShortcutGroup) (menu : Option Menu) (device : Int32) :
    StateM σ (Option Unit × List ShortcutGroup) :=
  d.forwardOn reactions groups fun callback => do
    pure ((), ← callback.provideShortcuts groups menu device)

def pointerCaptureChanged (captured : Bool) : StateM σ (Option Unit) :=
  d.forward reactions (·.pointerCaptureChanged captured)

end Dispatcher

end WindowPolicy
