/-
# WindowPolicy.Callback — intercepting the events of a window

A callback is whatever the owner of a window registers to see its events. It is given by
its reactions, each of them an action on a state `σ` that the library knows nothing of.
A reaction that is left out does nothing and answers as if the event had not been handled.

Input reactions are handed the default handling of the windowing system, a `Fallback`,
and may call on it. Nothing else does: an event that a callback turns down is not passed
on behind its back.
-/
import WindowPolicy.Attributes.Basic
import WindowPolicy.Feature.Basic
import WindowPolicy.Menu

namespace WindowPolicy

set_option autoImplicit false

/-- The default handling of input, as actions on a state. -/
structure Fallback (σ : Type) where
  key : KeyEvent → StateM σ Bool
  keyShortcut : KeyEvent → StateM σ Bool
  touch : MotionEvent → StateM σ Bool
  trackball : MotionEvent → StateM σ Bool
  genericMotion : MotionEvent → StateM σ Bool
  /-- May add to the text of the event. -/
  populate : AccessibilityEvent → StateM σ (Bool × AccessibilityEvent) :=
    fun event => pure (false, event)

/-- No default handling: every event is left alone. -/
def Fallback.none {σ : Type} : Fallback σ where
  key _ := pure false
  keyShortcut _ := pure false
  touch _ := pure false
  trackball _ := pure false
  genericMotion _ := pure false

/-- The reactions of a callback, as actions on a state. -/
structure Callback (σ : Type) where
  /-- Input reactions answer whether the event was consumed. -/
  key : KeyEvent → Fallback σ → StateM σ Bool := fun _ _ => pure false
  keyShortcut : KeyEvent → Fallback σ → StateM σ Bool := fun _ _ => pure false
  touch : MotionEvent → Fallback σ → StateM σ Bool := fun _ _ => pure false
  trackball : MotionEvent → Fallback σ → StateM σ Bool := fun _ _ => pure false
  genericMotion : MotionEvent → Fallback σ → StateM σ Bool := fun _ _ => pure false
  /-- May add to the text of the event. -/
  populate : AccessibilityEvent → Fallback σ → StateM σ (Bool × AccessibilityEvent) :=
    fun event _ => pure (false, event)
  /-- A view that takes the place of a panel's own. -/
  createPanelView : Feature → StateM σ (Option ViewHandle) := fun _ => pure none
  /-- Fills the menu of a panel; the answer says whether the panel is shown. -/
  createPanelMenu : Feature → Menu → StateM σ (Bool × Menu) := fun _ menu => pure (false, menu)
  /-- Brings the menu of a panel up to date before it is shown. -/
  preparePanel : Feature → Option ViewHandle → Menu → StateM σ (Bool × Menu) :=
    fun _ _ menu => pure (true, menu)
  menuOpened : Feature → Menu → StateM σ Bool := fun _ _ => pure true
  menuItemSelected : Feature → MenuItem → StateM σ Bool := fun _ _ => pure false
  panelClosed : Feature → Menu → StateM σ Unit := fun _ _ => pure ()
  /-- An action mode that takes the place of the default one. -/
  startingActionMode : ActionModeKind → StateM σ (Option ActionMode) := fun _ => pure none
  actionModeStarted : ActionMode → StateM σ Unit := fun _ => pure ()
  actionModeFinished : ActionMode → StateM σ Unit := fun _ => pure ()
  attributesChanged : Attributes → StateM σ Unit := fun _ => pure ()
  contentChanged : StateM σ Unit := pure ()
  focusChanged : Bool → StateM σ Unit := fun _ => pure ()
  attached : StateM σ Unit := pure ()
  detached : StateM σ Unit := pure ()
  searchRequested : Option SearchEvent → StateM σ Bool := fun _ => pure false
  /-- Adds groups of shortcuts to those given. -/
  provideShortcuts : List ShortcutGroup → Option Menu → Int32 → StateM σ (List ShortcutGroup) :=
    fun groups _ _ => pure groups
  pointerCaptureChanged : Bool → StateM σ Unit := fun _ => pure ()

end WindowPolicy
