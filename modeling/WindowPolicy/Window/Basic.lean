/-
# WindowPolicy.Window.Basic — one window

A window gathers its features, its attributes, its place in a hierarchy, and the names of
those it works with: its context, window manager, decor, callback and listeners.

A change first asks whether the window was destroyed, and is refused if so, with a note
and without any other trace (`whenAlive`). Reading, forwarding events and setting
listeners go on after destruction.

Answers of collaborators are arguments here. Where an operation might ask its context,
it takes what the context would answer now, and the calls that it records tell whether it
was asked. The token of the decor surface is such an answer, too: a surface has none before
it is attached.

* `Window.edit`, `applyTheme`: the attribute changes, each of which the callback learns of;
* `Window.resolveTheme`: the theme, which the context is asked for once;
* `Window.destroy`: the end of all changes.
-/
import WindowPolicy.Attributes.Completion
import WindowPolicy.Attributes.Layers
import WindowPolicy.Dispatcher
import WindowPolicy.Feature.Negotiation
import WindowPolicy.Step

namespace WindowPolicy

set_option autoImplicit false

/-- A window, with `κ` the names of its collaborators. -/
structure Window (κ : Type) where
  context : κ
  /-- The theme, once it was resolved. -/
  theme : Option Theme := none
  features : Negotiation
  layers : Layers := {}
  /-- The containing window; none at top level. -/
  container : Option WindowId := none
  activeChild : Option WindowId := none
  /-- The window is the active one of its container, or active at top level. -/
  isActive : Bool := false
  /-- Some window was put into this one. -/
  hasChildren : Bool := false
  appToken : Option Token := none
  appName : String := ""
  hardwareAccelerated : Bool := false
  manager : Option κ := none
  decor : Option κ := none
  dispatcher : Dispatcher κ := {}
  dismissListener : Option κ := none
  swipeListener : Option κ := none
  controller : Option κ := none
  decorListener : Option κ := none
  captionListener : Option κ := none
  /-- The area of the caption that content must leave free. -/
  captionArea : Option Rect := none
  frameListeners : List (FrameListenerId × κ) := []
  nextFrameListener : UInt32 := 0
  barAppearance : BarAppearance := ∅
  closeOnSwipe : Bool := false
  overlayCaption : Bool := true
  captionShade : CaptionShade := .standard
  destroyed : Bool := false
deriving DecidableEq

/-- What a window is bound to. -/
structure Binding (κ : Type) where
  /-- The window manager; without one the context's is taken. -/
  manager : Option κ
  appToken : Option Token
  appName : String
  hardwareAccelerated : Bool
deriving DecidableEq

namespace Window

variable {κ : Type}

/-- A new window in a context that has the given default features. -/
def create (context : κ) (defaults : Features) : Window κ :=
  { context, features := .ofDefaults defaults }

section

variable (w : Window κ)

/-- The attributes without forced flags. -/
def attributes : Attributes := w.layers.current

/-- The token of the decor surface, if there is one; `attached` is what the surface has now. -/
def decorToken (attached : Option Token) : Option Token := w.decor.bind fun _ => attached

/-- What records owned by this window are completed from, given its containing window and the
token that its decor surface has now. -/
def owner (container : Option (Window κ)) (attached : Option Token) : Owner :=
  { appName := w.appName
    appToken := w.appToken
    container := container.map (·.appToken)
    decorToken := w.decorToken attached }

/-- A touch closes the window if that was asked for, there is a decor, and the touch is
outside: either reported so or going down outside the bounds. -/
def shouldCloseOnTouch (event : MotionEvent) (bounds : Rect) : Bool :=
  w.layers.closeOnTouchOutside && w.decor.isSome &&
    match event.action with
    | .outside => true
    | .down => !bounds.contains event.position
    | _ => false

/-- Whether the decor listener draws the legacy navigation bar background itself; without
one the decor does. -/
def drawsLegacyNavigationBar {σ : Type} (ask : κ → Bool → StateM σ Bool) (draw : Bool) :
    StateM σ Bool :=
  match w.decorListener with
  | none => pure false
  | some listener => ask listener draw

/-! ## Changes -/

/-- A change that a destroyed window refuses. -/
def whenAlive {A : Type} (change : Step κ (Window κ) (Except Refusal A)) :
    Step κ (Window κ) (Except Refusal A) :=
  if w.destroyed then { state := w, answer := .error .destroyed, notes := [.changeRejected] }
  else change

/-- A change without calls or notes. -/
def change (state : Window κ) : Step κ (Window κ) (Except Refusal Unit) :=
  w.whenAlive { state, answer := .ok () }

/-- Acts on the answer to a feature request. -/
def followVerdict (verdict : Verdict) : Step κ (Window κ) (Except Refusal Bool) :=
  w.whenAlive
    { state := { w with features := w.features.follow verdict }
      answer := .ok verdict.accepted
      notes := verdict.notes }

/-- Asks for a feature. -/
def request (f : Feature) : Step κ (Window κ) (Except Refusal Bool) :=
  w.followVerdict (w.features.verdict f)

/-- Asks for the feature with a number. -/
def requestId (id : Int32) : Step κ (Window κ) (Except Refusal Bool) :=
  w.followVerdict (w.features.verdictOfId id)

/-- The calls by which a callback learns of the attributes. -/
def attributeCalls : List (Call κ) :=
  w.dispatcher.callback.toList.map (Call.attributesChanged · w.attributes)

/-- A client's change to the attributes, which the callback learns of. -/
def edit (e : Edit) : Step κ (Window κ) (Except Refusal Unit) :=
  let state := { w with layers := w.layers.edit e }
  w.whenAlive { state, answer := .ok (), calls := state.attributeCalls }

/-- The theme. The context is asked the first time and its answer is kept; `resolved` is
what it would answer now. -/
def resolveTheme (resolved : Theme) : Step κ (Window κ) Theme :=
  match w.theme with
  | some theme => { state := w, answer := theme }
  | none =>
      { state := { w with theme := some resolved }
        answer := resolved
        calls := [.resolveTheme w.context] }

/-- Whether the theme describes a floating window. -/
def isFloating (resolved : Theme) : Step κ (Window κ) Bool :=
  (w.resolveTheme resolved).map (·.floating)

/-- The theme fills every attribute that was not set explicitly. -/
def applyTheme (resolved : Theme) : Step κ (Window κ) (Except Refusal Unit) :=
  let step := w.resolveTheme resolved
  let state := { step.state with layers := w.layers.applyTheme step.answer }
  w.whenAlive { state, answer := .ok (), calls := step.calls ++ state.attributeCalls }

/-- Says whether a touch outside closes the window. -/
def setCloseOnTouchOutside (close : Bool) : Step κ (Window κ) (Except Refusal Unit) :=
  w.change { w with layers := w.layers.setCloseOnTouchOutside close }

/-- Says it unless it has been said before. -/
def setCloseOnTouchOutsideIfUnset (close : Bool) : Step κ (Window κ) (Except Refusal Unit) :=
  w.change { w with layers := w.layers.setCloseOnTouchOutsideIfUnset close }

def setCloseOnSwipe (close : Bool) : Step κ (Window κ) (Except Refusal Unit) :=
  w.change { w with closeOnSwipe := close }

def setOverlayCaption (overlay : Bool) : Step κ (Window κ) (Except Refusal Unit) :=
  w.change { w with overlayCaption := overlay }

def setCaptionShade (shade : CaptionShade) : Step κ (Window κ) (Except Refusal Unit) :=
  w.change { w with captionShade := shade }

/-- Binds a window manager and the identity of the application. `supplied` is the window
manager of the context. Hardware acceleration is forced for good once it was asked for. -/
def bindTo (b : Binding κ) (supplied : Option κ) : Step κ (Window κ) (Except Refusal Unit) :=
  let manager := b.manager.or supplied
  w.whenAlive
    { state :=
        { w with
          appToken := b.appToken
          appName := b.appName
          hardwareAccelerated := b.hardwareAccelerated
          layers :=
            if b.hardwareAccelerated then w.layers.force .hardwareAccelerated else w.layers
          manager }
      answer := .ok ()
      notes := if manager.isSome then [] else [.boundWithoutManager b.appName] }

/-- Attaches or detaches the decor surface and gives the one before. -/
def setDecor (decor : Option κ) : Step κ (Window κ) (Except Refusal (Option κ)) :=
  w.whenAlive { state := { w with decor }, answer := .ok w.decor }

/-- Destroys the window and lets go of its frame listeners. The answer says whether it
was this call that destroyed it. -/
def destroy : Step κ (Window κ) Bool :=
  if w.destroyed then { state := w, answer := false }
  else
    { state := { w with destroyed := true, frameListeners := [] }
      answer := true
      notes := [.windowDestroyed w.attributes.title] }

/-! ## Callback and listeners -/

/-- Another callback, or none, takes the place of the one before, which is given back. -/
def setCallback (callback : Option κ) : Step κ (Window κ) (Option κ) :=
  let (previous, dispatcher) := w.dispatcher.set callback
  { state := { w with dispatcher }, answer := previous }

def setDismissListener (listener : Option κ) : Window κ := { w with dismissListener := listener }

/-- The window was dismissed. -/
def dismissed (finishTask suppressTransition : Bool) : List (Call κ) :=
  w.dismissListener.toList.map (Call.dismissed · finishTask suppressTransition)

def setSwipeListener (listener : Option κ) : Window κ := { w with swipeListener := listener }

/-- The window was swiped away. -/
def swipeDismissed : List (Call κ) := w.swipeListener.toList.map Call.swipeDismissed

def setController (controller : Option κ) : Window κ := { w with controller }

def setDecorListener (listener : Option κ) : Window κ := { w with decorListener := listener }

/-- The look of the system bars changed. -/
def barAppearanceChanged (appearance : BarAppearance) : Step κ (Window κ) Unit :=
  { state := { w with barAppearance := appearance }
    answer := ()
    calls := w.decorListener.toList.map (Call.barAppearanceChanged · appearance) }

/-- A new caption listener starts from an empty area; without one there is no area. -/
def setCaptionListener (listener : Option κ) : Window κ :=
  { w with captionListener := listener, captionArea := listener.map fun _ => .zero }

/-- The caption area changed. Without a listener nothing is kept. -/
def captionAreaChanged (area : Rect) : Step κ (Window κ) Unit :=
  match w.captionListener with
  | none => { state := w, answer := () }
  | some listener =>
      { state := { w with captionArea := some area }
        answer := ()
        calls := [.captionAreaChanged listener area] }

/-- Registers a listener for frame timing, which needs a decor surface. -/
def addFrameListener (listener : κ) : Step κ (Window κ) (Except Refusal FrameListenerId) :=
  w.whenAlive <|
    if w.decor.isNone then { state := w, answer := .error .noDecor }
    else
      { state :=
          { w with
            frameListeners := w.frameListeners ++ [(⟨w.nextFrameListener⟩, listener)]
            nextFrameListener := w.nextFrameListener + 1 }
        answer := .ok ⟨w.nextFrameListener⟩ }

/-- Lets go of the listener with an id. The answer says whether there was one. -/
def removeFrameListener (id : FrameListenerId) : Step κ (Window κ) Bool :=
  { state := { w with frameListeners := w.frameListeners.filter fun entry => entry.1 ≠ id }
    answer := w.frameListeners.any fun entry => entry.1 = id }

/-- One frame was timed. -/
def frameTimed (timing : FrameTiming) (droppedReports : UInt32) : List (Call κ) :=
  w.frameListeners.map fun entry => .frameTimed entry.2 timing droppedReports

end

end Window

end WindowPolicy
