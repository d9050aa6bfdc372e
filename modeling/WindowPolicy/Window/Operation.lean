/-
# WindowPolicy.Window.Operation — everything that can be done to a window

The operations of a window as data, so that histories of one are lists. Reading a window
and forwarding events to its callback are left out: neither changes it.

* `Window.Op`: the operations, each with what its collaborators would answer now;
* `Window.step`: one operation;
* `Window.run`: operations from first to last.
-/
import WindowPolicy.Window.Basic

namespace WindowPolicy

set_option autoImplicit false

namespace Window

/-- An operation on a window. -/
inductive Op (κ : Type) where
  | request (feature : Feature)
  | requestId (id : Int32)
  | edit (edit : Edit)
  /-- The theme is `resolved` if the context is asked. -/
  | applyTheme (resolved : Theme)
  /-- The theme is `resolved` if the context is asked. -/
  | resolveTheme (resolved : Theme)
  | closeOnTouchOutside (close : Bool)
  | closeOnTouchOutsideIfUnset (close : Bool)
  | closeOnSwipe (close : Bool)
  | overlayCaption (overlay : Bool)
  | captionShade (shade : CaptionShade)
  /-- The context has the window manager `supplied`. -/
  | bindTo (binding : Binding κ) (supplied : Option κ)
  | decor (decor : Option κ)
  | destroy
  | callback (callback : Option κ)
  | dismissListener (listener : Option κ)
  | dismissed (finishTask suppressTransition : Bool)
  | swipeListener (listener : Option κ)
  | swipeDismissed
  | controller (controller : Option κ)
  | decorListener (listener : Option κ)
  | barAppearance (appearance : BarAppearance)
  | captionListener (listener : Option κ)
  | captionArea (area : Rect)
  | addFrameListener (listener : κ)
  | removeFrameListener (id : FrameListenerId)
  | frameTimed (timing : FrameTiming) (droppedReports : UInt32)
deriving DecidableEq

/-- What an operation answers when it is not refused. -/
inductive Answer (κ : Type) where
  | done
  | flag (value : Bool)
  | theme (theme : Theme)
  | previousDecor (decor : Option κ)
  | previousCallback (callback : Option κ)
  | listener (id : FrameListenerId)
deriving DecidableEq

variable {κ : Type}

/-- A step that cannot be refused, with its answer read as one of many. -/
def accept {A : Type} (read : A → Answer κ) (s : Step κ (Window κ) A) :
    Step κ (Window κ) (Except Refusal (Answer κ)) :=
  s.map fun answer => .ok (read answer)

/-- A step that may be refused, with its answer read as one of many. -/
def attempt {A : Type} (read : A → Answer κ) (s : Step κ (Window κ) (Except Refusal A)) :
    Step κ (Window κ) (Except Refusal (Answer κ)) :=
  s.map (·.map read)

/-- A step that has no answer. -/
def silently (state : Window κ) (calls : List (Call κ)) :
    Step κ (Window κ) (Except Refusal (Answer κ)) :=
  { state, answer := .ok .done, calls }

/-- One operation. -/
def step (w : Window κ) : Op κ → Step κ (Window κ) (Except Refusal (Answer κ))
  | .request f => attempt .flag (w.request f)
  | .requestId id => attempt .flag (w.requestId id)
  | .edit e => attempt (fun _ => .done) (w.edit e)
  | .applyTheme resolved => attempt (fun _ => .done) (w.applyTheme resolved)
  | .resolveTheme resolved => accept .theme (w.resolveTheme resolved)
  | .closeOnTouchOutside close => attempt (fun _ => .done) (w.setCloseOnTouchOutside close)
  | .closeOnTouchOutsideIfUnset close =>
      attempt (fun _ => .done) (w.setCloseOnTouchOutsideIfUnset close)
  | .closeOnSwipe close => attempt (fun _ => .done) (w.setCloseOnSwipe close)
  | .overlayCaption overlay => attempt (fun _ => .done) (w.setOverlayCaption overlay)
  | .captionShade shade => attempt (fun _ => .done) (w.setCaptionShade shade)
  | .bindTo binding supplied => attempt (fun _ => .done) (w.bindTo binding supplied)
  | .decor decor => attempt .previousDecor (w.setDecor decor)
  | .destroy => accept .flag w.destroy
  | .callback callback => accept .previousCallback (w.setCallback callback)
  | .dismissListener listener => silently (w.setDismissListener listener) []
  | .dismissed finishTask suppressTransition =>
      silently w (w.dismissed finishTask suppressTransition)
  | .swipeListener listener => silently (w.setSwipeListener listener) []
  | .swipeDismissed => silently w w.swipeDismissed
  | .controller controller => silently (w.setController controller) []
  | .decorListener listener => silently (w.setDecorListener listener) []
  | .barAppearance appearance => accept (fun _ => .done) (w.barAppearanceChanged appearance)
  | .captionListener listener => silently (w.setCaptionListener listener) []
  | .captionArea area => accept (fun _ => .done) (w.captionAreaChanged area)
  | .addFrameListener listener => attempt .listener (w.addFrameListener listener)
  | .removeFrameListener id => accept .flag (w.removeFrameListener id)
  | .frameTimed timing droppedReports => silently w (w.frameTimed timing droppedReports)

/-- The window after operations, from first to last. -/
def run (w : Window κ) (ops : List (Op κ)) : Window κ := ops.foldl (fun w op => (w.step op).state) w

end Window

end WindowPolicy
