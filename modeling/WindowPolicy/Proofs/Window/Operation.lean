/-
# WindowPolicy.Proofs.Window.Operation — what a window's own operations can do

An operation either is refused, because the window was destroyed, or makes its change.
`changed` writes all changes down side by side, each field with what becomes of it, and
`step_state` says that this is what the operations do. What an operation does to one part
of a window is then read off: its links (`links_step`), its features (`features_step`).

Two kinds of operation come to nothing:

* `step_of_destroyed`: those that a destroyed window refuses (`Op.refusable`), which are all
  that can be refused (`answer_of_not_refusable`);
* `step_of_declined`: those that are answered by a refusal or by `false` (`declined`).

Either leaves the whole window as it was and calls nobody.
-/
import WindowPolicy.Window.Operation

namespace WindowPolicy

set_option autoImplicit false

theorem Negotiation.follow_of_rejected {n : Negotiation} {verdict : Verdict}
    (rejected : verdict.accepted = false) : n.follow verdict = n := by
  cases verdict with
  | granted => cases rejected
  | _ => rfl

/-- The step changed nothing and called nobody. -/
structure Step.Traceless {κ S A : Type} (s : Step κ S A) (before : S) : Prop where
  state : s.state = before
  calls : s.calls = []

theorem Step.Traceless.map {κ S A B : Type} {s : Step κ S A} {before : S}
    (traceless : s.Traceless before) (f : A → B) : (s.map f).Traceless before :=
  ⟨traceless.state, traceless.calls⟩

namespace Window

variable {κ : Type} {w : Window κ}

/-- The operations that can be refused: all changes but the window's end, and those of its
callback and listeners. -/
def Op.refusable : Op κ → Bool
  | .request _ | .requestId _ | .edit _ | .applyTheme _ | .closeOnTouchOutside _
  | .closeOnTouchOutsideIfUnset _ | .closeOnSwipe _ | .overlayCaption _ | .captionShade _
  | .bindTo .. | .decor _ | .addFrameListener _ => true
  | _ => false

/-- The window after an operation that is not refused. -/
def changed (w : Window κ) : Op κ → Window κ
  | .request f => { w with features := w.features.request f }
  | .requestId id => { w with features := w.features.requestId id }
  | .edit e => { w with layers := w.layers.edit e }
  | .applyTheme resolved =>
      { w with
        theme := some (w.theme.getD resolved)
        layers := w.layers.applyTheme (w.theme.getD resolved) }
  | .resolveTheme resolved => { w with theme := some (w.theme.getD resolved) }
  | .closeOnTouchOutside close => { w with layers := w.layers.setCloseOnTouchOutside close }
  | .closeOnTouchOutsideIfUnset close =>
      { w with layers := w.layers.setCloseOnTouchOutsideIfUnset close }
  | .closeOnSwipe close => { w with closeOnSwipe := close }
  | .overlayCaption overlay => { w with overlayCaption := overlay }
  | .captionShade shade => { w with captionShade := shade }
  | .bindTo b supplied =>
      { w with
        appToken := b.appToken
        appName := b.appName
        hardwareAccelerated := b.hardwareAccelerated
        layers := if b.hardwareAccelerated then w.layers.force .hardwareAccelerated else w.layers
        manager := b.manager.or supplied }
  | .decor decor => { w with decor }
  | .destroy =>
      { w with
        destroyed := true
        frameListeners := if w.destroyed then w.frameListeners else [] }
  | .callback callback => { w with dispatcher := ⟨callback⟩ }
  | .dismissListener listener => { w with dismissListener := listener }
  | .swipeListener listener => { w with swipeListener := listener }
  | .controller controller => { w with controller }
  | .decorListener listener => { w with decorListener := listener }
  | .barAppearance appearance => { w with barAppearance := appearance }
  | .captionListener listener =>
      { w with captionListener := listener, captionArea := listener.map fun _ => .zero }
  | .captionArea area =>
      { w with captionArea := if w.captionListener.isSome then some area else w.captionArea }
  | .addFrameListener listener =>
      { w with
        frameListeners :=
          if w.decor.isSome then w.frameListeners ++ [(⟨w.nextFrameListener⟩, listener)]
          else w.frameListeners
        nextFrameListener :=
          if w.decor.isSome then w.nextFrameListener + 1 else w.nextFrameListener }
  | .removeFrameListener id =>
      { w with frameListeners := w.frameListeners.filter fun entry => entry.1 ≠ id }
  | .dismissed .. | .swipeDismissed | .frameTimed .. => w

/-- A change that can be refused. -/
theorem attempt_whenAlive_state {A : Type} (read : A → Answer κ)
    (change : Step κ (Window κ) (Except Refusal A)) :
    (attempt read (w.whenAlive change)).state = if w.destroyed then w else change.state := by
  unfold attempt whenAlive
  split <;> rfl

theorem resolveTheme_state (resolved : Theme) :
    (w.resolveTheme resolved).state = { w with theme := some (w.theme.getD resolved) } := by
  unfold resolveTheme
  cases kept : w.theme with
  | some theme =>
      show w = { w with theme := some theme }
      rw [← kept]
  | none => rfl

theorem resolveTheme_answer (resolved : Theme) :
    (w.resolveTheme resolved).answer = w.theme.getD resolved := by
  unfold resolveTheme
  cases w.theme <;> rfl

/-- Every operation is refused or makes its change. -/
theorem step_state (op : Op κ) :
    (w.step op).state = if w.destroyed && op.refusable then w else w.changed op := by
  have guarded {op : Op κ} (refusable : op.refusable = true)
      (made : (w.step op).state = if w.destroyed then w else w.changed op) :
      (w.step op).state = if w.destroyed && op.refusable then w else w.changed op := by
    rw [refusable, Bool.and_true]
    exact made
  have certain {op : Op κ} (never : op.refusable = false)
      (made : (w.step op).state = w.changed op) :
      (w.step op).state = if w.destroyed && op.refusable then w else w.changed op := by
    rw [never, Bool.and_false]
    exact made
  cases op with
  | request | requestId | edit | closeOnTouchOutside | closeOnTouchOutsideIfUnset
  | closeOnSwipe | overlayCaption | captionShade | bindTo | decor =>
      exact guarded rfl (attempt_whenAlive_state _ _)
  | applyTheme resolved =>
      refine guarded rfl ((attempt_whenAlive_state _ _).trans ?_)
      simp only [resolveTheme_state, resolveTheme_answer]
      rfl
  | addFrameListener listener =>
      refine guarded rfl ((attempt_whenAlive_state _ _).trans ?_)
      by_cases attached : w.decor.isSome = true
      · have known : ¬w.decor.isNone = true := by simp [Option.isSome_iff_ne_none.mp attached]
        simp only [changed, if_pos attached, if_neg known]
      · have unknown : w.decor.isNone = true := by simpa using attached
        simp only [changed, if_neg attached, if_pos unknown]
  | resolveTheme resolved => exact certain rfl (resolveTheme_state resolved)
  | destroy =>
      refine certain rfl ?_
      simp only [step, accept, Step.map, destroy, changed]
      split
      · rename_i gone
        rw [← gone]
      · rfl
  | captionArea area =>
      refine certain rfl ?_
      simp only [step, accept, Step.map, captionAreaChanged, changed]
      split
      · rename_i silent
        have unheard : ¬w.captionListener.isSome = true := by simp [silent]
        rw [if_neg unheard]
      · rename_i listener listening
        have heard : w.captionListener.isSome = true := by simp [listening]
        rw [if_pos heard]
  | _ => exact certain rfl rfl

/-! ## Links -/

/-- The links of a window to others. -/
structure Links where
  container : Option WindowId
  activeChild : Option WindowId
  isActive : Bool
  hasChildren : Bool

def links (w : Window κ) : Links :=
  { container := w.container
    activeChild := w.activeChild
    isActive := w.isActive
    hasChildren := w.hasChildren }

/-- A window's own operations leave its links to the hierarchy. -/
@[simp] theorem links_step (op : Op κ) : (w.step op).state.links = w.links := by
  rw [step_state]
  split
  · rfl
  · cases op <;> rfl

@[simp] theorem links_run (ops : List (Op κ)) : (w.run ops).links = w.links := by
  induction ops generalizing w with
  | nil => rfl
  | cons op ops ih => exact ih.trans (links_step op)

/-! ## Features -/

/-- The features change by requests alone, and only while the window is not destroyed. -/
theorem features_step (op : Op κ) :
    (w.step op).state.features =
      match op with
      | .request f => if w.destroyed then w.features else w.features.request f
      | .requestId id => if w.destroyed then w.features else w.features.requestId id
      | _ => w.features := by
  rw [step_state]
  cases op with
  | request | requestId => cases gone : w.destroyed <;> rfl
  | _ =>
      split
      · rfl
      · rfl

/-! ## Operations that come to nothing -/

/-- A destroyed window refuses. -/
theorem step_of_destroyed {op : Op κ} (gone : w.destroyed = true)
    (refusable : op.refusable = true) :
    w.step op = { state := w, answer := .error .destroyed, notes := [.changeRejected] } := by
  have refused {A : Type} (read : A → Answer κ)
      (change : Step κ (Window κ) (Except Refusal A)) :
      attempt read (w.whenAlive change) =
        { state := w, answer := .error .destroyed, notes := [.changeRejected] } := by
    simp [attempt, Step.map, whenAlive, gone, Except.map]
  cases op with
  | request | requestId | edit | applyTheme | closeOnTouchOutside | closeOnTouchOutsideIfUnset
  | closeOnSwipe | overlayCaption | captionShade | bindTo | decor | addFrameListener =>
      exact refused _ _
  | _ => cases refusable

/-- Every other operation is answered, whatever the window. -/
theorem answer_of_not_refusable {op : Op κ} (never : op.refusable = false) :
    ∃ answer, (w.step op).answer = .ok answer := by
  cases op with
  | request | requestId | edit | applyTheme | closeOnTouchOutside | closeOnTouchOutsideIfUnset
  | closeOnSwipe | overlayCaption | captionShade | bindTo | decor | addFrameListener => cases never
  | _ => exact ⟨_, rfl⟩

/-- The answer is a refusal or `false`. -/
def declined : Except Refusal (Answer κ) → Bool
  | .error _ => true
  | .ok (.flag value) => !value
  | .ok _ => false

theorem whenAlive_of_alive {A : Type} (alive : w.destroyed = false)
    (change : Step κ (Window κ) (Except Refusal A)) : w.whenAlive change = change := by
  simp [whenAlive, alive]

/-- A rejected request leaves the window as it was and calls nobody. -/
theorem followVerdict_of_declined {verdict : Verdict} (alive : w.destroyed = false)
    (rejected : declined (attempt .flag (w.followVerdict verdict)).answer = true) :
    (attempt Answer.flag (w.followVerdict verdict)).Traceless w := by
  simp only [followVerdict, whenAlive_of_alive alive] at rejected ⊢
  have unheard : verdict.accepted = false := by
    simpa [attempt, Step.map, Except.map, declined] using rejected
  refine ⟨?_, rfl⟩
  show { w with features := w.features.follow verdict } = w
  rw [Negotiation.follow_of_rejected unheard]

/-- An operation that is declined leaves the window as it was and calls nobody. -/
theorem step_of_declined {op : Op κ} (rejected : declined (w.step op).answer = true) :
    (w.step op).Traceless w := by
  by_cases refused : w.destroyed = true ∧ op.refusable = true
  · rw [step_of_destroyed refused.1 refused.2]
    exact ⟨rfl, rfl⟩
  have alive (refusable : op.refusable = true) : w.destroyed = false := by
    cases gone : w.destroyed with
    | false => rfl
    | true => exact absurd ⟨gone, refusable⟩ refused
  -- A window that is not destroyed accepts every change but requests and frame listeners.
  have accepted {A : Type} (refusable : op.refusable = true) (read : A → Answer κ)
      (answer : A) (state : Window κ) (calls : List (Call κ)) (notes : List Note)
      (yes : declined (.ok (read answer)) = false)
      (same : w.step op = attempt read (w.whenAlive ⟨state, .ok answer, calls, notes⟩)) :
      False := by
    rw [same, whenAlive_of_alive (alive refusable)] at rejected
    cases yes.symm.trans rejected
  cases op with
  | request | requestId => exact followVerdict_of_declined (alive rfl) rejected
  | edit | applyTheme | closeOnTouchOutside | closeOnTouchOutsideIfUnset | closeOnSwipe
  | overlayCaption | captionShade | bindTo | decor =>
      exact (accepted rfl _ _ _ _ _ rfl rfl).elim
  | addFrameListener listener =>
      simp only [step, addFrameListener, whenAlive_of_alive (alive rfl)] at rejected ⊢
      split at rejected
      · rename_i detached
        rw [if_pos detached]
        exact ⟨rfl, rfl⟩
      · cases rejected
  | destroy =>
      simp only [step, destroy] at rejected ⊢
      split at rejected
      · rename_i gone
        rw [if_pos gone]
        exact ⟨rfl, rfl⟩
      · cases rejected
  | removeFrameListener id =>
      refine ⟨?_, rfl⟩
      have unknown : ∀ entry ∈ w.frameListeners, entry.1 ≠ id := by
        simpa [step, accept, Step.map, removeFrameListener, declined] using rejected
      show { w with frameListeners := w.frameListeners.filter fun entry => entry.1 ≠ id } = w
      rw [List.filter_eq_self.mpr (by simpa using unknown)]
  | captionArea area =>
      simp only [step, captionAreaChanged] at rejected
      split at rejected <;> cases rejected
  | _ => cases rejected

end Window

end WindowPolicy
