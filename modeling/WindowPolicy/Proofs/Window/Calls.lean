/-
# WindowPolicy.Proofs.Window.Calls — which calls an operation makes, and for which window

Each kind of call is made by one or two of a window's operations and by no other. A hierarchy
makes calls of its own when it adds records, to a window manager. Whatever else it calls, it calls
for one of its windows, whose own operation it is, and just as that window would outside.

* `Op.makes`, `makes_of_mem_calls`: the operations of a window by the calls that they may make;
* `Hierarchy.relayed`, `filterMap_calls`: the calls of a hierarchy that are made for a window.
-/
import WindowPolicy.Proofs.Window.Life

namespace WindowPolicy

set_option autoImplicit false

variable {κ β : Type}

/-! ## One operation of a window -/

namespace Window

variable {w : Window κ} {op : Op κ}

/-- The operation may make the call. -/
def Op.makes : Op κ → Call κ → Bool
  | .edit _, .attributesChanged .. | .applyTheme _, .attributesChanged ..
  | .applyTheme _, .resolveTheme _ | .resolveTheme _, .resolveTheme _
  | .dismissed .., .dismissed .. | .swipeDismissed, .swipeDismissed _
  | .barAppearance _, .barAppearanceChanged .. | .captionArea _, .captionAreaChanged ..
  | .frameTimed .., .frameTimed .. => true
  | _, _ => false

/-- A change that can be refused calls only if it is not. -/
theorem mem_calls_of_attempt {A : Type} {read : A → Answer κ} {call : Call κ}
    {change : Step κ (Window κ) (Except Refusal A)}
    (called : call ∈ (attempt read (w.whenAlive change)).calls) : call ∈ change.calls := by
  unfold attempt whenAlive at called
  split at called
  · cases called
  · exact called

/-- An operation makes no other calls. -/
theorem makes_of_mem_calls {call : Call κ} (called : call ∈ (w.step op).calls) :
    op.makes call = true := by
  have reported {w : Window κ} (named : call ∈ w.attributeCalls) :
      ∃ callback, call = .attributesChanged callback w.attributes := by
    obtain ⟨callback, -, same⟩ := List.mem_map.mp named
    exact ⟨callback, same.symm⟩
  have asked {resolved : Theme} (named : call ∈ (w.resolveTheme resolved).calls) :
      call = .resolveTheme w.context := by
    unfold resolveTheme at named
    split at named
    · cases named
    · exact List.mem_singleton.mp named
  cases op with
  | edit e =>
      obtain ⟨callback, rfl⟩ := reported (mem_calls_of_attempt called)
      rfl
  | applyTheme resolved =>
      rcases List.mem_append.mp (mem_calls_of_attempt called) with first | second
      · rw [asked first]
        rfl
      · obtain ⟨callback, rfl⟩ := reported second
        rfl
  | resolveTheme resolved =>
      rw [asked called]
      rfl
  | request | requestId | closeOnTouchOutside | closeOnTouchOutsideIfUnset | closeOnSwipe
  | overlayCaption | captionShade | bindTo | decor => cases mem_calls_of_attempt called
  | addFrameListener listener =>
      have named := mem_calls_of_attempt called
      split at named <;> cases named
  | destroy =>
      simp only [step, accept, Step.map, destroy] at called
      split at called <;> cases called
  | captionArea area =>
      simp only [step, accept, Step.map, captionAreaChanged] at called
      split at called
      · cases called
      · rw [List.mem_singleton.mp called]
        rfl
  | dismissed | swipeDismissed | barAppearance | frameTimed =>
      obtain ⟨receiver, -, rfl⟩ := List.mem_map.mp called
      rfl
  | _ => cases called

/-- Of an operation that makes none of the calls that tell something, nothing is told. -/
theorem filterMap_calls_eq_nil {tell : Call κ → Option β}
    (silent : ∀ call, op.makes call = true → tell call = none) :
    (w.step op).calls.filterMap tell = [] :=
  List.filterMap_eq_nil_iff.mpr fun _ called => silent _ (makes_of_mem_calls called)

end Window

/-! ## One operation of a hierarchy -/

namespace Hierarchy

variable {t : Hierarchy κ}

/-- The calls that the operation makes for the window whose own operation it is. -/
def relayed (t : Hierarchy κ) : Op κ → List (Call κ)
  | .window id own => (t.get? id).elim [] fun w => (w.deed own).calls
  | _ => []

/-- The other calls of a hierarchy are those that give records to window managers. -/
theorem filterMap_calls (op : Op κ) {tell : Call κ → Option β}
    (silent : ∀ manager a, tell (.addWindow manager a) = none) :
    (t.step op).calls.filterMap tell = (t.relayed op).filterMap tell := by
  cases op with
  | insert | remove => rfl
  | setContainer child container =>
      simp only [step, Step.map, setContainer]
      split <;> rfl
  | makeActive id =>
      simp only [step, Step.map, makeActive]
      split
      · rfl
      · split <;> rfl
  | destroy id =>
      simp only [step, Step.map, destroy]
      cases named : t.get? id with
      | none =>
          rw [update?_of_none named]
          rfl
      | some w =>
          rw [update?_of_get? named]
          have alone : (w.step .destroy).calls.filterMap tell = [] :=
            Window.filterMap_calls_eq_nil fun call impossible => by cases impossible
          exact alone
  | complete owner attributes attached =>
      simp only [step, Step.map, complete]
      split <;> rfl
  | addWindow owner attributes attached =>
      simp only [step, Step.map, addWindow]
      split
      · rfl
      · split
        · rfl
        · split
          · rfl
          · simp [relayed, silent]
  | window id own =>
      cases named : t.get? id with
      | none =>
          simp only [step, update?_of_none named, relayed, named]
          rfl
      | some w =>
          simp only [step, update?_of_get? named, relayed, named]
          rfl

end Hierarchy

end WindowPolicy
