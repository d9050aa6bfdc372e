/-
# WindowPolicy.Proofs.Hierarchy.Links — what changing a link does to each window

A link is changed by several writes to several windows. Here the outcome is told window by
window: `relinked` and `activated` say what the window that an id names becomes, and
`get?_relink`, `get?_activate` say that this is all that happens. The links of a changed
window are read off by the `@[simp]` lemmas beside the two, so that proofs about links
open neither.

* `linkable_eq`, `linkable_eq_ok_iff`: the guards of a link and when they let it pass;
* `setContainer_of_linkable`, `makeActive_state`, `destroy_state`, `window_state`: what the
  operations leave;
* `Change`: all that an operation can come to that takes no window in and none out.
-/
import WindowPolicy.Proofs.Hierarchy.View

namespace WindowPolicy

set_option autoImplicit false

namespace Hierarchy

variable {κ : Type} {t : Hierarchy κ}

section Fields

variable (container : Option WindowId) (child id : WindowId) (w : Window κ)

@[simp] theorem forgotten_container : (forgotten container child id w).container = w.container := by
  unfold forgotten
  split <;> rfl

@[simp] theorem forgotten_isActive : (forgotten container child id w).isActive = w.isActive := by
  unfold forgotten
  split <;> rfl

@[simp] theorem forgotten_hasChildren :
    (forgotten container child id w).hasChildren = w.hasChildren := by
  unfold forgotten
  split <;> rfl

@[simp] theorem forgotten_destroyed : (forgotten container child id w).destroyed = w.destroyed := by
  unfold forgotten
  split <;> rfl

/-- Only the child that leaves is forgotten. -/
theorem forgotten_activeChild_eq_some {c : WindowId} :
    (forgotten container child id w).activeChild = some c ↔
      w.activeChild = some c ∧ ¬(container = some id ∧ c = child) := by
  unfold forgotten
  split
  · rename_i left
    obtain ⟨here, active⟩ := left
    simp [here, active, eq_comm]
  · rename_i stays
    constructor
    · intro active
      refine ⟨active, ?_⟩
      rintro ⟨here, rfl⟩
      exact stays ⟨here, active⟩
    · exact And.left

end Fields

/-! ## A changed container -/

/-- A window in another container, or in none. -/
def placed (container : Option WindowId) (w : Window κ) : Window κ :=
  match container with
  | some host => contain host w
  | none => release w

/-- A window that another one was put into. -/
def asHost (w : Window κ) : Window κ := { w with hasChildren := true }

/-- The window that `id` names once `child`, which was in `previous`, is in `container`. -/
def relinked (previous container : Option WindowId) (child id : WindowId) (w : Window κ) :
    Window κ :=
  let left := if previous = container then w else forgotten previous child id w
  let moved := if id = child then placed container left else left
  if container = some id then asHost moved else moved

theorem get?_relink (child : WindowId) (container : Option WindowId) (w : Window κ)
    (j : WindowId) :
    (t.relink child container w).get? j =
      (t.get? j).map (relinked w.container container child j) := by
  have unlinked :
      (if w.container = container then t else t.forgetActive w.container child).get? j =
        (t.get? j).map fun x =>
          if w.container = container then x else forgotten w.container child j x := by
    split
    · simp
    · exact get?_forgetActive w.container child j
  cases container with
  | none =>
      simp only [relink, get?_modify, unlinked, Option.map_map]
      rfl
  | some host =>
      simp only [relink, get?_modify, unlinked, Option.map_map]
      congr 1
      funext x
      simp only [relinked, Function.comp_apply, Option.some.injEq, @eq_comm _ host j]
      rfl

section Fields

variable (container : Option WindowId) (w : Window κ)

@[simp] theorem placed_container : (placed container w).container = container := by
  cases container <;> rfl

@[simp] theorem placed_activeChild : (placed container w).activeChild = w.activeChild := by
  cases container <;> rfl

@[simp] theorem placed_hasChildren : (placed container w).hasChildren = w.hasChildren := by
  cases container <;> rfl

@[simp] theorem placed_destroyed : (placed container w).destroyed = w.destroyed := by
  cases container <;> rfl

/-- A window stays active only in a container that it was in. -/
@[simp] theorem placed_isActive :
    (placed container w).isActive =
      (w.isActive && decide (container.isSome ∧ w.container = container)) := by
  cases container <;> simp [placed, contain, release]

@[simp] theorem asHost_container : (asHost w).container = w.container := rfl
@[simp] theorem asHost_activeChild : (asHost w).activeChild = w.activeChild := rfl
@[simp] theorem asHost_isActive : (asHost w).isActive = w.isActive := rfl
@[simp] theorem asHost_hasChildren : (asHost w).hasChildren = true := rfl

end Fields

section Fields

variable (previous container : Option WindowId) (child id : WindowId) (w : Window κ)

@[simp] theorem relinked_container :
    (relinked previous container child id w).container =
      if id = child then container else w.container := by
  unfold relinked
  simp only [apply_ite Window.container, asHost_container, placed_container,
    forgotten_container, ite_self]

@[simp] theorem relinked_isActive :
    (relinked previous container child id w).isActive =
      if id = child then w.isActive && decide (container.isSome ∧ w.container = container)
      else w.isActive := by
  unfold relinked
  simp only [apply_ite Window.isActive, apply_ite Window.container, asHost_isActive,
    placed_isActive, forgotten_isActive, forgotten_container, ite_self]

@[simp] theorem relinked_hasChildren :
    (relinked previous container child id w).hasChildren =
      (w.hasChildren || decide (container = some id)) := by
  unfold relinked
  simp only [apply_ite Window.hasChildren, asHost_hasChildren, placed_hasChildren,
    forgotten_hasChildren, ite_self]
  by_cases hosting : container = some id <;> simp [hosting]

/-- A child is forgotten as the active one only when it leaves. -/
theorem relinked_activeChild_eq_some {c : WindowId} :
    (relinked previous container child id w).activeChild = some c ↔
      w.activeChild = some c ∧ ¬(previous ≠ container ∧ previous = some id ∧ c = child) := by
  have kept : (relinked previous container child id w).activeChild =
      (if previous = container then w else forgotten previous child id w).activeChild := by
    unfold relinked
    simp only [apply_ite Window.activeChild, asHost_activeChild, placed_activeChild, ite_self]
  rw [kept]
  split
  · rename_i same
    simp [same]
  · rename_i changed
    simp [forgotten_activeChild_eq_some, changed]

end Fields

/-! ## An activated window -/

/-- A window whose active child is `child`. -/
def choosing (child : WindowId) (w : Window κ) : Window κ := { w with activeChild := some child }

/-- A window that is active, or no longer so. -/
def acting (active : Bool) (w : Window κ) : Window κ := { w with isActive := active }

/-- The window that `id` names once `chosen`, which is in `container`, was activated and has
displaced `sibling`. -/
def activated (container sibling : Option WindowId) (chosen id : WindowId) (w : Window κ) :
    Window κ :=
  let told := if container = some id then choosing chosen w else w
  let alone := if sibling = some id then acting false told else told
  if id = chosen then acting true alone else alone

theorem get?_activate (chosen : WindowId) (w : Window κ) (j : WindowId) :
    (t.activate chosen w).get? j =
      (t.get? j).map (activated w.container (t.displaced? chosen w) chosen j) := by
  unfold activate
  generalize t.displaced? chosen w = sibling
  cases inside : w.container <;> cases sibling <;>
    simp only [get?_modify, Option.map_map] <;> congr 1 <;> funext x <;>
    simp only [activated, Function.comp_apply, Option.some.injEq, reduceCtorEq, if_false,
      @eq_comm _ _ j] <;> rfl

section Fields

variable (container sibling : Option WindowId) (chosen id : WindowId) (w : Window κ)

@[simp] theorem choosing_container : (choosing id w).container = w.container := rfl
@[simp] theorem choosing_isActive : (choosing id w).isActive = w.isActive := rfl
@[simp] theorem choosing_hasChildren : (choosing id w).hasChildren = w.hasChildren := rfl
@[simp] theorem choosing_activeChild : (choosing id w).activeChild = some id := rfl
@[simp] theorem choosing_destroyed : (choosing id w).destroyed = w.destroyed := rfl

variable (active : Bool)

@[simp] theorem acting_container : (acting active w).container = w.container := rfl
@[simp] theorem acting_isActive : (acting active w).isActive = active := rfl
@[simp] theorem acting_hasChildren : (acting active w).hasChildren = w.hasChildren := rfl
@[simp] theorem acting_activeChild : (acting active w).activeChild = w.activeChild := rfl
@[simp] theorem acting_destroyed : (acting active w).destroyed = w.destroyed := rfl

@[simp] theorem activated_container :
    (activated container sibling chosen id w).container = w.container := by
  unfold activated
  simp only [apply_ite Window.container, acting_container, choosing_container, ite_self]

@[simp] theorem activated_hasChildren :
    (activated container sibling chosen id w).hasChildren = w.hasChildren := by
  unfold activated
  simp only [apply_ite Window.hasChildren, acting_hasChildren, choosing_hasChildren, ite_self]

@[simp] theorem activated_activeChild :
    (activated container sibling chosen id w).activeChild =
      if container = some id then some chosen else w.activeChild := by
  unfold activated
  simp only [apply_ite Window.activeChild, acting_activeChild, choosing_activeChild, ite_self]

@[simp] theorem activated_isActive :
    (activated container sibling chosen id w).isActive =
      if id = chosen then true else if sibling = some id then false else w.isActive := by
  unfold activated
  simp only [apply_ite Window.isActive, acting_isActive, choosing_isActive, ite_self]

end Fields

/-! ## Guards -/

/-- The guards of a link, in the order in which they are asked. -/
theorem linkable_eq (child : WindowId) (container : Option WindowId) :
    t.linkable child container =
      match t.get? child with
      | none => .error (.unknownWindow child)
      | some w =>
          if w.destroyed then .error .destroyed
          else
            match container with
            | none => .ok w
            | some host =>
                if host = child then .error .selfContainment
                else
                  match t.get? host with
                  | none => .error (.unknownWindow host)
                  | some h => if h.destroyed then .error .destroyed else .ok w := by
  unfold linkable live
  simp only [bind, Except.bind, pure, Except.pure, throw, throwThe, MonadExceptOf.throw]
  cases t.get? child with
  | none => rfl
  | some w =>
      cases container with
      | none => cases gone : w.destroyed <;> simp [gone]
      | some host =>
          cases gone : w.destroyed <;> by_cases same : host = child <;>
            cases found : t.get? host <;> grind

/-- A link may be changed exactly when both ends are there, differ and are not destroyed. -/
theorem linkable_eq_ok_iff {child : WindowId} {container : Option WindowId} {w : Window κ} :
    t.linkable child container = .ok w ↔
      t.get? child = some w ∧ w.destroyed = false ∧
        ∀ host, container = some host →
          host ≠ child ∧ ∃ h, t.get? host = some h ∧ h.destroyed = false := by
  rw [linkable_eq]
  grind

theorem setContainer_of_linkable {child : WindowId} {container : Option WindowId} {w : Window κ}
    (free : t.linkable child container = .ok w) :
    (t.setContainer child container).state = t.relink child container w := by
  simp [setContainer, free]

theorem setContainer_of_refused {child : WindowId} {container : Option WindowId}
    {refusal : Refusal} (refused : t.linkable child container = .error refusal) :
    t.setContainer child container = { state := t, answer := .error refusal } := by
  simp [setContainer, refused]

theorem setContainer_answer_eq_ok_iff {child : WindowId} {container : Option WindowId} :
    (t.setContainer child container).answer = .ok () ↔ ∃ w, t.linkable child container = .ok w := by
  unfold setContainer
  cases t.linkable child container <;> simp

/-- An activation happens exactly when the window is there and not destroyed. -/
theorem makeActive_state (id : WindowId) :
    (t.makeActive id).state =
      match t.get? id with
      | some w => if w.destroyed then t else t.activate id w
      | none => t := by
  unfold makeActive live
  cases t.get? id with
  | none => rfl
  | some w => cases gone : w.destroyed <;> simp [gone]

/-- Destroying a window in a hierarchy changes that window alone. -/
theorem destroy_state (id : WindowId) :
    (t.destroy id).state = t.modify id fun w => w.destroy.state := by
  unfold destroy
  cases named : t.get? id with
  | none => rw [update?_of_none named, modify_of_none named]
  | some w => simp [update?_of_get? named, Step.map]

/-- Completing a record changes no window. -/
theorem complete_state (id : WindowId) (a : Attributes) (attached : Option Token) :
    (t.complete id a attached).state = t := by
  unfold complete
  split <;> rfl

theorem addWindow_state (id : WindowId) (a : Attributes) (attached : Option Token) :
    (t.addWindow id a attached).state = t := by
  unfold addWindow
  cases t.live id with
  | error refusal => rfl
  | ok w =>
      dsimp only
      split
      · rfl
      · split <;> rfl

/-- An operation of a window changes the window that the id names, if it names one. -/
theorem window_state (id : WindowId) (op : Window.Op κ) :
    (t.step (.window id op)).state = t.modify id fun w => (w.step op).state := by
  cases named : t.get? id with
  | none => simp [step, update?_of_none named, modify_of_none named]
  | some w => simp [step, update?_of_get? named, Step.map]

/-! ## Operations that take nothing in and nothing out -/

/-- The operation takes no window in and none out. -/
def Op.Internal : Op κ → Prop
  | .insert _ | .remove _ => False
  | _ => True

theorem Op.kinds (op : Op κ) : (∃ w, op = .insert w) ∨ (∃ id, op = .remove id) ∨ op.Internal := by
  cases op <;> simp [Internal]

theorem Op.Internal.ne_insert {op : Op κ} (internal : op.Internal) (w : Window κ) :
    op ≠ .insert w := by
  rintro rfl
  exact internal

/-- What such operations come to: a link is changed, a window is activated, or a window goes
through an operation of its own. -/
inductive Change (t : Hierarchy κ) : Hierarchy κ → Prop
  | none : Change t t
  | linked {child : WindowId} {container : Option WindowId} {w : Window κ}
      (free : t.linkable child container = .ok w) : Change t (t.relink child container w)
  | activated {id : WindowId} {w : Window κ} (chosen : t.get? id = some w)
      (alive : w.destroyed = false) : Change t (t.activate id w)
  | own (id : WindowId) (op : Window.Op κ) : Change t (t.modify id fun w => (w.step op).state)

theorem Op.Internal.change {op : Op κ} (internal : op.Internal) :
    t.Change (t.step op).state := by
  cases op with
  | insert | remove => exact internal.elim
  | setContainer child container =>
      change t.Change (t.setContainer child container).state
      cases free : t.linkable child container with
      | error refusal =>
          rw [setContainer_of_refused free]
          exact .none
      | ok w =>
          rw [setContainer_of_linkable free]
          exact .linked free
  | makeActive id =>
      change t.Change (t.makeActive id).state
      rw [makeActive_state]
      split
      · rename_i w chosen
        split
        · exact .none
        · rename_i alive
          exact .activated chosen (by simpa using alive)
      · exact .none
  | destroy id =>
      change t.Change (t.destroy id).state
      rw [destroy_state]
      exact .own id .destroy
  | complete owner attributes attached =>
      change t.Change (t.complete owner attributes attached).state
      rw [complete_state]
      exact .none
  | addWindow owner attributes attached =>
      change t.Change (t.addWindow owner attributes attached).state
      rw [addWindow_state]
      exact .none
  | window id op =>
      rw [window_state]
      exact .own id op

end Hierarchy

end WindowPolicy
