/-
# WindowPolicy.Proofs.Hierarchy.Holders — the container that a window names

A window names its container by an id, and goes on naming it when the container has gone. An
operation gives one window another container at most: a window that is taken in has the one that
it brings along, a window that is taken out is not asked any more, and a changed link is the
change of one name. As long as no window is taken in that names a container of some other
hierarchy, every id that is named was given out.

* `holderOf`, `holderOf_step`: the container that a window names, and what becomes of it;
* `Native`, `holder_mem_issued`: histories in which every container that is named was given out
  as an id.
-/
import WindowPolicy.Proofs.Hierarchy.Issued
import WindowPolicy.Proofs.Window.Operation

namespace WindowPolicy

set_option autoImplicit false

namespace Hierarchy

variable {κ : Type} {t : Hierarchy κ}

/-- The container that the window of an id names, be it there or gone. -/
def holderOf (t : Hierarchy κ) (id : WindowId) : Option WindowId := (t.get? id).bind (·.container)

theorem holderOf_eq_some_iff {j k : WindowId} :
    t.holderOf j = some k ↔ ∃ w, t.get? j = some w ∧ w.container = some k :=
  Option.bind_eq_some_iff

/-- The window that an operation gives another container, or takes in or out with the one that
it has, and the container that it has then. -/
def moved? (t : Hierarchy κ) : Op κ → Option (WindowId × Option WindowId)
  | .insert w => some ((t.insert w).1, w.container)
  | .remove id => some (id, none)
  | .setContainer child container =>
      (t.linkable child container).toOption.map fun _ => (child, container)
  | _ => none

theorem moved?_of_linkable {child : WindowId} {container : Option WindowId} {w : Window κ}
    (free : t.linkable child container = .ok w) :
    t.moved? (.setContainer child container) = some (child, container) := by
  simp [moved?, free, Except.toOption]

theorem moved?_of_refused {child : WindowId} {container : Option WindowId} {refusal : Refusal}
    (refused : t.linkable child container = .error refusal) :
    t.moved? (.setContainer child container) = none := by
  simp [moved?, refused, Except.toOption]

/-- Where every window keeps its container the holders stay. -/
theorem holderOf_of_map {t' : Hierarchy κ} {change : WindowId → Window κ → Window κ}
    (view : ∀ j, t'.get? j = (t.get? j).map (change j))
    (kept : ∀ j w, (change j w).container = w.container) : t'.holderOf = t.holderOf := by
  funext j
  unfold holderOf
  rw [view, Option.bind_map]
  congr 1
  funext w
  exact kept j w

theorem holderOf_modify {id : WindowId} {change : Window κ → Window κ}
    (kept : ∀ w, (change w).container = w.container) :
    (t.modify id change).holderOf = t.holderOf := by
  refine holderOf_of_map (get?_modify id change) fun j w => ?_
  split
  · exact kept w
  · rfl

theorem Tidy.holderOf_insert (tidy : t.Tidy) (w : Window κ) :
    (t.insert w).2.holderOf = Function.update t.holderOf (t.insert w).1 w.container := by
  funext j
  rw [Function.update_apply]
  unfold holderOf
  rw [tidy.get?_insert]
  split <;> rfl

theorem holderOf_remove (id : WindowId) :
    (t.remove id).2.holderOf = Function.update t.holderOf id none := by
  funext j
  rw [Function.update_apply]
  unfold holderOf
  cases named : t.get? id with
  | none =>
      rw [remove_of_none named]
      split
      · rename_i here
        rw [here, named]
        rfl
      · rfl
  | some w =>
      rw [get?_remove named]
      split
      · rfl
      · rw [Option.bind_map]
        congr 1
        funext x
        exact forgotten_container w.container id j x

theorem holderOf_relink {child : WindowId} {w : Window κ} (moving : t.get? child = some w)
    (container : Option WindowId) :
    (t.relink child container w).holderOf = Function.update t.holderOf child container := by
  funext j
  rw [Function.update_apply]
  unfold holderOf
  rw [get?_relink, Option.bind_map]
  split
  · rename_i here
    rw [here, moving]
    simp
  · rename_i other
    congr 1
    funext x
    simp [other]

/-- An operation gives one window another container at most. -/
theorem holderOf_step (tidy : t.Tidy) (op : Op κ) :
    (t.step op).state.holderOf =
      match t.moved? op with
      | some (id, holder) => Function.update t.holderOf id holder
      | none => t.holderOf := by
  have own (id : WindowId) (op : Window.Op κ) :
      (t.modify id fun w => (w.step op).state).holderOf = t.holderOf :=
    holderOf_modify fun w => congrArg Window.Links.container (Window.links_step op)
  cases op with
  | insert w => exact tidy.holderOf_insert w
  | remove id => exact holderOf_remove id
  | setContainer child container =>
      change (t.setContainer child container).state.holderOf = _
      cases free : t.linkable child container with
      | error refusal => rw [setContainer_of_refused free, moved?_of_refused free]
      | ok w =>
          rw [setContainer_of_linkable free, moved?_of_linkable free]
          exact holderOf_relink (linkable_eq_ok_iff.mp free).1 container
  | makeActive id =>
      change (t.makeActive id).state.holderOf = t.holderOf
      rw [makeActive_state]
      split
      · split
        · rfl
        · exact holderOf_of_map (get?_activate id _) fun j w => activated_container ..
      · rfl
  | destroy id =>
      change (t.destroy id).state.holderOf = t.holderOf
      rw [destroy_state]
      exact own id .destroy
  | complete owner attributes attached =>
      change (t.complete owner attributes attached).state.holderOf = t.holderOf
      rw [complete_state]
  | addWindow owner attributes attached =>
      change (t.addWindow owner attributes attached).state.holderOf = t.holderOf
      rw [addWindow_state]
  | window id op =>
      rw [window_state]
      exact own id op

/-- A window gets a container when it is taken in with it, or is put into it. -/
theorem moved?_cases {op : Op κ} {id host : WindowId} (moved : t.moved? op = some (id, some host)) :
    (∃ w, op = .insert w ∧ id = (t.insert w).1 ∧ w.container = some host) ∨
      ∃ w, op = .setContainer id (some host) ∧ t.linkable id (some host) = .ok w := by
  cases op with
  | insert w =>
      obtain ⟨new, brought⟩ := Prod.mk.inj (Option.some.inj moved)
      exact Or.inl ⟨w, rfl, new.symm, brought⟩
  | remove => cases moved
  | setContainer child container =>
      cases free : t.linkable child container with
      | error refusal => cases (moved?_of_refused free).symm.trans moved
      | ok w =>
          cases (moved?_of_linkable free).symm.trans moved
          exact Or.inr ⟨w, rfl, free⟩
  | makeActive | destroy | complete | addWindow | window => cases moved

/-! ## Histories -/

/-- A window that is taken in names no container, or one whose id the history gave out before. -/
def Native (ops : List (Op κ)) : Prop :=
  ∀ before w after, ops = before ++ .insert w :: after →
    ∀ host, w.container = some host → host ∈ empty.issued before

theorem Native.of_append {ops more : List (Op κ)} (native : Native (ops ++ more)) : Native ops := by
  rintro before w after rfl
  exact native before w (after ++ more) (by simp)

/-- Every container that is named was given out as an id, though it may be gone. -/
theorem holder_mem_issued {ops : List (Op κ)} (native : Native ops) {id host : WindowId}
    (named : (empty.run ops).holderOf id = some host) : host ∈ empty.issued ops := by
  induction ops using List.reverseRecOn generalizing id with
  | nil => cases named
  | append_singleton ops op ih =>
      rw [run_snoc, holderOf_step (tidy_run ops)] at named
      rw [issued_append]
      refine List.mem_append_left _ ?_
      cases moved : (empty.run ops).moved? op with
      | none =>
          rw [moved] at named
          exact ih native.of_append named
      | some change =>
          obtain ⟨j, holder⟩ := change
          simp only [moved, Function.update_apply] at named
          split at named
          · rw [named] at moved
            rcases moved?_cases moved with ⟨w, rfl, -, brought⟩ | ⟨w, -, free⟩
            · exact native ops w [] rfl host brought
            · obtain ⟨-, -, ends⟩ := linkable_eq_ok_iff.mp free
              obtain ⟨-, h, hosting, -⟩ := ends host rfl
              exact mem_issued_of_get? hosting
          · exact ih native.of_append named

end Hierarchy

end WindowPolicy
