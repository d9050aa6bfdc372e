/-
# WindowPolicy.Proofs.Hierarchy.Touch — what an operation can do to a window it does not name

Operations on a hierarchy write to windows that they do not name: a container forgets a
child, a sibling is deactivated. `Touch` lists everything that can happen to one window
while it is in a hierarchy, with what the operations check before: what is put into a
container, becomes one or becomes active is not destroyed. A fact about windows that no
touch can break holds of every window, however it is reached.

* `Touch`: one change to one window;
* `step_kinds`: under every id, an operation takes a window in, takes it out, or leaves it
  there, touched;
* `get?_survives`, `get?_origin`: the same told from before and from after.
-/
import WindowPolicy.Proofs.Hierarchy.Arena
import Mathlib.Logic.Relation

namespace WindowPolicy

set_option autoImplicit false

namespace Hierarchy

variable {κ : Type} {t : Hierarchy κ}

/-- A change that a window goes through. -/
inductive Touch : Window κ → Window κ → Prop
  /-- One of its own operations. -/
  | own (w : Window κ) (op : Window.Op κ) : Touch w (w.step op).state
  | placed {w : Window κ} (alive : w.destroyed = false) (container : Option WindowId) :
      Touch w (placed container w)
  | asHost {w : Window κ} (alive : w.destroyed = false) : Touch w (asHost w)
  /-- Its active child left. -/
  | forgotten (w : Window κ) : Touch w { w with activeChild := none }
  | choosing (w : Window κ) (child : WindowId) : Touch w (choosing child w)
  | activated {w : Window κ} (alive : w.destroyed = false) : Touch w (acting true w)
  /-- A sibling took its place. -/
  | deactivated (w : Window κ) : Touch w (acting false w)

/-- A window went through changes, one after the other, or none. -/
abbrev Touched : Window κ → Window κ → Prop := Relation.ReflTransGen Touch

/-! ## Changed links -/

theorem touched_forgotten (container : Option WindowId) (child id : WindowId) (w : Window κ) :
    Touched w (forgotten container child id w) := by
  unfold forgotten
  split
  · exact .single (.forgotten w)
  · exact .refl

theorem touched_relinked {child : WindowId} {container : Option WindowId} {w x : Window κ}
    (free : t.linkable child container = .ok w) {j : WindowId} (named : t.get? j = some x) :
    Touched x (relinked w.container container child j x) := by
  obtain ⟨moving, alive, ends⟩ := linkable_eq_ok_iff.mp free
  let left := if w.container = container then x else forgotten w.container child j x
  let moved := if j = child then placed container left else left
  have leaving : Touched x left := by
    dsimp only [left]
    split
    · exact .refl
    · exact touched_forgotten w.container child j x
  have moving : Touched left moved := by
    dsimp only [moved]
    split
    · rename_i self
      cases moving.symm.trans (self ▸ named)
      refine .single (.placed ?_ container)
      simpa [left, apply_ite Window.destroyed] using alive
    · exact .refl
  have hosting : Touched moved (if container = some j then asHost moved else moved) := by
    split
    · rename_i inside
      obtain ⟨-, host, found, alive⟩ := ends j inside
      cases found.symm.trans named
      refine .single (.asHost ?_)
      simpa [moved, left, apply_ite Window.destroyed] using alive
    · exact .refl
  exact (leaving.trans moving).trans hosting

theorem touched_activated {id : WindowId} {w x : Window κ} (chosen : t.get? id = some w)
    (alive : w.destroyed = false) (container sibling : Option WindowId) {j : WindowId}
    (named : t.get? j = some x) : Touched x (activated container sibling id j x) := by
  let told := if container = some j then choosing id x else x
  let alone := if sibling = some j then acting false told else told
  have telling : Touched x told := by
    dsimp only [told]
    split
    · exact .single (.choosing x id)
    · exact .refl
  have displacing : Touched told alone := by
    dsimp only [alone]
    split
    · exact .single (.deactivated told)
    · exact .refl
  have choosing : Touched alone (if j = id then acting true alone else alone) := by
    split
    · rename_i self
      cases chosen.symm.trans (self ▸ named)
      refine .single (.activated ?_)
      simpa [alone, told, apply_ite Window.destroyed] using alive
    · exact .refl
  exact (telling.trans displacing).trans choosing

/-! ## One operation -/

theorem rel_of_map {j : WindowId} {t' : Hierarchy κ} {change : Window κ → Window κ}
    (view : t'.get? j = (t.get? j).map change)
    (each : ∀ w, t.get? j = some w → Touched w (change w)) :
    Option.Rel Touched (t.get? j) (t'.get? j) := by
  rw [view]
  cases named : t.get? j with
  | none => exact .none
  | some w => exact .some (each w named)

theorem rel_refl (j : WindowId) : Option.Rel Touched (t.get? j) (t.get? j) := by
  cases t.get? j with
  | none => exact .none
  | some w => exact .some .refl

theorem rel_modify {id : WindowId} {change : Window κ → Window κ} (each : ∀ w, Touched w (change w))
    (j : WindowId) : Option.Rel Touched (t.get? j) ((t.modify id change).get? j) := by
  refine rel_of_map (get?_modify id change j) fun w _ => ?_
  split
  · exact each w
  · exact .refl

/-- Where nothing comes and nothing goes every window stays, touched. -/
theorem Change.rel {t' : Hierarchy κ} (change : t.Change t') (j : WindowId) :
    Option.Rel Touched (t.get? j) (t'.get? j) := by
  cases change with
  | none => exact rel_refl j
  | @linked child container w free =>
      exact rel_of_map (get?_relink child container w j) fun x => touched_relinked free
  | @activated id w chosen alive =>
      exact rel_of_map (get?_activate id w j) fun x =>
        touched_activated chosen alive w.container (t.displaced? id w)
  | own id op => exact rel_modify (fun w => .single (.own w op)) j

/-- What happens under an id: a window comes, or goes, or is touched where it is. -/
theorem step_kinds (tidy : t.Tidy) (op : Op κ) (j : WindowId) :
    (∃ w, op = .insert w ∧ t.get? j = none ∧ (t.step op).state.get? j = some w) ∨
      (op = .remove j ∧ (t.step op).state.get? j = none) ∨
      Option.Rel Touched (t.get? j) ((t.step op).state.get? j) := by
  rcases op.kinds with ⟨w, rfl⟩ | ⟨id, rfl⟩ | internal
  · have view : (t.step (.insert w)).state.get? j =
        if j = (t.insert w).1 then some w else t.get? j := tidy.get?_insert w j
    rw [view]
    split
    · rename_i new
      exact Or.inl ⟨w, rfl, new ▸ tidy.get?_nextId w, rfl⟩
    · exact Or.inr (Or.inr (rel_refl j))
  · refine Or.inr ?_
    cases gone : t.get? id with
    | none =>
        have still : (t.step (.remove id)).state = t := congrArg Prod.snd (remove_of_none gone)
        rw [still]
        exact Or.inr (rel_refl j)
    | some w =>
        have view : (t.step (.remove id)).state.get? j =
            if j = id then none else (t.get? j).map (forgotten w.container id j) :=
          get?_remove gone j
        by_cases self : j = id
        · rw [if_pos self] at view
          exact Or.inl ⟨by rw [self], view⟩
        · rw [if_neg self] at view
          exact Or.inr (rel_of_map view fun x _ => touched_forgotten w.container id j x)
  · exact Or.inr (Or.inr (internal.change.rel j))

/-- A window stays under its id, touched, unless it is taken out. -/
theorem get?_survives (tidy : t.Tidy) {op : Op κ} {j : WindowId} {w : Window κ}
    (named : t.get? j = some w) (stays : op ≠ .remove j) :
    ∃ x, (t.step op).state.get? j = some x ∧ Touched w x := by
  rcases step_kinds tidy op j with ⟨_, -, vacant, -⟩ | ⟨leaves, -⟩ | touched
  · cases vacant.symm.trans named
  · exact absurd leaves stays
  · rw [named] at touched
    generalize (t.step op).state.get? j = after at touched ⊢
    cases touched with
    | some touched => exact ⟨_, rfl, touched⟩

/-- A window was taken in just now, or was there and is touched. -/
theorem get?_origin (tidy : t.Tidy) {op : Op κ} {j : WindowId} {x : Window κ}
    (after : (t.step op).state.get? j = some x) :
    op = .insert x ∨ ∃ w, t.get? j = some w ∧ Touched w x := by
  rcases step_kinds tidy op j with ⟨w, rfl, -, new⟩ | ⟨-, gone⟩ | touched
  · cases new.symm.trans after
    exact Or.inl rfl
  · cases gone.symm.trans after
  · rw [after] at touched
    generalize t.get? j = before at touched
    cases touched with
    | some touched => exact Or.inr ⟨_, rfl, touched⟩

end Hierarchy

end WindowPolicy
