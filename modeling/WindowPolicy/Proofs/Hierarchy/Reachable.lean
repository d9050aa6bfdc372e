/-
# WindowPolicy.Proofs.Hierarchy.Reachable — what can be held

A client holds windows and hierarchies. Windows are created, operated on, taken into a
hierarchy and taken out again, and may then go into another one. `Reachable` says how
anything that is held came about, for windows on their own and windows in a hierarchy at
once, since either may have been the other before.

* `Held`, `Reachable`: what is held, and how;
* `Reachable.all`: a fact about new windows that no touch breaks holds of every window;
* `Reachable.run`, `Reachable.history`: histories as lists lead to what can be held.
-/
import WindowPolicy.Proofs.Hierarchy.Touch
import Mathlib.Data.List.Basic

namespace WindowPolicy

set_option autoImplicit false

variable {κ : Type}

/-- What a client holds. -/
inductive Held (κ : Type) where
  | window (w : Window κ)
  | hierarchy (t : Hierarchy κ)

/-- Everything that can be held. -/
inductive Reachable : Held κ → Prop
  | created (context : κ) (defaults : Features) : Reachable (.window (.create context defaults))
  /-- A window on its own, after one of its operations. -/
  | operated {w : Window κ} (held : Reachable (.window w)) (op : Window.Op κ) :
      Reachable (.window (w.step op).state)
  | empty : Reachable (.hierarchy .empty)
  /-- A window that is held is taken in. -/
  | taken {t : Hierarchy κ} {w : Window κ} (hierarchy : Reachable (.hierarchy t))
      (window : Reachable (.window w)) : Reachable (.hierarchy (t.step (.insert w)).state)
  /-- Any other operation on a hierarchy. -/
  | acted {t : Hierarchy κ} (held : Reachable (.hierarchy t)) {op : Hierarchy.Op κ}
      (other : ∀ w, op ≠ .insert w) : Reachable (.hierarchy (t.step op).state)
  /-- A window that was taken out is held on its own. -/
  | left {t : Hierarchy κ} {w : Window κ} (held : Reachable (.hierarchy t)) {id : WindowId}
      (gone : (t.remove id).1 = some w) : Reachable (.window w)

/-- Every window that is held, alone or in a hierarchy. -/
def Held.All (P : Window κ → Prop) : Held κ → Prop
  | .window w => P w
  | .hierarchy t => ∀ id w, t.get? id = some w → P w

theorem Held.All.imp {P Q : Window κ → Prop} {held : Held κ} (all : held.All P)
    (weaker : ∀ w, P w → Q w) : held.All Q := by
  cases held with
  | window w => exact weaker w all
  | hierarchy t => exact fun id w named => weaker w (all id w named)

/-- The window that an operation takes in. -/
def Hierarchy.Op.taken? : Hierarchy.Op κ → Option (Window κ)
  | .insert w => some w
  | _ => none

namespace Reachable

open Hierarchy

/-- Every hierarchy that is held is tidy. -/
theorem tidy {t : Hierarchy κ} (reached : Reachable (.hierarchy t)) : t.Tidy := by
  generalize same : Held.hierarchy t = held at reached
  induction reached generalizing t with
  | created | operated | left => cases same
  | empty =>
      cases same
      exact tidy_empty
  | taken _ _ ih =>
      cases same
      exact (ih rfl).step (.insert _)
  | acted _ _ ih =>
      cases same
      exact (ih rfl).step _

/-- What new windows satisfy and no touch breaks is satisfied by every window held. -/
theorem all {P : Window κ → Prop} (created : ∀ context defaults, P (.create context defaults))
    (touch : ∀ {w x : Window κ}, P w → Touch w x → P x) {held : Held κ} (reached : Reachable held) :
    held.All P := by
  have touched {w x : Window κ} (holds : P w) (path : Touched w x) : P x := by
    induction path with
    | refl => exact holds
    | tail _ last ih => exact touch ih last
  induction reached with
  | created context defaults => exact created context defaults
  | operated _ op ih => exact touch ih (.own _ op)
  | empty => exact fun id w named => by cases named
  | @taken t w hierarchy _ ih holds =>
      intro id x after
      rcases get?_origin hierarchy.tidy after with new | ⟨y, named, path⟩
      · cases new
        exact holds
      · exact touched (ih id y named) path
  | @acted t held op other ih =>
      intro id x after
      rcases get?_origin held.tidy after with new | ⟨y, named, path⟩
      · exact absurd new (other x)
      · exact touched (ih id y named) path
  | @left t w _ id gone ih => exact ih id w ((remove_answer id).symm.trans gone)

/-- A history of a hierarchy, as long as the windows taken in are held. -/
theorem run {t : Hierarchy κ} (reached : Reachable (.hierarchy t)) {ops : List (Hierarchy.Op κ)}
    (taken : ∀ w, .insert w ∈ ops → Reachable (.window w)) :
    Reachable (.hierarchy (t.run ops)) := by
  induction ops generalizing t with
  | nil => exact reached
  | cons op ops ih =>
      refine ih ?_ fun w later => taken w (List.mem_cons_of_mem op later)
      by_cases other : ∀ w, op ≠ .insert w
      · exact reached.acted other
      · simp only [not_forall, not_not] at other
        obtain ⟨w, rfl⟩ := other
        exact reached.taken (taken w List.mem_cons_self)

/-- A history from the beginning, given the windows that it takes in, one by one. -/
theorem history {ops : List (Hierarchy.Op κ)}
    (taken : (ops.filterMap Op.taken?).Forall fun w => Reachable (.window w)) :
    Reachable (.hierarchy (Hierarchy.empty.run ops)) :=
  empty.run fun w member =>
    List.forall_iff_forall_mem.mp taken w (List.mem_filterMap.mpr ⟨.insert w, member, rfl⟩)

end Reachable

end WindowPolicy
