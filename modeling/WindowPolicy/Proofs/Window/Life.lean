/-
# WindowPolicy.Proofs.Window.Life — what a window did, wherever it was

A window lives on its own, in a hierarchy, outside again and in the next one. Its life is told
by its deeds: the operations of its own that it went through in all these places, each with the
answer that was given and the calls that were made. A hierarchy writes to the windows that it
holds without asking them, but only to their features and links. What else there is to a window,
its `core`, changes by its deeds alone.

* `core_relinked`, `core_activated`, `core_forgotten`: what a hierarchy does not write to;
* `Deed`, `Place.Does`, `Place.Lives`: one step, and many, with the deeds that tell them;
* `Place.Occupied.does`: a deed is done by the window, and everything else leaves its core;
* `Place.Lives.tells`, `Place.Lived.tells`: what follows from that for a whole life;
* `Place.Occupied.later_iff`: no history is left out;
* `Reachable.lives`: every window that is held has lived since it was created.
-/
import WindowPolicy.Proofs.Window.Destroyed

namespace WindowPolicy

set_option autoImplicit false

variable {κ : Type}

/-! ## The core of a window -/

/-- The window without its features and links. -/
def Window.core (w : Window κ) : Window κ :=
  { w with
    features := .ofDefaults ∅
    container := none
    activeChild := none
    isActive := false
    hasChildren := false }

namespace Hierarchy

variable (container sibling : Option WindowId) (child id : WindowId) (w : Window κ)

@[simp] theorem core_forgotten : (forgotten container child id w).core = w.core := by
  unfold forgotten
  split <;> rfl

@[simp] theorem core_placed : (placed container w).core = w.core := by
  cases container <;> rfl

@[simp] theorem core_relinked (previous : Option WindowId) :
    (relinked previous container child id w).core = w.core := by
  have hosted (w : Window κ) : (asHost w).core = w.core := rfl
  unfold relinked
  simp only [apply_ite Window.core, hosted, core_placed, core_forgotten, ite_self]

@[simp] theorem core_activated : (activated container sibling child id w).core = w.core := by
  have told (w : Window κ) : (choosing child w).core = w.core := rfl
  have acted (active : Bool) (w : Window κ) : (acting active w).core = w.core := rfl
  unfold activated
  simp only [apply_ite Window.core, told, acted, ite_self]

end Hierarchy

/-! ## Deeds -/

/-- An operation that a window went through, with what was answered and who was called. -/
structure Deed (κ : Type) where
  op : Window.Op κ
  answer : Except Refusal (Window.Answer κ)
  calls : List (Call κ)

namespace Window

/-- The deed that an operation is when this window does it. -/
def deed (w : Window κ) (op : Op κ) : Deed κ :=
  { op, answer := (w.step op).answer, calls := (w.step op).calls }

/-- What becomes of a window in one step: it does a deed, or its core is left as it is. -/
inductive Passes (w : Window κ) : Option (Deed κ) → Window κ → Prop
  | own (op : Op κ) : Passes w (some (w.deed op)) (w.step op).state
  | apart {x : Window κ} (same : x.core = w.core) : Passes w none x

theorem Passes.state {w x : Window κ} {op : Op κ} (passes : w.Passes (some (w.deed op)) x) :
    x = (w.step op).state := by
  generalize done : some (w.deed op) = deed at passes
  cases passes with
  | own op' =>
      have same := congrArg Deed.op (Option.some.inj done)
      exact congrArg (fun op => (w.step op).state) same.symm
  | apart => cases done

theorem Passes.core {w x : Window κ} (passes : w.Passes none x) : x.core = w.core := by
  cases passes with
  | apart same => exact same

end Window

namespace Hierarchy

variable {t : Hierarchy κ}

/-- The operation that the window under an id goes through when its hierarchy does one. -/
def Op.own? (id : WindowId) : Op κ → Option (Window.Op κ)
  | .window j op => if j = id then some op else none
  | .destroy j => if j = id then some .destroy else none
  | _ => none

theorem Op.own?_eq_some {id : WindowId} {op : Op κ} {own : Window.Op κ}
    (same : op.own? id = some own) : op = .window id own ∨ op = .destroy id ∧ own = .destroy := by
  cases op with
  | window j op =>
      obtain ⟨rfl, chosen⟩ := Option.ite_none_right_eq_some.mp same
      cases chosen
      exact Or.inl rfl
  | destroy j =>
      obtain ⟨rfl, chosen⟩ := Option.ite_none_right_eq_some.mp same
      cases chosen
      exact Or.inr ⟨rfl, rfl⟩
  | _ => cases same

/-- Nothing is left under the id of a window that was taken out. -/
theorem get?_remove_self (id : WindowId) : (t.remove id).2.get? id = none := by
  cases named : t.get? id with
  | none => rw [remove_of_none named, named]
  | some w => rw [get?_remove named, if_pos rfl]

theorem passes_modify {id j : WindowId} {w : Window κ} (named : t.get? id = some w)
    (op : Window.Op κ) :
    ∃ x, (t.modify j fun w => (w.step op).state).get? id = some x ∧
      w.Passes ((if j = id then some op else none).map w.deed) x := by
  rw [get?_modify, named]
  by_cases self : j = id
  · rw [if_pos self]
    exact ⟨(w.step op).state, by simp [self], .own op⟩
  · rw [if_neg self]
    exact ⟨w, by simp [Ne.symm self], .apart rfl⟩

/-- An operation that does not take a window out of its hierarchy is its deed or leaves its
core. -/
theorem passes_step (tidy : t.Tidy) {id : WindowId} {w : Window κ} (named : t.get? id = some w)
    {op : Op κ} (stays : op ≠ .remove id) :
    ∃ x, (t.step op).state.get? id = some x ∧ w.Passes ((op.own? id).map w.deed) x := by
  have still {u : Hierarchy κ} (same : u = t) : ∃ x, u.get? id = some x ∧ w.Passes none x :=
    ⟨w, same ▸ named, .apart rfl⟩
  cases op with
  | insert new =>
      refine ⟨w, ?_, .apart rfl⟩
      exact tidy.get?_insert_eq_some_iff.mpr (Or.inr named)
  | remove j =>
      cases gone : t.get? j with
      | none => exact still (congrArg Prod.snd (remove_of_none gone))
      | some y =>
          have other : id ≠ j := fun same => stays (same ▸ rfl)
          have view : (t.step (.remove j)).state.get? id =
              if id = j then none else (t.get? id).map (forgotten y.container j id) :=
            get?_remove gone id
          rw [if_neg other, named] at view
          exact ⟨_, view, .apart (core_forgotten y.container j id w)⟩
  | setContainer child container =>
      change ∃ x, (t.setContainer child container).state.get? id = some x ∧ _
      cases free : t.linkable child container with
      | error refusal =>
          rw [setContainer_of_refused free]
          exact still rfl
      | ok y =>
          rw [setContainer_of_linkable free, get?_relink, named]
          exact ⟨_, rfl, .apart (core_relinked container child id w y.container)⟩
  | makeActive j =>
      change ∃ x, (t.makeActive j).state.get? id = some x ∧ _
      rw [makeActive_state]
      split
      · rename_i y chosen
        split
        · exact still rfl
        · rw [get?_activate, named]
          exact ⟨_, rfl, .apart (core_activated y.container _ j id w)⟩
      · exact still rfl
  | destroy j =>
      change ∃ x, (t.destroy j).state.get? id = some x ∧ _
      rw [destroy_state]
      exact passes_modify named .destroy
  | complete owner attributes attached => exact still (complete_state owner attributes attached)
  | addWindow owner attributes attached => exact still (addWindow_state owner attributes attached)
  | window j op =>
      rw [window_state]
      exact passes_modify named op

end Hierarchy

/-! ## Lives -/

namespace Place

variable {p q r : Place κ} {w : Window κ}

/-- What may happen next, and the deed of the window that it is, if it is one. -/
inductive Does : Place κ → Option (Deed κ) → Place κ → Prop
  | own (w : Window κ) (op : Window.Op κ) :
      Does (alone w) (some (w.deed op)) (alone (w.step op).state)
  | enters {t : Hierarchy κ} (held : Reachable (.hierarchy t)) (w : Window κ) :
      Does (alone w) none (within (t.insert w).2 (t.insert w).1)
  | acts {t : Hierarchy κ} {id : WindowId} {w : Window κ} (named : t.get? id = some w)
      {op : Hierarchy.Op κ} (stays : op ≠ .remove id) :
      Does (within t id) ((op.own? id).map w.deed) (within (t.step op).state id)
  | leaves {t : Hierarchy κ} {id : WindowId} {w : Window κ} (gone : (t.remove id).1 = some w) :
      Does (within t id) none (alone w)

theorem Reached.occupied (reached : p.Reached) (here : p.window? = some w) : p.Occupied w := by
  cases p with
  | alone w =>
      cases here
      exact .alone w
  | within t id => exact .within reached.1.tidy here

theorem Does.next {deed : Option (Deed κ)} (does : p.Does deed q) : p.Next q := by
  cases does with
  | own w op => exact .own w op
  | enters held w => exact .enters held w
  | acts _ stays => exact .acts _ _ stays
  | leaves gone => exact .leaves gone

theorem Occupied.does_of_next (occupied : p.Occupied w) (next : p.Next q) :
    ∃ deed, p.Does deed q := by
  cases next with
  | own w op => exact ⟨_, .own w op⟩
  | enters held w => exact ⟨_, .enters held w⟩
  | acts t id stays =>
      cases occupied with
      | within _ named => exact ⟨_, .acts named stays⟩
  | leaves gone => exact ⟨_, .leaves gone⟩

/-- A deed is done by the window that is there. Everything else leaves its core. -/
theorem Occupied.does {deed : Option (Deed κ)} (occupied : p.Occupied w) (does : p.Does deed q) :
    ∃ x, q.Occupied x ∧ w.Passes deed x := by
  cases does with
  | own w op =>
      cases occupied
      exact ⟨_, .alone _, .own op⟩
  | @enters t held w =>
      cases occupied
      refine ⟨w, .within (held.tidy.insert w) ?_, .apart rfl⟩
      rw [held.tidy.get?_insert, if_pos rfl]
  | acts named stays =>
      cases occupied with
      | within tidy named' =>
          cases named.symm.trans named'
          obtain ⟨x, after, passes⟩ := Hierarchy.passes_step tidy named stays
          exact ⟨x, .within (tidy.step _) after, passes⟩
  | leaves gone =>
      cases occupied with
      | within tidy named =>
          rw [Hierarchy.remove_answer, named] at gone
          cases gone
          exact ⟨w, .alone w, .apart rfl⟩

/-- What may happen later, told by the deeds of the window from first to last. -/
inductive Lives (p : Place κ) : List (Deed κ) → Place κ → Prop
  | refl : Lives p [] p
  | tail {deeds : List (Deed κ)} {deed : Option (Deed κ)} {q r : Place κ}
      (past : Lives p deeds q) (does : q.Does deed r) : Lives p (deeds ++ deed.toList) r

/-- Whatever may happen later is told by deeds. -/
theorem Occupied.later_iff (occupied : p.Occupied w) :
    p.Later q ↔ ∃ deeds, p.Lives deeds q := by
  constructor
  · intro path
    induction path with
    | refl => exact ⟨[], .refl⟩
    | tail path last ih =>
        obtain ⟨deeds, lives⟩ := ih
        obtain ⟨x, there, -⟩ := occupied.later path
        obtain ⟨deed, does⟩ := there.does_of_next last
        exact ⟨_, lives.tail does⟩
  · rintro ⟨deeds, lives⟩
    induction lives with
    | refl => exact .refl
    | tail _ does ih => exact ih.tail does.next

/-- What a window satisfies at first, every deed carries over, and only depends on the core, is
satisfied whatever it lived through. -/
theorem Lives.tells {P : List (Deed κ) → Window κ → Prop} (start : P [] w)
    (own : ∀ {deeds w} (op : Window.Op κ), P deeds w → P (deeds ++ [w.deed op]) (w.step op).state)
    (apart : ∀ {deeds w x}, x.core = w.core → P deeds w → P deeds x) (occupied : p.Occupied w)
    {deeds : List (Deed κ)} (lives : p.Lives deeds q) : ∃ x, q.Occupied x ∧ P deeds x := by
  induction lives with
  | refl => exact ⟨w, occupied, start⟩
  | tail _ does ih =>
      obtain ⟨x, there, holds⟩ := ih
      obtain ⟨y, now, passes⟩ := there.does does
      refine ⟨y, now, ?_⟩
      cases passes with
      | own op => exact own op holds
      | apart same => simpa using apart same holds

end Place

/-! ## Every window has a life -/

namespace Place

variable {p q : Place κ} {deeds : List (Deed κ)}

/-- What a window did since it was created has led it here. -/
def Lived (p : Place κ) (deeds : List (Deed κ)) : Prop :=
  ∃ context defaults, (alone (.create context defaults)).Lives deeds p

theorem Lived.tail {deed : Option (Deed κ)} (lived : p.Lived deeds) (does : p.Does deed q) :
    q.Lived (deeds ++ deed.toList) := by
  obtain ⟨context, defaults, lives⟩ := lived
  exact ⟨context, defaults, lives.tail does⟩

/-- What new windows satisfy, every deed carries over, and only depends on the core, is
satisfied by a window and all that it did. -/
theorem Lived.tells {P : List (Deed κ) → Window κ → Prop}
    (created : ∀ context defaults, P [] (.create context defaults))
    (own : ∀ {deeds w} (op : Window.Op κ), P deeds w → P (deeds ++ [w.deed op]) (w.step op).state)
    (apart : ∀ {deeds w x}, x.core = w.core → P deeds w → P deeds x) (lived : p.Lived deeds) :
    ∃ w, p.Occupied w ∧ P deeds w := by
  obtain ⟨context, defaults, lives⟩ := lived
  exact lives.tells (created context defaults) own apart (.alone _)

end Place

/-- The deeds of a window that goes through operations on its own. -/
def Window.deeds (w : Window κ) : List (Window.Op κ) → List (Deed κ)
  | [] => []
  | op :: ops => w.deed op :: (w.step op).state.deeds ops

namespace Place

theorem Lives.run {p : Place κ} {w : Window κ} {deeds : List (Deed κ)}
    (lives : p.Lives deeds (alone w)) (ops : List (Window.Op κ)) :
    p.Lives (deeds ++ w.deeds ops) (alone (w.run ops)) := by
  induction ops generalizing w deeds with
  | nil => simpa [Window.deeds, Window.run] using lives
  | cons op ops ih => simpa [Window.deeds, Window.run] using ih (lives.tail (.own w op))

/-- A new window that goes through operations has lived by just them. -/
theorem lived_run (context : κ) (defaults : Features) (ops : List (Window.Op κ)) :
    (alone ((Window.create context defaults).run ops)).Lived
      ((Window.create context defaults).deeds ops) :=
  ⟨context, defaults, Lives.refl.run ops⟩

end Place

/-- Every window that is held has come there by what it did. -/
def Held.Lived : Held κ → Prop
  | .window w => ∃ deeds, (Place.alone w).Lived deeds
  | .hierarchy t => ∀ id w, t.get? id = some w → ∃ deeds, (Place.within t id).Lived deeds

theorem Reachable.lived {held : Held κ} (reached : Reachable held) : held.Lived := by
  induction reached with
  | created context defaults => exact ⟨[], context, defaults, .refl⟩
  | operated _ op ih =>
      obtain ⟨deeds, lived⟩ := ih
      exact ⟨_, lived.tail (.own _ op)⟩
  | empty => exact fun id w named => by cases named
  | @taken t w hierarchy _ ih lived =>
      intro id x after
      rcases hierarchy.tidy.get?_insert_eq_some_iff.mp after with ⟨rfl, -⟩ | named
      · obtain ⟨deeds, lived⟩ := lived
        exact ⟨_, lived.tail (.enters hierarchy w)⟩
      · obtain ⟨deeds, lived⟩ := ih id x named
        have stays : Hierarchy.Op.insert w ≠ .remove id := by simp
        exact ⟨_, lived.tail (.acts named stays)⟩
  | @acted t held op other ih =>
      intro id x after
      have stays : op ≠ .remove id := by
        rintro rfl
        cases (Hierarchy.get?_remove_self id).symm.trans after
      rcases Hierarchy.get?_origin held.tidy after with new | ⟨w, named, -⟩
      · exact absurd new (other x)
      · obtain ⟨deeds, lived⟩ := ih id w named
        exact ⟨_, lived.tail (.acts named stays)⟩
  | @left t w _ id gone ih =>
      obtain ⟨deeds, lived⟩ := ih id w ((Hierarchy.remove_answer id).symm.trans gone)
      exact ⟨_, lived.tail (.leaves gone)⟩

end WindowPolicy
