/-
# WindowPolicy.Proofs.Hierarchy.Nesting — windows inside one another

A window is inside its container, inside the container of that one, and so on. An operation
moves one window at most, and looks no further than to the two windows that it is about: a
window is not put into itself, but it may be put into a window that is inside it. Then the
windows from there up to it hold one another in a circle. Nothing else closes one, so that a
history in which no window is put into what it holds leaves a forest.

* `NoCircle`, `noCircle_update_iff`: pointers without a circle, one of which is changed;
* `Forest`, `Closes`, `forest_step_iff`: the operation that closes a circle, and no other one does;
* `Native.setContainer_of_closes`, `Native.holderOf_ne_self`: what does not happen within one
  hierarchy;
* `forest_unless_closed`: forests over histories;
* `circle_closed`: two windows that are put into each other.
-/
import WindowPolicy.Proofs.Hierarchy.Activation
import Mathlib.Logic.Relation

namespace WindowPolicy

set_option autoImplicit false

/-! ## Pointers -/

section Pointers

variable {α : Type} {next : α → Option α} {u v : α}

/-- The pointer of `a` leads to `b`. -/
def Leads (next : α → Option α) (a b : α) : Prop := next a = some b

/-- Nothing is come back to by following pointers. -/
def NoCircle (next : α → Option α) : Prop := ∀ a, ¬Relation.TransGen (Leads next) a a

theorem not_transGen_of_none {a b : α} (ends : next a = none) :
    ¬Relation.TransGen (Leads next) a b := by
  intro way
  obtain ⟨c, first, -⟩ := Relation.TransGen.head'_iff.mp way
  cases ends.symm.trans first

/-- A way that uses a new pointer from `u` to `v` leads to `u` without it, and from `v`. -/
theorem transGen_of_pointer {other : α → Option α}
    (old_or_new : ∀ a b, Leads other a b → Leads next a b ∨ a = u ∧ b = v) {a b : α}
    (way : Relation.TransGen (Leads other) a b) :
    Relation.TransGen (Leads next) a b ∨
      Relation.ReflTransGen (Leads next) a u ∧ Relation.ReflTransGen (Leads next) v b := by
  induction way with
  | single first =>
      rcases old_or_new _ _ first with old | ⟨rfl, rfl⟩
      · exact Or.inl (.single old)
      · exact Or.inr ⟨.refl, .refl⟩
  | tail _ last ih =>
      rcases old_or_new _ _ last with old | ⟨rfl, rfl⟩
      · rcases ih with way | ⟨there, onward⟩
        · exact Or.inl (way.tail old)
        · exact Or.inr ⟨there, onward.tail old⟩
      · rcases ih with way | ⟨there, -⟩
        · exact Or.inr ⟨way.to_reflTransGen, .refl⟩
        · exact Or.inr ⟨there, .refl⟩

variable [DecidableEq α]

/-- A way to `u` does not need the pointer of `u`. -/
theorem reflTransGen_update {a : α} (way : Relation.ReflTransGen (Leads next) a u)
    (pointer : Option α) :
    Relation.ReflTransGen (Leads (Function.update next u pointer)) a u := by
  induction way using Relation.ReflTransGen.head_induction_on with
  | refl => exact .refl
  | @head a b first _ ih =>
      by_cases arrived : a = u
      · rw [arrived]
      · refine .head ?_ ih
        rw [Leads, Function.update_of_ne arrived]
        exact first

/-- A pointer that is changed closes a circle exactly if there was a way back from where it leads
to now. -/
theorem noCircle_update_iff (before : NoCircle next) (pointer : Option α) :
    NoCircle (Function.update next u pointer) ↔
      ∀ v, pointer = some v → ¬Relation.ReflTransGen (Leads next) v u := by
  constructor
  · rintro still v rfl back
    refine still u (.head' ?_ (reflTransGen_update back _))
    rw [Leads, Function.update_self]
  · intro away a circle
    cases pointer with
    | none =>
        refine before a (Relation.TransGen.mono (fun b c leads => ?_) a a circle)
        rw [Leads, Function.update_apply] at leads
        split at leads
        · cases leads
        · exact leads
    | some v =>
        have old_or_new : ∀ b c, Leads (Function.update next u (some v)) b c →
            Leads next b c ∨ b = u ∧ c = v := by
          intro b c leads
          rw [Leads, Function.update_apply] at leads
          split at leads
          · rename_i here
            exact Or.inr ⟨here, (Option.some.inj leads).symm⟩
          · exact Or.inl leads
        rcases transGen_of_pointer old_or_new circle with old | ⟨there, onward⟩
        · exact before a old
        · exact away v rfl (onward.trans there)

end Pointers

namespace Hierarchy

variable {κ : Type} {t : Hierarchy κ}

/-! ## One operation -/

/-- No window is inside itself: following containers from one that is there, through windows
that are there, never leads back to it. -/
def Forest (t : Hierarchy κ) : Prop := NoCircle t.holderOf

/-- The operation gives a window a container that is inside it, or is the window itself. -/
def Closes (t : Hierarchy κ) (op : Op κ) : Prop :=
  ∃ id host, t.moved? op = some (id, some host) ∧
    Relation.ReflTransGen (Leads t.holderOf) host id

theorem forest_empty : (empty : Hierarchy κ).Forest := fun _ => not_transGen_of_none rfl

/-- An operation leaves a forest unless it closes a circle. -/
theorem forest_step_iff (tidy : t.Tidy) (forest : t.Forest) (op : Op κ) :
    (t.step op).state.Forest ↔ ¬t.Closes op := by
  unfold Forest Closes
  rw [holderOf_step tidy]
  cases moved : t.moved? op with
  | none => exact iff_of_true forest (by simp)
  | some change =>
      obtain ⟨id, holder⟩ := change
      dsimp only
      rw [noCircle_update_iff forest]
      constructor
      · rintro away ⟨j, host, same, back⟩
        cases same
        exact away host rfl back
      · rintro unclosed host rfl back
        exact unclosed ⟨id, host, rfl, back⟩

/-- Putting a window into another one closes a circle exactly if it is done and the other one is
inside it. That a window is put into itself is refused. -/
theorem closes_setContainer_iff {child : WindowId} {container : Option WindowId} :
    t.Closes (.setContainer child container) ↔
      (t.setContainer child container).answer = .ok () ∧
        ∃ host, container = some host ∧ Relation.TransGen (Leads t.holderOf) host child := by
  rw [setContainer_answer_eq_ok_iff]
  constructor
  · rintro ⟨id, host, moved, back⟩
    rcases moved?_cases moved with ⟨w, impossible, -⟩ | ⟨w, same, free⟩
    · cases impossible
    · cases same
      obtain ⟨-, -, ends⟩ := linkable_eq_ok_iff.mp free
      refine ⟨⟨w, free⟩, host, rfl, ?_⟩
      rcases Relation.reflTransGen_iff_eq_or_transGen.mp back with itself | way
      · exact absurd itself.symm (ends host rfl).1
      · exact way
  · rintro ⟨⟨w, free⟩, host, rfl, way⟩
    exact ⟨child, host, moved?_of_linkable free, way.to_reflTransGen⟩

/-! ## Histories -/

/-- A history that closes no circle leaves a forest. -/
theorem forest_run {ops : List (Op κ)} (unclosed : ∀ m ∈ empty.moments ops, ¬m.before.Closes m.op) :
    (empty.run ops).Forest := by
  induction ops using List.reverseRecOn with
  | nil => exact forest_empty
  | append_singleton ops op ih =>
      rw [moments_append_singleton] at unclosed
      have forest := ih fun m earlier => unclosed m (List.mem_append_left _ earlier)
      rw [run_snoc, forest_step_iff (tidy_run ops) forest]
      exact unclosed ⟨empty.run ops, op⟩ (by simp)

section Native

variable {ops : List (Op κ)}

/-- A window is taken in under an id that it does not name, and no other window does. -/
theorem Native.not_leads_new {w : Window κ} (native : Native (ops ++ [.insert w]))
    (sparse : ∀ slot, empty.fills (ops ++ [.insert w]) slot < UInt32.size) {host : WindowId}
    (brought : w.container = some host) :
    ¬Relation.ReflTransGen (Leads (empty.run ops).holderOf) host ((empty.run ops).insert w).1 := by
  intro back
  have fresh := insert_not_mem_issued sparse
  rcases Relation.ReflTransGen.cases_tail back with itself | ⟨j, -, last⟩
  · exact fresh (itself ▸ native ops w [] rfl host brought)
  · exact fresh (holder_mem_issued native.of_append last)

/-- Only putting a window into another one closes a circle. -/
theorem Native.setContainer_of_closes {op : Op κ} (native : Native (ops ++ [op]))
    (sparse : ∀ slot, empty.fills (ops ++ [op]) slot < UInt32.size)
    (closes : (empty.run ops).Closes op) :
    ∃ child container, op = .setContainer child container := by
  obtain ⟨id, host, moved, back⟩ := closes
  rcases moved?_cases moved with ⟨w, rfl, rfl, brought⟩ | ⟨w, rfl, -⟩
  · exact absurd back (native.not_leads_new sparse brought)
  · exact ⟨id, some host, rfl⟩

/-- No window is its own container. -/
theorem Native.holderOf_ne_self (native : Native ops)
    (sparse : ∀ slot, empty.fills ops slot < UInt32.size) (id : WindowId) :
    (empty.run ops).holderOf id ≠ some id := by
  induction ops using List.reverseRecOn with
  | nil => simp [holderOf, get?, empty]
  | append_singleton ops op ih =>
      have before := ih native.of_append (fills_lt_of_append sparse)
      rw [run_snoc, holderOf_step (tidy_run ops)]
      cases moved : (empty.run ops).moved? op with
      | none => exact before
      | some change =>
          obtain ⟨j, holder⟩ := change
          simp only [Function.update_apply]
          split
          · rename_i here
            rintro rfl
            rcases moved?_cases moved with ⟨w, rfl, rfl, brought⟩ | ⟨w, -, free⟩
            · exact native.not_leads_new sparse brought (here ▸ .refl)
            · exact ((linkable_eq_ok_iff.mp free).2.2 id rfl).1 here
          · exact before

end Native

/-- Over every history, windows are nested without a circle unless an operation closes one, and
the operation that gives a window a container inside it does close it. Only the two windows are
looked at: a window is put into every other one, inside it or not, as long as neither of them is
destroyed. Where no window names a container of another hierarchy nothing else closes a circle,
and no window is ever its own container. -/
theorem forest_unless_closed :
    (∀ ops : List (Op κ), (∀ m ∈ empty.moments ops, ¬m.before.Closes m.op) →
      (empty.run ops).Forest) ∧
    (∀ (ops : List (Op κ)) (op : Op κ), (empty.run ops).Forest →
      ((empty.run (ops ++ [op])).Forest ↔ ¬(empty.run ops).Closes op)) ∧
    (∀ (t : Hierarchy κ) (child : WindowId) (container : Option WindowId),
      ((t.setContainer child container).answer = .ok () ↔
        ∃ w, t.get? child = some w ∧ w.destroyed = false ∧
          ∀ host, container = some host →
            host ≠ child ∧ ∃ h, t.get? host = some h ∧ h.destroyed = false) ∧
      (t.Closes (.setContainer child container) ↔
        (t.setContainer child container).answer = .ok () ∧
          ∃ host, container = some host ∧ Relation.TransGen (Leads t.holderOf) host child)) ∧
    ∀ (ops : List (Op κ)) (op : Op κ), Native (ops ++ [op]) →
      (∀ slot, empty.fills (ops ++ [op]) slot < UInt32.size) →
        (∀ id, (empty.run (ops ++ [op])).holderOf id ≠ some id) ∧
        ((empty.run ops).Closes op → ∃ child container, op = .setContainer child container) := by
  refine ⟨fun ops => forest_run, fun ops op forest => ?_,
    fun t child container => ⟨?_, closes_setContainer_iff⟩, fun ops op native sparse =>
      ⟨native.holderOf_ne_self sparse, native.setContainer_of_closes sparse⟩⟩
  · rw [run_snoc]
    exact forest_step_iff (tidy_run ops) forest op
  · simp only [setContainer_answer_eq_ok_iff, linkable_eq_ok_iff]

/-- Three windows, each but the first in the one before. -/
def nest : List (Op Unit) :=
  [.insert (.create () ∅), .insert (.create () ∅), .insert (.create () ∅),
   .setContainer ⟨2, 1⟩ (some ⟨1, 1⟩), .setContainer ⟨1, 1⟩ (some ⟨0, 1⟩)]

theorem nest_unclosed : ∀ m ∈ empty.moments nest, ¬m.before.Closes m.op := by
  have empty_handed (t : Hierarchy Unit) : ¬t.Closes (.insert (.create () ∅)) := by
    rintro ⟨id, host, moved, -⟩
    rcases moved?_cases moved with ⟨w, same, -, brought⟩ | ⟨w, impossible, -⟩
    · cases same
      cases brought
    · cases impossible
  have outermost {t : Hierarchy Unit} {child host : WindowId} (ends : t.holderOf host = none) :
      ¬t.Closes (.setContainer child (some host)) := by
    rw [closes_setContainer_iff]
    rintro ⟨-, j, same, way⟩
    cases same
    exact not_transGen_of_none ends way
  intro m member
  simp only [nest, moments, List.mem_cons, List.not_mem_nil, or_false] at member
  rcases member with rfl | rfl | rfl | rfl | rfl
  · exact empty_handed _
  · exact empty_handed _
  · exact empty_handed _
  · exact outermost rfl
  · exact outermost rfl

/-- The outermost of the three is put into the innermost. -/
def inversion : Op Unit := .setContainer ⟨0, 1⟩ (some ⟨2, 1⟩)

theorem isNew_of_nest : ∀ w, .insert w ∈ nest ++ [inversion] → w.IsNew := by
  intro w taken
  simp only [nest, inversion, List.cons_append, List.nil_append, List.mem_cons, Op.insert.injEq,
    reduceCtorEq, List.not_mem_nil, or_false, or_self] at taken
  exact ⟨(), ∅, [], taken⟩

theorem forest_unless_closed_nest :
    ((∀ m ∈ empty.moments nest, ¬m.before.Closes m.op) ∧ Native (nest ++ [inversion]) ∧
      ∀ slot, empty.fills (nest ++ [inversion]) slot < UInt32.size) ∧
    (empty.run nest).Forest ∧ ¬(empty.run (nest ++ [inversion])).Forest ∧
      ∀ id, (empty.run (nest ++ [inversion])).holderOf id ≠ some id := by
  obtain ⟨run, step, put, native⟩ := forest_unless_closed (κ := Unit)
  have forest := run nest nest_unclosed
  have sparse : ∀ slot, empty.fills (nest ++ [inversion]) slot < UInt32.size := fun slot =>
    Nat.lt_of_le_of_lt (fills_le_length _ slot) (show 6 < UInt32.size by decide)
  obtain ⟨apart, -⟩ := native nest inversion (native_of_new isNew_of_nest) sparse
  refine ⟨⟨nest_unclosed, native_of_new isNew_of_nest, sparse⟩, forest, ?_, apart⟩
  rw [step nest inversion forest, not_not]
  have inner : Leads (empty.run nest).holderOf ⟨2, 1⟩ ⟨1, 1⟩ := rfl
  have outer : Leads (empty.run nest).holderOf ⟨1, 1⟩ ⟨0, 1⟩ := rfl
  exact (put _ _ _).2.mpr ⟨rfl, ⟨2, 1⟩, rfl, .tail (.single inner) outer⟩

/-- Two windows are put into each other. -/
def circle : List (Op Unit) :=
  [.insert (.create () ∅), .insert (.create () ∅), .setContainer ⟨0, 1⟩ (some ⟨1, 1⟩),
   .setContainer ⟨1, 1⟩ (some ⟨0, 1⟩)]

theorem circle_closed : ¬∀ ops : List (Op Unit), (empty.run ops).Forest := by
  intro always
  have there : Leads (empty.run circle).holderOf ⟨0, 1⟩ ⟨1, 1⟩ := rfl
  have back : Leads (empty.run circle).holderOf ⟨1, 1⟩ ⟨0, 1⟩ := rfl
  exact always circle ⟨0, 1⟩ (.tail (.single there) back)

end Hierarchy

end WindowPolicy
