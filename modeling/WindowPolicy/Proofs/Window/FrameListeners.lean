/-
# WindowPolicy.Proofs.Window.FrameListeners — who learns how long the frames took

A window numbers the listeners for frame timing as it accepts them, keeps them in that order, and
lets go of one when it is asked to and of all when it is destroyed. So the listeners that it has
are told by its past: those that were registered, and neither let go of nor lost with the window
since. There are `UInt32.size` numbers, which is `2 ^ 32`, and after that many registrations they
start over. Up to there no number is given twice, and that is what makes it safe to let go of
everything that has a number.

* `Deed.registered?`, `registrations`, `Listening`: what the past says about listeners;
* `frameListeners_step`, `Enrolled.own`: one operation, and what it does to the listeners;
* `Enrolled.of_lived`: the listeners and the next number of every window;
* `Window.Attends`, `Window.attends`: what each operation on listeners does;
* `frameListeners_kept_in_order`: all of it.
-/
import Mathlib.Data.List.Nodup
import WindowPolicy.Proofs.Window.Life
import WindowPolicy.Proofs.Since

namespace WindowPolicy

set_option autoImplicit false

variable {κ : Type}

/-! ## What the past says -/

/-- The listener that an accepted registration adds, under its id. -/
def Deed.registered? : Deed κ → Option (FrameListenerId × κ)
  | ⟨.addFrameListener listener, .ok (.listener id), _⟩ => some (id, listener)
  | _ => none

/-- The accepted registrations from first to last. -/
def registrations (deeds : List (Deed κ)) : List (FrameListenerId × κ) :=
  deeds.filterMap Deed.registered?

/-- The deed lets go of the listener with an id, alone or with all others. -/
def Deed.letsGo (id : FrameListenerId) (deed : Deed κ) : Bool :=
  match deed.op with
  | .removeFrameListener removed => removed = id
  | .destroy => true
  | _ => false

/-- The listener was registered under its id, and not let go of since. -/
def Listening (entry : FrameListenerId × κ) (deeds : List (Deed κ)) : Prop :=
  Since (fun deed => deed.registered? = some entry) (fun deed => deed.letsGo entry.1 = true) deeds

theorem registrations_append_singleton (deeds : List (Deed κ)) (last : Deed κ) :
    registrations (deeds ++ [last]) = registrations deeds ++ last.registered?.toList := by
  rw [registrations, List.filterMap_append, List.filterMap_cons, List.filterMap_nil]
  cases last.registered? <;> rfl

/-! ## One operation -/

section

variable {w : Window κ}

/-- A registration is accepted by a window with a decor that was not destroyed, under the id that
is next. -/
theorem Window.registered?_deed (op : Window.Op κ) :
    (w.deed op).registered? =
      match op with
      | .addFrameListener listener =>
          if w.destroyed = false ∧ w.decor.isSome = true then some (⟨w.nextFrameListener⟩, listener)
          else none
      | _ => none := by
  cases op with
  | addFrameListener listener =>
      cases gone : w.destroyed <;> cases decor : w.decor <;>
        simp [deed, step, attempt, addFrameListener, whenAlive, Step.map, Except.map,
          Deed.registered?, gone, decor]
  | _ => rfl

theorem Window.nextFrameListener_step (op : Window.Op κ) :
    (w.step op).state.nextFrameListener =
      w.nextFrameListener + .ofNat (w.deed op).registered?.toList.length := by
  rw [step_state, registered?_deed]
  cases op with
  | addFrameListener listener =>
      cases gone : w.destroyed <;> cases decor : w.decor <;>
        simp [changed, Op.refusable, gone, decor]
  | _ => split <;> simp [changed]

/-- The id of a registration is the one that was next. -/
theorem Window.id_of_registered {op : Window.Op κ} {entry : FrameListenerId × κ}
    (registered : (w.deed op).registered? = some entry) : entry.1 = ⟨w.nextFrameListener⟩ := by
  rw [registered?_deed] at registered
  split at registered
  · obtain ⟨-, same⟩ := Option.ite_none_right_eq_some.mp registered
    cases same
    rfl
  · cases registered

/-- A window that lost its listeners when it was destroyed lets go of those it is asked to, and
has a new one at the end if it accepts one. -/
theorem Window.frameListeners_step (unheard : w.Unheard) (op : Window.Op κ) :
    (w.step op).state.frameListeners =
      w.frameListeners.filter (fun entry => !(w.deed op).letsGo entry.1) ++
        (w.deed op).registered?.toList := by
  rw [step_state, registered?_deed]
  cases op with
  | addFrameListener listener =>
      cases gone : w.destroyed <;> cases decor : w.decor <;>
        simp [changed, Op.refusable, deed, Deed.letsGo, gone, decor]
  | removeFrameListener id =>
      simp [changed, Op.refusable, deed, Deed.letsGo, eq_comm]
  | destroy =>
      cases gone : w.destroyed with
      | false => simp [changed, Op.refusable, deed, Deed.letsGo, gone]
      -- Being destroyed again lets go of nothing, and nothing is left.
      | true => simp [changed, Op.refusable, deed, Deed.letsGo, unheard gone]
  | _ => split <;> simp [changed, deed, Deed.letsGo]

end

/-! ## A whole life -/

/-- The listeners and the next number of a window, told by its past. -/
structure Enrolled (deeds : List (Deed κ)) (w : Window κ) : Prop where
  next : w.nextFrameListener = .ofNat (registrations deeds).length
  numbered : ∀ n (entry : FrameListenerId × κ), (registrations deeds)[n]? = some entry →
    entry.1 = ⟨.ofNat n⟩
  ordered : w.frameListeners.Sublist (registrations deeds)
  listening : ∀ entry, entry ∈ w.frameListeners ↔ Listening entry deeds
  unheard : w.Unheard

namespace Enrolled

variable {deeds : List (Deed κ)} {w x : Window κ}

theorem created (context : κ) (defaults : Features) :
    Enrolled [] (Window.create context defaults) where
  next := rfl
  numbered n entry impossible := by cases impossible
  ordered := List.Sublist.refl _
  listening entry := by simp [Window.create, Listening]
  unheard _ := rfl

theorem apart (enrolled : Enrolled deeds w) (same : x.core = w.core) : Enrolled deeds x := by
  have next : x.nextFrameListener = w.nextFrameListener :=
    (congrArg Window.nextFrameListener same :)
  have listeners : x.frameListeners = w.frameListeners := (congrArg Window.frameListeners same :)
  have destroyed : x.destroyed = w.destroyed := (congrArg Window.destroyed same :)
  refine ⟨next.trans enrolled.next, enrolled.numbered, ?_, ?_, ?_⟩
  · rw [listeners]
    exact enrolled.ordered
  · rw [listeners]
    exact enrolled.listening
  · rw [Window.Unheard, listeners, destroyed]
    exact enrolled.unheard

theorem own (enrolled : Enrolled deeds w) (op : Window.Op κ) :
    Enrolled (deeds ++ [w.deed op]) (w.step op).state where
  next := by
    rw [w.nextFrameListener_step, registrations_append_singleton, List.length_append,
      UInt32.ofNat_add, enrolled.next]
  numbered n entry there := by
    rw [registrations_append_singleton, List.getElem?_append] at there
    split at there
    · exact enrolled.numbered n entry there
    · cases new : (w.deed op).registered? with
      | none =>
          rw [new] at there
          cases there
      | some last =>
          rw [new, Option.toList_some, List.getElem?_singleton] at there
          -- The new one stands at the end, and its number is how many there were before.
          obtain ⟨now, same⟩ := Option.ite_none_right_eq_some.mp there
          cases same
          have here : n = (registrations deeds).length := by omega
          rw [w.id_of_registered new, enrolled.next, here]
  ordered := by
    rw [w.frameListeners_step enrolled.unheard, registrations_append_singleton]
    exact (List.filter_sublist.trans enrolled.ordered).append (List.Sublist.refl _)
  listening entry := by
    rw [w.frameListeners_step enrolled.unheard, List.mem_append, List.mem_filter, Listening,
      since_append_singleton, enrolled.listening, Listening, or_comm, Option.mem_toList,
      Bool.not_eq_true', Bool.not_eq_true]
  unheard := enrolled.unheard.touch (.own w op)

theorem of_lived {p : Place κ} (lived : p.Lived deeds) :
    ∃ w, p.window? = some w ∧ Enrolled deeds w := by
  obtain ⟨w, occupied, enrolled⟩ :=
    lived.tells created (fun op enrolled => enrolled.own op)
      (fun same enrolled => enrolled.apart same)
  exact ⟨w, occupied.window?, enrolled⟩

/-- As long as there are enough ids, the number of a registration is its id. -/
theorem value_toNat (enrolled : Enrolled deeds w) (few : (registrations deeds).length ≤ UInt32.size)
    {n : Nat} {entry : FrameListenerId × κ} (there : (registrations deeds)[n]? = some entry) :
    entry.1.value.toNat = n := by
  have below : n < (registrations deeds).length := (List.getElem?_eq_some_iff.mp there).1
  rw [enrolled.numbered n entry there]
  exact UInt32.toNat_ofNat_of_lt' (Nat.lt_of_lt_of_le below few)

/-- So no id is given twice, and no two listeners have the same. -/
theorem nodup (enrolled : Enrolled deeds w) (few : (registrations deeds).length ≤ UInt32.size) :
    (w.frameListeners.map (·.1)).Nodup := by
  have distinct : ((registrations deeds).map (·.1)).Nodup := by
    rw [List.nodup_iff_getElem?_ne_getElem?]
    intro i j before below same
    rw [List.length_map] at below
    have first := List.getElem?_eq_getElem (Nat.lt_trans before below)
    have second := List.getElem?_eq_getElem below
    simp only [List.getElem?_map, first, second, Option.map_some, Option.some.injEq] at same
    have number := enrolled.value_toNat few first
    rw [same, enrolled.value_toNat few second] at number
    omega
  exact distinct.sublist (enrolled.ordered.map _)

end Enrolled

/-! ## What the listeners are for -/

namespace Window

variable {w : Window κ}

/-- Letting go of a listener whose id no other has takes out that one and nothing else. -/
theorem removeFrameListener_of_split (distinct : (w.frameListeners.map (·.1)).Nodup)
    {before after : List (FrameListenerId × κ)} {id : FrameListenerId} {listener : κ}
    (split : w.frameListeners = before ++ (id, listener) :: after) :
    (w.step (.removeFrameListener id)).answer = .ok (.flag true) ∧
      (w.step (.removeFrameListener id)).state = { w with frameListeners := before ++ after } := by
  rw [split, List.map_append, List.map_cons, List.nodup_middle, List.nodup_cons,
    ← List.map_append] at distinct
  have others : ∀ entry ∈ before ++ after, entry.1 ≠ id := fun entry member same =>
    distinct.1 (List.mem_map.mpr ⟨entry, member, same⟩)
  have left : (before ++ (id, listener) :: after).filter (fun entry => entry.1 ≠ id) =
      before ++ after := by
    rw [List.filter_append, List.filter_cons_of_neg (by simp), ← List.filter_append]
    exact List.filter_eq_self.mpr (by simpa using others)
  constructor
  · simp [step, accept, removeFrameListener, Step.map, split]
  · show { w with frameListeners := w.frameListeners.filter fun entry => entry.1 ≠ id } = _
    rw [split, left]

/-- An id that no listener has lets go of none. -/
theorem removeFrameListener_of_unknown {id : FrameListenerId}
    (unknown : ∀ listener, (id, listener) ∉ w.frameListeners) :
    (w.step (.removeFrameListener id)).answer = .ok (.flag false) ∧
      (w.step (.removeFrameListener id)).state = w := by
  have none_has : w.frameListeners.any (fun entry => entry.1 = id) = false := by
    rw [List.any_eq_false]
    rintro ⟨registered, listener⟩ member same
    cases of_decide_eq_true same
    exact unknown listener member
  have answer : (w.step (.removeFrameListener id)).answer = .ok (.flag false) := by
    show Except.ok (Answer.flag (w.frameListeners.any fun entry => entry.1 = id)) = _
    rw [none_has]
  refine ⟨answer, (step_of_declined ?_).state⟩
  rw [answer]
  rfl

/-- What each operation on frame listeners does to a window that gives the id `next` next. -/
structure Attends (w : Window κ) (next : FrameListenerId) : Prop where
  /-- A destroyed window refuses a registration. -/
  barred : ∀ listener, w.destroyed = true →
    (w.step (.addFrameListener listener)).answer = .error .destroyed ∧
      (w.step (.addFrameListener listener)).state = w
  /-- A window without a decor refuses it as well. -/
  bare : ∀ listener, w.destroyed = false → w.decor = none →
    (w.step (.addFrameListener listener)).answer = .error .noDecor ∧
      (w.step (.addFrameListener listener)).state = w
  added : ∀ listener, w.destroyed = false → w.decor.isSome = true →
    (w.step (.addFrameListener listener)).answer = .ok (.listener next) ∧
      (w.step (.addFrameListener listener)).state.frameListeners =
        w.frameListeners ++ [(next, listener)]
  removed : ∀ before id listener after, w.frameListeners = before ++ (id, listener) :: after →
    (w.step (.removeFrameListener id)).answer = .ok (.flag true) ∧
      (w.step (.removeFrameListener id)).state = { w with frameListeners := before ++ after }
  unknown : ∀ id, (∀ listener, (id, listener) ∉ w.frameListeners) →
    (w.step (.removeFrameListener id)).answer = .ok (.flag false) ∧
      (w.step (.removeFrameListener id)).state = w
  timed : ∀ timing droppedReports,
    (w.step (.frameTimed timing droppedReports)).calls =
        w.frameListeners.map (fun entry => .frameTimed entry.2 timing droppedReports) ∧
      (w.step (.frameTimed timing droppedReports)).state = w
  redecorated : ∀ decor, (w.step (.decor decor)).state.frameListeners = w.frameListeners
  destroyed : (w.step .destroy).state.frameListeners = []

theorem attends (unheard : w.Unheard) (distinct : (w.frameListeners.map (·.1)).Nodup) :
    w.Attends ⟨w.nextFrameListener⟩ where
  barred listener gone := by
    rw [step_of_destroyed gone rfl]
    exact ⟨rfl, rfl⟩
  bare listener alive bare := by
    simp only [step, addFrameListener, whenAlive_of_alive alive, bare]
    exact ⟨rfl, rfl⟩
  added listener alive decorated := by
    obtain ⟨decor, attached⟩ := Option.isSome_iff_exists.mp decorated
    simp only [step, addFrameListener, whenAlive_of_alive alive, attached]
    exact ⟨rfl, rfl⟩
  removed _ _ _ _ split := removeFrameListener_of_split distinct split
  unknown _ unknown := removeFrameListener_of_unknown unknown
  timed _ _ := ⟨rfl, rfl⟩
  redecorated decor := by
    rw [step_state]
    split <;> rfl
  destroyed := unheard.destroy.2

end Window

/-- The accepted registrations of a window get the ids from zero on. It has just those listeners
that were registered and not let go of since, in the order of their registration, each once; and
all operations on listeners go by that. -/
theorem frameListeners_kept_in_order {p : Place κ} {deeds : List (Deed κ)} (lived : p.Lived deeds)
    (few : (registrations deeds).length ≤ UInt32.size) :
    ∃ w, p.window? = some w ∧
      (∀ n (entry : FrameListenerId × κ), (registrations deeds)[n]? = some entry →
        entry.1.value.toNat = n) ∧
      (w.frameListeners.map (·.1)).Nodup ∧
      w.frameListeners.Sublist (registrations deeds) ∧
      (∀ entry, entry ∈ w.frameListeners ↔ Listening entry deeds) ∧
      w.Attends ⟨.ofNat (registrations deeds).length⟩ := by
  obtain ⟨w, here, enrolled⟩ := Enrolled.of_lived lived
  have distinct := enrolled.nodup few
  have attends := Window.attends enrolled.unheard distinct
  rw [enrolled.next] at attends
  exact ⟨w, here, fun n entry there => enrolled.value_toNat few there, distinct, enrolled.ordered,
    enrolled.listening, attends⟩

/-- A window is given the listeners `4` to `7`. The first is refused, since there is no decor yet,
the third comes after the first decor was detached, and the second is let go of. -/
def listened : List (Window.Op Nat) :=
  [.addFrameListener 4, .decor (some 1), .addFrameListener 5, .decor none,
   .decor (some 2), .addFrameListener 6, .addFrameListener 7, .removeFrameListener ⟨0⟩]

theorem frameListeners_kept_in_order_listened :
    let w := (Window.create 0 ∅).run listened
    let deeds := (Window.create 0 ∅).deeds listened
    registrations deeds = [(⟨0⟩, 5), (⟨1⟩, 6), (⟨2⟩, 7)] ∧
      w.frameListeners = [(⟨1⟩, 6), (⟨2⟩, 7)] ∧ Listening (⟨1⟩, 6) deeds ∧
      ¬Listening (⟨0⟩, 5) deeds ∧ w.Attends ⟨3⟩ ∧
      (w.step (.removeFrameListener ⟨1⟩)).state.frameListeners = [(⟨2⟩, 7)] ∧
      (w.step (.removeFrameListener ⟨0⟩)).answer = .ok (.flag false) := by
  intro w deeds
  have few : (registrations deeds).length ≤ UInt32.size := by decide
  have listeners : w.frameListeners = [(⟨1⟩, 6), (⟨2⟩, 7)] := rfl
  obtain ⟨x, here, -, -, -, listening, attends⟩ :=
    frameListeners_kept_in_order (Place.lived_run 0 ∅ listened) few
  cases here
  have gone : ∀ listener, (⟨0⟩, listener) ∉ w.frameListeners := by simp [listeners]
  have removed := (attends.removed [] ⟨1⟩ 6 [(⟨2⟩, 7)] listeners).2
  refine ⟨rfl, listeners, (listening _).mp ?_, mt (listening _).mpr ?_, attends, ?_,
    (attends.unknown ⟨0⟩ gone).1⟩
  · decide
  · decide
  · exact congrArg Window.frameListeners removed

end WindowPolicy
