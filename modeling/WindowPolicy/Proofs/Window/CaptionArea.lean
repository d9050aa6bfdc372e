/-
# WindowPolicy.Proofs.Window.CaptionArea — the caption area of the current listener

A window keeps a caption area for its caption listener: the one that it was last given notice of
since that listener was set, and an empty one until then. The area of a listener that was replaced
or cleared is gone, also when the same listener is set again, and without a listener no area is
kept. Notice goes to the listener that is set at that moment. None of this ends when the window is
destroyed.

* `captionListener?`, `areaSince?`: the listener and the area, told by the past;
* `captionArea_step`, `notified_step`: one operation;
* `Attentive`: the two fields, told by a whole life;
* `Window.Heeds`: what the next notice comes to;
* `captionArea_follows_listener`: all of it.
-/
import Mathlib.Data.List.DropRight
import Mathlib.Data.Option.NAry
import WindowPolicy.Proofs.Since
import WindowPolicy.Proofs.Window.Calls

namespace WindowPolicy

set_option autoImplicit false

variable {κ : Type}

/-! ## What the past says -/

/-- The area that a call gives notice of, and to whom. -/
def Call.notified? : Call κ → Option (κ × Rect)
  | .captionAreaChanged listener area => some (listener, area)
  | _ => none

/-- The notices of caption areas, one after the other. -/
def notified (calls : List (Call κ)) : List (κ × Rect) := calls.filterMap Call.notified?

/-- The caption listener, if any, that a deed sets. -/
def Deed.captionListener? : Deed κ → Option (Option κ)
  | ⟨.captionListener listener, _, _⟩ => some listener
  | _ => none

/-- The caption area that a deed is about. -/
def Deed.captionArea? : Deed κ → Option Rect
  | ⟨.captionArea area, _, _⟩ => some area
  | _ => none

/-- The caption listener that was set last, unless it was cleared. -/
def captionListener? (deeds : List (Deed κ)) : Option κ :=
  (latest Deed.captionListener? deeds).join

/-- The last caption area since a listener was set or cleared. -/
def areaSince? (deeds : List (Deed κ)) : Option Rect :=
  latest Deed.captionArea? (deeds.rtakeWhile fun deed => deed.captionListener?.isNone)

theorem captionListener?_append_singleton (deeds : List (Deed κ)) (last : Deed κ) :
    captionListener? (deeds ++ [last]) = last.captionListener?.getD (captionListener? deeds) := by
  rw [captionListener?, latest_append_singleton]
  cases last.captionListener? <;> rfl

/-- Another listener starts without an area. -/
theorem areaSince?_append_singleton (deeds : List (Deed κ)) (last : Deed κ) :
    areaSince? (deeds ++ [last]) =
      if last.captionListener?.isNone then last.captionArea?.or (areaSince? deeds) else none := by
  rw [areaSince?, List.rtakeWhile_concat]
  split
  · exact latest_append_singleton _ _ _
  · rfl

/-! ## One operation -/

namespace Window

variable {w : Window κ}

theorem captionListener_step (op : Op κ) :
    (w.step op).state.captionListener =
      (w.deed op).captionListener?.getD w.captionListener := by
  rw [step_state]
  cases op with
  | captionListener listener => simp [changed, Op.refusable, deed, Deed.captionListener?]
  | _ => split <;> rfl

/-- A listener that is set starts from an empty area, and notice replaces the area if there is a
listener. -/
theorem captionArea_step (op : Op κ) :
    (w.step op).state.captionArea =
      match (w.deed op).captionListener?, (w.deed op).captionArea? with
      | some listener, _ => listener.map fun _ => .zero
      | none, some area => if w.captionListener.isSome then some area else w.captionArea
      | none, none => w.captionArea := by
  rw [step_state]
  cases op with
  | captionListener | captionArea =>
      simp [changed, Op.refusable, deed, Deed.captionListener?, Deed.captionArea?]
  | _ => split <;> rfl

/-- Notice is given to the listener of that moment and to nobody else. -/
theorem notified_step (op : Op κ) :
    notified (w.step op).calls =
      (Option.map₂ Prod.mk w.captionListener (w.deed op).captionArea?).toList := by
  cases op with
  | captionArea area =>
      simp only [step, accept, Step.map, captionAreaChanged]
      cases listening : w.captionListener <;> rfl
  | _ =>
      refine (filterMap_calls_eq_nil fun call made => ?_).trans ?_
      · cases call with
        | captionAreaChanged => cases made
        | _ => rfl
      · simp [deed, Deed.captionArea?]

end Window

/-! ## A whole life -/

/-- The caption listener of a window and its area, and the notices that were given, told by its
past. -/
structure Attentive (deeds : List (Deed κ)) (w : Window κ) : Prop where
  listener : w.captionListener = captionListener? deeds
  area : w.captionArea = (captionListener? deeds).map fun _ => (areaSince? deeds).getD .zero
  each : ∀ before deed, (before, deed) ∈ dated deeds →
    notified deed.calls = (Option.map₂ Prod.mk (captionListener? before) deed.captionArea?).toList

namespace Attentive

variable {deeds : List (Deed κ)} {w x : Window κ}

theorem created (context : κ) (defaults : Features) :
    Attentive [] (Window.create context defaults) where
  listener := rfl
  area := rfl
  each before deed impossible := by cases impossible

theorem apart (attentive : Attentive deeds w) (same : x.core = w.core) : Attentive deeds x where
  listener := (congrArg Window.captionListener same :).trans attentive.listener
  area := (congrArg Window.captionArea same :).trans attentive.area
  each := attentive.each

theorem own (attentive : Attentive deeds w) (op : Window.Op κ) :
    Attentive (deeds ++ [w.deed op]) (w.step op).state where
  listener := by
    rw [w.captionListener_step, captionListener?_append_singleton, attentive.listener]
  area := by
    rw [w.captionArea_step, captionListener?_append_singleton, areaSince?_append_singleton,
      attentive.area, attentive.listener]
    cases set : (w.deed op).captionListener? with
    | some listener => rfl
    | none =>
        cases noticed : (w.deed op).captionArea? with
        | none => rfl
        | some area =>
            -- Notice without a listener is lost, and with one replaces the area before.
            cases captionListener? deeds <;> rfl
  each := by
    refine forall_dated_append_singleton.mpr ⟨attentive.each, ?_⟩
    rw [← attentive.listener]
    exact w.notified_step op

theorem of_lived {p : Place κ} (lived : p.Lived deeds) :
    ∃ w, p.window? = some w ∧ Attentive deeds w := by
  obtain ⟨w, occupied, attentive⟩ :=
    lived.tells created (fun op attentive => attentive.own op)
      (fun same attentive => attentive.apart same)
  exact ⟨w, occupied.window?, attentive⟩

end Attentive

/-! ## The next notice -/

/-- What notice of a caption area comes to for a window with the caption listener `listener`. -/
structure Window.Heeds (w : Window κ) (listener : Option κ) : Prop where
  unheard : listener = none → ∀ area, (w.step (.captionArea area)).Traceless w
  heard : ∀ k, listener = some k → ∀ area,
    (w.step (.captionArea area)).state = { w with captionArea := some area } ∧
      (w.step (.captionArea area)).calls = [.captionAreaChanged k area]

theorem Window.heeds (w : Window κ) : w.Heeds w.captionListener where
  unheard silent area := by
    simp only [step, accept, Step.map, captionAreaChanged, silent]
    exact ⟨rfl, rfl⟩
  heard k listening area := by
    have given : w.captionAreaChanged area =
        { state := { w with captionArea := some area }
          answer := ()
          calls := [.captionAreaChanged k area] } := by
      rw [captionAreaChanged, listening]
    exact ⟨congrArg Step.state given, congrArg Step.calls given⟩

/-- A window has the caption listener that was set last, and an area just if it has a listener:
the last one since that listener was set, or the empty one. Every notice was given, and the next
one will be, to the listener of that moment, once, and to nobody if there was none. Others give
notice only in operations of its own. -/
theorem captionArea_follows_listener {p : Place κ} {deeds : List (Deed κ)} (lived : p.Lived deeds) :
    (∃ w, p.window? = some w ∧
      w.captionListener = captionListener? deeds ∧
      w.captionArea = ((captionListener? deeds).map fun _ => (areaSince? deeds).getD .zero) ∧
      w.captionArea.isSome = w.captionListener.isSome ∧
      w.Heeds (captionListener? deeds)) ∧
    (∀ before deed, (before, deed) ∈ dated deeds →
      notified deed.calls =
        (Option.map₂ Prod.mk (captionListener? before) deed.captionArea?).toList) ∧
    ∀ (t : Hierarchy κ) (op : Hierarchy.Op κ),
      notified (t.step op).calls = notified (t.relayed op) := by
  obtain ⟨w, here, attentive⟩ := Attentive.of_lived lived
  refine ⟨⟨w, here, attentive.listener, attentive.area, ?_, ?_⟩, attentive.each, fun t op => ?_⟩
  · rw [attentive.area, attentive.listener, Option.isSome_map]
  · rw [← attentive.listener]
    exact w.heeds
  · exact t.filterMap_calls op fun _ _ => rfl

/-- Notice is given before there is a listener, to the listener `4`, and to the listener `5`, which
takes its place, after the window was destroyed. -/
def noticed : List (Window.Op Nat) :=
  [.captionArea ⟨.zero, .zero, ⟨1⟩, ⟨1⟩⟩, .captionListener (some 4),
   .captionArea ⟨.zero, .zero, ⟨2⟩, ⟨2⟩⟩, .captionListener (some 5), .destroy,
   .captionArea ⟨.zero, .zero, ⟨3⟩, ⟨3⟩⟩]

theorem captionArea_follows_listener_noticed :
    let w := (Window.create 0 ∅).run noticed
    let deeds := (Window.create 0 ∅).deeds noticed
    captionListener? deeds = some 5 ∧ w.captionArea = some ⟨.zero, .zero, ⟨3⟩, ⟨3⟩⟩ ∧
      (∀ before deed, (before, deed) ∈ dated deeds →
        notified deed.calls =
          (Option.map₂ Prod.mk (captionListener? before) deed.captionArea?).toList) ∧
      notified (deeds.flatMap (·.calls)) =
        [(4, ⟨.zero, .zero, ⟨2⟩, ⟨2⟩⟩), (5, ⟨.zero, .zero, ⟨3⟩, ⟨3⟩⟩)] ∧
      w.Heeds (some 5) ∧ (w.step (.captionListener (some 5))).state.captionArea = some .zero := by
  intro w deeds
  have listener : captionListener? deeds = some 5 := rfl
  have since : areaSince? deeds = some ⟨.zero, .zero, ⟨3⟩, ⟨3⟩⟩ := rfl
  obtain ⟨⟨x, here, -, area, -, heeds⟩, each, -⟩ :=
    captionArea_follows_listener (Place.lived_run 0 ∅ noticed)
  cases here
  rw [listener] at heeds
  refine ⟨listener, ?_, each, rfl, heeds, rfl⟩
  rw [area, listener, since]
  rfl

end WindowPolicy
