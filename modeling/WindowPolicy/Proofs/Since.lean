/-
# WindowPolicy.Proofs.Since — what has held since something happened

A state that only keeps its last values says something about the whole past: something
happened, and nothing that happened afterwards has undone it. `Since` is this relation on
lists of events, the first event first. It splits the past at the event that still counts;
`since_append_singleton` tells it event by event instead, the way a state is updated.

Where events tell values, the last one that tells anything counts: `latest` is what it tells. What
an event tells may depend on the events before it, with which `dated` lists it.
-/
import Mathlib.Data.List.Induction

namespace WindowPolicy

set_option autoImplicit false

variable {α β : Type} {start stop : α → Prop} {events : List α}

/-- An event was a start, and no event after it was a stop. -/
def Since (start stop : α → Prop) (events : List α) : Prop :=
  ∃ before event after, events = before ++ event :: after ∧ start event ∧ ∀ e ∈ after, ¬stop e

@[simp] theorem not_since_nil : ¬Since start stop [] := by
  rintro ⟨before, event, after, split, -⟩
  simp at split

/-- The last event starts anew, or it lets stand what the events before it say. -/
theorem since_append_singleton {last : α} :
    Since start stop (events ++ [last]) ↔ start last ∨ Since start stop events ∧ ¬stop last := by
  constructor
  · rintro ⟨before, event, after, split, started, stands⟩
    rcases List.eq_nil_or_concat after with rfl | ⟨init, e, rfl⟩
    · obtain ⟨-, rfl⟩ := List.append_singleton_inj.mp split
      exact Or.inl started
    · have shifted : events ++ [last] = (before ++ event :: init) ++ [e] := by simpa using split
      obtain ⟨rfl, rfl⟩ := List.append_singleton_inj.mp shifted
      refine Or.inr ⟨⟨before, event, init, rfl, started, ?_⟩, ?_⟩
      · intro e member
        exact stands e (by simp [member])
      · exact stands last (by simp)
  · rintro (started | ⟨⟨before, event, after, rfl, started, stands⟩, stays⟩)
    · exact ⟨events, last, [], rfl, started, by simp⟩
    · refine ⟨before, event, after ++ [last], by simp, started, ?_⟩
      intro e member
      rcases List.mem_append.mp member with earlier | now
      · exact stands e earlier
      · rw [List.mem_singleton.mp now]
        exact stays

/-- What has held since is told by some event of the past. -/
theorem Since.exists_start (since : Since start stop events) : ∃ event ∈ events, start event := by
  obtain ⟨before, event, after, rfl, started, -⟩ := since
  exact ⟨event, by simp, started⟩

/-! ## What was told last -/

/-- What the last of the events tells that tell anything. -/
def latest (tells : α → Option β) (events : List α) : Option β := (events.filterMap tells).getLast?

theorem latest_append_singleton (tells : α → Option β) (events : List α) (last : α) :
    latest tells (events ++ [last]) = (tells last).or (latest tells events) := by
  rw [latest, latest, List.filterMap_append, List.getLast?_append, List.filterMap_cons,
    List.filterMap_nil]
  cases tells last <;> rfl

/-- Events after others, each with all events before it. -/
def datedFrom (before : List α) : List α → List (List α × α)
  | [] => []
  | event :: events => (before, event) :: datedFrom (before ++ [event]) events

theorem datedFrom_append_singleton (before events : List α) (last : α) :
    datedFrom before (events ++ [last]) =
      datedFrom before events ++ [(before ++ events, last)] := by
  induction events generalizing before with
  | nil => simp [datedFrom]
  | cons event events ih => simp [datedFrom, ih]

/-- Events, each with the events before it. -/
def dated (events : List α) : List (List α × α) := datedFrom [] events

theorem dated_append_singleton (events : List α) (last : α) :
    dated (events ++ [last]) = dated events ++ [(events, last)] :=
  datedFrom_append_singleton [] events last

/-- Something holds of every event and those before it if it does up to the last one, and of that
one as well. -/
theorem forall_dated_append_singleton {P : List α → α → Prop} {last : α} :
    (∀ before event, (before, event) ∈ dated (events ++ [last]) → P before event) ↔
      (∀ before event, (before, event) ∈ dated events → P before event) ∧ P events last := by
  rw [dated_append_singleton]
  constructor
  · intro each
    refine ⟨fun before event earlier => each before event ?_, each events last ?_⟩
    · exact List.mem_append_left _ earlier
    · simp
  · rintro ⟨each, stands⟩ before event member
    rcases List.mem_append.mp member with earlier | now
    · exact each before event earlier
    · cases List.mem_singleton.mp now
      exact stands

end WindowPolicy
