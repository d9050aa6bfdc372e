/-
# WindowPolicy.Proofs.Feature.Negotiation — a granted feature displaces its conflicts

A feature comes into a set by `Features.adopt`, which takes out what the feature conflicts
with. So a set that starts without conflicts never has any, in whatever order features are
adopted, and the bits of a set stay those of features.

* `has_adopt`: the members of a set once a feature was adopted;
* `Features.Sound`: no bit but those of features, and no two features that conflict;
* `Negotiation.Sound`: both sets of a negotiation are one sound set, and every change keeps
  them so (`Sound.adopt`, `Sound.follow`);
* `verdict_of_pinned`, `Respects`: a pinned feature cannot be displaced.
-/
import WindowPolicy.Feature.Negotiation
import WindowPolicy.Proofs.Flag.Set

namespace WindowPolicy

set_option autoImplicit false

/-! ## Features -/

theorem Feature.id_le_maxId (f : Feature) : f.id ≤ Feature.maxId := by cases f <;> decide

/-- No feature excludes itself. -/
@[simp] theorem Feature.conflicts_self (f : Feature) : f.conflicts.has f = false := by
  cases f <;> decide

namespace Features

variable {s t : Features} {f g : Feature}

@[simp] theorem has_empty : has ∅ f = false := FlagSet.hasBit_empty

@[simp] theorem has_union : (s ∪ t).has f = (s.has f || t.has f) := FlagSet.hasBit_union

@[simp] theorem has_sdiff : (s \ t).has f = (s.has f && !t.has f) := FlagSet.hasBit_sdiff

@[simp] theorem has_only : (only f).has g = decide (f = g) := by
  have small : f.id < 32 := Nat.lt_of_le_of_lt f.id_le_maxId (by decide)
  have same : f.id = g.id ↔ f = g := ⟨Feature.id_injective, congrArg Feature.id⟩
  simp [only, has, small, same]

/-- The members of a set that a feature was adopted into. -/
@[simp] theorem has_adopt :
    (s.adopt f).has g = (s.has g && !f.conflicts.has g || decide (f = g)) := by
  show ((s \ f.conflicts) ∪ only f).hasBit g.id = _
  rw [FlagSet.hasBit_union, FlagSet.hasBit_sdiff]
  exact congrArg (_ || ·) has_only

/-- Every bit is that of a feature, and no two features exclude each other. -/
structure Sound (s : Features) : Prop where
  proper : ∀ i, Feature.maxId < i → s.hasBit i = false
  compatible : ∀ {f g : Feature}, s.has f = true → s.has g = true → f.conflicts.has g = false

theorem sound_empty : Sound ∅ where
  proper _ _ := FlagSet.hasBit_empty
  compatible {f _} member := by
    have absent : has ∅ f = false := FlagSet.hasBit_empty
    cases absent.symm.trans member

theorem Sound.adopt (sound : s.Sound) (f : Feature) : (s.adopt f).Sound where
  proper i beyond := by
    have other : f.id ≠ i := Nat.ne_of_lt (Nat.lt_of_le_of_lt f.id_le_maxId beyond)
    simp [Features.adopt, only, sound.proper i beyond, other]
  compatible {g g'} member member' := by
    simp only [has_adopt, Bool.or_eq_true, Bool.and_eq_true, Bool.not_eq_true',
      decide_eq_true_eq] at member member'
    rcases member with ⟨old, apart⟩ | rfl <;> rcases member' with ⟨old', apart'⟩ | rfl
    · exact sound.compatible old old'
    · rw [Feature.conflicts_symm]
      exact apart
    · exact apart'
    · exact f.conflicts_self

/-- Adopting features one after the other needs no order. -/
theorem Sound.foldl (sound : s.Sound) (fs : List Feature) : (fs.foldl Features.adopt s).Sound := by
  induction fs generalizing s with
  | nil => exact sound
  | cons f fs ih => exact ih (sound.adopt f)

end Features

namespace Negotiation

variable {n : Negotiation} {f g : Feature}

/-- Both sets of a negotiation are the same sound set. -/
structure Sound (n : Negotiation) : Prop where
  enforced_eq : n.enforced = n.requested
  requested : n.requested.Sound

/-- Whatever word the defaults are, a negotiation opens with a sound set. -/
theorem sound_ofDefaults (defaults : Features) : (ofDefaults defaults).Sound where
  enforced_eq := rfl
  requested := Features.sound_empty.foldl defaults.toList

theorem Sound.adopt (sound : n.Sound) (f : Feature) : (n.adopt f).Sound where
  enforced_eq := congrArg (·.adopt f) sound.enforced_eq
  requested := sound.requested.adopt f

theorem Sound.force (sound : n.Sound) (f : Feature) : (n.force f).Sound where
  enforced_eq := (sound.adopt f).enforced_eq
  requested := (sound.adopt f).requested

theorem Sound.unpin (sound : n.Sound) (f : Feature) : (n.unpin f).Sound where
  enforced_eq := sound.enforced_eq
  requested := sound.requested

theorem Sound.follow (sound : n.Sound) (verdict : Verdict) : (n.follow verdict).Sound := by
  cases verdict with
  | granted f => exact sound.adopt f
  | unknown | blocked => exact sound

/-- A request for the number of a feature is answered and acted on like one for the feature. -/
theorem numbered_eq {id : Int32} (named : id.toInt = f.id) :
    n.verdictOfId id = n.verdict f ∧ n.requestId id = n.request f := by
  have verdict : n.verdictOfId id = n.verdict f := by
    simp [verdictOfId, Feature.ofId?_eq_some_iff.mpr named]
  exact ⟨verdict, congrArg n.follow verdict⟩

/-! ## Pins -/

@[simp] theorem pinned_follow (verdict : Verdict) : (n.follow verdict).pinned = n.pinned := by
  cases verdict <;> rfl

/-- A request is blocked by a pin that it conflicts with. -/
theorem verdict_of_pinned (pin : n.pinned.has g = true) (conflict : f.conflicts.has g = true) :
    n.verdict f = .blocked f (f.conflicts ∩ n.pinned) := by
  have occupied : f.conflicts ∩ n.pinned ≠ ∅ := by
    intro empty
    have member : (f.conflicts ∩ n.pinned).hasBit g.id = true := by
      rw [FlagSet.hasBit_inter]
      exact Bool.and_eq_true_iff.mpr ⟨conflict, pin⟩
    rw [empty, FlagSet.hasBit_empty] at member
    cases member
  simp [verdict, occupied]

/-- The verdict grants nothing that conflicts with a pin. -/
def Respects (n : Negotiation) (verdict : Verdict) : Prop :=
  ∀ {f : Feature} {cleared : Features}, verdict = .granted f cleared →
    ∀ {pin : Feature}, n.pinned.has pin = true → f.conflicts.has pin = false

theorem respects_verdict (f : Feature) : n.Respects (n.verdict f) := by
  intro g cleared granted pin pinned
  cases conflict : f.conflicts.has pin with
  | true =>
      rw [verdict_of_pinned pinned conflict] at granted
      cases granted
  | false =>
      dsimp only [verdict] at granted
      split at granted
      · cases granted
        exact conflict
      · cases granted

theorem respects_verdictOfId (id : Int32) : n.Respects (n.verdictOfId id) := by
  unfold verdictOfId
  split
  · exact respects_verdict _
  · intro g cleared granted
    cases granted

/-- A pinned feature stays. -/
theorem Respects.has_follow {verdict : Verdict} (respects : n.Respects verdict) {pin : Feature}
    (pinned : n.pinned.has pin = true) (member : n.requested.has pin = true) :
    (n.follow verdict).requested.has pin = true := by
  cases verdict with
  | granted f cleared =>
      show (n.requested.adopt f).has pin = true
      simp [member, respects rfl pinned]
  | unknown | blocked => exact member

end Negotiation

end WindowPolicy
