/-
# WindowPolicy.Proofs.Window.Features — features and containers go together

A window that is in a container shows no title: the feature is there and pinned exactly
while the window names a container, be it that the container has gone. The invariant ties
the pins of a window to its link and holds under every touch, so it holds of every window
that is ever held, whatever its context's defaults were.

* `FeaturesSound`: the invariant;
* `FeaturesSound.touch`: what it survives;
* `features_sound`: it holds of every window, and a contained window turns down what needs
  a title.
-/
import WindowPolicy.Proofs.Feature.Negotiation
import WindowPolicy.Proofs.Hierarchy.Reachable
import WindowPolicy.Proofs.Window.Operation

namespace WindowPolicy

set_option autoImplicit false

namespace Window

variable {κ : Type} {w : Window κ}

/-- The features of a window agree with its container. -/
structure FeaturesSound (w : Window κ) : Prop where
  sound : w.features.Sound
  /-- The title is pinned away while there is a container, and nothing else is pinned. -/
  pinned : w.features.pinned = if w.container.isSome then .only .noTitle else ∅
  untitled : w.container.isSome = true → w.features.requested.has .noTitle = true

namespace FeaturesSound

theorem enforced_untitled (holds : w.FeaturesSound) (inside : w.container.isSome = true) :
    w.features.enforced.has .noTitle = true := by
  rw [holds.sound.enforced_eq]
  exact holds.untitled inside

theorem pinned_noTitle (holds : w.FeaturesSound) (inside : w.container.isSome = true) :
    w.features.pinned.has .noTitle = true := by
  rw [holds.pinned, if_pos inside]
  exact Features.has_only.trans (decide_eq_true rfl)

theorem create (context : κ) (defaults : Features) : (create context defaults).FeaturesSound where
  sound := Negotiation.sound_ofDefaults defaults
  pinned := rfl
  untitled inside := by cases inside

/-- The invariant is about the features and the container alone. -/
theorem of_eq {x : Window κ} (holds : w.FeaturesSound) (features : x.features = w.features)
    (container : x.container = w.container) : x.FeaturesSound where
  sound := features ▸ holds.sound
  pinned := by
    rw [features, container]
    exact holds.pinned
  untitled inside := by
    rw [features]
    exact holds.untitled (container ▸ inside)

/-- Acting on an answer that respects the pins. -/
theorem follow {x : Window κ} (holds : w.FeaturesSound) {verdict : Verdict}
    (respects : w.features.Respects verdict) (features : x.features = w.features.follow verdict)
    (container : x.container = w.container) : x.FeaturesSound where
  sound := features ▸ holds.sound.follow verdict
  pinned := by
    rw [features, container, Negotiation.pinned_follow]
    exact holds.pinned
  untitled inside := by
    rw [container] at inside
    rw [features]
    exact respects.has_follow (holds.pinned_noTitle inside) (holds.untitled inside)

theorem step (holds : w.FeaturesSound) (op : Op κ) : (w.step op).state.FeaturesSound := by
  have container : (w.step op).state.container = w.container :=
    congrArg Links.container (links_step op)
  have features := w.features_step op
  cases op with
  | request f =>
      cases gone : w.destroyed with
      | true => exact holds.of_eq (features.trans (if_pos gone)) container
      | false =>
          exact holds.follow (Negotiation.respects_verdict f)
            (features.trans (if_neg (by simp [gone]))) container
  | requestId id =>
      cases gone : w.destroyed with
      | true => exact holds.of_eq (features.trans (if_pos gone)) container
      | false =>
          exact holds.follow (Negotiation.respects_verdictOfId id)
            (features.trans (if_neg (by simp [gone]))) container
  | _ => exact holds.of_eq features container

/-- A container forces the feature and pins it; without one the pin goes. -/
theorem placed (holds : w.FeaturesSound) (container : Option WindowId) :
    (Hierarchy.placed container w).FeaturesSound := by
  have before := holds.pinned
  cases container with
  | none =>
      refine ⟨holds.sound.unpin .noTitle, ?_, fun inside => by cases inside⟩
      show w.features.pinned \ .only .noTitle = ∅
      rw [before]
      split <;> decide
  | some host =>
      refine ⟨holds.sound.force .noTitle, ?_, fun _ => ?_⟩
      · show w.features.pinned ∪ .only .noTitle = .only .noTitle
        rw [before]
        split <;> decide
      · show (w.features.requested.adopt .noTitle).has .noTitle = true
        simp

theorem touch {x : Window κ} (holds : w.FeaturesSound) (touch : Hierarchy.Touch w x) :
    x.FeaturesSound := by
  cases touch with
  | own op => exact holds.step op
  | placed _ container => exact holds.placed container
  | asHost | forgotten | choosing | activated | deactivated => exact holds.of_eq rfl rfl

end FeaturesSound

/-! ## Requests that a pin turns down -/

/-- Asking for the feature, or for its number, is answered by `false` and comes to nothing. -/
def TurnsDown (w : Window κ) (f : Feature) : Prop :=
  ((w.request f).answer = .ok false ∧ (w.request f).Traceless w) ∧
    ∀ id : Int32, id.toInt = f.id →
      (w.requestId id).answer = .ok false ∧ (w.requestId id).Traceless w

theorem turnsDown_of_pinned (alive : w.destroyed = false) {f pin : Feature}
    (pinned : w.features.pinned.has pin = true) (conflict : f.conflicts.has pin = true) :
    w.TurnsDown f := by
  have blocked := Negotiation.verdict_of_pinned pinned conflict
  have followed : w.followVerdict (.blocked f (f.conflicts ∩ w.features.pinned)) =
      { state := w
        answer := .ok false
        notes := [.requestBlocked f (f.conflicts ∩ w.features.pinned)] } :=
    whenAlive_of_alive alive _
  refine ⟨?_, fun id named => ?_⟩
  · rw [request, blocked, followed]
    exact ⟨rfl, rfl, rfl⟩
  · rw [requestId, (Negotiation.numbered_eq named).1, blocked, followed]
    exact ⟨rfl, rfl, rfl⟩

/-- A window in a container takes nothing that needs a title. -/
theorem FeaturesSound.turnsDown (holds : w.FeaturesSound) (inside : w.container.isSome = true)
    (alive : w.destroyed = false) {f : Feature} (titled : f = .actionBar ∨ f = .customTitle) :
    w.TurnsDown f := by
  refine turnsDown_of_pinned alive (holds.pinned_noTitle inside) ?_
  rcases titled with rfl | rfl <;> decide

end Window

/-- The features of every window that is held, alone or in a hierarchy, agree with its
container; a window with a container, though it may be gone, has no title and turns down an
action bar and a custom title. -/
theorem features_sound {κ : Type} {held : Held κ} (reached : Reachable held) :
    held.All fun w =>
      w.FeaturesSound ∧
        (w.container.isSome = true →
          w.features.requested.has .noTitle = true ∧ w.features.enforced.has .noTitle = true ∧
            (w.destroyed = false → w.TurnsDown .actionBar ∧ w.TurnsDown .customTitle)) := by
  refine (reached.all Window.FeaturesSound.create Window.FeaturesSound.touch).imp fun w holds => ?_
  refine ⟨holds, fun inside => ⟨holds.untitled inside, holds.enforced_untitled inside, ?_⟩⟩
  intro alive
  exact ⟨holds.turnsDown inside alive (Or.inl rfl), holds.turnsDown inside alive (Or.inr rfl)⟩

/-- A window is put into another one, which is then taken out. Its context's defaults are
every bit of a word. -/
def orphaning : List (Hierarchy.Op Unit) :=
  [.insert (.create () ∅), .insert (.create () ⟨.allOnes 32⟩),
   .setContainer ⟨1, 1⟩ (some ⟨0, 1⟩), .remove ⟨0, 1⟩]

theorem features_sound_orphaning :
    Reachable (.hierarchy (Hierarchy.empty.run orphaning)) ∧
      ∃ w, (Hierarchy.empty.run orphaning).get? ⟨1, 1⟩ = some w ∧ w.container = some ⟨0, 1⟩ ∧
        (Hierarchy.empty.run orphaning).isAlive ⟨0, 1⟩ = false ∧
        w.FeaturesSound ∧ w.TurnsDown .actionBar := by
  have reached : Reachable (.hierarchy (Hierarchy.empty.run orphaning)) := by
    refine Reachable.empty.run fun w taken => ?_
    simp only [orphaning, List.mem_cons, Hierarchy.Op.insert.injEq, reduceCtorEq, List.not_mem_nil,
      or_false] at taken
    rcases taken with rfl | rfl
    · exact .created () ∅
    · exact .created () ⟨.allOnes 32⟩
  obtain ⟨sound, contained⟩ := features_sound reached ⟨1, 1⟩ _ rfl
  obtain ⟨-, -, refuses⟩ := contained rfl
  exact ⟨reached, _, rfl, rfl, rfl, sound, (refuses rfl).1⟩

end WindowPolicy
