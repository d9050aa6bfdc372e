/-
# WindowPolicy.Proofs.Feature.Answer — when the answer to a request is true

A request is answered from the pins: it is turned down exactly if a feature that it excludes
is pinned. A feature that is granted is there afterwards. One that is turned down may be there
as well, for a force asks no pin: the forced feature displaces one that is pinned, and the
other keeps its pin without being there. The two pins *clash*, and from then on requests for
the forced feature are answered by `false` although it is there.

* `accepted_verdict_iff`, `has_request_iff`: the answer, and what is there afterwards;
* `Truthful`, `truthful_iff`: what the answers to requests for a feature should say, and the
  one case in which they do not;
* `truthful_unless_pins_clash`: the same case told by the history of the features and by that of
  the pins;
* `answer_untrue_once_pins_clash`: two forces bring it about;
* `Window.FeaturesSound.truthful`: in a window, where nothing but the title is ever pinned, no
  pins clash.
-/
import WindowPolicy.Proofs.Feature.History
import WindowPolicy.Proofs.Window.Features

namespace WindowPolicy

set_option autoImplicit false

theorem Feature.toInt_ofNat_id (f : Feature) : (Int32.ofNat f.id).toInt = f.id := by
  cases f <;> decide

namespace Negotiation

variable {n : Negotiation} {f g : Feature}

/-! ## One request -/

theorem accepted_verdict_iff : (n.verdict f).accepted = true ↔ n.Unopposed f := by
  unfold verdict
  rw [← conflicts_inter_pinned_eq_empty_iff]
  by_cases free : f.conflicts ∩ n.pinned = ∅
  · simp [free, Verdict.accepted]
  · simp [free, Verdict.accepted]

theorem has_request_iff : (n.request f).has f = true ↔ n.Unopposed f ∨ n.has f = true := by
  rw [request_eq]
  by_cases unopposed : n.Unopposed f
  · have granted : (n.adopt f).has f = true := by simp [adopt, has]
    simp [unopposed, granted]
  · simp [unopposed]

theorem not_unopposed_iff :
    ¬n.Unopposed f ↔ ∃ g : Feature, f.conflicts.has g = true ∧ n.pinned.has g = true := by
  simp [Unopposed]

/-- A request for the feature, or for its number, is answered by `true` exactly if the feature
is there afterwards. -/
def Truthful (n : Negotiation) (f : Feature) : Prop :=
  ((n.verdict f).accepted = true ↔ (n.request f).has f = true) ∧
    ((n.verdictOfId (.ofNat f.id)).accepted = true ↔ (n.requestId (.ofNat f.id)).has f = true)

/-- The answers are true unless the feature is there next to the pin of one that it excludes. -/
theorem truthful_iff :
    n.Truthful f ↔
      ¬(n.has f = true ∧ ∃ g : Feature, f.conflicts.has g = true ∧ n.pinned.has g = true) := by
  obtain ⟨verdict, state⟩ := numbered_eq (n := n) f.toInt_ofNat_id
  unfold Truthful
  rw [verdict, state, and_self, accepted_verdict_iff, has_request_iff, ← not_unopposed_iff]
  tauto

/-- Where every pinned feature is there all answers are true: what it excludes is not there. -/
theorem Sound.truthful (sound : n.Sound)
    (kept : ∀ g : Feature, n.pinned.has g = true → n.has g = true) (f : Feature) :
    n.Truthful f := by
  rw [truthful_iff]
  rintro ⟨member, g, conflict, pinned⟩
  have apart := sound.requested.compatible member (kept g pinned)
  cases apart.symm.trans conflict

/-! ## Histories -/

/-- Whatever word the defaults are and whatever was done, requests for a feature are answered
truly unless pins clash: the feature stands, and so does the pin of a feature that it excludes. -/
theorem truthful_unless_pins_clash (defaults : Features) (ops : List Op) (f : Feature) :
    ((ofDefaults defaults).run ops).Truthful f ↔
      ¬(f.Stands defaults ops ∧
        ∃ g : Feature, f.conflicts.has g = true ∧ g.PinStands ops) := by
  rw [truthful_iff, has_run_iff]
  simp only [has_pinned_run_iff]

/-- An action bar is forced while the title is pinned away. It is there, and a request for it is
turned down. -/
theorem answer_untrue_once_pins_clash :
    ¬∀ (defaults : Features) (ops : List Op) (f : Feature),
      ((ofDefaults defaults).run ops).Truthful f := by
  intro truthful
  obtain ⟨answered, -⟩ := truthful ∅ [.force .noTitle, .force .actionBar] .actionBar
  have there : (((ofDefaults ∅).run [.force .noTitle, .force .actionBar]).request .actionBar).has
      .actionBar = true := by decide
  exact absurd (answered.mpr there) (by decide)

end Negotiation

/-- Only the title is pinned away in a window, and it stays away while it is. -/
theorem Window.FeaturesSound.truthful {κ : Type} {w : Window κ} (holds : w.FeaturesSound)
    (f : Feature) : w.features.Truthful f := by
  refine holds.sound.truthful (fun g pinned => ?_) f
  rw [holds.pinned] at pinned
  split at pinned
  · rename_i inside
    have title : Feature.noTitle = g := by simpa using pinned
    exact title ▸ holds.untitled inside
  · simp at pinned

end WindowPolicy
