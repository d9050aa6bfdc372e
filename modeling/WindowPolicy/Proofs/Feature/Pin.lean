/-
# WindowPolicy.Proofs.Feature.Pin — a pin holds against requests

A feature that is there and pinned cannot be asked away. Requests are decided from the pins, and
every feature that would displace a pinned one is excluded by it, so its request is turned down.
Two operations do not ask: a force, which displaces what it excludes, and the release of the pin.
Whatever *spares* the feature by being neither of these leaves it there and pinned. Once the pin is
released a request for what the feature excludes is decided like any other: it is granted as soon
as no other pin opposes it, and then the feature goes and everything compatible stays.

* `Op.spares`, `Holds`: what leaves a pin alone, and a feature that is held by its pin;
* `Holds.apply`, `Holds.run`: one operation, and then any number;
* `TurnsDown`, `Holds.turnsDown`: requests that the pin opposes come to nothing;
* `Displaces`, `Unopposed.displaces`: what a request does that no pin opposes;
* `pin_holds`: all of it, from every negotiation that is reached.
-/
import WindowPolicy.Proofs.Feature.Answer

namespace WindowPolicy

set_option autoImplicit false

namespace Negotiation

variable {n : Negotiation} {f g : Feature}

/-! ## While the pin is there -/

/-- The operation does not release the pin of the feature, and forces nothing that excludes it. -/
def Op.spares (f : Feature) : Op → Bool
  | .unpin g => g ≠ f
  | .force g => !f.conflicts.has g
  | .request _ | .requestId _ => true

/-- The feature is pinned and in both sets. -/
structure Holds (n : Negotiation) (f : Feature) : Prop where
  pinned : n.pinned.has f = true
  requested : n.requested.has f = true
  enforced : n.enforced.has f = true

theorem Sound.holds (sound : n.Sound) (pinned : n.pinned.has f = true) (there : n.has f = true) :
    n.Holds f where
  pinned := pinned
  requested := there
  enforced := by
    rw [sound.enforced_eq]
    exact there

/-- A feature stays in a set that another one is adopted into, unless the two exclude each other. -/
theorem has_adopt_of_compatible {s : Features} (member : s.has f = true)
    (apart : f.conflicts.has g = false) : (s.adopt g).has f = true := by
  have mutually : g.conflicts.has f = false := (Feature.conflicts_symm g f).trans apart
  simp [member, mutually]

namespace Holds

theorem adopt (holds : n.Holds f) (apart : f.conflicts.has g = false) : (n.adopt g).Holds f where
  pinned := holds.pinned
  requested := has_adopt_of_compatible holds.requested apart
  enforced := has_adopt_of_compatible holds.enforced apart

/-- A request is granted only if the pin does not oppose it, and then it displaces others. -/
theorem request (holds : n.Holds f) (g : Feature) : (n.request g).Holds f := by
  rw [request_eq]
  split
  · rename_i unopposed
    refine holds.adopt ?_
    cases conflict : f.conflicts.has g with
    | false => rfl
    | true =>
        have opposed := unopposed f ((Feature.conflicts_symm g f).trans conflict)
        cases opposed.symm.trans holds.pinned
  · exact holds

theorem apply (holds : n.Holds f) {op : Op} (spared : op.spares f = true) :
    (n.apply op).Holds f := by
  have pinned : (n.apply op).pinned.has f = true := by
    rw [has_pinned_apply_iff]
    refine Or.inr ⟨holds.pinned, ?_⟩
    rintro rfl
    simp [Op.spares] at spared
  cases op with
  | request g => exact holds.request g
  | requestId id =>
      show (n.requestId id).Holds f
      rw [requestId_eq]
      split
      · exact holds.request _
      · exact holds
  | force g =>
      have apart : f.conflicts.has g = false := by simpa [Op.spares] using spared
      have adopted := holds.adopt apart
      exact ⟨pinned, adopted.requested, adopted.enforced⟩
  | unpin g => exact ⟨pinned, holds.requested, holds.enforced⟩

/-- A feature is held by its pin over every run that spares it. -/
theorem run (holds : n.Holds f) {ops : List Op} (spared : ∀ op ∈ ops, op.spares f = true) :
    (n.run ops).Holds f := by
  induction ops generalizing n with
  | nil => exact holds
  | cons op ops ih =>
      have next := holds.apply (spared op List.mem_cons_self)
      exact ih next fun op later => spared op (List.mem_cons_of_mem _ later)

end Holds

/-- Asking for the feature, or for its number, is answered by `false` and changes nothing. -/
structure TurnsDown (n : Negotiation) (g : Feature) : Prop where
  rejected : (n.verdict g).accepted = false
  unchanged : n.request g = n
  numbered : ∀ id : Int32, id.toInt = g.id →
    (n.verdictOfId id).accepted = false ∧ n.requestId id = n

/-- A request for what a held feature excludes is turned down. -/
theorem Holds.turnsDown (holds : n.Holds f) (conflict : g.conflicts.has f = true) :
    n.TurnsDown g := by
  have opposed : ¬n.Unopposed g := fun unopposed => by
    cases (unopposed f conflict).symm.trans holds.pinned
  have rejected : (n.verdict g).accepted = false :=
    Bool.eq_false_iff.mpr fun accepted => opposed (accepted_verdict_iff.mp accepted)
  have unchanged : n.request g = n := by rw [request_eq, if_neg opposed]
  refine ⟨rejected, unchanged, fun id named => ?_⟩
  obtain ⟨verdict, state⟩ := numbered_eq (n := n) named
  rw [verdict, state]
  exact ⟨rejected, unchanged⟩

/-! ## Once the pin is released -/

/-- Asking for the feature, or for its number, is answered by `true`: in both sets it takes its
place, what it excludes is gone, and everything else stays. -/
structure Displaces (n : Negotiation) (g : Feature) : Prop where
  accepted : (n.verdict g).accepted = true
  requested : ∀ h, (n.request g).requested.has h = true ↔
    h = g ∨ n.requested.has h = true ∧ g.conflicts.has h = false
  enforced : ∀ h, (n.request g).enforced.has h = true ↔
    h = g ∨ n.enforced.has h = true ∧ g.conflicts.has h = false
  pinned : (n.request g).pinned = n.pinned
  numbered : ∀ id : Int32, id.toInt = g.id →
    n.verdictOfId id = n.verdict g ∧ n.requestId id = n.request g

theorem Unopposed.displaces (unopposed : n.Unopposed g) : n.Displaces g := by
  have granted : n.request g = n.adopt g := by rw [request_eq, if_pos unopposed]
  have adopted (s : Features) (h : Feature) :
      (s.adopt g).has h = true ↔ h = g ∨ s.has h = true ∧ g.conflicts.has h = false := by
    rw [Features.has_adopt, Bool.or_eq_true, Bool.and_eq_true, Bool.not_eq_true',
      decide_eq_true_eq, or_comm, @eq_comm _ g h]
  refine ⟨accepted_verdict_iff.mpr unopposed, ?_, ?_, pinned_follow _, fun id => numbered_eq⟩
  · rw [granted]
    exact adopted n.requested
  · rw [granted]
    exact adopted n.enforced

/-- What was displaced by a feature that excludes it is gone from both sets. -/
theorem Displaces.gone (displaces : n.Displaces g) (conflict : g.conflicts.has f = true) :
    (n.request g).requested.has f = false ∧ (n.request g).enforced.has f = false := by
  have other : f ≠ g := by
    rintro rfl
    cases f.conflicts_self.symm.trans conflict
  constructor
  · rw [Bool.eq_false_iff, ne_eq, displaces.requested]
    simp [other, conflict]
  · rw [Bool.eq_false_iff, ne_eq, displaces.enforced]
    simp [other, conflict]

/-- Whatever word the defaults are and whatever was done, a feature that is there and pinned stays
so at every moment of a run that spares it, and all that time requests for what it excludes are
turned down. Once it is unpinned, at any later time, a request for such a feature that no pin
opposes displaces it. -/
theorem pin_holds (defaults : Features) (past ops : List Op) (f : Feature)
    (there : ((ofDefaults defaults).run past).has f = true)
    (pinned : ((ofDefaults defaults).run past).pinned.has f = true)
    (spared : ∀ op ∈ ops, op.spares f = true) :
    (∀ before after, ops = before ++ after →
      let m := ((ofDefaults defaults).run past).run before
      m.Holds f ∧ ∀ g : Feature, g.conflicts.has f = true → m.TurnsDown g) ∧
    ∀ (later : List Op) (g : Feature), g.conflicts.has f = true →
      let m := ((((ofDefaults defaults).run past).run ops).unpin f).run later
      m.Unopposed g → m.Displaces g ∧
        (m.request g).requested.has f = false ∧ (m.request g).enforced.has f = false := by
  have holds := ((sound_ofDefaults defaults).run past).holds pinned there
  constructor
  · rintro before after rfl m
    have held : m.Holds f := holds.run fun op member => spared op (List.mem_append_left _ member)
    exact ⟨held, fun g conflict => held.turnsDown conflict⟩
  · intro later g conflict m unopposed
    have displaces := unopposed.displaces
    exact ⟨displaces, displaces.gone conflict⟩

/-- The title and the left icon are pinned. An action bar and a custom title are asked for, by
feature and by number, and an overlay is forced; then the title is unpinned, and a menu asked for.
An action bar displaces the title, and a custom title is still opposed by the icon. -/
theorem pin_holds_clamped :
    let n := (ofDefaults .standard).run [.force .noTitle, .force .leftIcon]
    let ops : List Op := [.request .actionBar, .requestId 7, .force .actionBarOverlay]
    let released := ((n.run ops).unpin .noTitle).run [.requestId 0]
    (n.has .noTitle = true ∧ n.pinned.has .noTitle = true ∧
        ∀ op ∈ ops, op.spares .noTitle = true) ∧
      (n.run ops).Holds .noTitle ∧ (n.run [.request .actionBar]).TurnsDown .customTitle ∧
      released.Unopposed .actionBar ∧ released.Displaces .actionBar ∧
      ¬released.Unopposed .customTitle := by
  intro n ops released
  have there : n.has .noTitle = true := by decide
  have pinned : n.pinned.has .noTitle = true := by decide
  have spared : ∀ op ∈ ops, op.spares .noTitle = true := by decide
  obtain ⟨throughout, afterwards⟩ :=
    pin_holds .standard [.force .noTitle, .force .leftIcon] ops .noTitle there pinned spared
  obtain ⟨-, turnsDown⟩ := throughout [.request .actionBar] _ rfl
  obtain ⟨held, -⟩ := throughout ops [] (by simp)
  have unopposed : released.Unopposed .actionBar := by decide
  obtain ⟨displaces, -⟩ := afterwards [.requestId 0] .actionBar (by decide) unopposed
  exact ⟨⟨there, pinned, spared⟩, held, turnsDown .customTitle (by decide), unopposed, displaces,
    by decide⟩

end Negotiation

end WindowPolicy
