/-
# WindowPolicy.Proofs.Feature.History — the latest request wins

A negotiation keeps three words and forgets how it came to them. They still say something about
everything that happened. A feature is pinned exactly if it was forced and not unpinned since. It
is in both sets exactly if it took its place at some time and nothing that excludes it took its
place later. What takes a place is told by the bits of the defaults and by the operations alone:
the features whose bits are set, by ascending number, and then every feature that is forced, or is
requested while no pin of a feature that it excludes stands.

* `Features.Lists`, `Places`, `History`: what took its place, from first to last;
* `history_append_singleton_iff`, `History.unique`: histories read from their end, one each;
* `Feature.StandsIn`, `Features.has_foldl_adopt`: what is left of features adopted one by one;
* `has_pinned_run_iff`, `unopposed_run_iff`: pins, told by the operations;
* `requested_apply_of_places`, `requested_apply_of_idle`: what one operation does to a set;
* `History.requested_run`: a run adopts what took its place one after the other, and nothing else;
* `latest_event_stands`: the bits of both sets, told by the history.
-/
import Mathlib.Data.List.Sort
import WindowPolicy.Proofs.Feature.Negotiation
import WindowPolicy.Proofs.Since

namespace WindowPolicy

set_option autoImplicit false

/-! ## Bits and features -/

/-- Every position up to the largest feature number is that of a feature. -/
theorem Feature.exists_of_le_maxId {i : Nat} (small : i ≤ Feature.maxId) :
    ∃ f : Feature, f.id = i := by
  have listed : ∀ i ≤ Feature.maxId, ∃ f ∈ Feature.all, f.id = i := by decide
  obtain ⟨f, -, same⟩ := listed i small
  exact ⟨f, same⟩

/-- A feature excludes features and no other bits. -/
theorem Feature.conflicts_proper (f : Feature) {i : Nat} (set : f.conflicts.hasBit i = true) :
    i ≤ Feature.maxId := by
  have positions : ∀ i < 32, f.conflicts.hasBit i = true → i ≤ Feature.maxId := by
    cases f <;> decide
  exact positions i (BitVec.lt_of_getLsbD set) set

namespace Features

variable {s : Features} {f : Feature} {fs gs : List Feature}

/-- The bits of a sound set are its members. -/
theorem Sound.hasBit_iff (sound : s.Sound) (i : Nat) :
    s.hasBit i = true ↔ ∃ f : Feature, f.id = i ∧ s.has f = true := by
  constructor
  · intro set
    have small : i ≤ Feature.maxId := by
      by_contra beyond
      rw [sound.proper i (Nat.lt_of_not_le beyond)] at set
      cases set
    obtain ⟨f, rfl⟩ := Feature.exists_of_le_maxId small
    exact ⟨f, rfl, set⟩
  · rintro ⟨f, rfl, member⟩
    exact member

/-- The list has the features whose bits are set, by ascending number. -/
structure Lists (s : Features) (fs : List Feature) : Prop where
  mem_iff : ∀ f : Feature, f ∈ fs ↔ s.hasBit f.id = true
  ascending : fs.Pairwise fun f g => f.id < g.id

theorem lists_toList (s : Features) : s.Lists s.toList where
  mem_iff _ := mem_toList
  ascending := s.toList_ascending

theorem Lists.unique (first : s.Lists fs) (second : s.Lists gs) : fs = gs := by
  have nodup {fs : List Feature} (listed : s.Lists fs) : fs.Nodup := by
    refine listed.ascending.imp ?_
    rintro f g below rfl
    exact Nat.lt_irrefl _ below
  have same : fs.Perm gs := (List.perm_ext_iff_of_nodup (nodup first) (nodup second)).mpr
    fun f => (first.mem_iff f).trans (second.mem_iff f).symm
  refine same.eq_of_pairwise (fun f g _ _ below above => ?_) first.ascending second.ascending
  exact absurd below (Nat.lt_asymm above)

end Features

/-! ## What happened -/

/-- The feature was forced, and was not unpinned since. -/
def Feature.PinStands (f : Feature) (ops : List Negotiation.Op) : Prop :=
  Since (· = .force f) (· = .unpin f) ops

/-- No pin of a feature that the feature excludes stands. -/
def Feature.Free (f : Feature) (ops : List Negotiation.Op) : Prop :=
  ∀ g : Feature, f.conflicts.has g = true → ¬g.PinStands ops

/-- The feature took its place, and no feature did so later that it excludes. -/
def Feature.StandsIn (f : Feature) (placed : List Feature) : Prop :=
  Since (· = f) (fun g => f.conflicts.has g = true) placed

namespace Negotiation

/-- After the operations in `past` the feature takes its place by another one. -/
inductive Places (past : List Op) : Op → Feature → Prop
  | requested {f : Feature} (free : f.Free past) : Places past (.request f) f
  | numbered {id : Int32} {f : Feature} (named : id.toInt = f.id) (free : f.Free past) :
      Places past (.requestId id) f
  | forced (f : Feature) : Places past (.force f) f

/-- Everything that took its place, from first to last: the features whose bits the defaults have,
by ascending number, and then what operations brought. -/
inductive History (defaults : Features) : List Op → List Feature → Prop
  | seeded {placed : List Feature} (listed : defaults.Lists placed) : History defaults [] placed
  | placed {ops : List Op} {op : Op} {placed : List Feature} {f : Feature}
      (history : History defaults ops placed) (places : Places ops op f) :
      History defaults (ops ++ [op]) (placed ++ [f])
  | idle {ops : List Op} {op : Op} {placed : List Feature}
      (history : History defaults ops placed) (nothing : ∀ f, ¬Places ops op f) :
      History defaults (ops ++ [op]) placed

end Negotiation

/-- The feature took its place at some time, and nothing that it excludes did so later. -/
def Feature.Stands (f : Feature) (defaults : Features) (ops : List Negotiation.Op) : Prop :=
  ∃ placed, Negotiation.History defaults ops placed ∧ f.StandsIn placed

namespace Negotiation

variable {defaults : Features} {ops : List Op} {op : Op} {placed placed' : List Feature}
  {f g : Feature}

/-- An operation places one feature at most. -/
theorem Places.unique (first : Places ops op f) (second : Places ops op g) : f = g := by
  cases first with
  | requested | forced =>
      cases second
      rfl
  | numbered named =>
      cases second with
      | numbered named' => exact Feature.id_injective (Int.ofNat.inj (named.symm.trans named'))

/-- At first only the defaults took their places. -/
theorem history_nil_iff : History defaults [] placed ↔ defaults.Lists placed := by
  constructor
  · intro history
    generalize start : ([] : List Op) = ops at history
    cases history with
    | seeded listed => exact listed
    | placed | idle => simp at start
  · exact .seeded

/-- The last operation placed a feature after all the others, or none. -/
theorem history_append_singleton_iff :
    History defaults (ops ++ [op]) placed ↔
      (∃ before f, History defaults ops before ∧ Places ops op f ∧ placed = before ++ [f]) ∨
      History defaults ops placed ∧ ∀ f, ¬Places ops op f := by
  constructor
  · intro history
    generalize snoc : ops ++ [op] = all at history
    cases history with
    | seeded => simp at snoc
    | placed before places =>
        obtain ⟨rfl, rfl⟩ := List.append_singleton_inj.mp snoc
        exact .inl ⟨_, _, before, places, rfl⟩
    | idle before nothing =>
        obtain ⟨rfl, rfl⟩ := List.append_singleton_inj.mp snoc
        exact .inr ⟨before, nothing⟩
  · rintro (⟨before, f, history, places, rfl⟩ | ⟨history, nothing⟩)
    · exact history.placed places
    · exact history.idle nothing

/-- There is a history of everything, -/
theorem exists_history (defaults : Features) (ops : List Op) :
    ∃ placed, History defaults ops placed := by
  induction ops using List.reverseRecOn with
  | nil => exact ⟨_, .seeded defaults.lists_toList⟩
  | append_singleton ops op ih =>
      obtain ⟨placed, history⟩ := ih
      by_cases brought : ∃ f, Places ops op f
      · obtain ⟨f, places⟩ := brought
        exact ⟨_, history.placed places⟩
      · exact ⟨_, history.idle (not_exists.mp brought)⟩

/-- and only one. -/
theorem History.unique (first : History defaults ops placed)
    (second : History defaults ops placed') : placed = placed' := by
  induction ops using List.reverseRecOn generalizing placed placed' with
  | nil => exact (history_nil_iff.mp first).unique (history_nil_iff.mp second)
  | append_singleton ops op ih =>
      rcases history_append_singleton_iff.mp first with
        ⟨before, f, history, places, rfl⟩ | ⟨history, nothing⟩
      · rcases history_append_singleton_iff.mp second with
          ⟨before', f', history', places', rfl⟩ | ⟨-, nothing⟩
        · rw [ih history history', places.unique places']
        · exact absurd places (nothing f)
      · rcases history_append_singleton_iff.mp second with ⟨-, f, -, places, -⟩ | ⟨history', -⟩
        · exact absurd places (nothing f)
        · exact ih history history'

end Negotiation

/-! ## Adopted one by one -/

/-- The members of a set are those of the features adopted into it that stand. -/
theorem Features.has_foldl_adopt {f : Feature} (fs : List Feature) :
    (fs.foldl adopt ∅).has f = true ↔ f.StandsIn fs := by
  induction fs using List.reverseRecOn with
  | nil =>
      have absent : has ∅ f = false := FlagSet.hasBit_empty
      simp [absent, Feature.StandsIn]
  | append_singleton fs g ih =>
      -- The set asks whether `g` excludes `f`, the history whether `f` excludes `g`.
      have mutually : g.conflicts.has f = f.conflicts.has g := Feature.conflicts_symm g f
      rw [Feature.StandsIn, since_append_singleton, ← Feature.StandsIn, ← ih, List.foldl_append,
        List.foldl_cons, List.foldl_nil, has_adopt, mutually]
      simp [or_comm]

namespace Negotiation

variable {n : Negotiation} {defaults : Features} {ops : List Op} {op : Op} {placed : List Feature}
  {f g : Feature}

/-! ## Requests that are granted -/

/-- No pinned feature excludes the feature. -/
def Unopposed (n : Negotiation) (f : Feature) : Prop :=
  ∀ g : Feature, f.conflicts.has g = true → n.pinned.has g = false

instance (n : Negotiation) : DecidablePred n.Unopposed := fun f =>
  decidable_of_iff (∀ g ∈ Feature.all, f.conflicts.has g = true → n.pinned.has g = false)
    ⟨fun all g => all g g.mem_all, fun all g _ => all g⟩

theorem conflicts_inter_pinned_eq_empty_iff : f.conflicts ∩ n.pinned = ∅ ↔ n.Unopposed f := by
  constructor
  · intro empty g conflict
    have absent : (f.conflicts ∩ n.pinned).hasBit g.id = false := by
      rw [empty, FlagSet.hasBit_empty]
    rw [FlagSet.hasBit_inter] at absent
    have excluded : f.conflicts.hasBit g.id = true := conflict
    rw [excluded, Bool.true_and] at absent
    exact absent
  · intro unopposed
    apply FlagSet.ext_hasBit
    intro i _
    rw [FlagSet.hasBit_inter, FlagSet.hasBit_empty]
    cases set : f.conflicts.hasBit i with
    | false => rfl
    | true =>
        obtain ⟨g, rfl⟩ := Feature.exists_of_le_maxId (f.conflicts_proper set)
        exact unopposed g set

/-- A request that no pin opposes is granted, any other changes nothing. -/
theorem request_eq (f : Feature) : n.request f = if n.Unopposed f then n.adopt f else n := by
  unfold request verdict
  by_cases unopposed : n.Unopposed f
  · rw [if_pos unopposed, if_pos (conflicts_inter_pinned_eq_empty_iff.mpr unopposed)]
    rfl
  · rw [if_neg unopposed, if_neg fun empty =>
      unopposed (conflicts_inter_pinned_eq_empty_iff.mp empty)]
    rfl

theorem requestId_eq (id : Int32) :
    n.requestId id = match Feature.ofId? id with
      | some f => n.request f
      | none => n := by
  unfold requestId verdictOfId
  cases Feature.ofId? id <;> rfl

/-! ## Pins -/

/-- An operation pins by force, and takes no pin but the one that it is about. -/
theorem has_pinned_apply_iff (op : Op) :
    (n.apply op).pinned.has g = true ↔
      op = .force g ∨ n.pinned.has g = true ∧ op ≠ .unpin g := by
  cases op with
  | request f =>
      show (n.follow _).pinned.has g = true ↔ _
      simp
  | requestId id =>
      show (n.follow _).pinned.has g = true ↔ _
      simp
  | force f =>
      show (n.pinned ∪ .only f).has g = true ↔ _
      rw [Features.has_union, Features.has_only, Bool.or_eq_true, decide_eq_true_eq, or_comm]
      simp
  | unpin f =>
      show (n.pinned \ .only f).has g = true ↔ _
      simp

theorem has_pinned_run_iff (defaults : Features) (ops : List Op) :
    ((ofDefaults defaults).run ops).pinned.has g = true ↔ g.PinStands ops := by
  induction ops using List.reverseRecOn with
  | nil =>
      simp [run, ofDefaults, Feature.PinStands]
  | append_singleton ops op ih =>
      rw [run, List.foldl_append, ← run, Feature.PinStands, since_append_singleton,
        ← Feature.PinStands, ← ih]
      exact has_pinned_apply_iff op

theorem unopposed_run_iff (defaults : Features) (ops : List Op) :
    ((ofDefaults defaults).run ops).Unopposed f ↔ f.Free ops := by
  refine forall₂_congr fun g _ => ?_
  rw [← has_pinned_run_iff defaults, Bool.not_eq_true]

/-! ## Histories -/

/-- An operation adopts the feature that it places, -/
theorem requested_apply_of_places (places : Places ops op f) :
    (((ofDefaults defaults).run ops).apply op).requested =
      ((ofDefaults defaults).run ops).requested.adopt f := by
  have granted (free : f.Free ops) : (((ofDefaults defaults).run ops).request f).requested =
      ((ofDefaults defaults).run ops).requested.adopt f := by
    rw [request_eq, if_pos ((unopposed_run_iff defaults ops).mpr free)]
    rfl
  cases places with
  | requested free => exact granted free
  | numbered named free =>
      exact (congrArg requested (numbered_eq named).2).trans (granted free)
  | forced => rfl

/-- and changes nothing that was requested if it places none. -/
theorem requested_apply_of_idle (nothing : ∀ f, ¬Places ops op f) :
    (((ofDefaults defaults).run ops).apply op).requested =
      ((ofDefaults defaults).run ops).requested := by
  have declined {f : Feature} (unfree : ¬f.Free ops) :
      ((ofDefaults defaults).run ops).request f = (ofDefaults defaults).run ops := by
    rw [request_eq, if_neg (mt (unopposed_run_iff defaults ops).mp unfree)]
  cases op with
  | request f => exact congrArg requested (declined fun free => nothing f (.requested free))
  | requestId id =>
      show (requestId _ id).requested = _
      rw [requestId_eq]
      cases known : Feature.ofId? id with
      | none => rfl
      | some f =>
          have named := Feature.ofId?_eq_some_iff.mp known
          exact congrArg requested (declined fun free => nothing f (.numbered named free))
  | force f => exact absurd (.forced f) (nothing f)
  | unpin => rfl

/-- A run adopts what took its place, one after the other. -/
theorem History.requested_run (history : History defaults ops placed) :
    ((ofDefaults defaults).run ops).requested = placed.foldl Features.adopt ∅ := by
  induction history with
  | seeded listed =>
      rw [listed.unique defaults.lists_toList]
      rfl
  | placed _ places ih =>
      rw [run, List.foldl_append, List.foldl_append, ← ih]
      exact requested_apply_of_places places
  | idle _ nothing ih =>
      rw [run, List.foldl_append, ← ih]
      exact requested_apply_of_idle nothing

theorem has_run_iff (defaults : Features) (ops : List Op) :
    ((ofDefaults defaults).run ops).has f = true ↔ f.Stands defaults ops := by
  obtain ⟨placed, history⟩ := exists_history defaults ops
  rw [has, history.requested_run, Features.has_foldl_adopt]
  constructor
  · intro stands
    exact ⟨placed, history, stands⟩
  · rintro ⟨other, history', stands⟩
    rw [history.unique history']
    exact stands

theorem Sound.apply (sound : n.Sound) (op : Op) : (n.apply op).Sound := by
  cases op with
  | request | requestId => exact sound.follow _
  | force f => exact sound.force f
  | unpin f => exact sound.unpin f

theorem Sound.run (sound : n.Sound) (ops : List Op) : (n.run ops).Sound := by
  induction ops generalizing n with
  | nil => exact sound
  | cons op ops ih => exact ih (sound.apply op)

/-- Whatever word the defaults are and whatever is done, there is one history of it, and the bits
of both sets are those of the features that stand in it. -/
theorem latest_event_stands (defaults : Features) (ops : List Op) :
    (∃! placed, History defaults ops placed) ∧
    ∀ i,
      (((ofDefaults defaults).run ops).requested.hasBit i = true ↔
        ∃ f : Feature, f.id = i ∧ f.Stands defaults ops) ∧
      (((ofDefaults defaults).run ops).enforced.hasBit i = true ↔
        ∃ f : Feature, f.id = i ∧ f.Stands defaults ops) := by
  have sound := (sound_ofDefaults defaults).run ops
  have bits (i : Nat) : ((ofDefaults defaults).run ops).requested.hasBit i = true ↔
      ∃ f : Feature, f.id = i ∧ f.Stands defaults ops := by
    rw [sound.requested.hasBit_iff]
    exact exists_congr fun f => and_congr_right fun _ => has_run_iff defaults ops
  constructor
  · obtain ⟨placed, history⟩ := exists_history defaults ops
    exact ⟨placed, history, fun other history' => history'.unique history⟩
  · intro i
    rw [sound.enforced_eq]
    exact ⟨bits i, bits i⟩

/-- The title is pinned away, an action bar is asked for in vain, and again by its number once the
title was unpinned. -/
def wavering : List Op := [.force .noTitle, .request .actionBar, .unpin .noTitle, .requestId 8]

/-- The defaults are every bit of a word. The action bar displaces the title, and had displaced
the custom title from the defaults, whose number is lower. -/
theorem latest_event_stands_wavering :
    let defaults : Features := ⟨.allOnes 32⟩
    Feature.actionBar.Stands defaults wavering ∧ ¬Feature.noTitle.Stands defaults wavering ∧
      Feature.actionBar.Stands defaults [] ∧ ¬Feature.customTitle.Stands defaults [] ∧
      ((ofDefaults defaults).run wavering).requested.hasBit 20 = false := by
  intro defaults
  obtain ⟨-, bits⟩ := latest_event_stands defaults wavering
  obtain ⟨-, seeds⟩ := latest_event_stands defaults []
  have there : ∃ f : Feature, f.id = 8 ∧ f.Stands defaults wavering := (bits 8).1.mp (by decide)
  have first : ∃ f : Feature, f.id = 8 ∧ f.Stands defaults [] := (seeds 8).1.mp (by decide)
  obtain ⟨f, number, stands⟩ := there
  obtain ⟨g, number', stands'⟩ := first
  obtain rfl : f = .actionBar := Feature.id_injective number
  obtain rfl : g = .actionBar := Feature.id_injective number'
  refine ⟨stands, fun gone => ?_, stands', fun gone => ?_, by decide⟩
  · exact absurd ((bits 1).1.mpr ⟨.noTitle, rfl, gone⟩) (by decide)
  · exact absurd ((seeds 7).1.mpr ⟨.customTitle, rfl, gone⟩) (by decide)

end Negotiation

end WindowPolicy
