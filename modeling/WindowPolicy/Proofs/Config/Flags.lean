/-
# WindowPolicy.Proofs.Config.Flags — flag sets in configuration

A flag set comes back from configuration as it was, or without the bits that its vocabulary does
not define where these are dropped. That holds of what was written, and there is more that can be
read: names and numerals in any order and number, blanks around them, bits that are said twice or
that are no flag at all. What comes of such a text is told by its terms.

* `Feature.legible`, `windowFlags_legible`: the names of features and of window flags;
* `ofStored_stored`, `ofStoredDefined_stored`: sets at rest, as text and as words;
* `FlagSet.ofStoredDefined_text_eq_ok_iff`: texts that are read without undefined bits;
* `Feature.getLsbD_defined`: the bits that are features;
* `features_read_back`: sets of features, from what was written and from any text.
-/
import WindowPolicy.Config.Attributes
import WindowPolicy.Proofs.Config.Codec
import WindowPolicy.Proofs.Flag.Text

namespace WindowPolicy

set_option autoImplicit false

open WindowPolicy.Config

/-! ## Vocabularies -/

theorem Feature.legible : Feature.vocabulary.Legible where
  nonempty := by decide
  plain := by decide
  noNumeral := by decide
  apart := by decide

theorem windowFlags_legible : windowFlagVocabulary.Legible where
  nonempty := by decide
  plain := by decide
  noNumeral := by decide
  apart := by decide

/-! ## Sets at rest -/

namespace FlagSet

variable {v : Vocabulary} {s : FlagSet v}

theorem ofStored_stored (legible : v.Legible) (s : FlagSet v) (readable : Bool) :
    ofStored (s.stored readable) = .ok s := by
  cases readable with
  | true => exact parse_text legible s
  | false => rfl

theorem ofStoredDefined_stored (legible : v.Legible) (s : FlagSet v) (readable : Bool) :
    ofStoredDefined (s.stored readable) = .ok s.truncate := by
  rw [ofStoredDefined, ofStored_stored legible]
  rfl

theorem hasBit_truncate (i : Nat) :
    s.truncate.hasBit i = (s.hasBit i && v.defined.getLsbD i) :=
  hasBit_inter (t := all)

/-- A text is read without undefined bits exactly if every term says something, and then as the
defined bits of what they say. -/
theorem ofStoredDefined_text_eq_ok_iff (legible : v.Legible) {text : String} :
    ofStoredDefined (.text text) = .ok s ↔
      (∀ term ∈ termsOf text, ∃ said, Says v term said) ∧
      ∀ i, s.hasBit i = true ↔
        v.defined.getLsbD i = true ∧
          ∃ term ∈ termsOf text, ∃ said, Says v term said ∧ said.hasBit i = true := by
  have truncated {full : FlagSet v} (read : parse text = .ok full) :
      (ofStoredDefined (.text text) : Except FlagError (FlagSet v)) = .ok full.truncate :=
    congrArg (truncate <$> ·) read
  constructor
  · intro loaded
    cases read : (parse text : Except FlagError (FlagSet v)) with
    | error e =>
        have failed : (ofStoredDefined (.text text) : Except FlagError (FlagSet v)) = .error e :=
          congrArg (truncate <$> ·) read
        rw [failed] at loaded
        cases loaded
    | ok full =>
        obtain ⟨every, bits⟩ := (parse_eq_ok_iff legible).mp read
        rw [truncated read] at loaded
        cases loaded
        refine ⟨every, fun i => ?_⟩
        rw [hasBit_truncate, Bool.and_eq_true, bits, and_comm]
  · rintro ⟨every, bits⟩
    obtain ⟨full, together⟩ := exists_sayTogether legible every
    rw [truncated ((parse_eq_ok_iff legible).mpr together)]
    refine congrArg Except.ok (ext_hasBit fun i _ => Bool.eq_iff_iff.mpr ?_)
    rw [hasBit_truncate, Bool.and_eq_true, together.2, bits, and_comm]

end FlagSet

/-! ## Features -/

theorem Feature.getLsbD_defined (i : Nat) :
    Feature.vocabulary.defined.getLsbD i = decide (i ≤ Feature.maxId) := by
  by_cases small : i < 32
  · have each : ∀ i < 32,
        Feature.vocabulary.defined.getLsbD i = decide (i ≤ Feature.maxId) := by decide
    exact each i small
  · have beyond : ¬i ≤ Feature.maxId := fun below => small (below.trans_lt (by decide))
    rw [BitVec.getLsbD_of_ge _ _ (Nat.not_lt.mp small), decide_eq_false beyond]

/-- A set of features that was stored comes back without the bits that are no feature, be it as
text or as a word. Configuration is read as a set of features exactly if it is a text each of
whose terms is a name or a numeral, and the set then has the features among their bits. -/
theorem features_read_back :
    (∀ (s : Features) (readable : Bool),
      FlagSet.ofStoredDefined (s.stored readable) = .ok s.truncate) ∧
    (∀ s : Features, Features.codec.decode (Features.codec.encode s) = .ok s.truncate) ∧
    (∀ (s : Features) (i : Nat),
      s.truncate.hasBit i = (s.hasBit i && decide (i ≤ Feature.maxId))) ∧
    ∀ (value : Value) (s : Features),
      Features.codec.decode value = .ok s ↔
        ∃ text, value = .text (some text) ∧
          (∀ term ∈ FlagSet.termsOf text, ∃ said, FlagSet.Says Feature.vocabulary term said) ∧
          ∀ i, s.hasBit i = true ↔
            i ≤ Feature.maxId ∧
              ∃ term ∈ FlagSet.termsOf text, ∃ said,
                FlagSet.Says Feature.vocabulary term said ∧ said.hasBit i = true := by
  have readBack := FlagSet.ofStoredDefined_stored Feature.legible
  refine ⟨readBack, fun s => ?_, fun s i => ?_, fun value s => ?_⟩
  · exact flagCodec_decode_eq_ok_iff.mpr ⟨s.text, rfl, readBack s true⟩
  · rw [FlagSet.hasBit_truncate, Feature.getLsbD_defined]
  · refine flagCodec_decode_eq_ok_iff.trans (exists_congr fun text => and_congr_right fun _ => ?_)
    rw [FlagSet.ofStoredDefined_text_eq_ok_iff Feature.legible]
    simp only [Feature.getLsbD_defined, decide_eq_true_iff]

end WindowPolicy
