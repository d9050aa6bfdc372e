/-
# WindowPolicy.Proofs.Flag.Text — what a text says about flags

A text says what its terms say together. A term says one thing at most: a name says its bit, and
a hexadecimal numeral of up to 32 bits says its bits. A text is read exactly if every one of its
terms says something, and then as the union of what they say, whatever their order and however
often a bit is said. The written form of a set says the set, all of its bits, provided that names
can be told from each other and from numerals, and contain neither blanks nor bars.

* `Says`: what a term says;
* `Vocabulary.Legible`: a vocabulary whose names can be told apart;
* `parseTerm_eq_ok_iff`: reading a term;
* `parse_eq_ok_iff`: reading a text;
* `parse_text`: the written form is read back.
-/
import Mathlib.Data.List.Nodup
import WindowPolicy.Flag.Text
import WindowPolicy.Proofs.Flag.Set
import WindowPolicy.Proofs.Text.Hex

namespace WindowPolicy

set_option autoImplicit false

open WindowPolicy.Text (Plain isBlank trim)

/-- Names can be told from each other and from numerals, and contain neither blanks nor bars. -/
structure Vocabulary.Legible (v : Vocabulary) : Prop where
  nonempty : ∀ flag ∈ v.names, flag.1.toList ≠ []
  plain : ∀ flag ∈ v.names, Plain flag.1.toList
  noNumeral : ∀ flag ∈ v.names, ¬['0', 'x'] <+: flag.1.toList
  apart : (v.names.map Prod.fst).Nodup

namespace FlagSet

variable {v : Vocabulary} {s r : FlagSet v} {i : Nat}

/-! ## Terms -/

/-- The digits are those of a numeral of at most 32 bits, which are these. -/
def Spells (digits : List Char) (word : BitVec 32) : Prop :=
  digits ≠ [] ∧ ∃ values : List Nat,
    digits.map Text.Hex.digitValue? = values.map some ∧
    Nat.ofDigits 16 values.reverse < UInt32.size ∧
    word = BitVec.ofNat 32 (Nat.ofDigits 16 values.reverse)

/-- What a term says. A plus sign in front of the digits of a numeral makes no difference. -/
inductive Says (v : Vocabulary) : List Char → FlagSet v → Prop where
  | name {flag : String × Nat} (known : flag ∈ v.names) : Says v flag.1.toList (single flag.2)
  | numeral {digits : List Char} {word : BitVec 32} (spelt : Spells digits word) :
      Says v ('0' :: 'x' :: digits) ⟨word⟩
  | signed {digits : List Char} {word : BitVec 32} (spelt : Spells digits word) :
      Says v ('0' :: 'x' :: '+' :: digits) ⟨word⟩

theorem bits_eq_some_iff {digits : List Char} {word : BitVec 32} :
    ((Text.Hex.value? digits).bind fun n =>
        if n < UInt32.size then some (BitVec.ofNat 32 n) else none) = some word ↔
      Spells digits word := by
  rw [Option.bind_eq_some_iff]
  constructor
  · rintro ⟨n, value, fits⟩
    obtain ⟨nonempty, values, read, rfl⟩ := Text.Hex.value?_eq_some_iff.mp value
    obtain ⟨small, spelt⟩ := Option.ite_none_right_eq_some.mp fits
    exact ⟨nonempty, values, read, small, (Option.some.inj spelt).symm⟩
  · rintro ⟨nonempty, values, read, small, rfl⟩
    exact ⟨_, Text.Hex.value?_eq_some_iff.mpr ⟨nonempty, values, read, rfl⟩, if_pos small⟩

/-- A plus sign is no digit. -/
theorem not_spells_plus {digits : List Char} {word : BitVec 32} : ¬Spells ('+' :: digits) word := by
  rintro ⟨-, _ | ⟨value, values⟩, read, -⟩
  · cases read
  · have digit : Text.Hex.digitValue? '+' = some value := (List.cons.inj read).1
    cases digit

theorem hexBits?_eq_some_iff {text : List Char} {word : BitVec 32} :
    hexBits? text = some word ↔
      Spells text word ∨ ∃ digits, text = '+' :: digits ∧ Spells digits word := by
  unfold hexBits?
  split
  · rename_i digits
    simp [bits_eq_some_iff, not_spells_plus]
  · rename_i unsigned
    rw [bits_eq_some_iff]
    refine ⟨Or.inl, fun said => said.resolve_right ?_⟩
    rintro ⟨digits, signed, -⟩
    exact unsigned digits signed

theorem position?_eq_some_iff (legible : v.Legible) {name : List Char} {position : Nat} :
    position? v name = some position ↔
      ∃ flag ∈ v.names, flag.1.toList = name ∧ flag.2 = position := by
  rw [position?, Option.map_eq_some_iff]
  constructor
  · rintro ⟨flag, found, rfl⟩
    exact ⟨flag, List.mem_of_find?_eq_some found, by simpa using List.find?_some found, rfl⟩
  · rintro ⟨flag, known, rfl, rfl⟩
    have someKnown : (v.names.find? fun other => other.1.toList == flag.1.toList).isSome :=
      List.find?_isSome.mpr ⟨flag, known, beq_self_eq_true _⟩
    obtain ⟨other, found⟩ := Option.isSome_iff_exists.mp someKnown
    have sameName : other.1 = flag.1 := String.toList_inj.mp (by simpa using List.find?_some found)
    have same : other = flag :=
      List.inj_on_of_nodup_map legible.apart (List.mem_of_find?_eq_some found) known sameName
    exact ⟨other, found, congrArg Prod.snd same⟩

theorem parseTerm_of_noNumeral {term : List Char} (nonempty : term ≠ [])
    (noNumeral : ¬['0', 'x'] <+: term) :
    (parseTerm term : Except FlagError (FlagSet v)) =
      match position? v term with
      | some position => .ok (single position)
      | none => .error .unknownName := by
  unfold parseTerm
  split
  · exact absurd rfl nonempty
  · exact absurd ⟨_, rfl⟩ noNumeral
  · rfl

/-- A term is read exactly if it says something, and as what it says. -/
theorem parseTerm_eq_ok_iff (legible : v.Legible) {term : List Char} :
    parseTerm term = .ok s ↔ Says v term s := by
  constructor
  · intro read
    unfold parseTerm at read
    split at read
    · cases read
    · split at read
      · rename_i word bits
        cases read
        rcases hexBits?_eq_some_iff.mp bits with spelt | ⟨digits, rfl, spelt⟩
        · exact .numeral spelt
        · exact .signed spelt
      · cases read
    · split at read
      · rename_i position named
        cases read
        obtain ⟨flag, known, rfl, rfl⟩ := (position?_eq_some_iff legible).mp named
        exact .name known
      · cases read
  · intro said
    cases said with
    | @name flag known =>
        have named : position? v flag.1.toList = some flag.2 :=
          (position?_eq_some_iff legible).mpr ⟨flag, known, rfl, rfl⟩
        rw [parseTerm_of_noNumeral (legible.nonempty flag known) (legible.noNumeral flag known),
          named]
    | numeral spelt => rw [parseTerm, hexBits?_eq_some_iff.mpr (.inl spelt)]
    | signed spelt => rw [parseTerm, hexBits?_eq_some_iff.mpr (.inr ⟨_, rfl, spelt⟩)]

theorem Says.unique (legible : v.Legible) {term : List Char} (said : Says v term s)
    (also : Says v term r) : s = r := by
  rw [← parseTerm_eq_ok_iff legible] at said also
  exact Except.ok.inj (said.symm.trans also)

/-! ## Texts -/

/-- The terms of a text, without the blanks around them. A blank text has none. -/
def termsOf (text : String) : List (List Char) :=
  if (trim text.toList).isEmpty then [] else (text.toList.splitOn '|').map trim

/-- The terms say the set together: every term says something, and a bit is in the set if a term
says so. -/
def SayTogether (terms : List (List Char)) (s : FlagSet v) : Prop :=
  (∀ term ∈ terms, ∃ said, Says v term said) ∧
  ∀ i, s.hasBit i = true ↔ ∃ term ∈ terms, ∃ said, Says v term said ∧ said.hasBit i = true

/-- Terms that say something each say a set together. -/
theorem exists_sayTogether (legible : v.Legible) {terms : List (List Char)}
    (every : ∀ term ∈ terms, ∃ said, Says v term said) : ∃ s : FlagSet v, SayTogether terms s := by
  induction terms with
  | nil => exact ⟨∅, every, by simp⟩
  | cons term terms ih =>
      obtain ⟨first, reading⟩ := every term List.mem_cons_self
      obtain ⟨rest, -, bits⟩ := ih fun t member => every t (List.mem_cons_of_mem _ member)
      refine ⟨first ∪ rest, every, fun i => ?_⟩
      rw [hasBit_union, Bool.or_eq_true, bits, List.exists_mem_cons_iff]
      refine or_congr_left ⟨fun bit => ⟨first, reading, bit⟩, ?_⟩
      rintro ⟨said, other, bit⟩
      rwa [reading.unique legible other]

theorem parseTerms_eq_ok_iff (legible : v.Legible) {terms : List (List Char)} :
    parseTerms s terms = .ok r ↔
      (∀ term ∈ terms.map trim, ∃ said, Says v term said) ∧
      ∀ i, r.hasBit i = true ↔
        s.hasBit i = true ∨
          ∃ term ∈ terms.map trim, ∃ said, Says v term said ∧ said.hasBit i = true := by
  induction terms generalizing s with
  | nil =>
      rw [parseTerms]
      constructor
      · intro same
        cases same
        simp
      · rintro ⟨-, bits⟩
        refine congrArg Except.ok (ext_hasBit fun i _ => Bool.eq_iff_iff.mpr ?_)
        simpa using (bits i).symm
  | cons term terms ih =>
      rw [parseTerms]
      cases read : (parseTerm (trim term) : Except FlagError (FlagSet v)) with
      | error e =>
          refine iff_of_false (fun ok => by cases ok) ?_
          rintro ⟨every, -⟩
          obtain ⟨said, reading⟩ := every (trim term) (by simp)
          rw [← parseTerm_eq_ok_iff legible, read] at reading
          cases reading
      | ok flag =>
          have reading : Says v (trim term) flag := (parseTerm_eq_ok_iff legible).mp read
          have here (i : Nat) :
              (∃ said, Says v (trim term) said ∧ said.hasBit i = true) ↔ flag.hasBit i = true :=
            ⟨fun ⟨_, other, bit⟩ => reading.unique legible other ▸ bit,
              fun bit => ⟨flag, reading, bit⟩⟩
          refine (ih (s := s ∪ flag)).trans ?_
          simp only [List.map_cons, List.forall_mem_cons, List.exists_mem_cons_iff, here,
            hasBit_union, Bool.or_eq_true, or_assoc]
          exact and_congr_left' (iff_and_self.mpr fun _ => ⟨flag, reading⟩)

/-- A text is read exactly if every term says something, and then as what they say together. -/
theorem parse_eq_ok_iff (legible : v.Legible) {text : String} :
    parse text = .ok s ↔ SayTogether (termsOf text) s := by
  rw [parse, termsOf]
  split
  · have nothing : parseTerms ∅ [] = .ok s ↔ _ := parseTerms_eq_ok_iff legible
    exact nothing.trans (by simp [SayTogether])
  · simp [parseTerms_eq_ok_iff legible, SayTogether]

/-! ## The written form -/

theorem getLsbD_named :
    v.named.getLsbD i = true ↔ i < 32 ∧ ∃ flag ∈ v.names, flag.2 = i := by
  have fold (names : List (String × Nat)) (word : BitVec 32) :
      (names.foldl (fun word flag => word ||| bitAt flag.2) word).getLsbD i = true ↔
        word.getLsbD i = true ∨ i < 32 ∧ ∃ flag ∈ names, flag.2 = i := by
    induction names generalizing word with
    | nil => simp
    | cons flag names ih =>
        have here : (bitAt flag.2).getLsbD i = true ↔ i < 32 ∧ flag.2 = i := by
          rw [bitAt, BitVec.getLsbD_twoPow, Bool.and_eq_true, decide_eq_true_iff,
            decide_eq_true_iff]
          omega
        simp only [List.foldl_cons, ih, BitVec.getLsbD_or, Bool.or_eq_true, here,
          List.exists_mem_cons_iff, and_or_left, or_assoc]
  rw [Vocabulary.named, fold]
  simp

theorem mem_terms {term : List Char} :
    term ∈ s.terms ↔
      (∃ flag ∈ v.names, s.hasBit flag.2 = true ∧ flag.1.toList = term) ∨
        s.unnamed ≠ 0 ∧ term = hexTerm s.unnamed.toNat := by
  rw [terms, List.mem_append]
  refine or_congr (by simp [nameTerms, and_assoc]) ?_
  split <;> simp_all

theorem spells_digits (word : BitVec 32) : Spells (Text.Hex.digits word.toNat) word := by
  rw [← bits_eq_some_iff, Text.Hex.value?_digits]
  simp [word.isLt, UInt32.size]

theorem plain_terms (legible : v.Legible) : ∀ term ∈ s.terms, Plain term ∧ term ≠ [] := by
  intro term member
  rcases mem_terms.mp member with ⟨flag, known, -, rfl⟩ | ⟨-, rfl⟩
  · exact ⟨legible.plain flag known, legible.nonempty flag known⟩
  · refine ⟨?_, List.cons_ne_nil _ _⟩
    have lead : Plain ['0', 'x'] := by decide
    intro c member
    rcases List.mem_append.mp (show c ∈ ['0', 'x'] ++ _ from member) with early | late
    · exact lead c early
    · exact Text.Hex.plain_digits _ c late

theorem termsOf_text (legible : v.Legible) : termsOf s.text = s.terms := by
  have plain := plain_terms (s := s) legible
  rw [termsOf, text, String.toList_ofList]
  cases written : s.terms with
  | nil => rfl
  | cons term terms =>
      rw [written] at plain
      obtain ⟨plainFirst, nonempty⟩ := plain term List.mem_cons_self
      have notBlank : trim ([' ', '|', ' '].intercalate (term :: terms)) ≠ [] := by
        obtain ⟨c, first, rfl⟩ := List.exists_cons_of_ne_nil nonempty
        rw [List.intercalate_cons_cons_left]
        exact Text.trim_cons_ne_nil (plainFirst c List.mem_cons_self).1 _
      have unpadded : ∀ c ∈ ([] : List Char), c = ' ' := by simp
      rw [if_neg (by simpa using notBlank)]
      exact Text.map_trim_splitOn unpadded (fun t member => (plain t member).1) (by simp)

theorem hasBit_unnamed :
    (⟨s.unnamed⟩ : FlagSet v).hasBit i = (s.hasBit i && !v.named.getLsbD i) :=
  hasBit_sdiff (t := ⟨v.named⟩)

/-- The terms of the written form say the set. -/
theorem sayTogether_terms (legible : v.Legible) : SayTogether s.terms s := by
  have rest : Says v (hexTerm s.unnamed.toNat) ⟨s.unnamed⟩ := .numeral (spells_digits _)
  constructor
  · intro term member
    rcases mem_terms.mp member with ⟨flag, known, -, rfl⟩ | ⟨-, rfl⟩
    · exact ⟨_, .name known⟩
    · exact ⟨_, rest⟩
  · intro i
    constructor
    · intro bit
      by_cases named : v.named.getLsbD i = true
      · obtain ⟨small, flag, known, rfl⟩ := getLsbD_named.mp named
        exact ⟨_, mem_terms.mpr (.inl ⟨flag, known, bit, rfl⟩), _, .name known,
          by simp [small]⟩
      · have left : (⟨s.unnamed⟩ : FlagSet v).hasBit i = true := by
          simp [hasBit_unnamed, bit, named]
        have unnamed : s.unnamed ≠ 0 := by
          intro empty
          rw [empty] at left
          exact absurd left (by simp [hasBit])
        exact ⟨_, mem_terms.mpr (.inr ⟨unnamed, rfl⟩), _, rest, left⟩
    · rintro ⟨term, member, said, reading, bit⟩
      rcases mem_terms.mp member with ⟨flag, known, present, rfl⟩ | ⟨-, rfl⟩
      · rw [reading.unique legible (.name known), hasBit_single, Bool.and_eq_true,
          decide_eq_true_iff, decide_eq_true_iff] at bit
        rwa [bit.2] at present
      · rw [reading.unique legible rest, hasBit_unnamed, Bool.and_eq_true] at bit
        exact bit.1

/-- The written form of a set is read back, with all bits. -/
theorem parse_text (legible : v.Legible) (s : FlagSet v) : parse s.text = .ok s := by
  rw [parse_eq_ok_iff legible, termsOf_text legible]
  exact sayTogether_terms legible

end FlagSet

end WindowPolicy
