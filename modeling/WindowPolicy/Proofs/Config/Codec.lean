/-
# WindowPolicy.Proofs.Config.Codec — what a codec writes, it reads

A codec is faithful if every value comes back from its written form. Leaves are faithful where
they keep within their bounds, and a choice where its names tell all values apart.

Of a record more is known. Its fields may come in any order, and some of them may be missing. The
draft after a number of fields is told by the names that were read, so one field that is read adds
its name, and a run of fields adds theirs.

* `Codec.Faithful`: every value comes back;
* `decodeInt_ofInt`, `optionCodec_faithful`, `choice_faithful`: leaves, options, names;
* `flagCodec_decode_eq_ok_iff`: what is read as a flag set;
* `slot`: a field of a draft, empty until its name is read;
* `Schema.Fills`, `Schema.Fills.decode_record`: drafts told by the names that were read;
* `Value.restrict`: the part of an object with some of its fields.
-/
import Mathlib.Data.List.Nodup
import WindowPolicy.Config.Codec

namespace WindowPolicy.Config

set_option autoImplicit false

variable {α β δ : Type}

/-- Every value comes back from its written form. -/
def Codec.Faithful (c : Codec α) : Prop := ∀ a, c.decode (c.encode a) = .ok a

/-! ## Leaves -/

@[simp] theorem Number.toInt?_ofInt (z : Int) : (Number.ofInt z).toInt? = some z := by
  cases z with
  | ofNat n => rfl
  | negSucc n =>
      have negative : decide (Int.negSucc n < 0) = true := decide_eq_true (Int.negSucc_lt_zero n)
      rw [ofInt, negative]
      rfl

theorem decodeInt_ofInt {low high z : Int} (make : Int → α) (above : low ≤ z) (below : z < high) :
    decodeInt low high make (.number (.ofInt z)) = .ok (make z) := by
  have within : (decide (low ≤ z) && decide (z < high)) = true := by simp [above, below]
  simp only [decodeInt, Number.toInt?_ofInt, Option.filter_some, within, if_true, Option.map_some,
    orInvalid]

theorem decodeNat_ofInt {bound n : Nat} (make : Nat → α) (below : n < bound) :
    decodeNat bound make (.number (.ofInt n)) = .ok (make n) :=
  decodeInt_ofInt (fun z => make z.toNat) (Int.natCast_nonneg n) (Int.ofNat_lt.mpr below)

@[simp] theorem boolCodec_faithful : boolCodec.Faithful := fun _ => rfl

@[simp] theorem stringCodec_faithful : stringCodec.Faithful := fun _ => rfl

@[simp] theorem binary32Codec_faithful : binary32Codec.Faithful := fun _ => rfl

/-- Values that are not written as null can be told from one that is absent. -/
theorem optionCodec_faithful {c : Codec α} (faithful : c.Faithful)
    (present : ∀ a, c.encode a ≠ .null) : (optionCodec c).Faithful
  | none => rfl
  | some a => by
      simp only [optionCodec]
      split
      · exact absurd ‹_› (present a)
      · rw [faithful a]
        rfl

theorem mapError_eq_ok_iff {ε ε' : Type} {f : ε → ε'} {result : Except ε α} {a : α} :
    result.mapError f = .ok a ↔ result = .ok a := by
  cases result <;> simp [Except.mapError]

/-- Only texts are read as flag sets. -/
theorem flagCodec_decode_eq_ok_iff {v : Vocabulary} {s : FlagSet v}
    {load : StoredFlags → Except FlagError (FlagSet v)} {value : Value} :
    (flagCodec load).decode value = .ok s ↔
      ∃ text, value = .text (some text) ∧ load (.text text) = .ok s := by
  constructor
  · intro read
    simp only [flagCodec] at read
    split at read
    · exact ⟨_, rfl, mapError_eq_ok_iff.mp read⟩
    · cases read
  · rintro ⟨text, rfl, loaded⟩
    exact mapError_eq_ok_iff.mpr loaded

theorem choice_faithful {all : List α} {name : α → String} (complete : ∀ a, a ∈ all)
    (distinct : (all.map name).Nodup) : (choice all name).Faithful := by
  intro a
  have known : name a ∈ all.map name := List.mem_map_of_mem (complete a)
  have hit : (all.find? fun b => name b = name a).isSome :=
    List.find?_isSome.mpr ⟨a, complete a, decide_eq_true rfl⟩
  obtain ⟨b, found⟩ := Option.isSome_iff_exists.mp hit
  -- What is found has the name, and no other value has it.
  have same : name b = name a := by simpa using List.find?_some found
  rw [List.inj_on_of_nodup_map distinct (complete b) (complete a) same] at found
  simp only [choice, Value.word, variant, if_pos known, isBlankPayload, if_true, found, orInvalid]

/-! ## Slots -/

/-- A field of a draft, empty until its name is read. -/
def slot (read : List String) (name : String) (a : α) : Option α :=
  if name ∈ read then some a else none

section Slot

variable {read : List String} {name other : String} {a : α}

@[simp] theorem slot_cons_self : slot (name :: read) name a = some a :=
  if_pos List.mem_cons_self

theorem slot_of_not_mem (unseen : name ∉ read) : slot read name a = none := if_neg unseen

@[simp] theorem slot_cons_of_ne (differ : name ≠ other) :
    slot (other :: read) name a = slot read name a := by
  simp only [slot, List.mem_cons, differ, false_or]

theorem slot_getD (standard : α) :
    (slot read name a).getD standard = if name ∈ read then a else standard := by
  unfold slot
  split <;> rfl

@[simp] theorem once_slot {c : Codec α} (faithful : c.Faithful) (unseen : name ∉ read) :
    once (slot read name a) name c.decode (c.encode a) = .ok (some a) := by
  rw [slot_of_not_mem unseen, once, faithful a]
  rfl

end Slot

/-! ## Records -/

namespace Schema

/-- The declared fields with their values, which fill drafts one by one: what a draft holds after
some of them is told by their names. -/
structure Fills (s : Schema δ α) (fields : List (String × Value)) (draft : List String → δ) :
    Prop where
  names : fields.map Prod.fst = s.names
  start : s.start = draft []
  field : ∀ name value read, (name, value) ∈ fields → name ∉ read →
    s.field (draft read) name value = .ok (draft (name :: read))

variable {s : Schema δ α} {fields part : List (String × Value)} {draft : List String → δ}

/-- The members of an object, as they stand in it. -/
theorem Fills.members (fills : s.Fills fields draft) (subset : part ⊆ fields)
    (distinct : (part.map Prod.fst).Nodup) {read : List String}
    (unseen : ∀ name ∈ part.map Prod.fst, name ∉ read) :
    s.members (draft read) (part.map fun field => (some field.1, field.2)) =
      .ok (draft ((part.map Prod.fst).reverse ++ read)) := by
  -- A name that was read joins those before it, so the fields that follow meet a longer `read`.
  induction part generalizing read with
  | nil => rfl
  | cons first rest ih =>
      obtain ⟨name, value⟩ := first
      obtain ⟨here, later⟩ := List.cons_subset.mp subset
      rw [List.map_cons, List.nodup_cons] at distinct
      have unseenRest : ∀ other ∈ rest.map Prod.fst, other ∉ name :: read := by
        intro other among seen
        rcases List.mem_cons.mp seen with rfl | before
        · exact distinct.1 among
        · exact unseen other (List.mem_cons_of_mem _ among) before
      have known : name ∈ s.names := fills.names ▸ List.mem_map_of_mem here
      have step := fills.field name value read here (unseen name List.mem_cons_self)
      rw [List.map_cons, Schema.members, if_pos known, step]
      refine (ih later distinct.2 unseenRest).trans ?_
      rw [List.map_cons, List.reverse_cons, List.append_assoc, List.singleton_append]

/-- Some of the fields, in any order. -/
theorem Fills.decode_record (fills : s.Fills fields draft) (subset : part ⊆ fields)
    (distinct : (part.map Prod.fst).Nodup) :
    s.decode (.record part) = s.finish (draft (part.map Prod.fst).reverse) := by
  have unseen : ∀ name ∈ part.map Prod.fst, name ∉ ([] : List String) := fun _ _ =>
    List.not_mem_nil
  have read := fills.members subset distinct unseen
  rw [List.append_nil, ← fills.start] at read
  simp only [Schema.decode, Value.record, read]
  rfl

end Schema

/-- The part of an object with the fields whose names are kept. -/
def Value.restrict (keep : String → Bool) : Value → Value
  | .object members ending => .object (members.filter fun field => field.1.any keep) ending
  | value => value

theorem Value.restrict_record (keep : String → Bool) (fields : List (String × Value)) :
    (Value.record fields).restrict keep = .record (fields.filter fun field => keep field.1) := by
  simp only [Value.restrict, Value.record, List.filter_map]
  rfl

end WindowPolicy.Config
