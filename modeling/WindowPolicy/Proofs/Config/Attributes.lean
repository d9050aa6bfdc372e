/-
# WindowPolicy.Proofs.Config.Attributes — records and themes in configuration

A record of attributes comes back from configuration as it was: any type code, any token or
none, any title, any bits for flags, named or not, any number for the dimming, bit by bit. So does
a theme, and a theme may say less: a field that is left out is read as the silent theme has it,
whichever fields these are.

* `SoftInput.codec_faithful`, `Extent.codec_faithful`, …: the parts of both;
* `Attributes.decode_record`: the fields of a record, in any order;
* `Theme.only`: a theme that is silent but for some of its fields;
* `Theme.decode_record`: some of the fields of a theme, in any order;
* `configuration_read_back`: records and themes.
-/
import WindowPolicy.Proofs.Config.Codec
import WindowPolicy.Proofs.Config.Flags

namespace WindowPolicy

set_option autoImplicit false

open WindowPolicy.Config

/-! ## Numbers and names -/

@[simp] theorem Token.codec_faithful : Token.codec.Faithful := by
  intro t
  simp only [codec, decodeNat_ofInt _ t.value.toNat_lt_size, UInt64.ofNat_toNat]

@[simp] theorem TypeCode.codec_faithful : TypeCode.codec.Faithful := by
  intro t
  have below := Int.lt_add_one_of_le t.value.toInt_le
  simp only [codec, toInt, decodeInt_ofInt _ t.value.minValue_le_toInt below, Int32.ofInt_toInt]

@[simp] theorem PixelFormat.codec_faithful : PixelFormat.codec.Faithful :=
  choice_faithful (fun format => by cases format <;> decide) (by decide)

@[simp] theorem Extent.codec_faithful : Extent.codec.Faithful
  | .matchParent => rfl
  | .wrapContent => rfl
  | .pixels count => by
      have read := decodeNat_ofInt (fun n => Extent.pixels (UInt32.ofNat n)) count.toNat_lt_size
      rw [UInt32.ofNat_toNat] at read
      simp [codec, Value.record, variant, read]
      rfl

/-- Bits without a name come back from the numeral that they are written as. -/
@[simp] theorem WindowFlags.codec_faithful : WindowFlags.codec.Faithful := fun s =>
  flagCodec_decode_eq_ok_iff.mpr ⟨s.text, rfl, FlagSet.ofStored_stored windowFlags_legible s true⟩

/-! ## Soft input -/

namespace SoftInput

@[simp] theorem Visibility.codec_faithful : Visibility.codec.Faithful :=
  choice_faithful (fun visibility => by cases visibility <;> decide) (by decide)

@[simp] theorem Adjustment.codec_faithful : Adjustment.codec.Faithful :=
  choice_faithful (fun adjustment => by cases adjustment <;> decide) (by decide)

/-- The fields of a mode, as they are written. -/
def fields (m : SoftInput) : List (String × Value) :=
  [("state", Visibility.codec.encode m.visibility),
    ("adjust", Adjustment.codec.encode m.adjustment)]

/-- The draft of a mode with the fields whose names were read. -/
def draft (m : SoftInput) (read : List String) : Draft where
  visibility := slot read "state" m.visibility
  adjustment := slot read "adjust" m.adjustment

theorem fills (m : SoftInput) : schema.Fills m.fields m.draft where
  names := rfl
  start := rfl
  field name value read here unseen := by
    simp only [fields, List.mem_cons, List.not_mem_nil, or_false, Prod.mk.injEq] at here
    rcases here with ⟨rfl, rfl⟩ | ⟨rfl, rfl⟩ <;> simp [schema, draft, unseen]

@[simp] theorem codec_faithful : codec.Faithful := fun m =>
  have distinct : schema.names.Nodup := by decide
  m.fills.decode_record (List.Subset.refl _) distinct

end SoftInput

/-! ## Attributes -/

namespace Attributes

/-- The fields of a record, as they are written. -/
def fields (a : Attributes) : List (String × Value) :=
  [("window_type", TypeCode.codec.encode a.type),
    ("token", (optionCodec Token.codec).encode a.token),
    ("title", stringCodec.encode a.title),
    ("flags", WindowFlags.codec.encode a.flags),
    ("format", PixelFormat.codec.encode a.format),
    ("dim_amount", binary32Codec.encode a.dim),
    ("soft_input_mode", SoftInput.codec.encode a.softInput),
    ("width", Extent.codec.encode a.width),
    ("height", Extent.codec.encode a.height)]

/-- The draft of a record with the fields whose names were read. -/
def draft (a : Attributes) (read : List String) : Draft where
  type := slot read "window_type" a.type
  token := slot read "token" a.token
  title := slot read "title" a.title
  flags := slot read "flags" a.flags
  format := slot read "format" a.format
  dim := slot read "dim_amount" a.dim
  softInput := slot read "soft_input_mode" a.softInput
  width := slot read "width" a.width
  height := slot read "height" a.height

theorem fills (a : Attributes) : schema.Fills a.fields a.draft where
  names := rfl
  start := rfl
  field name value read here unseen := by
    have token : (optionCodec Token.codec).Faithful :=
      optionCodec_faithful Token.codec_faithful fun _ => Value.noConfusion
    simp only [fields, List.mem_cons, List.not_mem_nil, or_false, Prod.mk.injEq] at here
    rcases here with ⟨rfl, rfl⟩ | ⟨rfl, rfl⟩ | ⟨rfl, rfl⟩ | ⟨rfl, rfl⟩ | ⟨rfl, rfl⟩ | ⟨rfl, rfl⟩ |
      ⟨rfl, rfl⟩ | ⟨rfl, rfl⟩ | ⟨rfl, rfl⟩ <;>
      simp [schema, Draft.read, draft, token, unseen]

theorem finish_draft (a : Attributes) {read : List String}
    (complete : ∀ name ∈ schema.names, name ∈ read) : schema.finish (a.draft read) = .ok a := by
  simp only [schema, List.forall_mem_cons] at complete
  simp [schema, draft, required, slot, complete]
  rfl

/-- The fields of a record, in any order. -/
theorem decode_record (a : Attributes) {part : List (String × Value)} (same : part.Perm a.fields) :
    codec.decode (.record part) = .ok a := by
  have names := same.map Prod.fst
  have distinct : schema.names.Nodup := by decide
  refine (a.fills.decode_record same.subset (names.nodup_iff.mpr distinct)).trans
    (a.finish_draft fun name known => ?_)
  rw [List.mem_reverse, names.mem_iff]
  exact known

end Attributes

/-! ## Themes -/

namespace Theme

/-- The fields of a theme, as they are written. -/
def fields (t : Theme) : List (String × Value) :=
  [("window_format", PixelFormat.codec.encode t.format),
    ("dim_amount", binary32Codec.encode t.dim),
    ("soft_input_mode", SoftInput.codec.encode t.softInput),
    ("close_on_touch_outside", boolCodec.encode t.closeOnTouchOutside),
    ("is_floating", boolCodec.encode t.floating)]

/-- The draft of a theme with the fields whose names were read. -/
def draft (t : Theme) (read : List String) : Draft where
  format := slot read "window_format" t.format
  dim := slot read "dim_amount" t.dim
  softInput := slot read "soft_input_mode" t.softInput
  closeOnTouchOutside := slot read "close_on_touch_outside" t.closeOnTouchOutside
  floating := slot read "is_floating" t.floating

theorem fills (t : Theme) : schema.Fills t.fields t.draft where
  names := rfl
  start := rfl
  field name value read here unseen := by
    simp only [fields, List.mem_cons, List.not_mem_nil, or_false, Prod.mk.injEq] at here
    rcases here with ⟨rfl, rfl⟩ | ⟨rfl, rfl⟩ | ⟨rfl, rfl⟩ | ⟨rfl, rfl⟩ | ⟨rfl, rfl⟩ <;>
      simp [schema, Draft.read, draft, unseen]

/-- The theme that is silent but for the fields whose names are kept. -/
def only (t : Theme) (keep : String → Bool) : Theme :=
  let silent : Theme := {}
  { format := if keep "window_format" then t.format else silent.format
    dim := if keep "dim_amount" then t.dim else silent.dim
    softInput := if keep "soft_input_mode" then t.softInput else silent.softInput
    closeOnTouchOutside :=
      if keep "close_on_touch_outside" then t.closeOnTouchOutside else silent.closeOnTouchOutside
    floating := if keep "is_floating" then t.floating else silent.floating }

variable {t : Theme} {keep keep' : String → Bool} {part : List (String × Value)}

theorem only_congr (agree : ∀ name ∈ schema.names, keep name = keep' name) :
    t.only keep = t.only keep' := by
  simp only [schema, List.forall_mem_cons] at agree
  simp [only, agree]

theorem draft_theme (t : Theme) (read : List String) :
    (t.draft read).theme = t.only fun name => name ∈ read := by
  simp only [draft, Draft.theme, only, slot_getD, decide_eq_true_iff]

/-- Some of the fields of a theme, in any order. -/
theorem decode_record (subset : part ⊆ t.fields) (distinct : (part.map Prod.fst).Nodup) :
    codec.decode (.record part) = .ok (t.only fun name => name ∈ part.map Prod.fst) := by
  refine (t.fills.decode_record subset distinct).trans (congrArg Except.ok ?_)
  simp only [draft_theme, List.mem_reverse]

theorem decode_restrict (t : Theme) (keep : String → Bool) :
    codec.decode ((codec.encode t).restrict keep) = .ok (t.only keep) := by
  have kept : (t.fields.filter fun field => keep field.1).map Prod.fst = schema.names.filter keep :=
    List.filter_map.symm
  have distinct : schema.names.Nodup := by decide
  have read := decode_record List.filter_sublist.subset (kept ▸ distinct.filter keep)
  rw [kept] at read
  refine (congrArg codec.decode (Value.restrict_record keep t.fields)).trans (read.trans ?_)
  -- The names of the part are those that are declared and kept.
  refine congrArg Except.ok (only_congr fun name known => ?_)
  simp [known]

end Theme

/-! ## Configuration -/

/-- A record of attributes comes back from its written form, and so does a theme. Of a theme that
was written, any part is read as the same theme where it speaks and as the silent theme where it
does not. -/
theorem configuration_read_back :
    (∀ a : Attributes, Attributes.codec.decode (Attributes.codec.encode a) = .ok a) ∧
    (∀ t : Theme, Theme.codec.decode (Theme.codec.encode t) = .ok t) ∧
    ∀ (t : Theme) (keep : String → Bool),
      Theme.codec.decode ((Theme.codec.encode t).restrict keep) = .ok (t.only keep) := by
  refine ⟨fun a => a.decode_record (List.Perm.refl _), fun t => ?_, Theme.decode_restrict⟩
  exact t.decode_restrict fun _ => true

end WindowPolicy
