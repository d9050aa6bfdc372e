/-
# WindowPolicy.Config.Attributes — attributes and themes in configuration

The written forms of everything that a configuration file can hold. A record of attributes
needs every field but the token; a theme may leave out any field.
-/
import WindowPolicy.Attributes.Layers
import WindowPolicy.Config.Codec
import WindowPolicy.Decor
import WindowPolicy.Feature.Basic

namespace WindowPolicy

set_option autoImplicit false

open WindowPolicy.Config

/-! ## Numbers and names -/

def Token.codec : Codec Token where
  encode t := .number (.ofInt t.value.toNat)
  decode := decodeNat UInt64.size fun n => ⟨UInt64.ofNat n⟩

def TypeCode.codec : Codec TypeCode where
  encode t := .number (.ofInt t.toInt)
  decode := decodeInt Int32.minValue.toInt (Int32.maxValue.toInt + 1) fun z => ⟨Int32.ofInt z⟩

def Feature.codec : Codec Feature := choice Feature.all Feature.name

def PixelFormat.codec : Codec PixelFormat := choice PixelFormat.all PixelFormat.name

def CaptionShade.codec : Codec CaptionShade := choice CaptionShade.all CaptionShade.name

def Extent.codec : Codec Extent where
  encode
    | .matchParent => .word "MatchParent"
    | .wrapContent => .word "WrapContent"
    | .pixels count => .record [("Exact", .number (.ofInt count.toNat))]
  decode := variant ["MatchParent", "WrapContent", "Exact"] fun name payload =>
    match name, payload with
    | "Exact", some value => decodeNat UInt32.size (fun n => .pixels (UInt32.ofNat n)) value
    | "Exact", none => .error .invalid
    | _, _ =>
        if isBlankPayload payload then
          .ok (if name = "MatchParent" then .matchParent else .wrapContent)
        else .error .invalid

/-! ## Flag sets -/

/-- Bits that are no feature are dropped when a set is read. -/
def Features.codec : Codec Features := flagCodec FlagSet.ofStoredDefined

def WindowFlags.codec : Codec WindowFlags := flagCodec FlagSet.ofStored

def BarAppearance.codec : Codec BarAppearance := flagCodec FlagSet.ofStored

/-! ## Soft input -/

namespace SoftInput

def Visibility.codec : Codec Visibility := choice Visibility.all Visibility.name

def Adjustment.codec : Codec Adjustment := choice Adjustment.all Adjustment.name

/-- The fields of a soft input mode that were read. -/
structure Draft where
  visibility : Option Visibility := none
  adjustment : Option Adjustment := none

def schema : Schema Draft SoftInput where
  names := ["state", "adjust"]
  start := {}
  field d name value :=
    match name with
    | "state" => do
        return { d with visibility := ← once d.visibility name Visibility.codec.decode value }
    | _ => do
        return { d with adjustment := ← once d.adjustment name Adjustment.codec.decode value }
  finish d := do
    let visibility ← required d.visibility "state"
    let adjustment ← required d.adjustment "adjust"
    return { visibility, adjustment }

def codec : Codec SoftInput where
  encode m :=
    .record [("state", Visibility.codec.encode m.visibility),
      ("adjust", Adjustment.codec.encode m.adjustment)]
  decode := schema.decode

end SoftInput

/-! ## Attributes -/

namespace Attributes

/-- The fields of a record that were read. -/
structure Draft where
  type : Option TypeCode := none
  token : Option (Option Token) := none
  title : Option String := none
  flags : Option WindowFlags := none
  format : Option PixelFormat := none
  dim : Option Binary32 := none
  softInput : Option SoftInput := none
  width : Option Extent := none
  height : Option Extent := none

/-- Reads one field. -/
def Draft.read (d : Draft) (name : String) (value : Value) : Except ConfigError Draft := do
  match name with
  | "window_type" => return { d with type := ← once d.type name TypeCode.codec.decode value }
  | "token" =>
      return { d with token := ← once d.token name (optionCodec Token.codec).decode value }
  | "title" => return { d with title := ← once d.title name stringCodec.decode value }
  | "flags" => return { d with flags := ← once d.flags name WindowFlags.codec.decode value }
  | "format" => return { d with format := ← once d.format name PixelFormat.codec.decode value }
  | "dim_amount" => return { d with dim := ← once d.dim name binary32Codec.decode value }
  | "soft_input_mode" =>
      return { d with softInput := ← once d.softInput name SoftInput.codec.decode value }
  | "width" => return { d with width := ← once d.width name Extent.codec.decode value }
  | _ => return { d with height := ← once d.height name Extent.codec.decode value }

def schema : Schema Draft Attributes where
  names := ["window_type", "token", "title", "flags", "format", "dim_amount",
    "soft_input_mode", "width", "height"]
  start := {}
  field := Draft.read
  finish d := do
    let type ← required d.type "window_type"
    let title ← required d.title "title"
    let flags ← required d.flags "flags"
    let format ← required d.format "format"
    let dim ← required d.dim "dim_amount"
    let softInput ← required d.softInput "soft_input_mode"
    let width ← required d.width "width"
    let height ← required d.height "height"
    return { type, token := d.token.getD none, title, flags, format, dim, softInput, width, height }

def codec : Codec Attributes where
  encode a :=
    .record [("window_type", TypeCode.codec.encode a.type),
      ("token", (optionCodec Token.codec).encode a.token),
      ("title", stringCodec.encode a.title),
      ("flags", WindowFlags.codec.encode a.flags),
      ("format", PixelFormat.codec.encode a.format),
      ("dim_amount", binary32Codec.encode a.dim),
      ("soft_input_mode", SoftInput.codec.encode a.softInput),
      ("width", Extent.codec.encode a.width),
      ("height", Extent.codec.encode a.height)]
  decode := schema.decode

end Attributes

/-! ## Themes -/

namespace Theme

/-- The fields of a theme that were read. -/
structure Draft where
  format : Option PixelFormat := none
  dim : Option Binary32 := none
  softInput : Option SoftInput := none
  closeOnTouchOutside : Option Bool := none
  floating : Option Bool := none

/-- Reads one field. -/
def Draft.read (d : Draft) (name : String) (value : Value) : Except ConfigError Draft := do
  match name with
  | "window_format" =>
      return { d with format := ← once d.format name PixelFormat.codec.decode value }
  | "dim_amount" => return { d with dim := ← once d.dim name binary32Codec.decode value }
  | "soft_input_mode" =>
      return { d with softInput := ← once d.softInput name SoftInput.codec.decode value }
  | "close_on_touch_outside" =>
      return { d with
        closeOnTouchOutside := ← once d.closeOnTouchOutside name boolCodec.decode value }
  | _ => return { d with floating := ← once d.floating name boolCodec.decode value }

/-- The theme with the fields that were read, and silent on the others. -/
def Draft.theme (d : Draft) : Theme :=
  let silent : Theme := {}
  { format := d.format.getD silent.format
    dim := d.dim.getD silent.dim
    softInput := d.softInput.getD silent.softInput
    closeOnTouchOutside := d.closeOnTouchOutside.getD silent.closeOnTouchOutside
    floating := d.floating.getD silent.floating }

def schema : Schema Draft Theme where
  names := ["window_format", "dim_amount", "soft_input_mode", "close_on_touch_outside",
    "is_floating"]
  start := {}
  field := Draft.read
  finish d := .ok d.theme
  shortLists := true

def codec : Codec Theme where
  encode t :=
    .record [("window_format", PixelFormat.codec.encode t.format),
      ("dim_amount", binary32Codec.encode t.dim),
      ("soft_input_mode", SoftInput.codec.encode t.softInput),
      ("close_on_touch_outside", boolCodec.encode t.closeOnTouchOutside),
      ("is_floating", boolCodec.encode t.floating)]
  decode := schema.decode

end Theme

end WindowPolicy
