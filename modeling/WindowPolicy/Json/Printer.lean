/-
# WindowPolicy.Json.Printer — configuration values as JSON texts

Values are written without any white space. A value that was cut short is written up to
the cut.

* `layout`: where numbers of single precision take an exponent, and which;
* `Value.json`, `encode`: the written form.
-/
import WindowPolicy.Binary.Shortest
import WindowPolicy.Config.Codec
import WindowPolicy.Text.Basic

namespace WindowPolicy.Json

set_option autoImplicit false

open WindowPolicy.Config

/-- A character between quotes: quotes, backslashes and controls are escaped. -/
def escape (c : Char) : List Char :=
  match c with
  | '"' => ['\\', '"']
  | '\\' => ['\\', '\\']
  | '\x08' => ['\\', 'b']
  | '\x0c' => ['\\', 'f']
  | '\n' => ['\\', 'n']
  | '\r' => ['\\', 'r']
  | '\t' => ['\\', 't']
  | c =>
      if c.toNat < 0x20 then
        ['\\', 'u', '0', '0', (c.toNat / 16).digitChar, (c.toNat % 16).digitChar]
      else [c]

/-- A text between quotes. -/
def quote (text : String) : String :=
  String.ofList ('"' :: (text.toList.flatMap escape ++ ['"']))

/-- Numbers from a millionth up to ten to the thirteenth are written without exponent. An
exponent always has a sign. -/
def layout : Binary.Layout := ⟨-6, 12, .even, true⟩

/-- A sign, if it is needed. -/
def sign (negative : Bool) : String := if negative then "-" else ""

/-- A number. What is no finite number is written as null. -/
def number : Number → String
  | .whole negative magnitude => sign negative ++ toString magnitude
  | .scaled ⟨negative, whole, fraction, exponent⟩ =>
      let point := if fraction.isEmpty then [] else ['.']
      sign negative ++ String.ofList (whole ++ point ++ fraction) ++ "e" ++ toString exponent
  | .single x => if x.isFinite then x.text layout else "null"

/-- Parts between two brackets, with commas, the second bracket only if they are all. -/
def bracketed (opening closing : String) (ending : Ending) (parts : List String) : String :=
  opening ++ ",".intercalate parts ++ match ending with
    | .closed => closing
    | .cut => ""

mutual

/-- The written form of a value. -/
def value : Value → String
  | .null => "null"
  | .bool b => if b then "true" else "false"
  | .number n => number n
  | .text s => quote (s.getD "")
  | .list list ending => bracketed "[" "]" ending (items list)
  | .object object ending => bracketed "\x7b" "\x7d" ending (members object)
  | .broken => ""

/-- The written forms of the items of a list. -/
def items : List Value → List String
  | [] => []
  | item :: rest => value item :: items rest

/-- The written forms of the members of an object. -/
def members : List (Quotation × Value) → List String
  | [] => []
  | (key, item) :: rest => (quote (key.getD "") ++ ":" ++ value item) :: members rest

end

/-- A value as JSON text. -/
def encode {α : Type} (c : Codec α) (a : α) : String := value (c.encode a)

example : layout.write 99 11 = "9900000000000.0".toList := by decide +kernel
example : layout.write 15 19 = "1.5e+20".toList := by decide +kernel
example : layout.write 99 (-8) = "9.9e-7".toList := by decide +kernel

end WindowPolicy.Json
