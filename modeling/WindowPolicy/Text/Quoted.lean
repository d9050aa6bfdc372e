/-
# WindowPolicy.Text.Quoted — text between double quotes

The form in which names and titles appear in messages and descriptions. Everything
that a reader could not see or could misread is escaped, so the quoted form shows
exactly which characters the text has.

* `escape`: one character;
* `quote`: a text between quotes.
-/
import WindowPolicy.Text.Combining
import WindowPolicy.Text.Basic
import WindowPolicy.Text.Invisible

namespace WindowPolicy.Text

set_option autoImplicit false

/-- A character by its number, in hexadecimal between braces. -/
def escapeNumber (c : Char) : List Char :=
  '\\' :: 'u' :: '\x7b' :: (Hex.digits c.toNat ++ ['\x7d'])

/-- A character as it stands between quotes. Combining characters are escaped as well:
drawn after a quote they would change its look. -/
def escape (c : Char) : List Char :=
  match c with
  | '\x00' => ['\\', '0']
  | '\t' => ['\\', 't']
  | '\n' => ['\\', 'n']
  | '\r' => ['\\', 'r']
  | '"' => ['\\', '"']
  | '\\' => ['\\', '\\']
  | c => if isCombining c || isInvisible c then escapeNumber c else [c]

/-- A text between double quotes. -/
def quote (text : String) : String :=
  String.ofList ('"' :: (text.toList.flatMap escape ++ ['"']))

end WindowPolicy.Text
