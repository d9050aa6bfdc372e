/-
# WindowPolicy.Text.Basic — white space and hexadecimal numerals

White space is what has the Unicode property `White_Space`, which is more than the ASCII
blanks. Hexadecimal numerals are written in lowercase with no leading zero, and read in either
case with any number of leading zeros.

* `isBlank`: the property, as a table of ranges;
* `trim`: drops blanks from both ends of a text and nothing between them;
* `Hex.digits`: the digits of a number;
* `Hex.value?`: the number that a nonempty run of digits stands for.
-/
namespace WindowPolicy.Text

set_option autoImplicit false

/-- A character lies in one of the ranges, ends included. -/
def inRanges (ranges : List (Nat × Nat)) (c : Char) : Bool :=
  ranges.any fun range => range.1 ≤ c.toNat && c.toNat ≤ range.2

/-- The ranges of the property `White_Space`: 25 characters. -/
def blankRanges : List (Nat × Nat) :=
  [(0x09, 0x0D), (0x20, 0x20), (0x85, 0x85), (0xA0, 0xA0), (0x1680, 0x1680),
   (0x2000, 0x200A), (0x2028, 0x2029), (0x202F, 0x202F), (0x205F, 0x205F), (0x3000, 0x3000)]

/-- White space in the sense of Unicode, which is more than the ASCII blanks. -/
def isBlank (c : Char) : Bool := inRanges blankRanges c

/-- The text without the blanks at its two ends. -/
def trim (text : List Char) : List Char :=
  ((text.dropWhile isBlank).reverse.dropWhile isBlank).reverse

example : (blankRanges.map fun range => range.2 + 1 - range.1).sum = 25 := by decide

example : trim [' ', '\t', 'a', ' ', 'b', '\n'] = ['a', ' ', 'b'] := by decide

namespace Hex

/-- The lowercase digits of a number, most significant first. -/
def digits (n : Nat) : List Char := Nat.toDigits 16 n

/-- The value of one digit of either case. -/
def digitValue? (c : Char) : Option Nat :=
  if '0' ≤ c ∧ c ≤ '9' then some (c.toNat - 0x30)
  else if 'a' ≤ c ∧ c ≤ 'f' then some (c.toNat - 0x61 + 10)
  else if 'A' ≤ c ∧ c ≤ 'F' then some (c.toNat - 0x41 + 10)
  else none

/-- The number that continues `n` by the digits of a text. -/
def extend? (n : Nat) : List Char → Option Nat
  | [] => some n
  | c :: rest => (digitValue? c).bind fun d => extend? (16 * n + d) rest

/-- The number that a text of digits stands for; an empty text stands for none. -/
def value? (text : List Char) : Option Nat :=
  if text.isEmpty then none else extend? 0 text

example : digits 0x7af1d845 = ['7', 'a', 'f', '1', 'd', '8', '4', '5'] := by decide

example : value? ['0', '0', 'F', 'f'] = some 255 := by decide

end Hex

end WindowPolicy.Text
