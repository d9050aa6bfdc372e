/-
# WindowPolicy.Binary.Numeral — reading decimal numerals

A numeral is a number as it is written: digits in front of a point and behind it, and an
exponent of ten. It is read in double precision and in two steps. As many of its leading
digits as fit into a word make up a whole number, and a power of ten scales that number.
Both steps round, so that the number that is read is not always the one nearest to the
numeral. For up to fifteen digits and twenty-two places it is.

* `Numeral.significand`: the digits that count and the power of ten that scales them;
* `scaleByTen`: a number of double precision times a power of ten;
* `Numeral.toBinary64?`: the number that is read, if it is within the range.
-/
import WindowPolicy.Binary.Basic

namespace WindowPolicy

set_option autoImplicit false

open WindowPolicy.Binary

/-- A number as it is written. -/
structure Numeral where
  negative : Bool
  /-- The digits in front of the point. -/
  whole : List Char
  /-- The digits behind the point. -/
  fraction : List Char
  exponent : Int
deriving DecidableEq, Repr

/-! ## Powers of ten -/

namespace Binary

/-- The power of ten with this exponent is the largest one of double precision. -/
def highestTen : Nat := 308

/-- The code of a power of ten in double precision. -/
def ten (exponent : Nat) : Nat := Format.double.nearest (Nat.pow 10 exponent) 1

/-- The code of a number of double precision times a power of ten. Below zero the places
are divided off: first as many as the largest power has, then the others. No more than
twice as many matter, for they leave zero of every number that fits into a word. -/
def scaleByTen (code : Nat) (exponent : Int) : Nat :=
  let places := exponent.natAbs
  let first := min highestTen places
  if code = 0 then 0
  else if exponent < 0 then
    Format.double.quotient (Format.double.quotient code (ten first))
      (ten (min highestTen (places - first)))
  else if places ≤ highestTen then Format.double.product code (ten places)
  else Format.double.infinity

end Binary

/-! ## Reading -/

namespace Numeral

/-- A whole number in decimal digits. -/
def ofNat (negative : Bool) (n : Nat) : Numeral := ⟨negative, Nat.toDigits 10 n, [], 0⟩

/-- A number followed by digits, as many of them as fit into a word of 64 bits with it, and
the digits left. -/
def extend (n : Nat) : List Char → Nat × List Char
  | [] => (n, [])
  | digit :: rest =>
      let next := 10 * n + (digit.toNat - 0x30)
      if next < UInt64.size then extend next rest else (n, digit :: rest)

/-- The leading digits as a whole number, and the exponent of the power of ten that scales
it. Of the digits left those in front of the point only count as places, and those behind
it not at all. -/
def significand (x : Numeral) : Nat × Int :=
  let whole := extend 0 x.whole
  let fraction := extend whole.1 x.fraction
  (fraction.1, x.exponent + whole.2.length + fraction.2.length - x.fraction.length)

/-- The number of double precision that a numeral stands for, unless that is beyond the
largest one. -/
def toBinary64? (x : Numeral) : Option Binary64 :=
  let parts := x.significand
  let code := scaleByTen (Format.double.nearest parts.1 1) parts.2
  if code < Format.double.infinity then some (.ofCode x.negative code) else none

end Numeral

example : Numeral.toBinary64? ⟨true, ['0'], ['5'], 0⟩ = some ⟨0xbfe0000000000000⟩ := by
  decide +kernel
example : Numeral.toBinary64? ⟨false, ['1'], [], 308⟩ = some ⟨0x7fe1ccf385ebc8a0⟩ := by
  decide +kernel
example : Numeral.toBinary64? ⟨false, ['1', '0'], [], 308⟩ = none := by decide +kernel
example : Numeral.toBinary64? ⟨false, ['1'], [], -45⟩ = some ⟨0x3696d601ad376aba⟩ := by
  decide +kernel
example : Numeral.toBinary64? ⟨true, ['1'], [], -1000⟩ = some ⟨0x8000000000000000⟩ := by
  decide +kernel

end WindowPolicy
