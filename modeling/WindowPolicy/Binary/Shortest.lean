/-
# WindowPolicy.Binary.Shortest — writing numbers with the fewest digits

A number is written with the fewest digits that no other number of its format is nearer
to, and of the texts with so few digits with the one nearest to it. Where two are equally
near, a `Tie` decides.

* `shortest`: the fewest digits, for the code of a finite number;
* `Layout.write`: where the point stands, and when and how an exponent is written.
-/
import WindowPolicy.Binary.Basic

namespace WindowPolicy

set_option autoImplicit false

open WindowPolicy.Binary

/-! ## The fewest digits -/

namespace Binary

/-- The number of decimal digits of a whole number. -/
def decimalLength (n : Nat) : Nat := (Nat.toDigits 10 n).length

/-- The exponent of the first decimal digit of `num / den`. -/
def leadingPlace (num den : Nat) : Int :=
  if den ≤ num then (decimalLength (num / den) : Int) - 1
  else -(decimalLength ((den + num - 1) / num - 1) : Int)

/-- The numbers to which the number with a code is nearest: the number itself and the ends
of the interval around it, in quarters of the last place. The interval is closed when
the significand is even. -/
structure Span where
  low : Nat
  middle : Nat
  high : Nat
  closed : Bool
  /-- The exponent of a quarter of the last place. -/
  exponent : Int

/-- Half a place on both sides; below a power of two the places are half as wide. -/
def Format.span (f : Format) (code : Nat) : Span :=
  let parts := f.unpack code
  let narrow := parts.1 = f.unit ∧ f.minExponent < parts.2
  { low := 4 * parts.1 - (if narrow then 1 else 2)
    middle := 4 * parts.1
    high := 4 * parts.1 + 2
    closed := parts.1 % 2 = 0
    exponent := parts.2 - 2 }

/-- Which of two digits is written when the number lies halfway between them. -/
inductive Tie where
  | even
  /-- The one further from zero. -/
  | away
deriving DecidableEq, Repr

/-- A number halfway above `down` is written as `down`. -/
def Tie.staysDown (tie : Tie) (down : Nat) : Bool := tie = .even && down % 2 = 0

/-- The multiple of `10 ^ place` nearest to the middle of a span, if one lies in the
span. -/
def Span.pick? (s : Span) (tie : Tie) (place : Int) : Option Nat :=
  let grid := power 10 place * power 2 (-s.exponent)
  let unit := power 10 (-place) * power 2 s.exponent
  let inside (n : Nat) : Bool :=
    if s.closed then s.low * unit ≤ n * grid && n * grid ≤ s.high * unit
    else s.low * unit < n * grid && n * grid < s.high * unit
  let down := s.middle * unit / grid
  let below := s.middle * unit - down * grid
  let above := (down + 1) * grid - s.middle * unit
  let nearer := if below < above ∨ (below = above ∧ tie.staysDown down) then down else down + 1
  if inside nearer then some nearer
  else [down, down + 1].find? inside

/-- A number of digits without the zeros at its end, which move into the exponent. -/
def dropZeros : Nat → Nat → Int → Nat × Int
  | 0, digits, exponent => (digits, exponent)
  | fuel + 1, digits, exponent =>
      if digits % 10 = 0 then dropZeros fuel (digits / 10) (exponent + 1)
      else (digits, exponent)

/-- The fewest digits to which the finite positive number with a code is nearest, as
`digits * 10 ^ exponent`. Seventeen digits are enough for every format here. -/
def shortest (f : Format) (tie : Tie) (code : Nat) : Nat × Int :=
  let span := f.span code
  let top := leadingPlace (span.middle * power 2 span.exponent) (power 2 (-span.exponent))
  let found := (List.range 17).findSome? fun (n : Nat) =>
    (span.pick? tie (top - n)).map fun digits => (digits, top - n)
  match found with
  | some (digits, exponent) => dropZeros (decimalLength digits) digits exponent
  | none => (0, 0)

/-! ## Writing -/

/-- How numbers are written: without an exponent when the first digit stands between two
places. -/
structure Layout where
  lowest : Int
  highest : Int
  tie : Tie
  /-- An exponent above zero is written with a plus sign. -/
  plus : Bool

/-- Digits with a point among them, at least one digit on each side. -/
def positional (digits : List Char) (exponent : Int) : List Char :=
  if 0 ≤ exponent then digits ++ List.replicate exponent.toNat '0' ++ ['.', '0']
  else
    let behind := (-exponent).toNat
    if behind < digits.length then
      digits.take (digits.length - behind) ++ '.' :: digits.drop (digits.length - behind)
    else '0' :: '.' :: (List.replicate (behind - digits.length) '0' ++ digits)

/-- Digits with the point after the first one, if more follow, and an exponent. -/
def scientific (plus : Bool) (digits : List Char) (place : Int) : List Char :=
  let significand := match digits with
    | first :: second :: rest => first :: '.' :: second :: rest
    | _ => digits
  let sign := if plus ∧ 0 < place then ['+'] else []
  significand ++ 'e' :: (sign ++ (toString place).toList)

/-- The text of a decimal without its sign. -/
def Layout.write (l : Layout) (digits : Nat) (exponent : Int) : List Char :=
  let written := Nat.toDigits 10 digits
  let place := exponent + (written.length - 1 : Nat)
  if l.lowest ≤ place ∧ place ≤ l.highest then positional written exponent
  else scientific l.plus written place

end Binary

/-- The shortest text of a finite number. -/
def Binary32.text (l : Layout) (x : Binary32) : String :=
  let digits :=
    if x.code = 0 then ['0', '.', '0']
    else
      let parts := shortest .single l.tie x.code
      l.write parts.1 parts.2
  String.ofList (if x.isNegative then '-' :: digits else digits)

example : shortest .single .even 0x3f19999a = (6, -1) := by decide +kernel
example : shortest .single .even 0x000116c2 = (1, -40) := by decide +kernel
example : shortest .single .even 0x7f7fffff = (34028235, 31) := by decide +kernel
example : shortest .single .even 0x4a000001 = (20971522, -1) := by decide +kernel
example : shortest .single .away 0x4a000001 = (20971523, -1) := by decide +kernel

end WindowPolicy
