/-
# WindowPolicy.Binary.Format — binary floating-point numbers as ordered codes

A format fixes how many bits a significand has, where the smallest place lies and how
many exponents there are. The nonnegative numbers of a format, with infinity after the
largest, are counted by a *code*: zero has code 0 and the next number always has the
next code. The code is also the bit pattern of the number without its sign.

* `unpack`: the significand and exponent that a code stands for;
* `nearest`: the code nearest to a fraction, a tie going to the even code;
* `product`, `quotient`: the code nearest to a product or quotient of two numbers.
-/
namespace WindowPolicy.Binary

set_option autoImplicit false

/-- A binary floating-point format. -/
structure Format where
  /-- Bits of a significand, the leading one included. -/
  precision : Nat
  /-- The exponent of the last place of the smallest numbers. -/
  minExponent : Int
  /-- The number of exponent fields below the one for infinity. -/
  exponents : Nat

/-- Numbers of 32 bits. -/
def Format.single : Format := ⟨24, -149, 255⟩

/-- Numbers of 64 bits. -/
def Format.double : Format := ⟨53, -1074, 2047⟩

/-- A power of a base. Exponents below zero count as zero, so that for an exponent of either
sign `power base e / power base (-e)` is the power as a fraction. -/
def power (base : Nat) (e : Int) : Nat := base.pow e.toNat

/-- A quotient rounded to the nearest whole number, a tie going to the even one. -/
def roundedQuotient (num den : Nat) : Nat :=
  let down := num / den
  let twice := 2 * (num % den)
  if twice < den ∨ (twice = den ∧ down % 2 = 0) then down else down + 1

namespace Format

variable (f : Format)

/-- The smallest significand with a leading one: also the number of codes that share an
exponent field. -/
def unit : Nat := Nat.pow 2 (f.precision - 1)

/-- The code of infinity. -/
def infinity : Nat := f.exponents * f.unit

/-- The bit of the sign, which stands above all codes. -/
def signBit : Nat := (f.exponents + 1) * f.unit

/-- The significand `m` and exponent `e` of the number `m * 2 ^ e` with a code. -/
def unpack (code : Nat) : Nat × Int :=
  match code / f.unit with
  | 0 => (code, f.minExponent)
  | field + 1 => (f.unit + code % f.unit, f.minExponent + field)

/-- The fraction `num / den`, counted in units of `2 ^ e`, as a fraction again. -/
def inUnitsOf (e : Int) (num den : Nat) : Nat × Nat :=
  (num * power 2 (-e), den * power 2 e)

/-- The exponent of the last place when `num / den` is written with a leading one,
or the smallest exponent of the format. -/
def placeOf (num den : Nat) : Int :=
  let guess : Int := (num.log2 : Int) - den.log2 - (f.precision - 1 : Nat)
  let counted := inUnitsOf guess num den
  max f.minExponent (if counted.1 < f.unit * counted.2 then guess - 1 else guess)

/-- The code of the number nearest to `num / den`, infinity when that is too large. -/
def nearest (num den : Nat) : Nat :=
  if num = 0 then 0
  else
    let place := f.placeOf num den
    let counted := inUnitsOf place num den
    let below := (place - f.minExponent).toNat * f.unit
    min f.infinity (below + roundedQuotient counted.1 counted.2)

/-- The code of the product of two finite numbers, rounded once. -/
def product (left right : Nat) : Nat :=
  let x := f.unpack left
  let y := f.unpack right
  f.nearest (x.1 * y.1 * power 2 (x.2 + y.2)) (power 2 (-(x.2 + y.2)))

/-- The code of the quotient of two finite numbers, the second not zero, rounded once. -/
def quotient (left right : Nat) : Nat :=
  let x := f.unpack left
  let y := f.unpack right
  f.nearest (x.1 * power 2 (x.2 - y.2)) (y.1 * power 2 (y.2 - x.2))

end Format

example : Format.single.nearest 1 1 = 0x3f800000 := by decide +kernel
example : Format.single.nearest 6 10 = 0x3f19999a := by decide +kernel
example : Format.double.nearest 1 10 = 0x3fb999999999999a := by decide +kernel
example : Format.single.product 0x3f19999a 0x40000000 = 0x3f99999a := by decide +kernel
example : Format.single.quotient 0x3f800000 0x40400000 = 0x3eaaaaab := by decide +kernel

end WindowPolicy.Binary
