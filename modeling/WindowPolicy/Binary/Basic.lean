/-
# WindowPolicy.Binary.Basic — single and double precision numbers

Numbers are kept as their bits, so that two of them are equal exactly when nothing can
tell them apart: zero and negative zero differ, and so do two NaNs with different bits.
Comparison is by value: it takes the two zeros for one and no NaN for comparable.

* `Binary32`, `Binary64`: the two formats, with `lt` and `le` by value;
* `Binary32.clampUnit`: a number brought between zero and one;
* `Binary32.ofBinary64`: the nearest number of single precision.
-/
import WindowPolicy.Binary.Format

namespace WindowPolicy

set_option autoImplicit false

open WindowPolicy.Binary

/-- A number of single precision, as its bits. -/
structure Binary32 where
  bits : UInt32
deriving DecidableEq, Repr

/-- A number of double precision, as its bits. -/
structure Binary64 where
  bits : UInt64
deriving DecidableEq, Repr

/-- A code with a sign, as a whole number that orders like the numbers themselves. -/
def signedCode (negative : Bool) (code : Nat) : Int := if negative then -code else code

namespace Binary64

/-- The sign bit. -/
def isNegative (x : Binary64) : Bool := Format.double.signBit ≤ x.bits.toNat

/-- The code of the number without its sign. -/
def code (x : Binary64) : Nat := x.bits.toNat % Format.double.signBit

/-- The number with a sign and a code. -/
def ofCode (negative : Bool) (code : Nat) : Binary64 :=
  ⟨UInt64.ofNat (code + if negative then Format.double.signBit else 0)⟩

def zero : Binary64 := ⟨0⟩

/-- Codes beyond infinity are no numbers. -/
def isNaN (x : Binary64) : Bool := Format.double.infinity < x.code

def isFinite (x : Binary64) : Bool := x.code < Format.double.infinity

/-- The place of a number in the order of all numbers. -/
def rank (x : Binary64) : Int := signedCode x.isNegative x.code

/-- Less, by value. -/
def lt (x y : Binary64) : Bool := !x.isNaN && !y.isNaN && x.rank < y.rank

/-- Less or equal, by value. -/
def le (x y : Binary64) : Bool := !x.isNaN && !y.isNaN && x.rank ≤ y.rank

end Binary64

namespace Binary32

/-- The sign bit. -/
def isNegative (x : Binary32) : Bool := Format.single.signBit ≤ x.bits.toNat

/-- The code of the number without its sign. -/
def code (x : Binary32) : Nat := x.bits.toNat % Format.single.signBit

/-- The number with a sign and a code. -/
def ofCode (negative : Bool) (code : Nat) : Binary32 :=
  ⟨UInt32.ofNat (code + if negative then Format.single.signBit else 0)⟩

def zero : Binary32 := ⟨0⟩

def one : Binary32 := ⟨0x3f800000⟩

/-- Codes beyond infinity are no numbers. -/
def isNaN (x : Binary32) : Bool := Format.single.infinity < x.code

def isFinite (x : Binary32) : Bool := x.code < Format.single.infinity

/-- The place of a number in the order of all numbers. -/
def rank (x : Binary32) : Int := signedCode x.isNegative x.code

/-- Less, by value. -/
def lt (x y : Binary32) : Bool := !x.isNaN && !y.isNaN && x.rank < y.rank

/-- A number below zero becomes zero and one above one becomes one; every other value,
negative zero and NaN among them, stays as it is. -/
def clampUnit (x : Binary32) : Binary32 :=
  if x.lt zero then zero else if one.lt x then one else x

/-- The number of single precision nearest to one of double precision. -/
def ofBinary64 (x : Binary64) : Binary32 :=
  if x.isNaN then ⟨0x7fc00000⟩
  else if x.isFinite then
    let parts := Format.double.unpack x.code
    let code := Format.single.nearest (parts.1 * power 2 parts.2) (power 2 (-parts.2))
    ofCode x.isNegative code
  else ofCode x.isNegative Format.single.infinity

end Binary32

end WindowPolicy
