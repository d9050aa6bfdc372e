/-
# WindowPolicy.Config.Value — configuration as a tree

A configuration value is a tree of lists and objects with texts, numbers, truth values and
nulls at its leaves. A tree may stand for a document that could only be read in part: a
list or an object then ends where the document stopped being well formed, and a value that
could not be read at all is `broken`. So a reader of the tree meets the first fault where
a reader of the document would have met it.

* `Number`: whole numbers, other numerals, and numbers not yet written out;
* `Value`: the tree;
* `Value.isWhole`: nothing in the tree was cut short.
-/
import WindowPolicy.Binary.Numeral

namespace WindowPolicy.Config

set_option autoImplicit false

/-- A number. -/
inductive Number where
  /-- Written without fraction and exponent; zero may carry a sign. -/
  | whole (negative : Bool) (magnitude : Nat)
  /-- Written with a fraction or an exponent. -/
  | scaled (numeral : Numeral)
  /-- A number of single precision. -/
  | single (value : Binary32)
deriving DecidableEq, Repr

namespace Number

/-- A whole number. -/
def ofInt (z : Int) : Number := .whole (decide (z < 0)) z.natAbs

/-- The whole number that was written, if one was. A zero with a sign is none. -/
def toInt? : Number → Option Int
  | .whole false magnitude => some magnitude
  | .whole true (magnitude + 1) => some (-(magnitude + 1 : Nat))
  | _ => none

/-- A numeral as a number of single precision, by way of double precision. Nothing beyond
the range of double precision is a number, but what is beyond single precision is infinite. -/
def narrow? (x : Numeral) : Option Binary32 := x.toBinary64?.map .ofBinary64

/-- A number as one of single precision. Whole numbers of 64 bits are rounded once. -/
def toBinary32? : Number → Option Binary32
  | .whole negative magnitude =>
      if magnitude < UInt64.size ∧ ¬negative
          ∨ magnitude ≠ 0 ∧ 2 * magnitude ≤ UInt64.size ∧ negative then
        some (.ofCode negative (Binary.Format.single.nearest magnitude 1))
      else narrow? (.ofNat negative magnitude)
  | .scaled numeral => narrow? numeral
  | .single value => some value

end Number

/-- A quoted text, or none if its escapes do not make up characters. -/
abbrev Quotation := Option String

/-- How a list or an object ends. -/
inductive Ending where
  | closed
  /-- The document stops being well formed there. -/
  | cut
deriving DecidableEq, Repr

/-- A configuration value. -/
inductive Value where
  | null
  | bool (value : Bool)
  | number (value : Number)
  | text (value : Quotation)
  | list (items : List Value) (ending : Ending)
  | object (members : List (Quotation × Value)) (ending : Ending)
  /-- Nothing that could be read. -/
  | broken

namespace Value

/-- A text that is made up of characters. -/
def word (s : String) : Value := .text (some s)

/-- An object that is complete. -/
def record (fields : List (String × Value)) : Value :=
  .object (fields.map fun field => (some field.1, field.2)) .closed

/-- Nothing was cut short. A fault further inside would have cut the whole value. -/
def isWhole : Value → Bool
  | .list _ ending | .object _ ending => ending = .closed
  | .broken => false
  | _ => true

end Value

end WindowPolicy.Config
