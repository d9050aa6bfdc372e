/-
# WindowPolicy.Flag.Text — flag sets as text

A set is written as the names of its bits, joined by a bar, with the bits that have no
name as one hexadecimal term at the end. The empty set is the empty text.

Reading is more generous: terms come in any order and number, blanks around them do not
count, names and hexadecimal terms may repeat bits. The first term that is no flag is
reported.

Where people read what is stored, a flag set is stored as its text; elsewhere it is stored as
its word.

* `FlagSet.text`, `FlagSet.describe`: the written form, bare and under its title;
* `FlagSet.parse`: reading, with `FlagError` for the three ways a term can fail;
* `FlagSet.stored`: a set at rest, in either form;
* `FlagSet.ofStored`, `FlagSet.ofStoredDefined`: reading it, with the bits that the vocabulary does
  not define and without.
-/
import WindowPolicy.Flag.Set
import WindowPolicy.Text.Basic

namespace WindowPolicy

set_option autoImplicit false

open WindowPolicy.Text (trim)

/-- Why a text is no flag set. -/
inductive FlagError where
  /-- A term between two bars is blank. -/
  | emptyTerm
  /-- A hexadecimal term has a wrong digit, no digit or more than 32 bits. -/
  | badHex
  /-- A term is not a name of the vocabulary. -/
  | unknownName
deriving DecidableEq, Repr

/-- The wording of a failure. -/
def FlagError.message : FlagError → String
  | .emptyTerm => "encountered empty flag"
  | .badHex => "invalid hex flag"
  | .unknownName => "unrecognized named flag"

/-- A flag set at rest. -/
inductive StoredFlags where
  | text (text : String)
  | word (bits : BitVec 32)
deriving DecidableEq

namespace FlagSet

variable {v : Vocabulary}

/-! ## Writing -/

/-- A number as a hexadecimal term. -/
def hexTerm (n : Nat) : List Char := '0' :: 'x' :: Text.Hex.digits n

/-- The names of the bits that are set. -/
def nameTerms (s : FlagSet v) : List (List Char) :=
  (v.names.filter fun flag => s.hasBit flag.2).map fun flag => flag.1.toList

/-- The bits that are set and have no name. -/
def unnamed (s : FlagSet v) : BitVec 32 := s.bits &&& ~~~v.named

/-- The terms of the written form. -/
def terms (s : FlagSet v) : List (List Char) :=
  s.nameTerms ++ if s.unnamed = 0 then [] else [hexTerm s.unnamed.toNat]

/-- The written form: the terms, joined by a bar between blanks. -/
def text (s : FlagSet v) : String := String.ofList ([' ', '|', ' '].intercalate s.terms)

/-- The written form under the title of the vocabulary, with a zero for the empty set. -/
def describe (s : FlagSet v) : String :=
  v.title ++ "(" ++ (if s = ∅ then "0x0" else s.text) ++ ")"

/-! ## Reading -/

/-- The bits of the digits of a hexadecimal term, which may carry a plus sign. -/
def hexBits? (digits : List Char) : Option (BitVec 32) :=
  let unsigned := match digits with
    | '+' :: rest => rest
    | _ => digits
  (Text.Hex.value? unsigned).bind fun n =>
    if n < UInt32.size then some (BitVec.ofNat 32 n) else none

/-- The position that a name stands for. -/
def position? (v : Vocabulary) (name : List Char) : Option Nat :=
  (v.names.find? fun flag => flag.1.toList == name).map (·.2)

/-- One term, blanks around it removed. -/
def parseTerm (term : List Char) : Except FlagError (FlagSet v) :=
  match term with
  | [] => .error .emptyTerm
  | '0' :: 'x' :: digits =>
      match hexBits? digits with
      | some word => .ok ⟨word⟩
      | none => .error .badHex
  | name =>
      match position? v name with
      | some position => .ok (single position)
      | none => .error .unknownName

/-- The union of the terms, from the first to the last. -/
def parseTerms (s : FlagSet v) : List (List Char) → Except FlagError (FlagSet v)
  | [] => .ok s
  | term :: rest => do
      let flag ← parseTerm (trim term)
      parseTerms (s ∪ flag) rest

/-- The set that a text stands for; a blank text is the empty set. -/
def parse (input : String) : Except FlagError (FlagSet v) :=
  if (trim input.toList).isEmpty then .ok ∅ else parseTerms ∅ (input.toList.splitOn '|')

/-! ## At rest -/

/-- Puts a set to rest, as text if it is to be readable. -/
def stored (s : FlagSet v) (readable : Bool) : StoredFlags :=
  if readable then .text s.text else .word s.bits

/-- The set at rest, with all its bits. -/
def ofStored : StoredFlags → Except FlagError (FlagSet v)
  | .text text => parse text
  | .word bits => .ok ⟨bits⟩

/-- The set at rest, with the bits that belong to the vocabulary. -/
def ofStoredDefined (stored : StoredFlags) : Except FlagError (FlagSet v) :=
  truncate <$> ofStored stored

end FlagSet

end WindowPolicy
