/-
# WindowPolicy.Config.Codec — from values to configuration and back

A codec writes the values of a type as configuration values and reads them back. Reading
goes from front to back and stops at the first fault.

Records are written as objects. They are read from objects whose fields come in any order,
with unknown fields passed over, or from lists that give the fields in their declared
order. A field that comes twice is a fault where its name comes again; one that never
comes is a fault at the end. Four faults are told apart by name; everything else, from a missing
bracket to a number out of range, is `invalid`.

* `ConfigError`: why a configuration was not accepted;
* `choice`, `variant`: one of several names, perhaps with a payload;
* `flagCodec`: flag sets, in their written form;
* `Schema`: records.
-/
import WindowPolicy.Config.Value
import WindowPolicy.Flag.Text

namespace WindowPolicy.Config

set_option autoImplicit false

/-- Why a configuration was not accepted. -/
inductive ConfigError where
  | missingField (name : String)
  | duplicateField (name : String)
  /-- A name that is none of those expected. -/
  | unknownVariant (name : String) (expected : List String)
  /-- A text that is no flag set. -/
  | flags (error : FlagError)
  | invalid
deriving DecidableEq, Repr

/-- A name between backquotes. -/
def backquoted (name : String) : String := "`" ++ name ++ "`"

/-- What kind of fault it is, for the faults that are told apart. -/
def ConfigError.kind? : ConfigError → Option String
  | .missingField _ => some "missing field"
  | .duplicateField _ => some "duplicate field"
  | .unknownVariant .. => some "unknown variant"
  | .flags error => some error.message
  | .invalid => none

/-- What follows the kind of a fault in its wording. -/
def ConfigError.detail : ConfigError → String
  | .missingField name | .duplicateField name => " " ++ backquoted name
  | .unknownVariant name expected =>
      " " ++ backquoted name ++ ", expected one of "
        ++ ", ".intercalate (expected.map backquoted)
  | .flags _ | .invalid => ""

/-- The wording of a fault that is told apart. -/
def ConfigError.message? (e : ConfigError) : Option String := e.kind?.map (· ++ e.detail)

/-- A written form for the values of a type. -/
structure Codec (α : Type) where
  encode : α → Value
  decode : Value → Except ConfigError α

variable {α β δ : Type}

/-- A fault unless there is something. -/
def orInvalid : Option α → Except ConfigError α
  | some a => .ok a
  | none => .error .invalid

/-! ## Leaves -/

/-- Whole numbers from `low` on, below `high`. -/
def decodeInt (low high : Int) (make : Int → α) : Value → Except ConfigError α
  | .number n => orInvalid ((n.toInt?.filter fun z => low ≤ z && z < high).map make)
  | _ => .error .invalid

/-- Whole numbers from zero, below a bound. -/
def decodeNat (bound : Nat) (make : Nat → α) : Value → Except ConfigError α :=
  decodeInt 0 bound fun z => make z.toNat

def boolCodec : Codec Bool where
  encode := .bool
  decode
    | .bool b => .ok b
    | _ => .error .invalid

def stringCodec : Codec String where
  encode := .word
  decode
    | .text s => orInvalid s
    | _ => .error .invalid

def binary32Codec : Codec Binary32 where
  encode x := .number (.single x)
  decode
    | .number n => orInvalid n.toBinary32?
    | _ => .error .invalid

/-- A value that may be absent, which is written as null. -/
def optionCodec (c : Codec α) : Codec (Option α) where
  encode
    | some a => c.encode a
    | none => .null
  decode
    | .null => .ok none
    | value => some <$> c.decode value

/-- Flag sets as text, with a way to read what was stored. -/
def flagCodec {v : Vocabulary} (load : StoredFlags → Except FlagError (FlagSet v)) :
    Codec (FlagSet v) where
  encode s := .word s.text
  decode
    | .text (some text) => (load (.text text)).mapError .flags
    | _ => .error .invalid

/-! ## Names -/

/-- One of several names, alone or as the only field of an object with a payload. The
name is looked at before the payload. -/
def variant (names : List String) (read : String → Option Value → Except ConfigError α) :
    Value → Except ConfigError α
  | .text (some name) =>
      if name ∈ names then read name none else .error (.unknownVariant name names)
  | .object ((some name, payload) :: rest) ending =>
      if name ∈ names then do
        let a ← read name (some payload)
        if rest.isEmpty && ending = .closed then .ok a else .error .invalid
      else .error (.unknownVariant name names)
  | _ => .error .invalid

/-- A payload that says nothing: absent or null. -/
def isBlankPayload : Option Value → Bool
  | none | some .null => true
  | _ => false

/-- One of the values in a list, by its name. -/
def choice (all : List α) (name : α → String) : Codec α where
  encode a := .word (name a)
  decode := variant (all.map name) fun s payload =>
    if isBlankPayload payload then orInvalid (all.find? fun a => name a = s)
    else .error .invalid

/-! ## Records -/

/-- The value of a field that was not read before. -/
def once (slot : Option α) (name : String) (decode : Value → Except ConfigError α)
    (value : Value) : Except ConfigError (Option α) :=
  if slot.isSome then .error (.duplicateField name) else some <$> decode value

/-- The value of a field that must have been read. -/
def required (slot : Option α) (name : String) : Except ConfigError α :=
  match slot with
  | some a => .ok a
  | none => .error (.missingField name)

/-- How a record is read, with `δ` the fields read so far. -/
structure Schema (δ α : Type) where
  /-- The field names in declared order. -/
  names : List String
  /-- No field was read. -/
  start : δ
  /-- Reads the field with one of the names. -/
  field : δ → String → Value → Except ConfigError δ
  /-- The record, if every field that it needs was read. -/
  finish : δ → Except ConfigError α
  /-- Whether a list may leave out fields at its end. -/
  shortLists : Bool := false

namespace Schema

variable (s : Schema δ α)

/-- The members of an object, from first to last. -/
def members : δ → List (Quotation × Value) → Except ConfigError δ
  | d, [] => .ok d
  | _, (none, _) :: _ => .error .invalid
  | d, (some name, value) :: rest =>
      if name ∈ s.names then do members (← s.field d name value) rest
      else if value.isWhole then members d rest
      else .error .invalid

/-- The items of a list, for the fields with the given names. -/
def items : δ → List String → List Value → Except ConfigError δ
  | d, name :: names, value :: rest => do items (← s.field d name value) names rest
  | d, _, [] => .ok d
  | _, [], _ :: _ => .error .invalid

/-- A record from an object or from a list. -/
def decode : Value → Except ConfigError α
  | .object members ending => do
      let d ← s.members s.start members
      if ending = .closed then s.finish d else .error .invalid
  | .list items ending => do
      let d ← s.items s.start s.names items
      if ending = .closed ∧ (s.shortLists ∨ items.length = s.names.length) then s.finish d
      else .error .invalid
  | _ => .error .invalid

end Schema

end WindowPolicy.Config
