/-
# WindowPolicy.Flag.Set — words of named bits

A `Vocabulary` names some of the 32 positions of a word. A `FlagSet` is such a word,
read against its vocabulary. Positions without a name are kept by every operation, so
a set that came from elsewhere loses nothing on its way through; `truncate` is the one
operation that drops what the vocabulary does not define.

* `Vocabulary.defined`: the bits that belong to a vocabulary;
* `∅`, `∪`, `∩`, `\`: the operations on sets, bit by bit;
* `ofBits?`, `truncate`: two ways to treat undefined bits, refusing and dropping.
-/
namespace WindowPolicy

set_option autoImplicit false

/-- Names for positions of a 32-bit word. -/
structure Vocabulary where
  /-- The name under which a set over the vocabulary is described. -/
  title : String
  /-- Flag names with their positions, in the order in which they are written. -/
  names : List (String × Nat)
  /-- Whether positions without a name belong to the vocabulary as well. -/
  openEnded : Bool := false

/-- The word with one bit, at a position. -/
def bitAt (position : Nat) : BitVec 32 := BitVec.twoPow 32 position

namespace Vocabulary

/-- The bits at the named positions. -/
def named (v : Vocabulary) : BitVec 32 :=
  v.names.foldl (fun word flag => word ||| bitAt flag.2) 0

/-- The bits that belong to the vocabulary. -/
def defined (v : Vocabulary) : BitVec 32 :=
  if v.openEnded then BitVec.allOnes 32 else v.named

end Vocabulary

/-- A word whose bits are read against a vocabulary. -/
structure FlagSet (v : Vocabulary) where
  bits : BitVec 32
deriving DecidableEq

namespace FlagSet

variable {v : Vocabulary}

instance : EmptyCollection (FlagSet v) := ⟨⟨0⟩⟩
instance : Union (FlagSet v) := ⟨fun s t => ⟨s.bits ||| t.bits⟩⟩
instance : Inter (FlagSet v) := ⟨fun s t => ⟨s.bits &&& t.bits⟩⟩
instance : SDiff (FlagSet v) := ⟨fun s t => ⟨s.bits &&& ~~~t.bits⟩⟩
instance : Inhabited (FlagSet v) := ⟨∅⟩

/-- The set with one bit, at a position. -/
def single (position : Nat) : FlagSet v := ⟨bitAt position⟩

/-- The bit at a position is set. -/
def hasBit (s : FlagSet v) (position : Nat) : Bool := s.bits.getLsbD position

/-- Two sets that agree at every position are equal. -/
theorem ext_hasBit {s t : FlagSet v} (h : ∀ i < 32, s.hasBit i = t.hasBit i) : s = t := by
  obtain ⟨s⟩ := s
  obtain ⟨t⟩ := t
  exact congrArg FlagSet.mk (BitVec.eq_of_getLsbD_eq h)

/-- Every bit that belongs to the vocabulary. -/
def all : FlagSet v := ⟨v.defined⟩

/-- The bits that belong to the vocabulary; the others are dropped. -/
def truncate (s : FlagSet v) : FlagSet v := s ∩ all

/-- The set of a word all of whose bits belong to the vocabulary. -/
def ofBits? (word : BitVec 32) : Option (FlagSet v) :=
  if (⟨word⟩ : FlagSet v) \ all = ∅ then some ⟨word⟩ else none

/-- The bits selected by `mask` are taken from `value`, the others stay. -/
def overwrite (s value mask : FlagSet v) : FlagSet v := (s \ mask) ∪ (value ∩ mask)

end FlagSet

end WindowPolicy
