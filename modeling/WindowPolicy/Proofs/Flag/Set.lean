/-
# WindowPolicy.Proofs.Flag.Set — sets of bits, position by position

The operations on words are the operations on the sets of their bits. With these lemmas a
question about words is a question about membership.
-/
import WindowPolicy.Flag.Set

namespace WindowPolicy

set_option autoImplicit false

namespace FlagSet

variable {v : Vocabulary} {s t : FlagSet v} {i : Nat}

@[simp] theorem hasBit_empty : (∅ : FlagSet v).hasBit i = false := BitVec.getLsbD_zero

@[simp] theorem hasBit_union : (s ∪ t).hasBit i = (s.hasBit i || t.hasBit i) :=
  BitVec.getLsbD_or

@[simp] theorem hasBit_inter : (s ∩ t).hasBit i = (s.hasBit i && t.hasBit i) :=
  BitVec.getLsbD_and

@[simp] theorem hasBit_sdiff : (s \ t).hasBit i = (s.hasBit i && !t.hasBit i) := by
  show (s.bits &&& ~~~t.bits).getLsbD i = (s.bits.getLsbD i && !t.bits.getLsbD i)
  rw [BitVec.getLsbD_and, BitVec.getLsbD_not]
  cases present : s.bits.getLsbD i with
  | false => rfl
  | true => simp [BitVec.lt_of_getLsbD present]

@[simp] theorem hasBit_single {position : Nat} :
    (single position : FlagSet v).hasBit i = (decide (position < 32) && decide (position = i)) :=
  BitVec.getLsbD_twoPow position i

@[simp] theorem hasBit_overwrite {value mask : FlagSet v} :
    (s.overwrite value mask).hasBit i = if mask.hasBit i then value.hasBit i else s.hasBit i := by
  rw [overwrite, hasBit_union, hasBit_sdiff, hasBit_inter]
  cases mask.hasBit i <;> simp

end FlagSet

end WindowPolicy
