/-
# WindowPolicy.Proofs.Attributes.Dim — how far windows dim what lies behind them

The dim amount is meant to lie between zero and one. It comes from two sides. What a client asks
for is brought into that range, except for NaN, which is below nothing and above nothing and so
goes through. What a theme says is taken as it is. Once a client has asked, the last request
counts and no theme does; before that the last theme counts. So the amount lies in the range
exactly if the one number that counts is no NaN, when it came from a client, or lies in the range
already, when it came from a theme.

* `Binary32.InUnit`, `Binary32.inUnit_iff`: the range, by bits and by value;
* `Binary32.inUnit_clampUnit`: what becomes of a client's number;
* `dim_run`: the amount after every history without replacements;
* `dim_inUnit_iff`: when it lies in the range;
* `dim_leaves_unit`: two histories after which it does not.
-/
import WindowPolicy.Proofs.Attributes.Format

namespace WindowPolicy

set_option autoImplicit false

open WindowPolicy.Binary

/-! ## The range -/

namespace Binary32

variable {x : Binary32}

/-- The bits are those of a number from zero to one, or those of negative zero. -/
def InUnit (x : Binary32) : Prop := x.bits ≤ one.bits ∨ x.bits = 0x80000000

instance (x : Binary32) : Decidable x.InUnit := inferInstanceAs (Decidable (_ ∨ _))

/-- The range by value: a number that is neither below zero nor above one. -/
theorem inUnit_iff :
    x.InUnit ↔ x.isNaN = false ∧ x.lt zero = false ∧ one.lt x = false := by
  have signBit : Format.single.signBit = 0x80000000 := rfl
  have infinity : Format.single.infinity = 0x7f800000 := rfl
  have bound := x.bits.toNat_lt
  simp only [InUnit, UInt32.le_iff_toNat_le, ← UInt32.toNat_inj, isNaN, lt, rank, signedCode,
    isNegative, code, signBit, infinity, zero, one]
  by_cases negative : 0x80000000 ≤ x.bits.toNat <;> simp [negative] <;> omega

/-- Only numbers are brought into the range. -/
theorem inUnit_clampUnit : x.clampUnit.InUnit ↔ x.isNaN = false := by
  have comparable {y : Binary32} (less : x.lt y = true ∨ y.lt x = true) : x.isNaN = false := by
    cases nan : x.isNaN with
    | true => simp [lt, nan] at less
    | false => rfl
  rw [clampUnit]
  split
  · rename_i below
    exact iff_of_true (by decide) (comparable (Or.inl below))
  · split
    · rename_i above
      exact iff_of_true (by decide) (comparable (Or.inr above))
    · rename_i notBelow notAbove
      simp only [Bool.not_eq_true] at notBelow notAbove
      simp [inUnit_iff, notBelow, notAbove]

end Binary32

/-! ## Histories -/

namespace Layers

variable {l : Layers} {ops : List Op}

/-- The amount that a client asks for. -/
def Op.dimmed? : Op → Option Binary32
  | .edit (.dim amount) => some amount
  | _ => none

/-- The theme that is applied. -/
def Op.theme? : Op → Option Theme
  | .theme t => some t
  | _ => none

/-- Without a client's request the amount is the last theme's, or else one. -/
def themedDim (ops : List Op) : Binary32 := ((latest Op.theme? ops).map Theme.dim).getD .one

theorem dimSet_apply (op : Op) : (l.apply op).dimSet = (l.dimSet || op.dimmed?.isSome) := by
  rw [apply_eq_changed]
  cases op with
  | edit e =>
      cases e with
      | dim => exact (Bool.or_true _).symm
      | _ => exact (Bool.or_false _).symm
  | _ => exact (Bool.or_false _).symm

theorem dim_apply {op : Op} (kept : op.replaces = false) :
    (l.apply op).current.dim =
      match op.dimmed? with
      | some amount => amount.clampUnit
      | none =>
          if l.dimSet then l.current.dim else (op.theme?.map Theme.dim).getD l.current.dim := by
  rw [apply_eq_changed]
  cases op with
  | edit e =>
      cases e with
      | replace => cases kept
      | dim => rfl
      | _ => exact (ite_self _).symm
  | theme => rfl
  | _ => exact (ite_self _).symm

/-- A client's request stands above all themes. -/
theorem dim_run (kept : ∀ op ∈ ops, op.replaces = false) :
    (({} : Layers).run ops).dimSet = (latest Op.dimmed? ops).isSome ∧
    (({} : Layers).run ops).current.dim =
      match latest Op.dimmed? ops with
      | some amount => amount.clampUnit
      | none => themedDim ops := by
  induction ops using List.reverseRecOn with
  | nil => exact ⟨rfl, rfl⟩
  | append_singleton ops op ih =>
      obtain ⟨set, dim⟩ := ih fun op member => kept op (List.mem_append_left _ member)
      have themed : themedDim (ops ++ [op]) = (op.theme?.map Theme.dim).getD (themedDim ops) := by
        rw [themedDim, latest_append_singleton]
        cases op.theme? <;> rfl
      rw [run_snoc, dimSet_apply, dim_apply (kept op (by simp)), set, dim,
        latest_append_singleton, themed]
      cases op.dimmed? <;> cases latest Op.dimmed? ops <;> simp

/-- The number that counts will do: the last request is a number, or without one the last theme
says a number in the range. -/
def DimsInUnit (ops : List Op) : Prop :=
  match latest Op.dimmed? ops with
  | some amount => amount.isNaN = false
  | none => ∀ theme ∈ latest Op.theme? ops, theme.dim.InUnit

/-- Without replacements the amount that is kept, and the one that is handed out, lies in the
range exactly if the number that counts will do. In the range is what is a number, not below zero
and not above one. -/
theorem dim_inUnit_iff (kept : ∀ op ∈ ops, op.replaces = false) :
    let l := ({} : Layers).run ops
    (l.current.dim.InUnit ↔ DimsInUnit ops) ∧
    (l.materialize.dim.InUnit ↔ DimsInUnit ops) ∧
    ∀ x : Binary32,
      x.InUnit ↔ x.isNaN = false ∧ x.lt .zero = false ∧ Binary32.one.lt x = false := by
  intro l
  have sound : l.current.dim.InUnit ↔ DimsInUnit ops := by
    rw [(dim_run kept).2, DimsInUnit]
    cases latest Op.dimmed? ops with
    | some amount => exact Binary32.inUnit_clampUnit
    | none =>
        rw [themedDim]
        cases latest Op.theme? ops with
        | some theme => simp
        | none => exact iff_of_true (by decide) (by simp)
  exact ⟨sound, sound, fun x => Binary32.inUnit_iff⟩

/-- A theme beyond the range, then a client beyond it, then another theme. -/
def dazzled : List Op :=
  [.theme { dim := ⟨0x40000000⟩ }, .edit (.dim ⟨0xff800000⟩), .theme { dim := ⟨0x7fc00000⟩ }]

theorem dim_inUnit_iff_dazzled :
    (∀ op ∈ dazzled, op.replaces = false) ∧ (({} : Layers).run dazzled).current.dim.InUnit ∧
      ¬(({} : Layers).run (dazzled.take 1)).materialize.dim.InUnit := by
  have kept : ∀ op ∈ dazzled, op.replaces = false := by decide
  have keptFirst : ∀ op ∈ dazzled.take 1, op.replaces = false := by decide
  have counts : DimsInUnit dazzled := (rfl : (⟨0xff800000⟩ : Binary32).isNaN = false)
  have countsNot : ¬DimsInUnit (dazzled.take 1) := fun counts =>
    absurd (counts { dim := ⟨0x40000000⟩ } rfl) (by decide)
  exact ⟨kept, (dim_inUnit_iff kept).1.mpr counts,
    fun inUnit => countsNot ((dim_inUnit_iff keptFirst).2.1.mp inUnit)⟩

/-- A theme says two, which stays two; a client asks for NaN, which stays NaN. -/
theorem dim_leaves_unit :
    ¬(({} : Layers).run [.theme { dim := ⟨0x40000000⟩ }]).current.dim.InUnit ∧
    ¬(({} : Layers).run [.edit (.dim ⟨0x7fc00000⟩)]).current.dim.InUnit := by
  decide

end Layers

end WindowPolicy
