/-
# WindowPolicy.Proofs.Attributes.Explicit — explicit settings outlive themes

Four parts of the attributes are either set explicitly or left to themes: the format, the dim
amount, the soft input mode, and whether a touch outside closes the window. Each has a mark of
its own that says which, and is set and given back in its own way. What they have in common is
a `Setting`: a value, its mark, what a theme says about it, and the operations that write it
however it was set before.

* `Setting.Layered`: a marked value stays until it is overwritten, and a theme fills an
  unmarked one and leaves the marks; one lemma for each of the four;
* `Setting.Layered.lasts`: a marked value stays over every run that does not overwrite it;
* `holds_format`, `holds_dim`, `holds_softInput`, `holds_close`: what sets a value explicitly;
* `closeSet_run`: whether a touch outside closes the window is marked once it was said;
* `explicit_outlives_themes`: all of it, from every state that is reached.
-/
import WindowPolicy.Attributes.Layers

namespace WindowPolicy

set_option autoImplicit false

namespace Layers

variable {l : Layers}

/-! ## Operations field by field -/

/-- What an operation leaves. The two operations that ask before they write are told field by
field, so that every field can be read off. -/
def changed (l : Layers) : Op → Layers
  | .edit (.format f) =>
      { l with
        current.format := if f = .unknown then l.defaultFormat else f
        formatSet := decide (f ≠ .unknown) }
  | .closeOnTouchOutsideIfUnset close =>
      { l with
        closeOnTouchOutside := if l.closeSet then l.closeOnTouchOutside else close
        closeSet := true }
  | op => l.apply op

theorem apply_eq_changed (op : Op) : l.apply op = l.changed op := by
  cases op with
  | edit e =>
      cases e with
      | format f => cases f <;> rfl
      | _ => rfl
  | closeOnTouchOutsideIfUnset close =>
      show l.setCloseOnTouchOutsideIfUnset close = _
      unfold setCloseOnTouchOutsideIfUnset setCloseOnTouchOutside changed
      split
      · rename_i said
        rw [← said]
      · rfl
  | _ => rfl

theorem run_snoc (ops : List Op) (op : Op) : l.run (ops ++ [op]) = (l.run ops).apply op := by
  rw [run, List.foldl_append]
  rfl

/-! ## Settings -/

/-- A part of the attributes that is set explicitly or left to themes. -/
structure Setting (α : Type) where
  value : Layers → α
  /-- It was set explicitly. -/
  marked : Layers → Bool
  /-- What a theme says about it. -/
  themed : Theme → α
  /-- The operation writes it even if it was set explicitly. -/
  overwritten : Op → Bool

namespace Setting

def format : Setting PixelFormat where
  value l := l.current.format
  marked l := l.formatSet
  themed theme := theme.format
  overwritten
    | .edit (.replace _) | .edit (.format _) => true
    | _ => false

def dim : Setting Binary32 where
  value l := l.current.dim
  marked l := l.dimSet
  themed theme := theme.dim
  overwritten
    | .edit (.replace _) | .edit (.dim _) => true
    | _ => false

def softInput : Setting SoftInput where
  value l := l.current.softInput
  marked l := l.softInputSet
  themed theme := theme.softInput
  overwritten
    | .edit (.replace _) | .edit (.softInput _) => true
    | _ => false

/-- It is no part of the record: replacing the record does not write it. -/
def close : Setting Bool where
  value l := l.closeOnTouchOutside
  marked l := l.closeSet
  themed theme := theme.closeOnTouchOutside
  overwritten
    | .closeOnTouchOutside _ => true
    | _ => false

variable {α : Type} {s : Setting α} {a : α}

/-- It was set explicitly, and to this value. -/
structure Holds (s : Setting α) (a : α) (l : Layers) : Prop where
  value : s.value l = a
  marked : s.marked l = true

/-- It holds explicitly, and does so over every run that does not overwrite it. -/
def Lasts (s : Setting α) (a : α) (l : Layers) : Prop :=
  ∀ ops : List Op, (∀ op ∈ ops, s.overwritten op = false) → s.Holds a (l.run ops)

/-- A theme fills it unless it was set explicitly, and leaves its mark. -/
structure Follows (s : Setting α) (theme : Theme) (l : Layers) : Prop where
  filled : s.marked l = false → s.value (l.apply (.theme theme)) = s.themed theme
  mark : s.marked (l.apply (.theme theme)) = s.marked l

/-- What is explicit lies above themes. -/
structure Layered (s : Setting α) : Prop where
  /-- An explicit value stays explicit, and stays, until it is overwritten. -/
  kept : ∀ {l : Layers} {op : Op}, s.marked l = true → s.overwritten op = false →
    s.Holds (s.value l) (l.apply op)
  follows : ∀ (l : Layers) (theme : Theme), s.Follows theme l

theorem layered_format : format.Layered where
  kept {l op} marked safe := by
    have set : l.formatSet = true := marked
    rw [apply_eq_changed]
    cases op with
    | edit e =>
        cases e with
        | replace | format => cases safe
        | defaultFormat f => exact ⟨if_pos set, marked⟩
        | _ => exact ⟨rfl, marked⟩
    | theme theme => exact ⟨if_pos set, marked⟩
    | _ => exact ⟨rfl, marked⟩
  follows _ _ := ⟨fun unmarked => if_neg (Bool.eq_false_iff.mp unmarked), rfl⟩

theorem layered_dim : dim.Layered where
  kept {l op} marked safe := by
    have set : l.dimSet = true := marked
    rw [apply_eq_changed]
    cases op with
    | edit e =>
        cases e with
        | replace | dim => cases safe
        | _ => exact ⟨rfl, marked⟩
    | theme theme => exact ⟨if_pos set, marked⟩
    | _ => exact ⟨rfl, marked⟩
  follows _ _ := ⟨fun unmarked => if_neg (Bool.eq_false_iff.mp unmarked), rfl⟩

theorem layered_softInput : softInput.Layered where
  kept {l op} marked safe := by
    have set : l.softInputSet = true := marked
    rw [apply_eq_changed]
    cases op with
    | edit e =>
        cases e with
        | replace | softInput => cases safe
        | _ => exact ⟨rfl, marked⟩
    | theme theme => exact ⟨if_pos set, marked⟩
    | _ => exact ⟨rfl, marked⟩
  follows _ _ := ⟨fun unmarked => if_neg (Bool.eq_false_iff.mp unmarked), rfl⟩

theorem layered_close : close.Layered where
  kept {l op} marked safe := by
    have set : l.closeSet = true := marked
    rw [apply_eq_changed]
    cases op with
    | edit e => cases e <;> exact ⟨rfl, marked⟩
    | force => exact ⟨rfl, marked⟩
    | closeOnTouchOutside => cases safe
    | closeOnTouchOutsideIfUnset => exact ⟨if_pos set, rfl⟩
    | theme theme => exact ⟨if_pos set, marked⟩
  follows _ _ := ⟨fun unmarked => if_neg (Bool.eq_false_iff.mp unmarked), rfl⟩

/-- What holds explicitly lasts. -/
theorem Layered.lasts (layered : s.Layered) (holds : s.Holds a l) : s.Lasts a l := by
  intro ops safe
  induction ops generalizing l with
  | nil => exact holds
  | cons op ops ih =>
      have next : s.Holds a (l.apply op) :=
        holds.value ▸ layered.kept holds.marked (safe op List.mem_cons_self)
      exact ih next fun op later => safe op (List.mem_cons_of_mem _ later)

/-! ## What is set explicitly -/

theorem holds_format {f : PixelFormat} (chosen : f ≠ .unknown) :
    format.Holds f (l.apply (.edit (.format f))) := by
  rw [apply_eq_changed]
  exact ⟨if_neg chosen, decide_eq_true chosen⟩

theorem holds_dim (amount : Binary32) :
    dim.Holds amount.clampUnit (l.apply (.edit (.dim amount))) := ⟨rfl, rfl⟩

theorem holds_softInput {mode : SoftInput} (chosen : mode ≠ .unspecified) :
    softInput.Holds mode (l.apply (.edit (.softInput mode))) := ⟨rfl, decide_eq_true chosen⟩

theorem holds_close (b : Bool) : close.Holds b (l.apply (.closeOnTouchOutside b)) := ⟨rfl, rfl⟩

theorem holds_closeIfUnset (unsaid : l.closeSet = false) (b : Bool) :
    close.Holds b (l.apply (.closeOnTouchOutsideIfUnset b)) := by
  rw [apply_eq_changed]
  exact ⟨if_neg (Bool.eq_false_iff.mp unsaid), rfl⟩

end Setting

/-- The operation says whether a touch outside closes the window. -/
def Op.saysClose : Op → Bool
  | .closeOnTouchOutside _ | .closeOnTouchOutsideIfUnset _ => true
  | _ => false

theorem closeSet_apply (op : Op) : (l.apply op).closeSet = (l.closeSet || op.saysClose) := by
  rw [apply_eq_changed]
  cases op with
  | edit e => cases e <;> exact (Bool.or_false _).symm
  | force | theme => exact (Bool.or_false _).symm
  | closeOnTouchOutside | closeOnTouchOutsideIfUnset => exact (Bool.or_true _).symm

theorem closeSet_run (ops : List Op) :
    (l.run ops).closeSet = (l.closeSet || ops.any Op.saysClose) := by
  induction ops generalizing l with
  | nil => exact (Bool.or_false _).symm
  | cons op ops ih =>
      refine (ih (l := l.apply op)).trans ?_
      rw [closeSet_apply, List.any_cons, Bool.or_assoc]

/-! ## Histories -/

open Setting

/-- After every history: a format, a dim amount and a soft input mode that are set explicitly
last, and so does what is said about touches outside, be it that it was not said before; and
a theme makes of each of the four what it says unless it is marked, and marks none. -/
theorem explicit_outlives_themes (past : List Op) :
    let l := ({} : Layers).run past
    (∀ f, f ≠ .unknown → format.Lasts f (l.apply (.edit (.format f)))) ∧
    (∀ amount, dim.Lasts amount.clampUnit (l.apply (.edit (.dim amount)))) ∧
    (∀ mode, mode ≠ .unspecified → softInput.Lasts mode (l.apply (.edit (.softInput mode)))) ∧
    (∀ b, close.Lasts b (l.apply (.closeOnTouchOutside b))) ∧
    ((∀ op ∈ past, op.saysClose = false) →
      ∀ b, close.Lasts b (l.apply (.closeOnTouchOutsideIfUnset b))) ∧
    ∀ theme,
      format.Follows theme l ∧ dim.Follows theme l ∧ softInput.Follows theme l ∧
      close.Follows theme l := by
  intro l
  refine ⟨fun f chosen => ?_, fun amount => ?_, fun mode chosen => ?_, fun b => ?_,
    fun unsaid b => ?_, fun theme => ?_⟩
  · exact layered_format.lasts (holds_format chosen)
  · exact layered_dim.lasts (holds_dim amount)
  · exact layered_softInput.lasts (holds_softInput chosen)
  · exact layered_close.lasts (holds_close b)
  · have unmarked : l.closeSet = false := by
      rw [closeSet_run, Bool.false_or, List.any_eq_false]
      simpa using unsaid
    exact layered_close.lasts (holds_closeIfUnset unmarked b)
  · exact ⟨layered_format.follows l theme, layered_dim.follows l theme,
      layered_softInput.follows l theme, layered_close.follows l theme⟩

/-- A theme that differs from the defaults in every part. -/
def dusk : Theme :=
  { format := .translucent, dim := ⟨0x3e800000⟩, softInput := ⟨.hidden, .pan⟩,
    closeOnTouchOutside := true }

/-- A theme comes first and fills everything, and other defaults and themes come after everything
was set explicitly. -/
theorem explicit_outlives_themes_dusk :
    let l := ({} : Layers).run [.theme dusk]
    let later : List Op :=
      [.edit (.defaultFormat .rgb888), .theme {}, .closeOnTouchOutsideIfUnset true, .theme dusk]
    ((∀ op ∈ later, format.overwritten op = false) ∧
      (∀ op ∈ later, dim.overwritten op = false) ∧
      (∀ op ∈ later, softInput.overwritten op = false) ∧
      (∀ op ∈ later, close.overwritten op = false) ∧
      ∀ op ∈ [.theme dusk], Op.saysClose op = false) ∧
    format.Holds .rgb565 ((l.apply (.edit (.format .rgb565))).run later) ∧
    dim.Holds .one ((l.apply (.edit (.dim ⟨0x40000000⟩))).run later) ∧
    softInput.Holds ⟨.visible, .unspecified⟩
      ((l.apply (.edit (.softInput ⟨.visible, .unspecified⟩))).run later) ∧
    close.Holds false ((l.apply (.closeOnTouchOutside false)).run later) ∧
    close.Holds false ((l.apply (.closeOnTouchOutsideIfUnset false)).run later) ∧
    (format.value l = .translucent ∧ dim.value l = ⟨0x3e800000⟩ ∧
      softInput.value l = ⟨.hidden, .pan⟩ ∧ close.value l = true) ∧
    format.marked l = false ∧ dim.marked l = false ∧ softInput.marked l = false ∧
    close.marked l = false := by
  intro l later
  obtain ⟨formats, dims, modes, said, saidFirst, -⟩ := explicit_outlives_themes [.theme dusk]
  obtain ⟨-, -, -, -, -, followed⟩ := explicit_outlives_themes []
  obtain ⟨format, dim, softInput, close⟩ := followed dusk
  have safeFormat : ∀ op ∈ later, Setting.format.overwritten op = false := by decide
  have safeDim : ∀ op ∈ later, Setting.dim.overwritten op = false := by decide
  have safeMode : ∀ op ∈ later, Setting.softInput.overwritten op = false := by decide
  have safeClose : ∀ op ∈ later, Setting.close.overwritten op = false := by decide
  have unsaid : ∀ op ∈ [.theme dusk], Op.saysClose op = false := by decide
  refine ⟨⟨safeFormat, safeDim, safeMode, safeClose, unsaid⟩,
    formats .rgb565 (by decide) later safeFormat, ?_,
    modes ⟨.visible, .unspecified⟩ (by decide) later safeMode, said false later safeClose,
    saidFirst unsaid false later safeClose,
    ⟨format.filled rfl, dim.filled rfl, softInput.filled rfl, close.filled rfl⟩,
    format.mark, dim.mark, softInput.mark, close.mark⟩
  exact dims ⟨0x40000000⟩ later safeDim

end Layers

end WindowPolicy
