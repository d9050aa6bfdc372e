/-
# WindowPolicy.Proofs.Attributes.Flags — flags that are written and flags that are forced

Flags are written through masks, and with the whole record. Every bit goes its own way: whether
its position has a name or not, it is what the last operation says that selects it. Forced flags
are kept apart from these. No client writes them, they are only ever added to, and they lie above
whatever was written when the attributes are handed out. Of a window only one flag is ever forced,
and that by a binding that asks for hardware acceleration.

* `Op.flagged?`, `Op.forced?`, `forcedBy`: what operations say about a bit, and what they force;
* `hasBit_flags_run`, `forced_run`: both views of the flags after every history;
* `Deed.accelerates`, `acceleratedBy`, `Place.Lived.forced`: what is forced on a window;
* `forced_flags_above_last_written`: all of it.
-/
import WindowPolicy.Proofs.Attributes.Explicit
import WindowPolicy.Proofs.Flag.Set
import WindowPolicy.Proofs.Since
import WindowPolicy.Proofs.Window.Life

namespace WindowPolicy

set_option autoImplicit false

namespace Layers

variable {l : Layers} {i : Nat}

/-! ## Histories of attributes -/

/-- What the operation makes of the bit at a position, if it selects it. -/
def Op.flagged? (i : Nat) : Op → Option Bool
  | .edit (.flags value mask) => if mask.hasBit i then some (value.hasBit i) else none
  | .edit (.replace attributes) => some (attributes.flags.hasBit i)
  | _ => none

/-- The flags that the operation forces. -/
def Op.forced? : Op → Option WindowFlags
  | .force flags => some flags
  | _ => none

/-- All flags that operations force. -/
def forcedBy (ops : List Op) : WindowFlags := (ops.filterMap Op.forced?).foldl (· ∪ ·) ∅

/-- Setting flags makes them true and selects nothing else. -/
theorem flagged?_addFlags (flags : WindowFlags) :
    Op.flagged? i (.edit (.addFlags flags)) = if flags.hasBit i then some true else none := by
  rw [Edit.addFlags, Op.flagged?]
  cases flags.hasBit i <;> rfl

/-- Clearing flags makes them false and selects nothing else. -/
theorem flagged?_clearFlags (flags : WindowFlags) :
    Op.flagged? i (.edit (.clearFlags flags)) = if flags.hasBit i then some false else none := by
  rw [Edit.clearFlags, Op.flagged?, FlagSet.hasBit_empty]

theorem hasBit_flags_apply (op : Op) :
    (l.apply op).current.flags.hasBit i = (op.flagged? i).getD (l.current.flags.hasBit i) := by
  rw [apply_eq_changed]
  cases op with
  | edit e =>
      cases e with
      | flags value mask =>
          show (l.current.flags.overwrite value mask).hasBit i = _
          rw [FlagSet.hasBit_overwrite, Op.flagged?]
          split <;> rfl
      | _ => rfl
  | _ => rfl

theorem forced_apply (op : Op) :
    (l.apply op).forced = op.forced?.elim l.forced (l.forced ∪ ·) := by
  rw [apply_eq_changed]
  cases op with
  | edit e => cases e <;> rfl
  | _ => rfl

/-- A bit is what the last operation says that selects it. -/
theorem hasBit_flags_run (ops : List Op) :
    (({} : Layers).run ops).current.flags.hasBit i = (latest (Op.flagged? i) ops).getD false := by
  induction ops using List.reverseRecOn with
  | nil => exact FlagSet.hasBit_empty
  | append_singleton ops op ih =>
      rw [run_snoc, hasBit_flags_apply, ih, latest_append_singleton]
      cases op.flagged? i <;> rfl

/-- What was forced stays forced, and nothing else is. -/
theorem forced_run (ops : List Op) : (({} : Layers).run ops).forced = forcedBy ops := by
  induction ops using List.reverseRecOn with
  | nil => rfl
  | append_singleton ops op ih =>
      rw [run_snoc, forced_apply, ih, forcedBy, forcedBy, List.filterMap_append,
        List.foldl_append, List.filterMap_cons, List.filterMap_nil]
      cases op.forced? <;> rfl

end Layers

/-! ## Lives of windows -/

variable {κ : Type}

/-- The deed is an accepted binding that asks for hardware acceleration. -/
def Deed.accelerates : Deed κ → Bool
  | ⟨.bindTo b _, .ok _, _⟩ => b.hardwareAccelerated
  | _ => false

namespace Window

variable {w : Window κ}

/-- A binding forces the flag, and no other operation forces any. -/
theorem forced_step (op : Op κ) :
    (w.step op).state.layers.forced =
      if (w.deed op).accelerates then w.layers.forced ∪ .hardwareAccelerated
      else w.layers.forced := by
  cases op with
  | bindTo b supplied =>
      cases gone : w.destroyed <;> cases accelerated : b.hardwareAccelerated <;>
        simp [step, attempt, bindTo, whenAlive, deed, Deed.accelerates, Step.map, Except.map,
          Layers.force, gone, accelerated]
  | edit e =>
      rw [step_state]
      split
      · rfl
      · exact Layers.forced_apply (.edit e)
  | closeOnTouchOutsideIfUnset close =>
      rw [step_state]
      split
      · rfl
      · exact Layers.forced_apply (.closeOnTouchOutsideIfUnset close)
  | _ =>
      rw [step_state]
      split <;> rfl

end Window

/-- The flags that the deeds of a window force on it. -/
def acceleratedBy (deeds : List (Deed κ)) : WindowFlags :=
  if deeds.any Deed.accelerates then .hardwareAccelerated else ∅

theorem acceleratedBy_append_singleton (deeds : List (Deed κ)) (last : Deed κ) :
    acceleratedBy (deeds ++ [last]) =
      if last.accelerates then acceleratedBy deeds ∪ .hardwareAccelerated
      else acceleratedBy deeds := by
  rw [acceleratedBy, acceleratedBy, List.any_append, List.any_cons, List.any_nil, Bool.or_false]
  cases deeds.any Deed.accelerates <;> cases last.accelerates <;> rfl

/-- What is forced on a window is told by its deeds, wherever it has been. -/
theorem Place.Lived.forced {p : Place κ} {deeds : List (Deed κ)} (lived : p.Lived deeds) :
    ∃ w, p.window? = some w ∧ w.layers.forced = acceleratedBy deeds := by
  have own {deeds : List (Deed κ)} {w : Window κ} (op : Window.Op κ)
      (told : w.layers.forced = acceleratedBy deeds) :
      (w.step op).state.layers.forced = acceleratedBy (deeds ++ [w.deed op]) := by
    rw [w.forced_step, told, acceleratedBy_append_singleton]
  have apart {deeds : List (Deed κ)} {w x : Window κ} (same : x.core = w.core)
      (told : w.layers.forced = acceleratedBy deeds) : x.layers.forced = acceleratedBy deeds :=
    (congrArg (fun w : Window κ => w.layers.forced) same).trans told
  obtain ⟨w, occupied, told⟩ :=
    lived.tells (P := fun deeds w => w.layers.forced = acceleratedBy deeds)
      (fun _ _ => rfl) own apart
  exact ⟨w, occupied.window?, told⟩

/-- After every history of attributes each bit of the flags is what the last operation says that
selects it, and the attributes are handed out as they are but for everything that was forced.
A window hands its attributes out as they are until it is bound with hardware acceleration, and
with that flag from then on, whatever it lives through. -/
theorem forced_flags_above_last_written :
    (∀ ops : List Layers.Op,
      let l := ({} : Layers).run ops
      (∀ i, l.current.flags.hasBit i = (latest (Layers.Op.flagged? i) ops).getD false) ∧
      l.materialize = { l.current with flags := l.current.flags ∪ Layers.forcedBy ops }) ∧
    (∀ (i : Nat) (flags : WindowFlags),
      Layers.Op.flagged? i (.edit (.addFlags flags)) =
        (if flags.hasBit i then some true else none) ∧
      Layers.Op.flagged? i (.edit (.clearFlags flags)) =
        if flags.hasBit i then some false else none) ∧
    ∀ (p : Place κ) (deeds : List (Deed κ)), p.Lived deeds →
      ∃ w, p.window? = some w ∧
        w.layers.materialize =
          if deeds.any Deed.accelerates then
            { w.attributes with flags := w.attributes.flags ∪ .hardwareAccelerated }
          else w.attributes := by
  refine ⟨fun ops => ⟨fun i => Layers.hasBit_flags_run ops, ?_⟩,
    fun i flags => ⟨Layers.flagged?_addFlags flags, Layers.flagged?_clearFlags flags⟩, ?_⟩
  · rw [Layers.materialize, Layers.forced_run]
  · intro p deeds lived
    obtain ⟨w, here, forced⟩ := lived.forced
    refine ⟨w, here, ?_⟩
    rw [Layers.materialize, forced, acceleratedBy]
    cases deeds.any Deed.accelerates with
    | true => rfl
    | false =>
        have nothing : w.layers.current.flags ∪ ∅ = w.layers.current.flags :=
          FlagSet.ext_hasBit fun i _ => by simp
        simp only [Bool.false_eq_true, if_false, nothing]
        rfl

/-- Flags with and without names are set, overwritten through a mask that overlaps with them,
forced, and cleared. -/
def rewritten : List Layers.Op :=
  [.edit (.addFlags ⟨0x91⟩), .edit (.flags ⟨0x02⟩ ⟨0x83⟩), .force ⟨0x90⟩,
   .edit (.clearFlags ⟨0x10⟩)]

/-- A window is bound with hardware acceleration, given another record, cleared of all flags,
given a theme, and bound without. -/
def reaccelerated : List (Window.Op Nat) :=
  [.bindTo ⟨none, none, "demo", true⟩ (some 7), .edit (.replace { title := "notes" }),
   .edit (.clearFlags .all), .applyTheme {}, .bindTo ⟨none, none, "demo", false⟩ none]

theorem forced_flags_above_last_written_reaccelerated :
    let l := ({} : Layers).run rewritten
    let w := (Window.create 0 ∅).run reaccelerated
    (l.current.flags.hasBit 1 = true ∧ l.current.flags.hasBit 4 = false ∧
      l.materialize.flags = ⟨0x92⟩) ∧
    w.attributes.flags = ∅ ∧ w.layers.materialize.flags = .hardwareAccelerated := by
  intro l w
  obtain ⟨attributes, -, windows⟩ := forced_flags_above_last_written (κ := Nat)
  obtain ⟨bits, handedOut⟩ := attributes rewritten
  obtain ⟨x, here, given⟩ := windows _ _ (Place.lived_run 0 ∅ reaccelerated)
  cases here
  have accelerated : ((Window.create 0 ∅).deeds reaccelerated).any Deed.accelerates = true := rfl
  rw [if_pos accelerated] at given
  refine ⟨⟨bits 1, bits 4, ?_⟩, by decide, ?_⟩
  · exact congrArg Attributes.flags handedOut
  · exact (congrArg Attributes.flags given).trans (by decide)

end WindowPolicy
