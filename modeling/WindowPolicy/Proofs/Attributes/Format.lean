/-
# WindowPolicy.Proofs.Attributes.Format — the format that a history leaves

The format of the surface lies in two layers. A client asks for one explicitly, or gives the
choice back by asking for an unknown one; below that is a default, which clients and themes
supply. Only the top layer and the default are kept, but both are told by the history: the
explicit format is the one that was asked for last, and the default is the one that was heard
last. Clients are always heard. A theme is heard only while no format is set explicitly, so
that it is lost for good when it comes too early, and is not what giving the choice back
reveals.

* `explicit?`, `supplied`, `heard`: the two layers, told by the history; `supplied` takes every
  theme for heard;
* `Tells`, `tells_run`: a run without replacements leaves what its history tells;
* `heard_eq_supplied`: every default counts if the last one was heard;
* `format_layered_once_heard`: the format after every history;
* `theme_unheard_is_lost`: a theme that comes while a format is set explicitly.
-/
import WindowPolicy.Proofs.Attributes.Explicit
import WindowPolicy.Proofs.Since

namespace WindowPolicy

set_option autoImplicit false

namespace Layers

variable {l : Layers} {ops : List Op}

/-! ## Histories -/

/-- The format that a client asks for. -/
def Op.asked? : Op → Option PixelFormat
  | .edit (.format f) => some f
  | _ => none

/-- The format that is to hold while none is set explicitly. -/
def Op.supplied? : Op → Option PixelFormat
  | .edit (.defaultFormat f) => some f
  | .theme t => some t.format
  | _ => none

/-- The operation replaces all attributes at once. -/
def Op.replaces : Op → Bool
  | .edit (.replace _) => true
  | _ => false

/-- The format that was asked for last, if it is known. -/
def explicit? (ops : List Op) : Option PixelFormat := (latest Op.asked? ops).filter (· ≠ .unknown)

/-- The default that was supplied last. -/
def supplied (ops : List Op) : PixelFormat := (latest Op.supplied? ops).getD .solid

/-- The default that an operation supplies after others. A theme is not heard while a format is
set explicitly. -/
def heard? : List Op × Op → Option PixelFormat
  | (before, .theme theme) => if (explicit? before).isSome then none else some theme.format
  | (_, op) => op.supplied?

/-- The default that was heard last. -/
def heard (ops : List Op) : PixelFormat := (latest heard? (dated ops)).getD .solid

theorem explicit?_append_singleton (ops : List Op) (last : Op) :
    explicit? (ops ++ [last]) =
      match last.asked? with
      | some f => if f = .unknown then none else some f
      | none => explicit? ops := by
  rw [explicit?, latest_append_singleton]
  cases last.asked? with
  | none => rfl
  | some f => cases f <;> rfl

theorem heard_append_singleton (ops : List Op) (last : Op) :
    heard (ops ++ [last]) = (heard? (ops, last)).getD (heard ops) := by
  rw [heard, dated_append_singleton, latest_append_singleton]
  cases heard? (ops, last) <;> rfl

theorem supplied_append_singleton (ops : List Op) (last : Op) :
    supplied (ops ++ [last]) = last.supplied?.getD (supplied ops) := by
  rw [supplied, latest_append_singleton]
  cases last.supplied? <;> rfl

/-- The last default was heard: it came from a client, or from a theme while no format was set
explicitly. -/
def LastHeard (ops : List Op) : Prop :=
  ∀ before theme after, ops = before ++ .theme theme :: after →
    (∀ op ∈ after, op.supplied? = none) → explicit? before = none

theorem LastHeard.of_append_singleton {last : Op} (heard : LastHeard (ops ++ [last]))
    (silent : last.supplied? = none) : LastHeard ops := by
  rintro before theme after rfl none_after
  refine heard before theme (after ++ [last]) (by simp) fun op member => ?_
  rcases List.mem_append.mp member with earlier | now
  · exact none_after op earlier
  · rw [List.mem_singleton.mp now]
    exact silent

/-- If the last default was heard it is the one that holds. -/
theorem heard_eq_supplied (last_heard : LastHeard ops) : heard ops = supplied ops := by
  induction ops using List.reverseRecOn with
  | nil => rfl
  | append_singleton ops last ih =>
      rw [heard_append_singleton, supplied_append_singleton]
      cases last with
      | theme theme =>
          have unset : explicit? ops = none :=
            last_heard ops theme [] rfl fun op member => by cases member
          simp [heard?, unset, Op.supplied?]
      | edit e =>
          cases e with
          | defaultFormat f => rfl
          | _ => exact ih (last_heard.of_append_singleton rfl)
      | _ => exact ih (last_heard.of_append_singleton rfl)

/-! ## Runs -/

/-- The history tells the two layers of the format, and the format itself. -/
structure Tells (ops : List Op) (l : Layers) : Prop where
  formatSet : l.formatSet = (explicit? ops).isSome
  defaultFormat : l.defaultFormat = heard ops
  format : l.current.format = (explicit? ops).getD (heard ops)

namespace Tells

/-- A client asks for a format. -/
theorem asks (tells : Tells ops l) (f : PixelFormat) :
    Tells (ops ++ [.edit (.format f)]) (l.apply (.edit (.format f))) := by
  have asked : explicit? (ops ++ [.edit (.format f)]) = if f = .unknown then none else some f :=
    explicit?_append_singleton ops _
  have unheard : heard (ops ++ [.edit (.format f)]) = heard ops := heard_append_singleton ops _
  rw [apply_eq_changed]
  constructor
  · rw [asked]
    by_cases unknown : f = .unknown <;> simp [changed, unknown]
  · rw [unheard]
    exact tells.defaultFormat
  · rw [asked, unheard, ← tells.defaultFormat]
    by_cases unknown : f = .unknown <;> simp [changed, unknown]

/-- A client supplies a default. -/
theorem supplies (tells : Tells ops l) (f : PixelFormat) :
    Tells (ops ++ [.edit (.defaultFormat f)]) (l.apply (.edit (.defaultFormat f))) := by
  have unasked : explicit? (ops ++ [.edit (.defaultFormat f)]) = explicit? ops :=
    explicit?_append_singleton ops _
  have supplied : heard (ops ++ [.edit (.defaultFormat f)]) = f := heard_append_singleton ops _
  constructor
  · rw [unasked]
    exact tells.formatSet
  · rw [supplied]
    rfl
  · rw [unasked, supplied]
    show (if l.formatSet then l.current.format else f) = _
    rw [tells.formatSet, tells.format]
    cases explicit? ops <;> rfl

/-- A theme supplies a default, if it is heard. -/
theorem themed (tells : Tells ops l) (theme : Theme) :
    Tells (ops ++ [.theme theme]) (l.apply (.theme theme)) := by
  have unasked : explicit? (ops ++ [.theme theme]) = explicit? ops :=
    explicit?_append_singleton ops _
  have supplied : heard (ops ++ [.theme theme]) =
      if (explicit? ops).isSome then heard ops else theme.format := by
    rw [heard_append_singleton]
    cases explicit : explicit? ops <;> simp [heard?, explicit]
  constructor
  · rw [unasked]
    exact tells.formatSet
  · rw [supplied, ← tells.defaultFormat, ← tells.formatSet]
    rfl
  · rw [unasked, supplied]
    show (if l.formatSet then l.current.format else theme.format) = _
    rw [tells.formatSet, tells.format]
    cases explicit? ops <;> rfl

/-- Nothing is asked for and nothing supplied. -/
theorem silent (tells : Tells ops l) {op : Op} (unasked : op.asked? = none)
    (unheard : heard? (ops, op) = none)
    (same : (l.apply op).formatSet = l.formatSet ∧
      (l.apply op).defaultFormat = l.defaultFormat ∧
      (l.apply op).current.format = l.current.format) :
    Tells (ops ++ [op]) (l.apply op) := by
  obtain ⟨set, default, current⟩ := same
  constructor
  · rw [set, tells.formatSet, explicit?_append_singleton, unasked]
  · rw [default, tells.defaultFormat, heard_append_singleton, unheard]
    rfl
  · rw [current, tells.format, explicit?_append_singleton, heard_append_singleton, unasked,
      unheard]
    rfl

theorem apply (tells : Tells ops l) {op : Op} (kept : op.replaces = false) :
    Tells (ops ++ [op]) (l.apply op) := by
  cases op with
  | edit e =>
      cases e with
      | replace => cases kept
      | format f => exact tells.asks f
      | defaultFormat f => exact tells.supplies f
      | _ => exact tells.silent rfl rfl ⟨rfl, rfl, rfl⟩
  | theme theme => exact tells.themed theme
  | closeOnTouchOutsideIfUnset close =>
      refine tells.silent rfl rfl ?_
      rw [apply_eq_changed]
      exact ⟨rfl, rfl, rfl⟩
  | _ => exact tells.silent rfl rfl ⟨rfl, rfl, rfl⟩

end Tells

/-- A run without replacements leaves what its history tells. -/
theorem tells_run (kept : ∀ op ∈ ops, op.replaces = false) : Tells ops (({} : Layers).run ops) := by
  induction ops using List.reverseRecOn with
  | nil => exact ⟨rfl, rfl, rfl⟩
  | append_singleton ops op ih =>
      have before := ih fun op member => kept op (List.mem_append_left _ member)
      have after := before.apply (kept op (by simp))
      rwa [run, List.foldl_append]

/-- Without replacements the format is the one that is set explicitly or else the default that
was heard last, which is the one supplied last unless a theme supplied it while a format was set
explicitly. Giving the choice back reveals the default in either case. -/
theorem format_layered_once_heard (kept : ∀ op ∈ ops, op.replaces = false) :
    let l := ({} : Layers).run ops
    l.current.format = (explicit? ops).getD (heard ops) ∧
    (LastHeard ops → l.current.format = (explicit? ops).getD (supplied ops)) ∧
    (l.apply (.edit (.format .unknown))).current.format = heard ops := by
  intro l
  have tells := tells_run kept
  refine ⟨tells.format, fun last_heard => ?_, tells.defaultFormat⟩
  rw [← heard_eq_supplied last_heard]
  exact tells.format

/-- A theme comes too early, and the client supplies a default of its own. -/
def overruled : List Op :=
  [.edit (.format .rgb565), .theme { format := .translucent }, .edit (.defaultFormat .rgb888)]

theorem lastHeard_overruled : LastHeard overruled := by
  rintro (_ | ⟨first, _ | ⟨second, before⟩⟩) theme after split silent
  · cases split
  · cases split
    cases silent (.edit (.defaultFormat .rgb888)) List.mem_cons_self
  · obtain ⟨-, -, split⟩ : _ ∧ _ ∧ _ = before ++ .theme theme :: after := by
      simpa [overruled] using split
    cases before with
    | nil => cases split
    | cons third before => simp at split

theorem format_layered_once_heard_overruled :
    ((∀ op ∈ overruled, op.replaces = false) ∧ LastHeard overruled) ∧
      let l := ({} : Layers).run overruled
      l.current.format = .rgb565 ∧
        (l.apply (.edit (.format .unknown))).current.format = .rgb888 := by
  have kept : ∀ op ∈ overruled, op.replaces = false := by decide
  obtain ⟨-, format, revealed⟩ := format_layered_once_heard kept
  exact ⟨⟨kept, lastHeard_overruled⟩, format lastHeard_overruled, revealed⟩

/-- A theme comes while a format is set explicitly. Once the choice is given back, the default
is not the one that was supplied last. -/
theorem theme_unheard_is_lost :
    ¬∀ ops : List Op, (∀ op ∈ ops, op.replaces = false) →
      (({} : Layers).run ops).current.format = (explicit? ops).getD (supplied ops) := by
  intro always
  have same := always
    [.edit (.format .rgb565), .theme { format := .translucent }, .edit (.format .unknown)]
    (by decide)
  cases same

end Layers

end WindowPolicy
