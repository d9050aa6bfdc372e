/-
# WindowPolicy.Proofs.Hierarchy.Moves — what a client may do at will

A client that looks a window up may do anything to it, also put another window in its place.
A *move* is an operation of the hierarchy or such a change. What moves do to slots,
generations and ids does not depend on the windows: it shows in the outline, and an outline
changes alike whatever the windows are. So a run of moves gives out the same ids as the
history in which every change at will is left out.

* `Move`, `reply`, `after`, `play`, `trace`: moves, their replies and their runs;
* `given`, `filled`: the ids that a run gave out, and how often it filled a slot;
* `outline_insert`, `outline_remove`: taking in and out, told of outlines;
* `given_eq_issued`, `outline_play`: a run and the history without changes at will;
* `given_slot`, `given_nodup`: the ids given out for a slot; while no slot was filled
  `UInt32.size` times they are distinct.
-/
import WindowPolicy.Proofs.Hierarchy.Issued

namespace WindowPolicy

set_option autoImplicit false

namespace Hierarchy

variable {κ : Type} {t : Hierarchy κ}

/-! ## Moves -/

/-- What a client does. -/
inductive Move (κ : Type) where
  | op (op : Op κ)
  /-- Any change to the window that an id names. -/
  | change (id : WindowId) (change : Window κ → Window κ)

/-- What a client learns. -/
inductive Reply (κ : Type) where
  | op (answer : Answer κ)
  /-- The window that was looked up, as it was before the change. -/
  | found (window : Option (Window κ))

def Reply.issued? : Reply κ → Option WindowId
  | .op answer => answer.issued?
  | .found _ => none

def reply (t : Hierarchy κ) : Move κ → Reply κ
  | .op op => .op (t.step op).answer
  | .change id _ => .found (t.get? id)

def after (t : Hierarchy κ) : Move κ → Hierarchy κ
  | .op op => (t.step op).state
  | .change id change => t.modify id change

/-- The hierarchy after moves, from first to last. -/
def play (t : Hierarchy κ) (moves : List (Move κ)) : Hierarchy κ := moves.foldl after t

/-- Moves with their replies, from first to last. -/
def trace (t : Hierarchy κ) : List (Move κ) → List (Move κ × Reply κ)
  | [] => []
  | move :: moves => (move, t.reply move) :: trace (t.after move) moves

/-- The ids that moves give out, from first to last. -/
def given (t : Hierarchy κ) (moves : List (Move κ)) : List WindowId :=
  (t.trace moves).filterMap fun entry => entry.2.issued?

/-- How often moves fill a slot. -/
def filled (t : Hierarchy κ) (moves : List (Move κ)) (slot : Nat) : Nat :=
  (t.given moves).countP fun id => id.slot = slot

theorem play_append (moves more : List (Move κ)) :
    t.play (moves ++ more) = (t.play moves).play more := List.foldl_append

theorem trace_append (moves more : List (Move κ)) :
    t.trace (moves ++ more) = t.trace moves ++ (t.play moves).trace more := by
  induction moves generalizing t with
  | nil => rfl
  | cons move moves ih => exact congrArg ((move, t.reply move) :: ·) ih

theorem given_append (moves more : List (Move κ)) :
    t.given (moves ++ more) = t.given moves ++ (t.play moves).given more := by
  unfold given
  rw [trace_append, List.filterMap_append]

theorem filled_append (moves more : List (Move κ)) (slot : Nat) :
    t.filled (moves ++ more) slot = t.filled moves slot + (t.play moves).filled more slot := by
  unfold filled
  rw [given_append, List.countP_append]

theorem given_cons (move : Move κ) (moves : List (Move κ)) :
    t.given (move :: moves) = (t.reply move).issued?.toList ++ (t.after move).given moves := by
  unfold given
  rw [trace, List.filterMap_cons]
  cases (t.reply move).issued? <;> rfl

theorem Tidy.after (tidy : t.Tidy) (move : Move κ) : (t.after move).Tidy := by
  cases move with
  | op op => exact tidy.step op
  | change id change => exact tidy.of_outline_eq (outline_modify id change)

theorem Tidy.play (tidy : t.Tidy) (moves : List (Move κ)) : (t.play moves).Tidy := by
  induction moves generalizing t with
  | nil => exact tidy
  | cons move moves ih => exact ih (tidy.after move)

theorem tidy_play (moves : List (Move κ)) : (empty.play moves : Hierarchy κ).Tidy :=
  tidy_empty.play moves

/-! ## Outlines -/

namespace Outline

/-- Gives the slot of an id the generation of the id and says whether it is occupied. -/
def write (o : Outline) (id : WindowId) (occupied : Bool) : Outline :=
  { o with slots := o.slots.setIfInBounds id.slot (id.generation, occupied) }

/-- The id that the next occupant of a slot gets. -/
def nextId (o : Outline) (slot : Nat) : WindowId :=
  ⟨slot, ((o.slots[slot]?.map Prod.fst).getD 0) + 1⟩

def insert (o : Outline) : WindowId × Outline :=
  match o.free with
  | [] => (⟨o.slots.size, 1⟩, { o with slots := o.slots.push (1, true), size := o.size + 1 })
  | slot :: rest =>
      (o.nextId slot, { o.write (o.nextId slot) true with free := rest, size := o.size + 1 })

def remove (o : Outline) (id : WindowId) : Outline :=
  if o.slots[id.slot]? = some (id.generation, true) then
    { o.write id false with free := id.slot :: o.free, size := o.size - 1 }
  else o

end Outline

theorem outline_nextId (slot : Nat) : t.outline.nextId slot = t.nextId slot := by
  simp [outline, Outline.nextId, nextId, Array.getElem?_map, Function.comp_def]

theorem outline_write_with (id : WindowId) (occupant : Option (Window κ)) (free : List Nat)
    (size : Nat) :
    ({ t.write id occupant with free, size } : Hierarchy κ).outline =
      { t.outline.write id occupant.isSome with free, size } := by
  simp [write, outline, Outline.write, Array.map_setIfInBounds]

/-- Which id is given out, and what becomes of the slots, shows in the outline. -/
theorem outline_insert (w : Window κ) :
    ((t.insert w).1, (t.insert w).2.outline) = t.outline.insert := by
  unfold insert Outline.insert
  have free : t.outline.free = t.free := rfl
  rw [free]
  cases t.free with
  | nil => simp [outline, Array.map_push]
  | cons slot rest => simp only [outline_nextId, outline_write_with, Option.isSome_some]; rfl

theorem outline_remove (id : WindowId) : (t.remove id).2.outline = t.outline.remove id := by
  unfold Outline.remove
  cases named : t.get? id with
  | none =>
      have vacant : ¬t.outline.slots[id.slot]? = some (id.generation, true) := by
        rw [← isSome_get?_iff, named]
        simp
      rw [remove_of_none named, if_neg vacant]
  | some w =>
      have occupied : t.outline.slots[id.slot]? = some (id.generation, true) := by
        rw [← isSome_get?_iff, named]
        rfl
      simp only [remove, named, outline_forgetActive, outline_write_with, if_pos occupied]
      rfl

/-! ## Changes at will left out -/

/-- An operation in place of a move: one that leaves the window as it is in place of a change at
will. -/
def Move.plain : Move κ → Op κ
  | .op operation => operation
  | .change id _ => .window id .swipeDismissed

variable {s : Hierarchy κ}

/-- Two hierarchies of one outline give out the same ids and have one outline again. -/
theorem step_of_outline_eq (same : s.outline = t.outline) (op : Op κ) :
    (s.step op).answer.issued? = (t.step op).answer.issued? ∧
      (s.step op).state.outline = (t.step op).state.outline := by
  rcases op.kinds with ⟨w, rfl⟩ | ⟨id, rfl⟩ | internal
  · have alike : ((s.insert w).1, (s.insert w).2.outline) =
        ((t.insert w).1, (t.insert w).2.outline) := by
      rw [outline_insert, outline_insert, same]
    obtain ⟨id, outline⟩ := Prod.mk.inj alike
    exact ⟨congrArg some id, outline⟩
  · refine ⟨rfl, ?_⟩
    change (s.remove id).2.outline = (t.remove id).2.outline
    rw [outline_remove, outline_remove, same]
  · refine ⟨?_, ?_⟩
    · rw [issued?_eq_none internal.ne_insert, issued?_eq_none internal.ne_insert]
    · rw [internal.change.outline, internal.change.outline, same]

theorem after_of_outline_eq (same : s.outline = t.outline) (move : Move κ) :
    (s.reply move).issued? = (t.step move.plain).answer.issued? ∧
      (s.after move).outline = (t.step move.plain).state.outline := by
  cases move with
  | op op => exact step_of_outline_eq same op
  | change id change =>
      have internal : (Op.window (κ := κ) id .swipeDismissed).Internal := trivial
      have still := internal.change.outline (t := t)
      exact ⟨(issued?_eq_none internal.ne_insert).symm,
        (outline_modify id change).trans (same.trans still.symm)⟩

/-- A run gives out what the history without its changes at will gives out, and they leave one
outline. -/
theorem play_of_outline_eq (same : s.outline = t.outline) (moves : List (Move κ)) :
    s.given moves = t.issued (moves.map Move.plain) ∧
      (s.play moves).outline = (t.run (moves.map Move.plain)).outline := by
  induction moves generalizing s t with
  | nil => exact ⟨rfl, same⟩
  | cons move moves ih =>
      obtain ⟨issued, same'⟩ := after_of_outline_eq same move
      obtain ⟨given, outline⟩ := ih same'
      refine ⟨?_, outline⟩
      rw [given_cons, issued, given]
      rfl

theorem given_eq_issued (moves : List (Move κ)) :
    empty.given moves = empty.issued (moves.map Move.plain) :=
  (play_of_outline_eq rfl moves).1

theorem filled_eq_fills (moves : List (Move κ)) (slot : Nat) :
    empty.filled moves slot = empty.fills (moves.map Move.plain) slot := by
  unfold filled fills
  rw [given_eq_issued]

/-- A move gives out one id at most. -/
theorem filled_le_length (moves : List (Move κ)) (slot : Nat) :
    empty.filled moves slot ≤ moves.length := by
  rw [filled_eq_fills, ← List.length_map Move.plain]
  exact fills_le_length (moves.map Move.plain) slot

theorem outline_play (moves : List (Move κ)) :
    (empty.play moves).outline = (empty.run (moves.map Move.plain)).outline :=
  (play_of_outline_eq rfl moves).2

/-! ## Ids -/

/-- The id of the `k`-th occupant of a slot, counted from one. -/
def nth (slot k : Nat) : WindowId := ⟨slot, .ofNat k⟩

/-- The ids given out for a slot are, in order, those of its first occupant, its second, and so
on. -/
theorem given_slot (moves : List (Move κ)) (i : Nat) :
    ((empty.given moves).filter fun id => id.slot = i) =
      (List.range (empty.filled moves i)).map fun k => nth i (k + 1) := by
  rw [given_eq_issued, filled_eq_fills]
  exact issued_slot _ i

/-- While no slot was filled `UInt32.size` times, no id was given out twice. -/
theorem given_nodup {moves : List (Move κ)}
    (sparse : ∀ slot, empty.filled moves slot < UInt32.size) : (empty.given moves).Nodup := by
  rw [given_eq_issued]
  refine issued_nodup fun slot => ?_
  rw [← filled_eq_fills]
  exact sparse slot

end Hierarchy

end WindowPolicy
