/-
# WindowPolicy.Proofs.Hierarchy.Directory — a hierarchy is a finite map

Slots, generations and the list of free slots are there to hand out ids and to find windows
by them. To a client they do not show: a hierarchy answers like a *directory*, a finite map
from ids to windows in which a window that is taken in goes under an id that was never given
out before. A directory has no slots, so nothing in it can be found under a wrong id,
overwritten or lost.

* `Directory`, `Directory.Step`: what every move does to a finite map, and what it answers;
* `Directory.Path`, `Path.unique`: its runs; moves and replies tell what it comes to;
* `Shows`: the hierarchy has the windows of a directory and counts them;
* `Shows.allows`: what a hierarchy does, the directory that it shows may do;
* `shows_directory`: every run, while no slot was filled `UInt32.size` times, is a run of a
  directory with the same answers, and the hierarchy shows the directory that it comes to.
-/
import WindowPolicy.Proofs.Hierarchy.Moves
import Mathlib.Data.Set.Card

namespace WindowPolicy

set_option autoImplicit false

namespace Hierarchy

variable {κ : Type} {t : Hierarchy κ}

/-! ## Directories -/

/-- A map from ids to windows, with the ids that were ever given out. -/
structure Directory (κ : Type) where
  window? : WindowId → Option (Window κ)
  given : Set WindowId

namespace Directory

variable (d : Directory κ)

/-- The directory without windows. -/
def empty : Directory κ := { window? := fun _ => none, given := ∅ }

/-- The ids that have a window. -/
def ids : Set WindowId := {id | (d.window? id).isSome = true}

def insert (id : WindowId) (w : Window κ) : Directory κ :=
  { window? := Function.update d.window? id (some w), given := Insert.insert id d.given }

def erase (id : WindowId) : Directory κ := { d with window? := Function.update d.window? id none }

/-- Changes windows, each as its id says. -/
def each (change : WindowId → Window κ → Window κ) : Directory κ :=
  { d with window? := fun id => (d.window? id).map (change id) }

/-- Changes the window of one id. -/
def change (id : WindowId) (change : Window κ → Window κ) : Directory κ :=
  d.each fun j w => if j = id then change w else w

theorem mem_ids {id : WindowId} : id ∈ d.ids ↔ (d.window? id).isSome = true := Iff.rfl

theorem window?_insert (id : WindowId) (w : Window κ) (j : WindowId) :
    (d.insert id w).window? j = if j = id then some w else d.window? j :=
  Function.update_apply ..

theorem window?_erase (id j : WindowId) :
    (d.erase id).window? j = if j = id then none else d.window? j :=
  Function.update_apply ..

@[simp] theorem ids_insert (id : WindowId) (w : Window κ) :
    (d.insert id w).ids = Insert.insert id d.ids := by
  ext j
  rw [mem_ids, window?_insert, Set.mem_insert_iff, mem_ids]
  split <;> simp_all

@[simp] theorem ids_erase (id : WindowId) : (d.erase id).ids = d.ids \ {id} := by
  ext j
  rw [mem_ids, window?_erase, Set.mem_sdiff, Set.mem_singleton_iff, mem_ids]
  split <;> simp_all

@[simp] theorem ids_each (change : WindowId → Window κ → Window κ) :
    (d.each change).ids = d.ids := by
  ext j
  exact Bool.eq_iff_iff.mp Option.isSome_map

def live (id : WindowId) : Except Refusal (Window κ) :=
  match d.window? id with
  | some w => .ok w
  | none => .error (.unknownWindow id)

/-- The window that is to change its container, if both ends allow it. -/
def linkable (child : WindowId) (container : Option WindowId) : Except Refusal (Window κ) :=
  match d.window? child with
  | none => .error (.unknownWindow child)
  | some w =>
      if w.destroyed then .error .destroyed
      else
        match container with
        | none => .ok w
        | some host =>
            if host = child then .error .selfContainment
            else
              match d.window? host with
              | none => .error (.unknownWindow host)
              | some h => if h.destroyed then .error .destroyed else .ok w

/-- The window that is to become active, if it may. -/
def activatable (id : WindowId) : Except Refusal (Window κ) :=
  match d.live id with
  | .error refusal => .error refusal
  | .ok w => if w.destroyed then .error .destroyed else .ok w

/-- The active child of a window's container, if it is another window. -/
def displaced? (id : WindowId) (w : Window κ) : Option WindowId :=
  ((w.container.bind d.window?).bind (·.activeChild)).filter (· ≠ id)

/-- A record completed from a window and its container. -/
def completion (w : Window κ) (a : Attributes) (attached : Option Token) : Attributes :=
  a.completeFor (w.owner (w.container.bind d.window?) attached)

/-- The completed record, if the window may give it to a window manager. -/
def addable (id : WindowId) (a : Attributes) (attached : Option Token) :
    Except Refusal Attributes :=
  match d.live id with
  | .error refusal => .error refusal
  | .ok w =>
      if w.destroyed then .error .destroyed
      else if w.manager.isNone then .error .noManager
      else .ok (d.completion w a attached)

/-- A move on a finite map: what it is answered, and what becomes of the map. -/
inductive Step : Move κ → Reply κ → Directory κ → Prop
  /-- A window goes under an id that was never given out. -/
  | insert {id : WindowId} (new : id ∉ d.given) (w : Window κ) :
      Step (.op (.insert w)) (.op (.issued id)) (d.insert id w)
  /-- A window leaves, and its container forgets it as the active child. -/
  | remove {id : WindowId} {w : Window κ} (named : d.window? id = some w) :
      Step (.op (.remove id)) (.op (.removed (some w)))
        ((d.each (forgotten w.container id)).erase id)
  | absent {id : WindowId} (unnamed : d.window? id = none) :
      Step (.op (.remove id)) (.op (.removed none)) d
  | change (id : WindowId) (change : Window κ → Window κ) :
      Step (.change id change) (.found (d.window? id)) (d.change id change)
  | window (id : WindowId) (op : Window.Op κ) :
      Step (.op (.window id op)) (.op (.window ((d.window? id).map fun w => (w.step op).answer)))
        (d.change id fun w => (w.step op).state)
  | destroy (id : WindowId) :
      Step (.op (.destroy id)) (.op (.destroyed ((d.live id).map fun w => w.destroy.answer)))
        (d.change id fun w => w.destroy.state)
  | linked {child : WindowId} {container : Option WindowId} {w : Window κ}
      (free : d.linkable child container = .ok w) :
      Step (.op (.setContainer child container)) (.op (.linked (.ok ())))
        (d.each (relinked w.container container child))
  | notLinked {child : WindowId} {container : Option WindowId} {refusal : Refusal}
      (refused : d.linkable child container = .error refusal) :
      Step (.op (.setContainer child container)) (.op (.linked (.error refusal))) d
  | activated {id : WindowId} {w : Window κ} (free : d.activatable id = .ok w) :
      Step (.op (.makeActive id)) (.op (.linked (.ok ())))
        (d.each (activated w.container (d.displaced? id w) id))
  | notActivated {id : WindowId} {refusal : Refusal} (refused : d.activatable id = .error refusal) :
      Step (.op (.makeActive id)) (.op (.linked (.error refusal))) d
  | complete (owner : WindowId) (a : Attributes) (attached : Option Token) :
      Step (.op (.complete owner a attached))
        (.op (.completed ((d.live owner).map fun w =>
          (a.type.category, d.completion w a attached)))) d
  | addWindow (owner : WindowId) (a : Attributes) (attached : Option Token) :
      Step (.op (.addWindow owner a attached)) (.op (.added (d.addable owner a attached))) d

/-- A run of a directory: its moves, each with its reply. -/
inductive Path : Directory κ → List (Move κ × Reply κ) → Directory κ → Prop
  | nil (d : Directory κ) : Path d [] d
  | cons {d d' d'' : Directory κ} {move : Move κ} {reply : Reply κ}
      {entries : List (Move κ × Reply κ)} (step : d.Step move reply d')
      (rest : Path d' entries d'') : Path d ((move, reply) :: entries) d''

/-- An id counts as given out once an answer told it. -/
theorem Step.given {d d' : Directory κ} {move : Move κ} {reply : Reply κ}
    (step : d.Step move reply d') : d'.given = {id | reply.issued? = some id} ∪ d.given := by
  have silent : ({id | none = some id} : Set WindowId) ∪ d.given = d.given := by simp
  cases step with
  | @insert id new w =>
      ext j
      simp [Directory.insert, Reply.issued?, Answer.issued?, eq_comm]
  | _ => exact silent.symm

/-- Which id a window is taken in under is all that a directory leaves open. -/
theorem Step.unique {d e e' : Directory κ} {move : Move κ} {reply reply' : Reply κ}
    (step : d.Step move reply e) (step' : d.Step move reply' e')
    (same : reply.issued? = reply'.issued?) : reply = reply' ∧ e = e' := by
  cases step with
  | insert new w =>
      cases step' with
      | insert new' w' =>
          obtain rfl := Option.some.inj same
          exact ⟨rfl, rfl⟩
  | remove named =>
      cases step' with
      | remove named' =>
          cases named.symm.trans named'
          exact ⟨rfl, rfl⟩
      | absent unnamed => cases named.symm.trans unnamed
  | absent unnamed =>
      cases step' with
      | remove named => cases named.symm.trans unnamed
      | absent => exact ⟨rfl, rfl⟩
  | linked free =>
      cases step' with
      | linked free' =>
          cases free.symm.trans free'
          exact ⟨rfl, rfl⟩
      | notLinked refused => cases free.symm.trans refused
  | notLinked refused =>
      cases step' with
      | linked free => cases free.symm.trans refused
      | notLinked refused' =>
          cases refused.symm.trans refused'
          exact ⟨rfl, rfl⟩
  | activated free =>
      cases step' with
      | activated free' =>
          cases free.symm.trans free'
          exact ⟨rfl, rfl⟩
      | notActivated refused => cases free.symm.trans refused
  | notActivated refused =>
      cases step' with
      | activated free => cases free.symm.trans refused
      | notActivated refused' =>
          cases refused.symm.trans refused'
          exact ⟨rfl, rfl⟩
  | change | window | destroy | complete | addWindow =>
      cases step'
      exact ⟨rfl, rfl⟩

/-- Moves and their replies tell what a directory came to. -/
theorem Path.unique {d e e' : Directory κ} {entries : List (Move κ × Reply κ)}
    (path : d.Path entries e) (path' : d.Path entries e') : e = e' := by
  induction path with
  | nil =>
      cases path' with
      | nil => rfl
  | cons step rest ih =>
      cases path' with
      | cons step' rest' =>
          obtain ⟨-, rfl⟩ := step.unique step' rfl
          exact ih rest'

end Directory

/-! ## Showing a directory -/

/-- The hierarchy has the windows of a directory under their ids and no others. -/
structure Shows (t : Hierarchy κ) (d : Directory κ) : Prop where
  get?_eq : ∀ id, t.get? id = d.window? id
  isAlive_iff : ∀ id, t.isAlive id = true ↔ id ∈ d.ids
  finite : d.ids.Finite
  size_eq : t.size = d.ids.ncard
  isEmpty_iff : t.isEmpty = true ↔ t.size = 0

namespace Shows

variable {d : Directory κ}

/-- It is enough that ids name the same windows and that they are counted. -/
theorem of_get? {t' : Hierarchy κ} {d' : Directory κ} (get? : ∀ id, t'.get? id = d'.window? id)
    (finite : d'.ids.Finite) (size : t'.size = d'.ids.ncard) : t'.Shows d' where
  get?_eq := get?
  isAlive_iff id := by
    rw [isAlive, get?]
    rfl
  finite := finite
  size_eq := size
  isEmpty_iff := by simp [isEmpty]

theorem empty : (Hierarchy.empty : Hierarchy κ).Shows Directory.empty := by
  have none_there : (Directory.empty : Directory κ).ids = ∅ := by
    ext id
    simp [Directory.ids, Directory.empty]
  refine of_get? (fun id => rfl) ?_ ?_
  · rw [none_there]
    exact Set.finite_empty
  · rw [none_there, Set.ncard_empty]
    rfl

/-- What takes nothing in and nothing out leaves the ids as they are, and their number. -/
theorem of_outline_eq (shows : t.Shows d) {t' : Hierarchy κ} {d' : Directory κ}
    (same : t'.outline = t.outline) (get? : ∀ id, t'.get? id = d'.window? id) : t'.Shows d' := by
  have ids : d'.ids = d.ids := by
    ext id
    show (d'.window? id).isSome = true ↔ (d.window? id).isSome = true
    rw [← get?, ← shows.get?_eq, isSome_get?_iff, isSome_get?_iff, same]
  have size : t'.size = t.size := congrArg Outline.size same
  refine of_get? get? ?_ ?_
  · rw [ids]
    exact shows.finite
  · rw [ids, size]
    exact shows.size_eq

theorem insert (shows : t.Shows d) (tidy : t.Tidy) (w : Window κ) :
    (t.insert w).2.Shows (d.insert (t.insert w).1 w) := by
  have new : (t.insert w).1 ∉ d.ids := by
    rw [Directory.mem_ids, ← shows.get?_eq, tidy.get?_nextId]
    simp
  have size : (t.insert w).2.size = t.size + 1 := by
    unfold Hierarchy.insert
    cases t.free <;> rfl
  refine of_get? (fun j => ?_) ?_ ?_
  · rw [tidy.get?_insert, Directory.window?_insert, shows.get?_eq]
  · rw [Directory.ids_insert]
    exact shows.finite.insert _
  · rw [Directory.ids_insert, size, Set.ncard_insert_of_notMem new shows.finite, shows.size_eq]

theorem remove (shows : t.Shows d) {id : WindowId} {w : Window κ} (named : d.window? id = some w) :
    (t.remove id).2.Shows ((d.each (forgotten w.container id)).erase id) := by
  have found : t.get? id = some w := (shows.get?_eq id).trans named
  have there : id ∈ d.ids := by
    rw [Directory.mem_ids, named]
    rfl
  have size : (t.remove id).2.size = t.size - 1 := by
    simp only [Hierarchy.remove, found]
    exact congrArg Outline.size (outline_forgetActive w.container id)
  refine of_get? (fun j => ?_) ?_ ?_
  · rw [get?_remove found, Directory.window?_erase, shows.get?_eq]
    rfl
  · rw [Directory.ids_erase, Directory.ids_each]
    exact shows.finite.sdiff
  · rw [Directory.ids_erase, Directory.ids_each, size, Set.ncard_sdiff_singleton_of_mem there,
      shows.size_eq]

theorem modify (shows : t.Shows d) (id : WindowId) (change : Window κ → Window κ) :
    (t.modify id change).Shows (d.change id change) :=
  shows.of_outline_eq (outline_modify id change) fun j => by
    rw [get?_modify, shows.get?_eq]
    rfl

theorem relink (shows : t.Shows d) (child : WindowId) (container : Option WindowId)
    (w : Window κ) :
    (t.relink child container w).Shows (d.each (relinked w.container container child)) :=
  shows.of_outline_eq (outline_relink child container w) fun j => by
    rw [get?_relink, shows.get?_eq]
    rfl

/-! ### Guards and answers -/

theorem get?_eq_window? (shows : t.Shows d) : t.get? = d.window? := funext shows.get?_eq

theorem live (shows : t.Shows d) (id : WindowId) : t.live id = d.live id := by
  rw [Hierarchy.live, shows.get?_eq]
  rfl

theorem linkable (shows : t.Shows d) (child : WindowId) (container : Option WindowId) :
    t.linkable child container = d.linkable child container := by
  rw [linkable_eq, shows.get?_eq_window?]
  rfl

theorem displaced? (shows : t.Shows d) (id : WindowId) (w : Window κ) :
    t.displaced? id w = d.displaced? id w := by
  rw [Hierarchy.displaced?, shows.get?_eq_window?]
  rfl

theorem completion (shows : t.Shows d) (w : Window κ) (a : Attributes) (attached : Option Token) :
    t.completion w a attached = d.completion w a attached := by
  rw [Hierarchy.completion, containerOf, shows.get?_eq_window?]
  rfl

theorem activate (shows : t.Shows d) (id : WindowId) (w : Window κ) :
    (t.activate id w).Shows (d.each (activated w.container (d.displaced? id w) id)) :=
  shows.of_outline_eq (outline_activate id w) fun j => by
    rw [get?_activate, shows.get?_eq, shows.displaced?]
    rfl

theorem complete_answer (shows : t.Shows d) (owner : WindowId) (a : Attributes)
    (attached : Option Token) :
    (t.complete owner a attached).answer =
      (d.live owner).map fun w => (a.type.category, d.completion w a attached) := by
  rw [Hierarchy.complete, shows.live]
  cases d.live owner with
  | error refusal => rfl
  | ok w =>
      exact congrArg (fun record => Except.ok (a.type.category, record))
        (shows.completion w a attached)

theorem addWindow_answer (shows : t.Shows d) (owner : WindowId) (a : Attributes)
    (attached : Option Token) :
    (t.addWindow owner a attached).answer = d.addable owner a attached := by
  rw [Hierarchy.addWindow, Directory.addable, shows.live]
  cases d.live owner with
  | error refusal => rfl
  | ok w =>
      dsimp only
      cases w.destroyed with
      | true => rfl
      | false =>
          cases manager : w.manager with
          | none => rfl
          | some m => exact congrArg Except.ok (shows.completion w a attached)

theorem destroy_answer (shows : t.Shows d) (id : WindowId) :
    (t.destroy id).answer = (d.live id).map fun w => w.destroy.answer := by
  rw [Directory.live, ← shows.get?_eq, Hierarchy.destroy]
  cases named : t.get? id with
  | none =>
      rw [update?_of_none named]
      rfl
  | some w =>
      rw [update?_of_get? named]
      rfl

theorem window_answer (shows : t.Shows d) (id : WindowId) (op : Window.Op κ) :
    (t.step (.window id op)).answer =
      .window ((d.window? id).map fun w => (w.step op).answer) := by
  rw [← shows.get?_eq]
  cases named : t.get? id with
  | none => simp [step, update?_of_none named]
  | some w => simp [step, update?_of_get? named, Step.map]

end Shows

/-! ## Simulation -/

/-- The directory may answer a move so, and be what a hierarchy shows from then on. -/
def Directory.Allows (d : Directory κ) (move : Move κ) (reply : Reply κ) (t' : Hierarchy κ) :
    Prop :=
  ∃ d', d.Step move reply d' ∧ t'.Shows d'

namespace Shows

variable {d : Directory κ}

theorem allows_remove (shows : t.Shows d) (id : WindowId) :
    d.Allows (.op (.remove id)) (.op (.removed (t.remove id).1)) (t.remove id).2 := by
  rw [remove_answer, shows.get?_eq]
  cases named : d.window? id with
  | none =>
      rw [remove_of_none ((shows.get?_eq id).trans named)]
      exact ⟨d, .absent named, shows⟩
  | some w => exact ⟨_, .remove named, shows.remove named⟩

theorem allows_setContainer (shows : t.Shows d) (child : WindowId) (container : Option WindowId) :
    d.Allows (.op (.setContainer child container))
      (.op (.linked (t.setContainer child container).answer))
      (t.setContainer child container).state := by
  have guard := shows.linkable child container
  unfold setContainer
  cases free : d.linkable child container with
  | error refusal =>
      rw [guard, free]
      exact ⟨d, .notLinked free, shows⟩
  | ok w =>
      rw [guard, free]
      exact ⟨_, .linked free, shows.relink child container w⟩

theorem allows_makeActive (shows : t.Shows d) (id : WindowId) :
    d.Allows (.op (.makeActive id)) (.op (.linked (t.makeActive id).answer))
      (t.makeActive id).state := by
  have guard : d.activatable id =
      match t.live id with
      | .error refusal => .error refusal
      | .ok w => if w.destroyed then .error .destroyed else .ok w := by
    rw [shows.live]
    rfl
  unfold makeActive
  cases found : t.live id with
  | error refusal =>
      rw [found] at guard
      exact ⟨d, .notActivated guard, shows⟩
  | ok w =>
      rw [found] at guard
      dsimp only at guard ⊢
      cases gone : w.destroyed with
      | true =>
          rw [gone] at guard
          exact ⟨d, .notActivated guard, shows⟩
      | false =>
          rw [gone] at guard
          exact ⟨_, .activated guard, shows.activate id w⟩

theorem allows_destroy (shows : t.Shows d) (id : WindowId) :
    d.Allows (.op (.destroy id)) (.op (.destroyed (t.destroy id).answer)) (t.destroy id).state := by
  rw [shows.destroy_answer, destroy_state]
  exact ⟨_, .destroy id, shows.modify id _⟩

theorem allows_window (shows : t.Shows d) (id : WindowId) (op : Window.Op κ) :
    d.Allows (.op (.window id op)) (.op (t.step (.window id op)).answer)
      (t.step (.window id op)).state := by
  rw [shows.window_answer, window_state]
  exact ⟨_, .window id op, shows.modify id _⟩

theorem allows_complete (shows : t.Shows d) (owner : WindowId) (a : Attributes)
    (attached : Option Token) :
    d.Allows (.op (.complete owner a attached))
      (.op (.completed (t.complete owner a attached).answer))
      (t.complete owner a attached).state := by
  rw [shows.complete_answer, complete_state]
  exact ⟨d, .complete owner a attached, shows⟩

theorem allows_addWindow (shows : t.Shows d) (owner : WindowId) (a : Attributes)
    (attached : Option Token) :
    d.Allows (.op (.addWindow owner a attached))
      (.op (.added (t.addWindow owner a attached).answer))
      (t.addWindow owner a attached).state := by
  rw [shows.addWindow_answer, addWindow_state]
  exact ⟨d, .addWindow owner a attached, shows⟩

theorem allows_change (shows : t.Shows d) (id : WindowId) (change : Window κ → Window κ) :
    d.Allows (.change id change) (.found (t.get? id)) (t.modify id change) := by
  rw [shows.get?_eq]
  exact ⟨_, .change id change, shows.modify id change⟩

/-- Whatever a hierarchy does, the directory that it shows may do with the same answer, as long
as an id that is given out is new. -/
theorem allows (shows : t.Shows d) (tidy : t.Tidy) (move : Move κ)
    (new : ∀ id, (t.reply move).issued? = some id → id ∉ d.given) :
    d.Allows move (t.reply move) (t.after move) := by
  cases move with
  | change id change => exact shows.allows_change id change
  | op operation =>
      cases operation with
      | insert w => exact ⟨_, .insert (new _ rfl) w, shows.insert tidy w⟩
      | remove id => exact shows.allows_remove id
      | setContainer child container => exact shows.allows_setContainer child container
      | makeActive id => exact shows.allows_makeActive id
      | destroy id => exact shows.allows_destroy id
      | complete owner a attached => exact shows.allows_complete owner a attached
      | addWindow owner a attached => exact shows.allows_addWindow owner a attached
      | window id op => exact shows.allows_window id op

/-- A run of a hierarchy is a run of the directory that it shows, as long as the ids that are
given out are new and differ. -/
theorem path (shows : t.Shows d) (tidy : t.Tidy) {moves : List (Move κ)}
    (distinct : (t.given moves).Nodup) (new : ∀ id ∈ t.given moves, id ∉ d.given) :
    ∃ d', d.Path (t.trace moves) d' ∧ (t.play moves).Shows d' := by
  induction moves generalizing t d with
  | nil => exact ⟨d, .nil d, shows⟩
  | cons move moves ih =>
      rw [given_cons] at distinct new
      obtain ⟨d', step, shows'⟩ := shows.allows tidy move fun id told =>
        new id (List.mem_append_left _ (by simp [told]))
      have new' : ∀ id ∈ (t.after move).given moves, id ∉ d'.given := by
        intro id later
        rw [step.given]
        rintro (told | old)
        · -- The id would have been given out twice.
          exact List.disjoint_of_nodup_append distinct (Option.mem_toList.mpr told) later
        · exact new id (List.mem_append_right _ later) old
      obtain ⟨d'', rest, shows''⟩ :=
        ih shows' (tidy.after move) (List.nodup_append.mp distinct).2.1 new'
      exact ⟨d'', .cons step rest, shows''⟩

end Shows

/-- Every run is the run of a directory that gives the same answers, and shows the directory that
it comes to, as long as no slot was filled `UInt32.size` times. -/
theorem shows_directory {moves : List (Move κ)}
    (sparse : ∀ slot, empty.filled moves slot < UInt32.size) :
    (∃ d, Directory.empty.Path (empty.trace moves) d) ∧
      ∀ d, Directory.empty.Path (empty.trace moves) d → (empty.play moves).Shows d := by
  obtain ⟨d, path, shows⟩ :=
    Shows.empty.path tidy_empty (given_nodup sparse) fun _ _ old => old
  exact ⟨⟨d, path⟩, fun d' path' => path.unique path' ▸ shows⟩

/-- A window is taken out, its slot is used again, and the second window is replaced by another
one. -/
def turnover : List (Move Unit) :=
  [.op (.insert (.create () ∅)), .op (.remove (nth 0 1)), .op (.insert (.create () ∅)),
   .change (nth 0 2) fun _ => .create () ⟨.allOnes 32⟩]

theorem shows_directory_turnover :
    (∀ slot, empty.filled turnover slot < UInt32.size) ∧
      ∃ d, Directory.empty.Path (empty.trace turnover) d ∧ d.window? (nth 0 1) = none ∧
        d.window? (nth 0 2) = some (.create () ⟨.allOnes 32⟩) ∧ d.ids.ncard = 1 := by
  have sparse : ∀ slot, empty.filled turnover slot < UInt32.size := fun slot =>
    Nat.lt_of_le_of_lt (filled_le_length turnover slot) (by decide)
  obtain ⟨⟨d, path⟩, shown⟩ := shows_directory sparse
  have shows := shown d path
  refine ⟨sparse, d, path, ?_, ?_, ?_⟩
  · rw [← shows.get?_eq]
    rfl
  · rw [← shows.get?_eq]
    rfl
  · rw [← shows.size_eq]
    rfl

end Hierarchy

end WindowPolicy
