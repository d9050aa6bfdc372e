/-
# WindowPolicy.Proofs.Hierarchy.Footprint — all that a changed link writes

Moving a window and activating one reach at most three windows, through ids that may be old, the
same, or linked already. What each of these windows becomes is told by one record update: every
field that may be written, with the condition under which it is, and no other field. A hierarchy
is its outline together with what its ids name, so that the hierarchy afterwards is the one
before with that update made in every slot. Generations, free slots and size stay.

* `mapWindows`, `ext_view`: the same change everywhere, and when two hierarchies are one;
* `relocated`, `relinked_eq_relocated`: what moving a window writes;
* `promoted`, `activated_eq_promoted`: what activating a window writes;
* `link_operations_footprint`: all of it.
-/
import WindowPolicy.Proofs.Hierarchy.Recording
import WindowPolicy.Proofs.Window.Life

namespace WindowPolicy

set_option autoImplicit false

variable {κ : Type}

/-- The features of a window that is put into a container: the title is forced away, and pinned
so. Of one that is taken out: the pin is released, and that is all. -/
def Negotiation.housed (n : Negotiation) : Option WindowId → Negotiation
  | some _ =>
      { requested := (n.requested \ Feature.noTitle.conflicts) ∪ .only .noTitle
        enforced := (n.enforced \ Feature.noTitle.conflicts) ∪ .only .noTitle
        pinned := n.pinned ∪ .only .noTitle }
  | none => { n with pinned := n.pinned \ .only .noTitle }

/-- A window is its core with its features and links. -/
theorem Window.ext_core {w x : Window κ} (core : w.core = x.core)
    (features : w.features = x.features) (links : w.links = x.links) : w = x := by
  cases w
  cases x
  simp_all [Window.core, Window.links]

namespace Hierarchy

variable {t : Hierarchy κ}

/-! ## The same change everywhere -/

/-- Changes every window, given its id. -/
def mapWindows (t : Hierarchy κ) (change : WindowId → Window κ → Window κ) : Hierarchy κ :=
  { t with
    slots := t.slots.mapIdx fun i slot =>
      { slot with window := slot.window.map (change ⟨i, slot.generation⟩) } }

theorem get?_mapWindows (change : WindowId → Window κ → Window κ) (j : WindowId) :
    (t.mapWindows change).get? j = (t.get? j).map (change j) := by
  unfold get? mapWindows
  rw [Array.getElem?_mapIdx]
  cases t.slots[j.slot]? with
  | none => rfl
  | some slot =>
      by_cases current : slot.generation = j.generation
      · simp [current]
      · simp [current]

theorem outline_mapWindows (change : WindowId → Window κ → Window κ) :
    (t.mapWindows change).outline = t.outline := by
  unfold outline mapWindows
  congr 1
  apply Array.ext_getElem?
  intro i
  cases found : t.slots[i]? <;> simp [found]

/-- A hierarchy is its outline together with what its ids name. -/
theorem ext_view {u : Hierarchy κ} (outline : t.outline = u.outline)
    (view : ∀ j, t.get? j = u.get? j) : t = u := by
  have free : t.free = u.free := congrArg Outline.free outline
  have size : t.size = u.size := congrArg Outline.size outline
  have slots : t.slots = u.slots := by
    apply Array.ext_getElem?
    intro i
    have drawn := congrArg (fun o => o.slots[i]?) outline
    simp only [Hierarchy.outline, Array.getElem?_map] at drawn
    cases first : t.slots[i]? with
    | none =>
        rw [first, Option.map_none] at drawn
        exact (Option.map_eq_none_iff.mp drawn.symm).symm
    | some slot =>
        rw [first, Option.map_some] at drawn
        obtain ⟨slot', second, same⟩ := Option.map_eq_some_iff.mp drawn.symm
        have generation : slot'.generation = slot.generation := congrArg Prod.fst same
        have window : slot.window = slot'.window := by
          simpa [get?, first, second, generation] using view ⟨i, slot.generation⟩
        rw [second, Option.some.injEq]
        cases slot
        cases slot'
        simp_all
  cases t
  cases u
  simp_all

/-! ## Moving a window -/

/-- The window under `id` once `child` was moved from the container `previous` to `container`. -/
def relocated (previous container : Option WindowId) (child id : WindowId) (x : Window κ) :
    Window κ :=
  { x with
    container := if id = child then container else x.container
    features := if id = child then x.features.housed container else x.features
    isActive :=
      if id = child then x.isActive && decide (container.isSome ∧ previous = container)
      else x.isActive
    activeChild :=
      if previous = some id ∧ previous ≠ container ∧ x.activeChild = some child then none
      else x.activeChild
    hasChildren := if container = some id then true else x.hasChildren }

section Fields

variable (previous container : Option WindowId) (child id : WindowId) (x : Window κ)

theorem forgotten_features : (forgotten container child id x).features = x.features := by
  unfold forgotten
  split <;> rfl

theorem placed_features : (placed container x).features = x.features.housed container := by
  cases container <;> rfl

theorem relinked_features :
    (relinked previous container child id x).features =
      if id = child then x.features.housed container else x.features := by
  have hosted (w : Window κ) : (asHost w).features = w.features := rfl
  unfold relinked
  simp only [apply_ite Window.features, hosted, placed_features, forgotten_features, ite_self]

end Fields

/-- The writes to a window, one after the other, are that one update. -/
theorem relinked_eq_relocated {previous container : Option WindowId} {child id : WindowId}
    {x : Window κ} (left : id = child → x.container = previous) :
    relinked previous container child id x = relocated previous container child id x := by
  refine Window.ext_core (core_relinked container child id x previous)
    (relinked_features previous container child id x) ?_
  simp only [Window.links, Window.Links.mk.injEq]
  refine ⟨relinked_container previous container child id x, ?_, ?_, ?_⟩
  · refine Option.ext fun c => ?_
    rw [relinked_activeChild_eq_some, relocated]
    grind
  · rw [relinked_isActive, relocated]
    by_cases moved : id = child
    · simp only [moved, if_true, left moved]
    · simp only [moved, if_false]
  · rw [relinked_hasChildren, relocated]
    by_cases hosting : container = some id <;> simp [hosting]

/-! ## Activating a window -/

/-- The window under `id` once `chosen`, which is in `container`, was activated, where
`container` remembered `sibling`. -/
def promoted (container sibling : Option WindowId) (chosen id : WindowId) (x : Window κ) :
    Window κ :=
  { x with
    activeChild := if container = some id then some chosen else x.activeChild
    isActive := if id = chosen then true else if sibling = some id then false else x.isActive }

theorem displaced?_eq_some_of_ne {id chosen : WindowId} (other : id ≠ chosen) (w : Window κ) :
    t.displaced? chosen w = some id ↔ w.container.bind t.activeChildOf = some id := by
  have remembered : (w.container.bind t.get?).bind (·.activeChild) =
      w.container.bind t.activeChildOf := Option.bind_assoc ..
  rw [displaced?, remembered, Option.filter_eq_some_iff]
  exact and_iff_left (decide_eq_true other)

/-- The writes to a window, one after the other, are that one update. -/
theorem activated_eq_promoted (chosen id : WindowId) (w x : Window κ) :
    activated w.container (t.displaced? chosen w) chosen id x =
      promoted w.container (w.container.bind t.activeChildOf) chosen id x := by
  refine Window.ext_core (core_activated w.container (t.displaced? chosen w) chosen id x) ?_ ?_
  · unfold activated
    split <;> split <;> split <;> rfl
  · simp only [Window.links, Window.Links.mk.injEq]
    refine ⟨activated_container .., activated_activeChild .., ?_, activated_hasChildren ..⟩
    rw [activated_isActive, promoted]
    -- A window that its container remembered already does not displace itself.
    by_cases self : id = chosen
    · simp only [self, if_true]
    · simp only [self, if_false, displaced?_eq_some_of_ne self]

/-! ## The operations -/

/-- The windows under some ids were changed, each in its own way, and nothing else was. -/
structure Footprint (t t' : Hierarchy κ) (ids : List WindowId)
    (change : WindowId → Window κ → Window κ) : Prop where
  eq : t' = t.mapWindows change
  apart : ∀ j, j ∉ ids → t'.get? j = t.get? j
  /-- Generations, free slots and size are the same. -/
  outline : t'.outline = t.outline

theorem Footprint.of_view {t' : Hierarchy κ} {ids : List WindowId}
    {change : WindowId → Window κ → Window κ} (outline : t'.outline = t.outline)
    (view : ∀ j, t'.get? j = (t.get? j).map (change j))
    (still : ∀ j x, j ∉ ids → change j x = x) : t.Footprint t' ids change where
  eq := ext_view (outline.trans (outline_mapWindows change).symm) fun j =>
    (view j).trans (get?_mapWindows change j).symm
  apart j unlisted := by
    rw [view, funext fun x => still j x unlisted]
    exact Option.map_id'
  outline := outline

theorem relocated_of_apart {previous container : Option WindowId} {child j : WindowId}
    (apart : j ∉ child :: (previous.toList ++ container.toList)) (x : Window κ) :
    relocated previous container child j x = x := by
  simp only [List.mem_cons, List.mem_append, Option.mem_toList, not_or] at apart
  obtain ⟨moved, left, hosting⟩ := apart
  simp [relocated, moved, left, hosting]

theorem promoted_of_apart {container sibling : Option WindowId} {chosen j : WindowId}
    (apart : j ∉ chosen :: (container.toList ++ sibling.toList)) (x : Window κ) :
    promoted container sibling chosen j x = x := by
  simp only [List.mem_cons, List.mem_append, Option.mem_toList, not_or] at apart
  obtain ⟨activated, told, displaced⟩ := apart
  simp [promoted, activated, told, displaced]

theorem setContainer_footprint {child : WindowId} {container : Option WindowId}
    (done : (t.setContainer child container).answer = .ok ()) :
    ∃ w, t.get? child = some w ∧
      t.Footprint (t.setContainer child container).state
        (child :: (w.container.toList ++ container.toList))
        (relocated w.container container child) := by
  obtain ⟨w, free⟩ := setContainer_answer_eq_ok_iff.mp done
  obtain ⟨named, -, -⟩ := linkable_eq_ok_iff.mp free
  refine ⟨w, named, ?_⟩
  rw [setContainer_of_linkable free]
  refine .of_view (outline_relink child container w) (fun j => ?_)
    fun j x apart => relocated_of_apart apart x
  rw [get?_relink]
  -- The window that moves is the one whose container was read before anything was written.
  refine Option.map_congr fun x there => relinked_eq_relocated ?_
  rintro rfl
  cases named.symm.trans there
  rfl

theorem makeActive_footprint {id : WindowId} (done : (t.makeActive id).answer = .ok ()) :
    ∃ w, t.get? id = some w ∧
      t.Footprint (t.makeActive id).state
        (id :: (w.container.toList ++ (w.container.bind t.activeChildOf).toList))
        (promoted w.container (w.container.bind t.activeChildOf) id) := by
  obtain ⟨w, named, alive⟩ := makeActive_answer_eq_ok_iff.mp done
  refine ⟨w, named, ?_⟩
  have activates : (t.makeActive id).state = t.activate id w := by
    rw [makeActive_state, named]
    simp [alive]
  rw [activates]
  refine .of_view (outline_activate id w) (fun j => ?_) fun j x apart => promoted_of_apart apart x
  rw [get?_activate]
  exact Option.map_congr fun x _ => activated_eq_promoted id j w x

/-- A window that is moved, the container that it leaves and the one that it comes to are written
to as `relocated` says, and a window that is activated, its container and the sibling that this
one remembered as `promoted` says. Whatever the hierarchy, nothing else is. -/
theorem link_operations_footprint (t : Hierarchy κ) :
    (∀ child container, (t.setContainer child container).answer = .ok () →
      ∃ w, t.get? child = some w ∧
        t.Footprint (t.setContainer child container).state
          (child :: (w.container.toList ++ container.toList))
          (relocated w.container container child)) ∧
    ∀ id, (t.makeActive id).answer = .ok () →
      ∃ w, t.get? id = some w ∧
        t.Footprint (t.makeActive id).state
          (id :: (w.container.toList ++ (w.container.bind t.activeChildOf).toList))
          (promoted w.container (w.container.bind t.activeChildOf) id) := by
  constructor
  · intro child container done
    exact setContainer_footprint done
  · intro id done
    exact makeActive_footprint done

/-- Four windows. The last two are in the first one, which has the third for its active child. -/
def hosting : List (Op Unit) :=
  [.insert (.create () .standard), .insert (.create () .standard), .insert (.create () .standard),
   .insert (.create () .standard), .setContainer ⟨2, 1⟩ (some ⟨0, 1⟩),
   .setContainer ⟨3, 1⟩ (some ⟨0, 1⟩), .makeActive ⟨2, 1⟩]

/-- The active child moves on to the second window, or its sibling takes its place. -/
theorem link_operations_footprint_hosting :
    let t := empty.run hosting
    let moved := t.setContainer ⟨2, 1⟩ (some ⟨1, 1⟩)
    let chosen := t.makeActive ⟨3, 1⟩
    (moved.answer = .ok () ∧
      t.Footprint moved.state [⟨2, 1⟩, ⟨0, 1⟩, ⟨1, 1⟩]
        (relocated (some ⟨0, 1⟩) (some ⟨1, 1⟩) ⟨2, 1⟩)) ∧
    (chosen.answer = .ok () ∧
      t.Footprint chosen.state [⟨3, 1⟩, ⟨0, 1⟩, ⟨2, 1⟩]
        (promoted (some ⟨0, 1⟩) (some ⟨2, 1⟩) ⟨3, 1⟩)) := by
  intro t moved chosen
  obtain ⟨moves, activates⟩ := link_operations_footprint t
  have done : moved.answer = .ok () := by decide
  have done' : chosen.answer = .ok () := by decide
  obtain ⟨w, named, moving⟩ := moves ⟨2, 1⟩ (some ⟨1, 1⟩) done
  obtain ⟨x, named', choosing⟩ := activates ⟨3, 1⟩ done'
  cases named
  cases named'
  exact ⟨⟨done, moving⟩, done', choosing⟩

end Hierarchy

end WindowPolicy
