/-
# WindowPolicy.Proofs.Hierarchy.Coherence — the two ends of a link agree

That a window is the active one of its container is kept three times: the container names
it as its active child, and it names the container and knows that it is active. A
hierarchy is *coherent* when the three always agree where both windows are there, and when
no window is its own container.

One lemma for each kind of operation says that coherence survives it. Taking in needs more
than coherence: the id given out must not be one that a window still names as a container
that has gone. An id that is named was given out (`container_mem_issued`), and no id is
given out twice.

* `Coherent`: the invariant, and `ActiveLinksAgree`, the part of it about active children;
* `Coherent.insert`, `remove`, `change`: what operations do to it;
* `coherent_run`, `active_links_agree`: every history of new windows leaves the hierarchy
  coherent, with one active child at most in each container.
-/
import WindowPolicy.Proofs.Hierarchy.Holders

namespace WindowPolicy

set_option autoImplicit false

namespace Window

variable {κ : Type}

/-- The window was created, went through operations of its own, and was never taken in. -/
def IsNew (w : Window κ) : Prop :=
  ∃ context defaults history, w = (create context defaults).run history

theorem IsNew.links {w : Window κ} (new : w.IsNew) :
    w.links =
      { container := none, activeChild := none, isActive := false, hasChildren := false } := by
  obtain ⟨context, defaults, history, rfl⟩ := new
  rw [links_run]
  rfl

theorem IsNew.container {w : Window κ} (new : w.IsNew) : w.container = none :=
  congrArg Links.container new.links

theorem IsNew.activeChild {w : Window κ} (new : w.IsNew) : w.activeChild = none :=
  congrArg Links.activeChild new.links

end Window

namespace Hierarchy

variable {κ : Type} {t : Hierarchy κ}

/-- The links of the windows that are there agree. -/
structure Coherent (t : Hierarchy κ) : Prop where
  /-- A window is the active child of the container in which it is active, and of no other. -/
  active_iff : ∀ {h c : WindowId} {host child : Window κ},
    t.get? h = some host → t.get? c = some child →
      (host.activeChild = some c ↔ child.container = some h ∧ child.isActive = true)
  /-- An active child is there. -/
  active_alive : ∀ {h c : WindowId} {host : Window κ},
    t.get? h = some host → host.activeChild = some c → ∃ child, t.get? c = some child
  /-- A container is another window and knows that it has children. -/
  hosted : ∀ {h c : WindowId} {host child : Window κ},
    t.get? h = some host → t.get? c = some child → child.container = some h →
      h ≠ c ∧ host.hasChildren = true

/-- Containers and their active children name each other. It is the part of coherence that does
not ask what a container knows of its other children. -/
structure ActiveLinksAgree (t : Hierarchy κ) : Prop where
  active_iff : ∀ {h c : WindowId} {host child : Window κ},
    t.get? h = some host → t.get? c = some child →
      (host.activeChild = some c ↔ child.container = some h ∧ child.isActive = true)
  /-- An active child is there, and inside. -/
  active_within : ∀ {h c : WindowId} {host : Window κ},
    t.get? h = some host → host.activeChild = some c →
      ∃ child, t.get? c = some child ∧ child.container = some h

/-- `c` names a window that is active in `h`. -/
def ActiveIn (t : Hierarchy κ) (h c : WindowId) : Prop :=
  ∃ child, t.get? c = some child ∧ child.container = some h ∧ child.isActive = true

namespace Coherent

/-- A container that is there has one active child at most. -/
theorem active_unique (coherent : t.Coherent) {h c c' : WindowId} {host : Window κ}
    (hosting : t.get? h = some host) (active : t.ActiveIn h c) (active' : t.ActiveIn h c') :
    c = c' := by
  obtain ⟨child, named, first⟩ := active
  obtain ⟨child', named', second⟩ := active'
  have chosen := (coherent.active_iff hosting named).mpr first
  have chosen' := (coherent.active_iff hosting named').mpr second
  exact Option.some.inj (chosen.symm.trans chosen')

theorem empty : (empty : Hierarchy κ).Coherent := by
  have unnamed (j : WindowId) : (Hierarchy.empty : Hierarchy κ).get? j = none := rfl
  constructor <;> simp [unnamed]

theorem activeLinksAgree (coherent : t.Coherent) : t.ActiveLinksAgree where
  active_iff := coherent.active_iff
  active_within hosting active := by
    obtain ⟨child, named⟩ := coherent.active_alive hosting active
    exact ⟨child, named, ((coherent.active_iff hosting named).mp active).1⟩

/-! ## Operations on links -/

/-- No window has its active child under an id that is yet to be given out. -/
theorem activeChild_ne_new (coherent : t.Coherent) (tidy : t.Tidy) {w : Window κ} {h : WindowId}
    {host : Window κ} (hosting : t.get? h = some host) :
    host.activeChild ≠ some (t.insert w).1 := by
  intro active
  obtain ⟨child, named⟩ := coherent.active_alive hosting active
  cases (tidy.get?_nextId w).symm.trans named

/-- A window without an active child, which is active in no container that is there, may be taken
in under an id that no window names. -/
theorem activeLinksAgree_insert (coherent : t.Coherent) (tidy : t.Tidy) {w : Window κ}
    (unnamed : ∀ {j x}, (t.insert w).2.get? j = some x → x.container ≠ some (t.insert w).1)
    (childless : w.activeChild = none)
    (unclaimed : ¬∃ h, w.container = some h ∧ w.isActive = true ∧ t.isAlive h = true) :
    (t.insert w).2.ActiveLinksAgree where
  active_iff {h c host child} hosting named := by
    have outside := unnamed named
    rcases tidy.get?_insert_eq_some_iff.mp hosting with ⟨rfl, rfl⟩ | hosting_before
    · simp [childless, outside]
    rcases tidy.get?_insert_eq_some_iff.mp named with ⟨rfl, rfl⟩ | named_before
    · refine iff_of_false (coherent.activeChild_ne_new tidy hosting_before) ?_
      rintro ⟨inside, active⟩
      exact unclaimed ⟨h, inside, active, by simp [isAlive, hosting_before]⟩
    · exact coherent.active_iff hosting_before named_before
  active_within {h c host} hosting active := by
    rcases tidy.get?_insert_eq_some_iff.mp hosting with ⟨rfl, rfl⟩ | hosting_before
    · cases childless.symm.trans active
    · obtain ⟨child, named, inside⟩ := coherent.activeLinksAgree.active_within hosting_before active
      exact ⟨child, tidy.get?_insert_eq_some_iff.mpr (Or.inr named), inside⟩

/-- A window that has no links yet may be taken in under an id that no window names. -/
theorem insert (coherent : t.Coherent) (tidy : t.Tidy) {w : Window κ}
    (outside : w.container = none) (childless : w.activeChild = none)
    (unnamed : ∀ {j x}, t.get? j = some x → x.container ≠ some (t.insert w).1) :
    (t.insert w).2.Coherent := by
  have still_unnamed {j : WindowId} {x : Window κ} (named : (t.insert w).2.get? j = some x) :
      x.container ≠ some (t.insert w).1 := by
    rcases tidy.get?_insert_eq_some_iff.mp named with ⟨-, rfl⟩ | named_before
    · simp [outside]
    · exact unnamed named_before
  have agree := coherent.activeLinksAgree_insert tidy still_unnamed childless (by simp [outside])
  refine ⟨agree.active_iff, fun {h c host} hosting active => ?_,
    fun {h c host child} hosting named inside => ?_⟩
  · obtain ⟨child, named, -⟩ := agree.active_within hosting active
    exact ⟨child, named⟩
  · rcases tidy.get?_insert_eq_some_iff.mp named with ⟨rfl, rfl⟩ | named_before
    · cases outside.symm.trans inside
    rcases tidy.get?_insert_eq_some_iff.mp hosting with ⟨rfl, rfl⟩ | hosting_before
    · exact absurd inside (unnamed named_before)
    · exact coherent.hosted hosting_before named_before inside

theorem remove (coherent : t.Coherent) (id : WindowId) : (t.remove id).2.Coherent := by
  cases gone : t.get? id with
  | none =>
      rw [remove_of_none gone]
      exact coherent
  | some w =>
      have before {j : WindowId} {x : Window κ} (after : (t.remove id).2.get? j = some x) :
          j ≠ id ∧ ∃ y, t.get? j = some y ∧ forgotten w.container id j y = x := by
        rw [get?_remove gone] at after
        split at after
        · cases after
        · rename_i other
          exact ⟨other, Option.map_eq_some_iff.mp after⟩
      refine ⟨fun after after' => ?_, fun {h c _} after active => ?_, fun after after' inside => ?_⟩
      · obtain ⟨-, host, hosting, rfl⟩ := before after
        obtain ⟨other, child, named, rfl⟩ := before after'
        simp [forgotten_activeChild_eq_some, other, coherent.active_iff hosting named]
      · obtain ⟨-, host, hosting, rfl⟩ := before after
        obtain ⟨named_before, stays⟩ := (forgotten_activeChild_eq_some ..).mp active
        obtain ⟨child, named⟩ := coherent.active_alive hosting named_before
        -- The container of the window that left was the only one that could name it.
        have other : c ≠ id := by
          rintro rfl
          cases gone.symm.trans named
          exact stays ⟨((coherent.active_iff hosting named).mp named_before).1, rfl⟩
        exact ⟨forgotten w.container id c child, by simp [get?_remove gone, other, named]⟩
      · obtain ⟨-, host, hosting, rfl⟩ := before after
        obtain ⟨-, child, named, rfl⟩ := before after'
        rw [forgotten_container] at inside
        rw [forgotten_hasChildren]
        exact coherent.hosted hosting named inside

theorem relink (coherent : t.Coherent) {child : WindowId} {container : Option WindowId}
    {w : Window κ} (moving : t.get? child = some w) (other : container ≠ some child) :
    (t.relink child container w).Coherent := by
  have before {j : WindowId} {x : Window κ}
      (after : (t.relink child container w).get? j = some x) :
      ∃ y, t.get? j = some y ∧ relinked w.container container child j y = x :=
    Option.map_eq_some_iff.mp ((get?_relink child container w j).symm.trans after)
  refine ⟨fun {h c _ _} after after' => ?_, fun {h c _} after active => ?_,
    fun {h c _ _} after after' inside => ?_⟩
  · obtain ⟨host, hosting, rfl⟩ := before after
    obtain ⟨x, named, rfl⟩ := before after'
    rw [relinked_activeChild_eq_some, coherent.active_iff hosting named, relinked_container,
      relinked_isActive]
    by_cases moved : c = child
    · cases moving.symm.trans (moved ▸ named)
      -- It stays active only when the container it is put into is the one it was in.
      by_cases same : w.container = container
      · simp only [moved, same, if_true, and_true, ne_eq, not_true, false_and, not_false_iff,
          Bool.and_eq_true, decide_eq_true_eq]
        grind
      · simp only [moved, same, if_true, and_true, ne_eq, not_false_iff, true_and, and_false,
          decide_false, Bool.and_false, Bool.false_eq_true, iff_false]
        grind
    · simp [moved]
  · obtain ⟨host, hosting, rfl⟩ := before after
    obtain ⟨named_before, -⟩ := (relinked_activeChild_eq_some ..).mp active
    obtain ⟨x, named⟩ := coherent.active_alive hosting named_before
    exact ⟨relinked w.container container child c x, by rw [get?_relink, named]; rfl⟩
  · obtain ⟨host, hosting, rfl⟩ := before after
    obtain ⟨x, named, rfl⟩ := before after'
    rw [relinked_container] at inside
    rw [relinked_hasChildren]
    split at inside
    · rename_i moved
      refine ⟨?_, by simp [inside]⟩
      rintro rfl
      exact other (inside.trans (congrArg some moved))
    · obtain ⟨distinct, parent⟩ := coherent.hosted hosting named inside
      exact ⟨distinct, by simp [parent]⟩

theorem displaced?_eq_some {id s : WindowId} {w : Window κ} :
    t.displaced? id w = some s ↔
      ∃ h host, w.container = some h ∧ t.get? h = some host ∧
        host.activeChild = some s ∧ s ≠ id := by
  simp only [displaced?, Option.filter_eq_some_iff, Option.bind_eq_some_iff, decide_eq_true_eq]
  grind

theorem activate (coherent : t.Coherent) {id : WindowId} {w : Window κ}
    (chosen : t.get? id = some w) : (t.activate id w).Coherent := by
  have before {j : WindowId} {x : Window κ} (after : (t.activate id w).get? j = some x) :
      ∃ y, t.get? j = some y ∧ activated w.container (t.displaced? id w) id j y = x :=
    Option.map_eq_some_iff.mp ((get?_activate id w j).symm.trans after)
  have alive {c : WindowId} {child : Window κ} (named : t.get? c = some child) :
      ∃ x, (t.activate id w).get? c = some x :=
    ⟨activated w.container (t.displaced? id w) id c child, by rw [get?_activate, named]; rfl⟩
  refine ⟨fun {h c _ _} after after' => ?_, fun {h c _} after active => ?_,
    fun after after' inside => ?_⟩
  · obtain ⟨host, hosting, rfl⟩ := before after
    obtain ⟨child, named, rfl⟩ := before after'
    have agree := coherent.active_iff hosting named
    rw [activated_activeChild, activated_container, activated_isActive]
    by_cases self : c = id
    · -- The window itself becomes the active child of its container.
      cases chosen.symm.trans (self ▸ named)
      by_cases inside : w.container = some h
      · simp [self, inside]
      · simp [self, inside] at agree ⊢
        exact agree
    · by_cases here : w.container = some h
      · -- A sibling is active no more: if it was active, it is the one displaced.
        have displaced : child.container = some h ∧ child.isActive = true →
            t.displaced? id w = some c := fun inside =>
          displaced?_eq_some.mpr ⟨h, host, here, hosting, agree.mpr inside, self⟩
        simp only [here, self, if_true, if_false, Option.some.injEq, Ne.symm self, false_iff]
        grind
      · -- A child of another container is not displaced.
        have elsewhere : t.displaced? id w = some c → child.container ≠ some h := by
          intro displaced
          obtain ⟨h', host', there, hosting', active, -⟩ := displaced?_eq_some.mp displaced
          obtain ⟨inside, -⟩ := (coherent.active_iff hosting' named).mp active
          rw [inside, ← there]
          exact here
        simp only [here, self, if_false]
        grind
  · obtain ⟨host, hosting, rfl⟩ := before after
    rw [activated_activeChild] at active
    split at active
    · cases active
      exact alive chosen
    · obtain ⟨child, named⟩ := coherent.active_alive hosting active
      exact alive named
  · obtain ⟨host, hosting, rfl⟩ := before after
    obtain ⟨child, named, rfl⟩ := before after'
    rw [activated_container] at inside
    rw [activated_hasChildren]
    exact coherent.hosted hosting named inside

/-! ## Operations that leave links alone -/

/-- Coherence is a matter of links alone. -/
theorem of_links (coherent : t.Coherent) {t' : Hierarchy κ}
    (same : ∀ j, (t'.get? j).map Window.links = (t.get? j).map Window.links) : t'.Coherent := by
  have before {j : WindowId} {x : Window κ} (after : t'.get? j = some x) :
      ∃ y, t.get? j = some y ∧ y.links = x.links := by
    have linked := (same j).symm
    rw [after] at linked
    exact Option.map_eq_some_iff.mp linked
  have alive {j : WindowId} {y : Window κ} (named : t.get? j = some y) :
      ∃ x, t'.get? j = some x := by
    have linked := same j
    rw [named] at linked
    obtain ⟨x, after, -⟩ := Option.map_eq_some_iff.mp linked
    exact ⟨x, after⟩
  refine ⟨fun after after' => ?_, fun after active => ?_, fun after after' inside => ?_⟩
  · obtain ⟨host, hosting, linked⟩ := before after
    obtain ⟨child, named, linked'⟩ := before after'
    obtain ⟨-, activeChild, -, -⟩ := Window.Links.mk.inj linked
    obtain ⟨container, -, isActive, -⟩ := Window.Links.mk.inj linked'
    rw [← activeChild, ← container, ← isActive]
    exact coherent.active_iff hosting named
  · obtain ⟨host, hosting, linked⟩ := before after
    obtain ⟨child, named⟩ :=
      coherent.active_alive hosting ((congrArg Window.Links.activeChild linked).trans active)
    exact alive named
  · obtain ⟨host, hosting, linked⟩ := before after
    obtain ⟨child, named, linked'⟩ := before after'
    obtain ⟨-, -, -, hasChildren⟩ := Window.Links.mk.inj linked
    obtain ⟨container, -, -, -⟩ := Window.Links.mk.inj linked'
    rw [← hasChildren]
    exact coherent.hosted hosting named (container.trans inside)

/-- What a window does on its own is no matter of links. -/
theorem modify (coherent : t.Coherent) (id : WindowId) {change : Window κ → Window κ}
    (kept : ∀ w, (change w).links = w.links) : (t.modify id change).Coherent := by
  refine coherent.of_links fun j => ?_
  rw [get?_modify, Option.map_map]
  congr 1
  funext w
  simp only [Function.comp_apply, apply_ite Window.links, kept, ite_self]

/-! ## One operation -/

theorem change (coherent : t.Coherent) {t' : Hierarchy κ} (change : t.Change t') : t'.Coherent := by
  cases change with
  | none => exact coherent
  | @linked child container w free =>
      obtain ⟨moving, -, ends⟩ := linkable_eq_ok_iff.mp free
      refine coherent.relink moving ?_
      intro inside
      exact (ends child inside).1 rfl
  | activated chosen => exact coherent.activate chosen
  | own id op => exact coherent.modify id fun w => Window.links_step op

end Coherent

/-! ## Histories -/

/-- New windows name no container of another hierarchy, since they name none. -/
theorem native_of_new {ops : List (Op κ)} (new : ∀ w, .insert w ∈ ops → w.IsNew) : Native ops := by
  rintro before w after rfl host inside
  cases (new w (by simp)).container.symm.trans inside

/-- A container that a window names was given out as an id, though it may be gone. -/
theorem container_mem_issued {ops : List (Op κ)} (new : ∀ w, .insert w ∈ ops → w.IsNew)
    {h j : WindowId} {x : Window κ} (named : (empty.run ops).get? j = some x)
    (inside : x.container = some h) : h ∈ empty.issued ops :=
  holder_mem_issued (native_of_new new) (holderOf_eq_some_iff.mpr ⟨x, named, inside⟩)

/-- A history of new windows keeps the links in agreement while no slot is filled `UInt32.size`
times: until then every id is given out once. -/
theorem coherent_run {ops : List (Op κ)} (new : ∀ w, .insert w ∈ ops → w.IsNew)
    (sparse : ∀ slot, empty.fills ops slot < UInt32.size) : (empty.run ops).Coherent := by
  induction ops using List.reverseRecOn with
  | nil => exact Coherent.empty
  | append_singleton ops op ih =>
      have coherent := ih (fun w taken => new w (List.mem_append_left [op] taken))
        (fills_lt_of_append sparse)
      rw [run_snoc]
      rcases op.kinds with ⟨w, rfl⟩ | ⟨id, rfl⟩ | internal
      · have links := new w (by simp)
        refine coherent.insert (tidy_run ops) links.container links.activeChild ?_
        intro j x named inside
        -- An id that is still named was given out, and is not given out again.
        have given := container_mem_issued (fun w taken => new w (List.mem_append_left _ taken))
          named inside
        exact insert_not_mem_issued sparse given
      · exact coherent.remove id
      · exact coherent.change internal.change

/-- After every history of new windows the two ends of each link agree, and a container that
is there has one active child at most. -/
theorem active_links_agree {ops : List (Op κ)} (new : ∀ w, .insert w ∈ ops → w.IsNew)
    (sparse : ∀ slot, empty.fills ops slot < UInt32.size) :
    (empty.run ops).Coherent ∧
      ∀ h c c' host, (empty.run ops).get? h = some host →
        (empty.run ops).ActiveIn h c → (empty.run ops).ActiveIn h c' → c = c' := by
  have coherent := coherent_run new sparse
  exact ⟨coherent, fun _ _ _ _ hosting => coherent.active_unique hosting⟩

/-- Two children of one container; the second is activated in place of the first, which is
taken out, and its slot is used again. -/
def succession : List (Op Unit) :=
  [.insert (.create () ∅), .insert (.create () ∅), .insert (.create () ∅),
   .setContainer ⟨1, 1⟩ (some ⟨0, 1⟩), .setContainer ⟨2, 1⟩ (some ⟨0, 1⟩),
   .makeActive ⟨1, 1⟩, .makeActive ⟨2, 1⟩, .remove ⟨1, 1⟩, .insert (.create () ∅)]

theorem active_links_agree_succession :
    ((∀ w, .insert w ∈ succession → w.IsNew) ∧ ∀ slot, empty.fills succession slot < UInt32.size) ∧
      (empty.run succession).Coherent ∧
      (∀ c, (empty.run succession).ActiveIn ⟨0, 1⟩ c → c = ⟨2, 1⟩) ∧
      (empty.run succession).ActiveIn ⟨0, 1⟩ ⟨2, 1⟩ := by
  have new : ∀ w, .insert w ∈ succession → w.IsNew := by
    intro w taken
    simp only [succession, List.mem_cons, Op.insert.injEq, reduceCtorEq, List.not_mem_nil, or_false,
      false_or, or_self] at taken
    exact ⟨(), ∅, [], taken⟩
  have sparse : ∀ slot, empty.fills succession slot < UInt32.size := fun slot =>
    Nat.lt_of_le_of_lt (fills_le_length succession slot) (by decide)
  obtain ⟨coherent, unique⟩ := active_links_agree new sparse
  have second : (empty.run succession).ActiveIn ⟨0, 1⟩ ⟨2, 1⟩ := ⟨_, rfl, rfl, rfl⟩
  refine ⟨⟨new, sparse⟩, coherent, fun c active => ?_, second⟩
  exact unique ⟨0, 1⟩ c ⟨2, 1⟩ _ rfl active second

end Hierarchy

end WindowPolicy
