/-
# WindowPolicy.Proofs.Window.Destroyed — a destroyed window is frozen

Destroying a window ends all changes to it but those of its callback and listeners and of
the child that it remembers as active. The hierarchy writes to windows without asking
them; `Touch` lists what it writes and what it asks before, and `Frozen.touch` says that
none of it reaches what a destroyed window keeps.

A window is followed wherever it goes: on its own, into a hierarchy, out of it and into
the next. `Place` is where it is, `Place.Next` what may happen there.

* `Remains`, `Frozen`: what a destroyed window keeps, and that it kept it;
* `Place.Occupied.next`: the window is somewhere after every step, touched at most;
* `destroyed_frozen`: from the moment it is destroyed a window is frozen and refuses.
-/
import WindowPolicy.Proofs.Hierarchy.Reachable
import WindowPolicy.Proofs.Window.Operation

namespace WindowPolicy

set_option autoImplicit false

variable {κ : Type}

namespace Window

/-- What nothing changes in a destroyed window. -/
structure Remains (κ : Type) where
  features : Negotiation
  layers : Layers
  container : Option WindowId
  hasChildren : Bool
  appToken : Option Token
  appName : String
  hardwareAccelerated : Bool
  manager : Option κ
  decor : Option κ
  closeOnSwipe : Bool
  overlayCaption : Bool
  captionShade : CaptionShade

def remains (w : Window κ) : Remains κ :=
  { features := w.features
    layers := w.layers
    container := w.container
    hasChildren := w.hasChildren
    appToken := w.appToken
    appName := w.appName
    hardwareAccelerated := w.hardwareAccelerated
    manager := w.manager
    decor := w.decor
    closeOnSwipe := w.closeOnSwipe
    overlayCaption := w.overlayCaption
    captionShade := w.captionShade }

/-- A destroyed window stayed destroyed and kept what remains of it. -/
structure Frozen (before after : Window κ) : Prop where
  destroyed : after.destroyed = true
  remains : after.remains = before.remains
  unheard : before.frameListeners = [] → after.frameListeners = []
  inactive : before.isActive = false → after.isActive = false

namespace Frozen

variable {w x y : Window κ}

theorem refl (gone : w.destroyed = true) : Frozen w w where
  destroyed := gone
  remains := rfl
  unheard := id
  inactive := id

theorem trans (first : Frozen w x) (second : Frozen x y) : Frozen w y where
  destroyed := second.destroyed
  remains := second.remains.trans first.remains
  unheard := second.unheard ∘ first.unheard
  inactive := second.inactive ∘ first.inactive

/-- What a window does on its own. -/
theorem step (gone : w.destroyed = true) (op : Op κ) : Frozen w (w.step op).state := by
  rw [step_state]
  cases refusable : op.refusable with
  | true => simpa [gone] using refl gone
  | false =>
      simp only [Bool.and_false, Bool.false_eq_true, if_false]
      cases op with
      | request | requestId | edit | applyTheme | closeOnTouchOutside | closeOnTouchOutsideIfUnset
      | closeOnSwipe | overlayCaption | captionShade | bindTo | decor | addFrameListener =>
          cases refusable
      | destroy => exact ⟨rfl, rfl, fun unheard => by simp [changed, unheard], id⟩
      | removeFrameListener id =>
          exact ⟨gone, rfl, fun unheard => by simp [changed, unheard], fun inactive => inactive⟩
      | _ => exact ⟨gone, rfl, id, id⟩

/-- Nothing that happens to a destroyed window reaches what remains of it. -/
theorem touch (gone : w.destroyed = true) (touch : Hierarchy.Touch w x) : Frozen w x := by
  cases touch with
  | own op => exact step gone op
  | placed alive | asHost alive | activated alive => cases alive.symm.trans gone
  | forgotten | choosing => exact ⟨gone, rfl, id, id⟩
  | deactivated => exact ⟨gone, rfl, id, fun _ => rfl⟩

theorem touched (gone : w.destroyed = true) (path : Hierarchy.Touched w x) : Frozen w x := by
  induction path with
  | refl => exact refl gone
  | tail _ last ih => exact ih.trans (touch ih.destroyed last)

end Frozen

/-- A destroyed window has let go of its frame listeners. -/
def Unheard (w : Window κ) : Prop := w.destroyed = true → w.frameListeners = []

theorem Unheard.destroy {w : Window κ} (unheard : w.Unheard) :
    w.destroy.state.destroyed = true ∧ w.destroy.state.frameListeners = [] := by
  unfold Window.destroy
  split
  · rename_i gone
    exact ⟨gone, unheard gone⟩
  · exact ⟨rfl, rfl⟩

theorem Unheard.touch {w x : Window κ} (unheard : w.Unheard) (touch : Hierarchy.Touch w x) :
    x.Unheard := by
  cases gone : w.destroyed with
  | true => exact fun _ => (Frozen.touch gone touch).unheard (unheard gone)
  | false =>
      intro gone'
      cases touch with
      | own op =>
          rw [step_state] at gone' ⊢
          split at gone'
          · cases gone.symm.trans gone'
          · rename_i accepted
            rw [if_neg accepted]
            cases op with
            | destroy => simp [changed, gone]
            | _ => cases gone.symm.trans gone'
      | placed alive container =>
          rw [Hierarchy.placed_destroyed] at gone'
          cases gone.symm.trans gone'
      | _ => cases gone.symm.trans gone'

/-- It holds of every window that is held. -/
theorem unheard_of_reachable {held : Held κ} (reached : Reachable held) : held.All Unheard :=
  reached.all (fun _ _ gone => by cases gone) Unheard.touch

end Window

/-! ## Where a window is -/

/-- A window, wherever it is. -/
inductive Place (κ : Type) where
  | alone (w : Window κ)
  /-- In a hierarchy, under an id. -/
  | within (t : Hierarchy κ) (id : WindowId)

namespace Place

def window? : Place κ → Option (Window κ)
  | alone w => some w
  | within t id => t.get? id

/-- What may happen next, to the window or around it. -/
inductive Next : Place κ → Place κ → Prop
  | own (w : Window κ) (op : Window.Op κ) : Next (alone w) (alone (w.step op).state)
  /-- It is taken into some hierarchy. -/
  | enters {t : Hierarchy κ} (held : Reachable (.hierarchy t)) (w : Window κ) :
      Next (alone w) (within (t.insert w).2 (t.insert w).1)
  /-- Any operation on the hierarchy but the one that takes the window out. -/
  | acts (t : Hierarchy κ) (id : WindowId) {op : Hierarchy.Op κ} (stays : op ≠ .remove id) :
      Next (within t id) (within (t.step op).state id)
  | leaves {t : Hierarchy κ} {id : WindowId} {w : Window κ} (gone : (t.remove id).1 = some w) :
      Next (within t id) (alone w)

/-- What may happen later, after any number of steps. -/
abbrev Later : Place κ → Place κ → Prop := Relation.ReflTransGen Next

/-- The window is held, and is where the place says. -/
def Reached : Place κ → Prop
  | alone w => Reachable (.window w)
  | within t id => Reachable (.hierarchy t) ∧ t.isAlive id = true

/-- The window is destroyed: on its own, through the hierarchy, or where it stands in it. -/
inductive Destroys : Place κ → Place κ → Prop
  | alone (w : Window κ) : Destroys (alone w) (alone w.destroy.state)
  | within (t : Hierarchy κ) (id : WindowId) :
      Destroys (within t id) (within (t.destroy id).state id)
  | inPlace (t : Hierarchy κ) (id : WindowId) :
      Destroys (within t id) (within (t.step (.window id .destroy)).state id)

/-- The place has a window, and its hierarchy is tidy. -/
inductive Occupied : Place κ → Window κ → Prop
  | alone (w : Window κ) : Occupied (alone w) w
  | within {t : Hierarchy κ} (tidy : t.Tidy) {id : WindowId} {w : Window κ}
      (named : t.get? id = some w) : Occupied (within t id) w

theorem Occupied.window? {place : Place κ} {w : Window κ} (occupied : place.Occupied w) :
    place.window? = some w := by
  cases occupied with
  | alone => rfl
  | within _ named => exact named

/-- Whatever happens, the window is somewhere, and was touched at most. -/
theorem Occupied.next {place later : Place κ} {w : Window κ} (occupied : place.Occupied w)
    (next : place.Next later) : ∃ x, later.Occupied x ∧ Hierarchy.Touched w x := by
  cases next with
  | own w op =>
      cases occupied
      exact ⟨_, .alone _, .single (.own w op)⟩
  | @enters t held w =>
      cases occupied
      refine ⟨w, .within (held.tidy.insert w) ?_, .refl⟩
      rw [held.tidy.get?_insert, if_pos rfl]
  | acts t id stays =>
      cases occupied with
      | within tidy named =>
          obtain ⟨x, after, touched⟩ := Hierarchy.get?_survives tidy named stays
          exact ⟨x, .within (tidy.step _) after, touched⟩
  | leaves gone =>
      cases occupied with
      | within tidy named =>
          rw [Hierarchy.remove_answer, named] at gone
          cases gone
          exact ⟨w, .alone w, .refl⟩

theorem Occupied.later {place later : Place κ} {w : Window κ} (occupied : place.Occupied w)
    (path : place.Later later) : ∃ x, later.Occupied x ∧ Hierarchy.Touched w x := by
  induction path with
  | refl => exact ⟨w, occupied, .refl⟩
  | tail _ last ih =>
      obtain ⟨x, there, touched⟩ := ih
      obtain ⟨y, now, touched'⟩ := there.next last
      exact ⟨y, now, touched.trans touched'⟩

/-- A window that is held and destroyed has let go of its frame listeners. -/
theorem Destroys.occupied {place ended : Place κ} (reached : place.Reached)
    (destroys : place.Destroys ended) :
    ∃ w, ended.Occupied w ∧ w.destroyed = true ∧ w.frameListeners = [] := by
  have changes {t : Hierarchy κ} {id : WindowId} (reached : Reachable (.hierarchy t))
      (alive : t.isAlive id = true) :
      ∃ w, (t.modify id fun w => w.destroy.state).get? id = some w ∧
        w.destroyed = true ∧ w.frameListeners = [] := by
    obtain ⟨w, named⟩ := Option.isSome_iff_exists.mp alive
    have unheard := Window.unheard_of_reachable reached id w named
    exact ⟨w.destroy.state, Hierarchy.get?_modify_self named _, unheard.destroy⟩
  cases destroys with
  | alone w => exact ⟨w.destroy.state, .alone _, (Window.unheard_of_reachable reached).destroy⟩
  | within t id =>
      obtain ⟨w, named, gone⟩ := changes reached.1 reached.2
      rw [← Hierarchy.destroy_state] at named
      exact ⟨w, .within (reached.1.tidy.step (.destroy id)) named, gone⟩
  | inPlace t id =>
      obtain ⟨w, named, gone⟩ := changes reached.1 reached.2
      refine ⟨w, .within (reached.1.tidy.step _) ?_, gone⟩
      rw [Hierarchy.window_state]
      exact named

end Place

/-! ## What a destroyed window answers -/

/-- The step was refused because a window is destroyed, and left no trace. -/
structure Step.Barred {S A : Type} (s : Step κ S (Except Refusal A)) (before : S) : Prop where
  answer : s.answer = .error .destroyed
  traceless : s.Traceless before

namespace Place

/-- Everything that can be refused of a window, where it is, is refused. -/
def Refuses : Place κ → Prop
  | alone w => ∀ op : Window.Op κ, op.refusable = true → (w.step op).Barred w
  | within t id =>
      (∀ op : Window.Op κ, op.refusable = true →
        ∃ step, t.update? id (·.step op) = some step ∧ step.Barred t) ∧
      (∀ container, (t.setContainer id container).Barred t) ∧
      (t.makeActive id).Barred t ∧
      ∀ attributes attached, (t.addWindow id attributes attached).Barred t

theorem Occupied.refuses {place : Place κ} {w : Window κ} (occupied : place.Occupied w)
    (gone : w.destroyed = true) : place.Refuses := by
  cases occupied with
  | alone =>
      intro op refusable
      rw [Window.step_of_destroyed gone refusable]
      exact ⟨rfl, rfl, rfl⟩
  | @within t tidy id _ named =>
      have live : t.live id = .ok w := by simp [Hierarchy.live, named]
      refine ⟨fun op refusable => ?_, fun container => ?_, ?_, fun attributes attached => ?_⟩
      · refine ⟨_, Hierarchy.update?_of_get? named _, ?_⟩
        rw [Window.step_of_destroyed gone refusable]
        refine ⟨rfl, Hierarchy.modify_eq_self fun x found => ?_, rfl⟩
        cases named.symm.trans found
        rw [Window.step_of_destroyed gone refusable]
      · have refused : t.linkable id container = .error .destroyed := by
          rw [Hierarchy.linkable_eq, named]
          exact if_pos gone
        rw [Hierarchy.setContainer_of_refused refused]
        exact ⟨rfl, rfl, rfl⟩
      · simp only [Hierarchy.makeActive, live, gone, if_true]
        exact ⟨rfl, rfl, rfl⟩
      · simp only [Hierarchy.addWindow, live, gone, if_true]
        exact ⟨rfl, rfl, rfl⟩

end Place

/-- From the moment it is destroyed, wherever it goes, a window keeps what remains of it, has
no frame listeners, does not become active, and refuses. -/
theorem destroyed_frozen {place ended middle later : Place κ} (reached : place.Reached)
    (destroys : place.Destroys ended) (path : ended.Later middle) (path' : middle.Later later) :
    ∃ w x, middle.window? = some w ∧ later.window? = some x ∧
      w.Frozen x ∧ x.frameListeners = [] ∧ later.Refuses := by
  obtain ⟨v, occupied, gone, unheard⟩ := destroys.occupied reached
  obtain ⟨w, there, touched⟩ := occupied.later path
  obtain ⟨x, now, touched'⟩ := there.later path'
  have first := Window.Frozen.touched gone touched
  have second := Window.Frozen.touched first.destroyed touched'
  exact ⟨w, x, there.window?, now.window?, second, second.unheard (first.unheard unheard),
    now.refuses second.destroyed⟩

/-- A window in a container, which is active there. -/
def sheltering : List (Hierarchy.Op Unit) :=
  [.insert (.create () ∅), .insert (.create () ∅), .setContainer ⟨1, 1⟩ (some ⟨0, 1⟩),
   .makeActive ⟨1, 1⟩]

/-- The contained window is destroyed; the container is made to let it go, in vain, and is
taken out, and then the window itself. -/
theorem destroyed_frozen_sheltering :
    let t := (Hierarchy.empty : Hierarchy Unit).run sheltering
    let rest := (t.destroy ⟨1, 1⟩).state
    let orphaned := rest.run [.setContainer ⟨1, 1⟩ none, .remove ⟨0, 1⟩]
    ∃ last, (orphaned.remove ⟨1, 1⟩).1 = some last ∧
      ∃ w x, (Place.within rest ⟨1, 1⟩).window? = some w ∧ (Place.alone last).window? = some x ∧
        w.Frozen x ∧ x.container = some ⟨0, 1⟩ ∧ x.frameListeners = [] ∧
        (Place.alone last).Refuses := by
  intro t rest orphaned
  have reached : (Place.within t ⟨1, 1⟩).Reached := by
    refine ⟨Reachable.empty.run fun w taken => ?_, rfl⟩
    simp only [sheltering, List.mem_cons, Hierarchy.Op.insert.injEq, reduceCtorEq, List.not_mem_nil,
      or_false, or_self] at taken
    rw [taken]
    exact .created () ∅
  have acts : (Place.within rest ⟨1, 1⟩).Later (.within orphaned ⟨1, 1⟩) :=
    .tail (.single (.acts rest ⟨1, 1⟩ (by decide))) (.acts _ ⟨1, 1⟩ (by decide))
  obtain ⟨last, gone⟩ : ∃ last, (orphaned.remove ⟨1, 1⟩).1 = some last := ⟨_, rfl⟩
  obtain ⟨w, x, before, after, frozen, unheard, refuses⟩ :=
    destroyed_frozen reached (.within t ⟨1, 1⟩) .refl (.tail acts (.leaves gone))
  refine ⟨last, gone, w, x, before, after, frozen, ?_, unheard, refuses⟩
  have kept := congrArg Window.Remains.container frozen.remains
  have inside : (rest.get? ⟨1, 1⟩).map (·.container) = some (some ⟨0, 1⟩) := rfl
  change rest.get? ⟨1, 1⟩ = some w at before
  rw [before] at inside
  exact kept.trans (Option.some.inj inside)

end WindowPolicy
