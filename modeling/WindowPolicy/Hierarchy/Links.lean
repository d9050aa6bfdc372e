/-
# WindowPolicy.Hierarchy.Links — containers and active children

A window may have a container, and a container remembers which of its children was
activated last. Both ends of a link are kept here: the child's `container` and `isActive`,
the container's `hasChildren` and `activeChild`.

A contained window shows no title: the feature is forced and pinned while the link is
there, and no more than unpinned when it goes.

* `Hierarchy.setContainer`: puts a window into another one, or takes it out;
* `Hierarchy.makeActive`: activates a window and deactivates its sibling;
* `Hierarchy.destroy`: destroys a window where it stands.
-/
import WindowPolicy.Hierarchy.Basic

namespace WindowPolicy.Hierarchy

set_option autoImplicit false

variable {κ : Type} (t : Hierarchy κ)

/-- The window that is to change its container, if both ends allow it: they are different
windows of the hierarchy and neither was destroyed. -/
def linkable (child : WindowId) (container : Option WindowId) : Except Refusal (Window κ) := do
  let w ← t.live child
  if w.destroyed then throw .destroyed
  if let some host := container then
    if host = child then throw .selfContainment
    if (← t.live host).destroyed then throw .destroyed
  return w

/-- The child's end of a link to a container. It stays active only if nothing changes. -/
def contain (host : WindowId) (w : Window κ) : Window κ :=
  { w with
    container := some host
    features := w.features.force .noTitle
    isActive := w.isActive && decide (w.container = some host) }

/-- A window without a container. -/
def release (w : Window κ) : Window κ :=
  { w with container := none, features := w.features.unpin .noTitle, isActive := false }

/-- The hierarchy once a link is changed, given the window before. -/
def relink (child : WindowId) (container : Option WindowId) (w : Window κ) : Hierarchy κ :=
  let unlinked := if w.container = container then t else t.forgetActive w.container child
  match container with
  | some host =>
      (unlinked.modify child (contain host)).modify host fun h => { h with hasChildren := true }
  | none => unlinked.modify child release

/-- Puts a window into a container, or takes it out of the one it is in. The last call
wins, and a container that the window leaves forgets it as the active child. -/
def setContainer (child : WindowId) (container : Option WindowId) :
    Step κ (Hierarchy κ) (Except Refusal Unit) :=
  match t.linkable child container with
  | .error refusal => { state := t, answer := .error refusal }
  | .ok w =>
      { state := t.relink child container w
        answer := .ok ()
        notes := [match container with
          | some host => .contained child host
          | none => .madeTopLevel child] }

/-- The child that a window displaces when it becomes the active one of its container. -/
def displaced? (id : WindowId) (w : Window κ) : Option WindowId :=
  ((w.container.bind t.get?).bind (·.activeChild)).filter (· ≠ id)

/-- The hierarchy once a window is active. -/
def activate (id : WindowId) (w : Window κ) : Hierarchy κ :=
  let chosen := match w.container with
    | some host => t.modify host fun h => { h with activeChild := some id }
    | none => t
  let alone := match t.displaced? id w with
    | some sibling => chosen.modify sibling fun s => { s with isActive := false }
    | none => chosen
  alone.modify id fun w => { w with isActive := true }

/-- Makes a window the active child of its container, if it has one, in place of the one
before. A destroyed window cannot be activated. -/
def makeActive (id : WindowId) : Step κ (Hierarchy κ) (Except Refusal Unit) :=
  match t.live id with
  | .error refusal => { state := t, answer := .error refusal }
  | .ok w =>
      if w.destroyed then { state := t, answer := .error .destroyed }
      else
        { state := t.activate id w
          answer := .ok ()
          notes := ((t.displaced? id w).filter t.isAlive).toList.map .deactivated
            ++ [.activated id] }

/-- Destroys a window. The answer says whether it was this call that destroyed it. -/
def destroy (id : WindowId) : Step κ (Hierarchy κ) (Except Refusal Bool) :=
  match t.update? id Window.destroy with
  | some step => step.map .ok
  | none => { state := t, answer := .error (.unknownWindow id) }

end WindowPolicy.Hierarchy
