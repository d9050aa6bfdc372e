/-
# WindowPolicy.Menu — panels, menus, action modes and shortcuts

* `Menu.add`, `Menu.find?`: items stand in the order in which they were added, and the
  first one with a number is the one that is found.
-/
import WindowPolicy.Input

namespace WindowPolicy

set_option autoImplicit false

/-- A view of the windowing system. -/
structure ViewHandle where
  value : UInt64
deriving DecidableEq, Repr

structure MenuItem where
  id : UInt32
  title : String
  enabled : Bool := true
deriving DecidableEq, Repr

structure Menu where
  items : List MenuItem := []
deriving DecidableEq, Repr

namespace Menu

/-- The menu with one more item at its end. -/
def add (m : Menu) (item : MenuItem) : Menu := ⟨m.items ++ [item]⟩

/-- The first item with a number. -/
def find? (m : Menu) (id : UInt32) : Option MenuItem := m.items.find? fun item => item.id = id

def isEmpty (m : Menu) : Bool := m.items.isEmpty

/-- The menu without items. -/
def cleared (_ : Menu) : Menu := {}

end Menu

/-- How an action mode is presented. -/
inductive ActionModeKind where
  | primary
  | floating
deriving DecidableEq, Repr

def ActionModeKind.all : List ActionModeKind := [primary, floating]

def ActionModeKind.name : ActionModeKind → String
  | primary => "Primary"
  | floating => "Floating"

/-- The kind of an action mode when nothing else is said. -/
def ActionModeKind.standard : ActionModeKind := primary

structure ActionMode where
  id : UInt32
  kind : ActionModeKind
  title : String
deriving DecidableEq, Repr

structure Shortcut where
  label : String
  code : UInt32
  modifiers : Modifiers
deriving DecidableEq, Repr

structure ShortcutGroup where
  label : String
  items : List Shortcut
deriving DecidableEq, Repr

end WindowPolicy
