/-
# WindowPolicy.Attributes.Layers — explicit settings above theme defaults

Next to the attributes themselves a window remembers which of them were set explicitly,
so that a theme applied later fills the others and leaves those alone. Forced flags lie
above both: they appear whenever the attributes are handed out. Themes are resolved elsewhere;
here they are values, each field with what holds when the theme is silent.

* `Theme`: what a theme says about windows;
* `Edit`, `Layers.edit`: the changes that a client makes;
* `Layers.Op`, `Layers.apply`: all changes, those of the window itself among them;
* `Layers.materialize`: the attributes as they are handed out.
-/
import WindowPolicy.Attributes.Basic

namespace WindowPolicy

set_option autoImplicit false

/-- The part of a theme that concerns windows. -/
structure Theme where
  format : PixelFormat := .solid
  /-- Six tenths, to the nearest number of single precision. -/
  dim : Binary32 := ⟨0x3f19999a⟩
  softInput : SoftInput := .unspecified
  closeOnTouchOutside : Bool := false
  floating : Bool := false
deriving DecidableEq

/-- A client's change to the attributes. -/
inductive Edit where
  /-- Everything at once. What counts as set explicitly stays as it was. -/
  | replace (attributes : Attributes)
  | type (code : TypeCode)
  | title (text : String)
  | layout (width height : Extent)
  /-- The flags selected by `mask` are taken from `value`. -/
  | flags (value mask : WindowFlags)
  /-- An unknown format gives the choice back to the default. -/
  | format (format : PixelFormat)
  /-- The format that holds while none is set explicitly. -/
  | defaultFormat (format : PixelFormat)
  /-- The amount is brought between zero and one. -/
  | dim (amount : Binary32)
  /-- A mode without preference gives the choice back to the theme. -/
  | softInput (mode : SoftInput)
deriving DecidableEq

/-- Sets flags. -/
def Edit.addFlags (flags : WindowFlags) : Edit := .flags flags flags

/-- Clears flags. -/
def Edit.clearFlags (flags : WindowFlags) : Edit := .flags ∅ flags

/-- Attributes with the memory of how they came about. -/
structure Layers where
  /-- The attributes without forced flags. -/
  current : Attributes := {}
  /-- The format was set explicitly. -/
  formatSet : Bool := false
  /-- The dim amount was set explicitly. -/
  dimSet : Bool := false
  /-- The soft input mode was set explicitly. -/
  softInputSet : Bool := false
  /-- The format that holds while none is set explicitly. -/
  defaultFormat : PixelFormat := .solid
  /-- Flags that are set whatever the client says. -/
  forced : WindowFlags := ∅
  closeOnTouchOutside : Bool := false
  /-- Whether a touch outside closes the window was set explicitly. -/
  closeSet : Bool := false
deriving DecidableEq

namespace Layers

/-- The attributes as they are handed out, forced flags included. -/
def materialize (l : Layers) : Attributes :=
  { l.current with flags := l.current.flags ∪ l.forced }

/-- A client's change. -/
def edit (l : Layers) : Edit → Layers
  | .replace attributes => { l with current := attributes }
  | .type code => { l with current.type := code }
  | .title text => { l with current.title := text }
  | .layout width height => { l with current.width := width, current.height := height }
  | .flags value mask => { l with current.flags := l.current.flags.overwrite value mask }
  | .format .unknown => { l with current.format := l.defaultFormat, formatSet := false }
  | .format format => { l with current.format := format, formatSet := true }
  | .defaultFormat format =>
      { l with
        defaultFormat := format
        current.format := if l.formatSet then l.current.format else format }
  | .dim amount => { l with current.dim := amount.clampUnit, dimSet := true }
  | .softInput mode =>
      { l with current.softInput := mode, softInputSet := decide (mode ≠ .unspecified) }

/-- Flags are forced for good. -/
def force (l : Layers) (flags : WindowFlags) : Layers := { l with forced := l.forced ∪ flags }

/-- Says whether a touch outside closes the window. -/
def setCloseOnTouchOutside (l : Layers) (close : Bool) : Layers :=
  { l with closeOnTouchOutside := close, closeSet := true }

/-- Says it unless it has been said before. -/
def setCloseOnTouchOutsideIfUnset (l : Layers) (close : Bool) : Layers :=
  if l.closeSet then l else l.setCloseOnTouchOutside close

/-- A theme fills everything that was not set explicitly. -/
def applyTheme (l : Layers) (theme : Theme) : Layers :=
  { l with
    defaultFormat := if l.formatSet then l.defaultFormat else theme.format
    current.format := if l.formatSet then l.current.format else theme.format
    current.dim := if l.dimSet then l.current.dim else theme.dim
    current.softInput := if l.softInputSet then l.current.softInput else theme.softInput
    closeOnTouchOutside :=
      if l.closeSet then l.closeOnTouchOutside else theme.closeOnTouchOutside }

/-- Every change that layered attributes go through. -/
inductive Op where
  | edit (edit : Edit)
  | force (flags : WindowFlags)
  | closeOnTouchOutside (close : Bool)
  | closeOnTouchOutsideIfUnset (close : Bool)
  | theme (theme : Theme)
deriving DecidableEq

/-- One change. -/
def apply (l : Layers) : Op → Layers
  | .edit edit => l.edit edit
  | .force flags => l.force flags
  | .closeOnTouchOutside close => l.setCloseOnTouchOutside close
  | .closeOnTouchOutsideIfUnset close => l.setCloseOnTouchOutsideIfUnset close
  | .theme theme => l.applyTheme theme

/-- Changes from first to last. -/
def run (l : Layers) (ops : List Op) : Layers := ops.foldl apply l

end Layers

end WindowPolicy
