/-
# WindowPolicy.Input — events on their way to a window

Events carry what routing and inspection need. Decoding and delivery lie elsewhere. Where an
event happened is a point, in coordinates of double precision. A rectangle holds its lower edges
and not its upper ones, so that rectangles side by side share no point.
-/
import WindowPolicy.Binary.Basic

namespace WindowPolicy

set_option autoImplicit false

/-- A position on the screen. -/
structure Point where
  x : Binary64
  y : Binary64
deriving DecidableEq, Repr

/-- A rectangle by two corners, in whatever order they were given. -/
structure Rect where
  x0 : Binary64
  y0 : Binary64
  x1 : Binary64
  y1 : Binary64
deriving DecidableEq, Repr

namespace Rect

/-- The rectangle that is only the origin. -/
def zero : Rect := ⟨.zero, .zero, .zero, .zero⟩

/-- The point is not below the first corner and is below the second one, in both
coordinates. -/
def contains (r : Rect) (p : Point) : Bool :=
  r.x0.le p.x && p.x.lt r.x1 && r.y0.le p.y && p.y.lt r.y1

end Rect

/-- The modifier keys that were down. Bits without a meaning are passed on. -/
structure Modifiers where
  bits : UInt8
deriving DecidableEq, Repr

def Modifiers.none : Modifiers := ⟨0⟩

inductive KeyAction where
  | down
  | up
deriving DecidableEq, Repr

def KeyAction.all : List KeyAction := [down, up]

def KeyAction.name : KeyAction → String
  | down => "Down"
  | up => "Up"

structure KeyEvent where
  code : UInt32
  action : KeyAction
  modifiers : Modifiers := .none
  repeatCount : UInt32 := 0
  device : Int32 := 0
deriving DecidableEq, Repr

inductive MotionAction where
  | down
  | move
  | up
  | cancel
  /-- A touch outside the window. -/
  | outside
  | hoverMove
  | scroll
deriving DecidableEq, Repr

def MotionAction.all : List MotionAction := [down, move, up, cancel, outside, hoverMove, scroll]

def MotionAction.name : MotionAction → String
  | down => "Down"
  | move => "Move"
  | up => "Up"
  | cancel => "Cancel"
  | outside => "Outside"
  | hoverMove => "HoverMove"
  | scroll => "Scroll"

inductive InputSource where
  | touchscreen
  | mouse
  | trackball
  | touchpad
  | joystick
deriving DecidableEq, Repr

def InputSource.all : List InputSource := [touchscreen, mouse, trackball, touchpad, joystick]

def InputSource.name : InputSource → String
  | touchscreen => "Touchscreen"
  | mouse => "Mouse"
  | trackball => "Trackball"
  | touchpad => "Touchpad"
  | joystick => "Joystick"

structure MotionEvent where
  action : MotionAction
  position : Point
  source : InputSource := .touchscreen
  pointer : UInt32 := 0
deriving DecidableEq, Repr

/-- An event that accessibility services announce; handlers add to its text. -/
structure AccessibilityEvent where
  type : UInt32 := 0
  text : List String := []
deriving DecidableEq, Repr

/-- A request for a search, with the device it came from. -/
structure SearchEvent where
  device : Int32
deriving DecidableEq, Repr

end WindowPolicy
