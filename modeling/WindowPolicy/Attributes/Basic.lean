/-
# WindowPolicy.Attributes.Basic — what is asked of the windowing system

The attributes of a window are the plain record that is handed to the windowing system:
its type code, identity token, title, flags, surface format, dimming, soft input and size.

* `TypeCode.category`: the three ranges of type codes;
* `Attributes`: the record, each field with the value it has when nobody sets it.
-/
import WindowPolicy.Binary.Basic
import WindowPolicy.Flag.Text

namespace WindowPolicy

set_option autoImplicit false

/-- An identity handed out by the windowing system. -/
structure Token where
  value : UInt64
deriving DecidableEq, Repr

def Token.describe (t : Token) : String := "Token(" ++ toString t.value.toNat ++ ")"

/-! ## Type codes -/

/-- The three kinds of windows that type codes fall into. -/
inductive Category where
  /-- Windows attached to another window. -/
  | subWindow
  /-- Windows of the system, independent of who asked for them. -/
  | system
  /-- Windows of an application. -/
  | application
deriving DecidableEq, Repr

def Category.name : Category → String
  | .subWindow => "SubWindow"
  | .system => "SystemWindow"
  | .application => "Application"

/-- The number that says what a window is for. -/
structure TypeCode where
  value : Int32
deriving DecidableEq, Repr

namespace TypeCode

/-- The code of a plain application window. -/
def application : TypeCode := ⟨2⟩

def toInt (t : TypeCode) : Int := t.value.toInt

/-- Thousands belong to sub-windows, two thousands to the system, the rest to
applications. -/
def category (t : TypeCode) : Category :=
  if 1000 ≤ t.toInt ∧ t.toInt ≤ 1999 then .subWindow
  else if 2000 ≤ t.toInt ∧ t.toInt ≤ 2999 then .system
  else .application

/-- The short name of the sub-window types that have one. -/
def mnemonic? (t : TypeCode) : Option String :=
  match t.toInt with
  | 1000 => some "Panel"
  | 1001 => some "Media"
  | 1002 => some "SubPanel"
  | 1003 => some "AtchDlg"
  | 1004 => some "MediaOvr"
  | 1005 => some "AboveSubPanel"
  | _ => none

/-- The code in decimal. -/
def text (t : TypeCode) : String := toString t.toInt

end TypeCode

/-! ## Flags -/

/-- Flags of layout and behaviour. Positions without a name belong to the windowing
system and are passed on. -/
def windowFlagVocabulary : Vocabulary where
  title := "WindowFlags"
  names :=
    [("DIM_BEHIND", 1), ("NOT_FOCUSABLE", 3), ("NOT_TOUCHABLE", 4), ("NOT_TOUCH_MODAL", 5),
     ("KEEP_SCREEN_ON", 7), ("LAYOUT_IN_SCREEN", 8), ("LAYOUT_NO_LIMITS", 9),
     ("FULLSCREEN", 10), ("SECURE", 13), ("ALT_FOCUSABLE_IM", 17),
     ("WATCH_OUTSIDE_TOUCH", 18), ("SHOW_WHEN_LOCKED", 19), ("HARDWARE_ACCELERATED", 24),
     ("TRANSLUCENT_STATUS", 26), ("DRAWS_SYSTEM_BAR_BACKGROUNDS", 31)]
  openEnded := true

/-- The flags of a window. -/
abbrev WindowFlags := FlagSet windowFlagVocabulary

/-- The window is drawn with hardware acceleration. -/
def WindowFlags.hardwareAccelerated : WindowFlags := .single 24

/-! ## Surface, soft input and size -/

/-- The pixel format of a surface. -/
inductive PixelFormat where
  /-- No format of its own: the default of the window stands in. -/
  | unknown
  /-- Covers what is behind it. -/
  | solid
  /-- Pixels are either covering or absent. -/
  | transparent
  /-- Every pixel has its own alpha. -/
  | translucent
  | rgba8888
  | rgbx8888
  | rgb888
  | rgb565
deriving DecidableEq, Repr

/-- The format that says nothing. -/
def PixelFormat.standard : PixelFormat := unknown

def PixelFormat.all : List PixelFormat :=
  [unknown, solid, transparent, translucent, rgba8888, rgbx8888, rgb888, rgb565]

def PixelFormat.name : PixelFormat → String
  | unknown => "Unknown"
  | solid => "Opaque"
  | transparent => "Transparent"
  | translucent => "Translucent"
  | rgba8888 => "Rgba8888"
  | rgbx8888 => "Rgbx8888"
  | rgb888 => "Rgb888"
  | rgb565 => "Rgb565"

/-- Whether the soft input area is to be shown when the window gains focus. -/
inductive SoftInput.Visibility where
  | unspecified
  | unchanged
  | hidden
  | alwaysHidden
  | visible
  | alwaysVisible
deriving DecidableEq, Repr

def SoftInput.Visibility.all : List SoftInput.Visibility :=
  [unspecified, unchanged, hidden, alwaysHidden, visible, alwaysVisible]

def SoftInput.Visibility.name : SoftInput.Visibility → String
  | unspecified => "Unspecified"
  | unchanged => "Unchanged"
  | hidden => "Hidden"
  | alwaysHidden => "AlwaysHidden"
  | visible => "Visible"
  | alwaysVisible => "AlwaysVisible"

/-- How the window makes room for the soft input area. -/
inductive SoftInput.Adjustment where
  | unspecified
  | resize
  | pan
  | nothing
deriving DecidableEq, Repr

def SoftInput.Adjustment.all : List SoftInput.Adjustment := [unspecified, resize, pan, nothing]

def SoftInput.Adjustment.name : SoftInput.Adjustment → String
  | unspecified => "Unspecified"
  | resize => "Resize"
  | pan => "Pan"
  | nothing => "Nothing"

/-- The soft input behaviour of a window; without a preference unless set. -/
structure SoftInput where
  visibility : SoftInput.Visibility := .unspecified
  adjustment : SoftInput.Adjustment := .unspecified
deriving DecidableEq, Repr

/-- No preference in either half. -/
def SoftInput.unspecified : SoftInput := {}

/-- A width or a height. -/
inductive Extent where
  /-- As large as the parent allows. -/
  | matchParent
  /-- Just large enough for the content. -/
  | wrapContent
  | pixels (count : UInt32)
deriving DecidableEq, Repr

/-! ## The record -/

/-- The attributes of a window. An empty title counts as none. -/
structure Attributes where
  type : TypeCode := .application
  token : Option Token := none
  title : String := ""
  flags : WindowFlags := ∅
  format : PixelFormat := .solid
  /-- How far what lies behind is dimmed, from zero to one, when dimming is on. -/
  dim : Binary32 := .one
  softInput : SoftInput := .unspecified
  width : Extent := .matchParent
  height : Extent := .matchParent
deriving DecidableEq

/-- The title is not empty. -/
def Attributes.hasTitle (a : Attributes) : Bool := a.title ≠ ""

end WindowPolicy
