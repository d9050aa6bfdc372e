/-
# WindowPolicy.Window.Description — a window at a glance

The description of a window shows its features, attributes and links field by field, and
of its collaborators only whether they are there. It is one line, for logs and debugging.

* `described`, `describedInPart`: a title with its fields, the form of every part;
* `Window.describe`: the whole window.
-/
import WindowPolicy.Binary.Shortest
import WindowPolicy.Window.Basic

namespace WindowPolicy

set_option autoImplicit false

open WindowPolicy.Text (quote)

/-- A title with its items between braces. -/
def braced (title : String) (items : List String) : String :=
  title ++ " \x7b " ++ ", ".intercalate items ++ " \x7d"

/-- A field with its name. -/
def labelled (field : String × String) : String := field.1 ++ ": " ++ field.2

/-- A title with all its fields. -/
def described (title : String) (fields : List (String × String)) : String :=
  braced title (fields.map labelled)

/-- A title with some of its fields; two dots stand for the others. -/
def describedInPart (title : String) (fields : List (String × String)) : String :=
  braced title (fields.map labelled ++ [".."])

/-- A truth value in words. -/
def describeBool (b : Bool) : String := if b then "true" else "false"

/-- Numbers from a ten-thousandth up to ten to the sixteenth are described without
exponent. -/
def Binary32.layout : Binary.Layout := ⟨-4, 15, .away, false⟩

def Binary32.describe (x : Binary32) : String :=
  if x.isNaN then "NaN"
  else if x.isFinite then x.text layout
  else if x.isNegative then "-inf" else "inf"

def TypeCode.describe (t : TypeCode) : String := "WindowType(" ++ t.text ++ ")"

def SoftInput.describe (m : SoftInput) : String :=
  described "SoftInputMode" [("state", m.visibility.name), ("adjust", m.adjustment.name)]

def Extent.describe : Extent → String
  | .matchParent => "MatchParent"
  | .wrapContent => "WrapContent"
  | .pixels count => "Exact(" ++ toString count.toNat ++ ")"

def Attributes.describe (a : Attributes) : String :=
  described "AttributeRecord"
    [("window_type", a.type.describe),
     ("token", describeOption Token.describe a.token),
     ("title", quote a.title),
     ("flags", a.flags.describe),
     ("format", a.format.name),
     ("dim_amount", a.dim.describe),
     ("soft_input_mode", a.softInput.describe),
     ("width", a.width.describe),
     ("height", a.height.describe)]

def Layers.describe (l : Layers) : String :=
  described "AttributeState"
    [("attrs", l.current.describe),
     ("have_window_format", describeBool l.formatSet),
     ("have_dim_amount", describeBool l.dimSet),
     ("has_soft_input_mode", describeBool l.softInputSet),
     ("default_window_format", l.defaultFormat.name),
     ("forced_flags", l.forced.describe),
     ("close_on_touch_outside", describeBool l.closeOnTouchOutside),
     ("set_close_on_touch_outside", describeBool l.closeSet)]

def Negotiation.describe (n : Negotiation) : String :=
  described "FeatureRegistry"
    [("features", n.requested.describe),
     ("local", n.enforced.describe),
     ("pinned", n.pinned.describe)]

/-- The window in one line. -/
def Window.describe {κ : Type} (w : Window κ) : String :=
  describedInPart "Window"
    [("features", w.features.describe),
     ("attributes", w.layers.describe),
     ("container", describeOption WindowId.describe w.container),
     ("active_child", describeOption WindowId.describe w.activeChild),
     ("is_active", describeBool w.isActive),
     ("has_children", describeBool w.hasChildren),
     ("app_token", describeOption Token.describe w.appToken),
     ("app_name", quote w.appName),
     ("has_window_manager", describeBool w.manager.isSome),
     ("has_decor", describeBool w.decor.isSome),
     ("has_callback", describeBool w.dispatcher.isSet),
     ("frame_metrics_listeners", toString w.frameListeners.length),
     ("destroyed", describeBool w.destroyed)]

example : Binary32.layout.write 15 19 = "1.5e20".toList := by decide +kernel
example : Binary32.layout.write 12345 (-8) = "0.00012345".toList := by decide +kernel

end WindowPolicy
