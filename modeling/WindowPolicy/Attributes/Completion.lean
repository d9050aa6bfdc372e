/-
# WindowPolicy.Attributes.Completion — token and title from the owning window

Before a record goes to the windowing system its owner fills in what the client left
out. What is filled in depends on the category of the type code:

* a sub-window takes the token of the owner's decor, and is titled by its type;
* a system window takes no token, since its life does not depend on the owner, and is
  titled by its number after `Sys`;
* an application window takes the token of the owner's container, or of the owner when
  there is none, and keeps its title.

A synthesised title ends with the name of the application, if it has one.
-/
import WindowPolicy.Attributes.Basic

namespace WindowPolicy

set_option autoImplicit false

/-- What a record is completed from. -/
structure Owner where
  appName : String
  appToken : Option Token
  /-- The token of the containing window, itself perhaps missing; none at top level. -/
  container : Option (Option Token)
  decorToken : Option Token
deriving DecidableEq, Repr

/-- The token that an owner has for windows of a category. A container without a token
offers none: the owner's own token does not take its place. -/
def Owner.tokenFor (o : Owner) : Category → Option Token
  | .subWindow => o.decorToken
  | .system => none
  | .application => o.container.getD o.appToken

/-- The first part of a synthesised title. -/
def TypeCode.baseTitle? (t : TypeCode) : Option String :=
  match t.category with
  | .subWindow => some (t.mnemonic?.getD t.text)
  | .system => some ("Sys" ++ t.text)
  | .application => none

/-- A title with the name of its application, set off by a colon. -/
def withAppName (title appName : String) : String :=
  if appName = "" then title else title ++ ":" ++ appName

namespace Attributes

/-- The record with the token and the title that it lacks. -/
def completeFor (a : Attributes) (o : Owner) : Attributes :=
  { a with
    token := a.token.or (o.tokenFor a.type.category)
    title :=
      if a.hasTitle then a.title
      else (a.type.baseTitle?.map (withAppName · o.appName)).getD "" }

end Attributes

end WindowPolicy
