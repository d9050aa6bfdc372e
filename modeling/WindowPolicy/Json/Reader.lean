/-
# WindowPolicy.Json.Reader — JSON texts as configuration values

The tokens of a text are put together to a value. The lists and objects that are open at
a token are kept on a stack, so no nesting is too deep. Where a token does not fit, or
there are none left, the value ends: everything that is open is cut there.

* `Document`: a value, and whether the text held nothing else;
* `Document.read`: the document that a text stands for, whatever the text.
-/
import WindowPolicy.Config.Codec
import WindowPolicy.Json.Token

namespace WindowPolicy.Json

set_option autoImplicit false

open WindowPolicy.Config

/-- A list or an object whose next part is being read. What was read stands latest first. -/
inductive Frame where
  | list (items : List Value)
  | object (members : List (Quotation × Value)) (key : Quotation)

/-- What may come next. -/
inductive Stage where
  | value
  /-- The name of a member, in an object that holds some already or was just opened. -/
  | key (members : List (Quotation × Value))
  /-- Whatever follows a value that is complete. -/
  | after (value : Value)

/-- The outermost value when everything that is open is cut, the innermost part last. -/
def cutShort : List Frame → Value → Value
  | [], value => value
  | .list items :: stack, value => cutShort stack (.list (value :: items).reverse .cut)
  | .object members key :: stack, value =>
      cutShort stack (.object ((key, value) :: members).reverse .cut)

/-- A value from tokens, and the tokens after it. -/
def assemble : List Frame → Stage → List Token → Value × List Token
  | [], .after value, rest => (value, rest)
  | stack, .value, .plain value :: rest => assemble stack (.after value) rest
  | stack, .value, .quoted text :: rest => assemble stack (.after (.text text)) rest
  | stack, .value, .openList :: .closeList :: rest =>
      assemble stack (.after (.list [] .closed)) rest
  | stack, .value, .openList :: rest => assemble (.list [] :: stack) .value rest
  | stack, .value, .openObject :: .closeObject :: rest =>
      assemble stack (.after (.object [] .closed)) rest
  | stack, .value, .openObject :: rest => assemble stack (.key []) rest
  | stack, .value, rest => (cutShort stack .broken, rest)
  | stack, .key members, .quoted key :: .colon :: rest =>
      assemble (.object members key :: stack) .value rest
  | stack, .key members, .quoted key :: rest =>
      (cutShort (.object members key :: stack) .broken, rest)
  | stack, .key members, rest => (cutShort stack (.object members.reverse .cut), rest)
  | .list items :: stack, .after value, .comma :: rest =>
      assemble (.list (value :: items) :: stack) .value rest
  | .list items :: stack, .after value, .closeList :: rest =>
      assemble stack (.after (.list (value :: items).reverse .closed)) rest
  | .object members key :: stack, .after value, .comma :: rest =>
      assemble stack (.key ((key, value) :: members)) rest
  | .object members key :: stack, .after value, .closeObject :: rest =>
      assemble stack (.after (.object ((key, value) :: members).reverse .closed)) rest
  | stack, .after value, rest => (cutShort stack value, rest)

/-- What a text holds. -/
structure Document where
  value : Value
  /-- Nothing follows the value. -/
  complete : Bool

/-- The document that a text stands for. -/
def Document.read (text : String) : Document :=
  let (value, rest) := assemble [] .value (tokens text.toList)
  { value, complete := rest.isEmpty }

/-- A value from a JSON text. Faults within the value come before anything that follows. -/
def decode {α : Type} (c : Codec α) (text : String) : Except ConfigError α := do
  let document := Document.read text
  let a ← c.decode document.value
  if document.complete then .ok a else .error .invalid

end WindowPolicy.Json
