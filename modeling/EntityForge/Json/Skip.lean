import EntityForge.Json.Numeral
import EntityForge.Json.StringReader

/-!
# Passing over values

A value under a key that nobody asked for is passed over. Its form is checked, but nothing is
built, and there is no bound on how deep it nests: the containers that are open are kept in a list,
the innermost first.
-/

set_option autoImplicit false

namespace EntityForge.Json

/-- A container that is open. -/
inductive Container where
  | list
  | object
deriving DecidableEq, Repr

/-- The cause when the text ends inside a container. -/
def Container.endCause : Container → Cause
  | .list => .endInList
  | .object => .endInObject

/-- The cause when neither a comma nor the end of a container follows a value. -/
def Container.unseparated : Container → Cause
  | .list => .listUnseparated
  | .object => .objectUnseparated

/-- The character that ends a container. -/
def Container.closing : Container → Char
  | .list => ']'
  | .object => '\x7d'

/-- Passes over a value that is not a container. -/
def skipScalar : List Char → Pass
  | [] => haltPast .endInValue []
  | 'n' :: rest => word ['u', 'l', 'l'] rest
  | 't' :: rest => word ['r', 'u', 'e'] rest
  | 'f' :: rest => word ['a', 'l', 's', 'e'] rest
  | '-' :: rest => skipNumeral rest
  | '"' :: rest => skipText rest
  | c :: rest => if c.isDigit then skipNumeral (c :: rest) else haltPast .noValue (c :: rest)

/-- Passes over a key and its colon. -/
def skipKey (rest : List Char) : Pass :=
  match dropGaps rest with
  | [] => haltPast .endInObject []
  | '"' :: rest => (skipText rest).andThen colon
  | other => haltPast .keyNotText other

/-- Passes over whatever comes before the next value of the innermost container. -/
def skipToValue : Container → List Char → Pass
  | .list, rest => .ok rest
  | .object, rest => skipKey rest

/-- After a value: passes over ends of containers and a comma; gives the containers still open. -/
def skipEnds : List Container → List Char → Except Halt (List Container × List Char)
  | [], rest => .ok ([], rest)
  | container :: outer, rest =>
    match dropGaps rest with
    | [] => haltPast container.endCause []
    | c :: rest =>
      if c = ',' then .ok (container :: outer, rest)
      else if c = container.closing then skipEnds outer rest
      else haltPast container.unseparated (c :: rest)

/-- After the beginning of a container: passes over its end if it is empty. -/
def skipOpened (container : Container) (outer : List Container) (rest : List Char) :
    Except Halt (List Container × List Char) :=
  match dropGaps rest with
  | [] => haltPast container.endCause []
  | c :: rest =>
    if c = container.closing then skipEnds outer rest else .ok (container :: outer, c :: rest)

/-- Passes over a value and over what is left of the containers that are open around it. -/
def skipLoop : Nat → List Container → List Char → Pass
  | 0, _, rest => haltPast .endInValue rest
  | fuel + 1, outer, rest =>
    let opened :=
      match dropGaps rest with
      | '[' :: rest => skipOpened .list outer rest
      | '\x7b' :: rest => skipOpened .object outer rest
      | other => (skipScalar other).andThen (skipEnds outer)
    match opened with
    | .error halt => .error halt
    | .ok ([], rest) => .ok rest
    | .ok (container :: outer, rest) =>
      (skipToValue container rest).andThen (skipLoop fuel (container :: outer))

/-- Passes over a value; every round takes a character. -/
def skipValue (rest : List Char) : Pass := skipLoop (rest.length + 1) [] rest

end EntityForge.Json
