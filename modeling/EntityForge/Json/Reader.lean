import EntityForge.Dictionary
import EntityForge.Json.Skip

/-!
# Readers

A reader takes a value of one type off the front of a text. Its first argument is how many
containers may still be opened inside one another: a text that nests deeper is refused.

There are readers for strings, arrays of values of one type, objects with values of one type, words
of a fixed set, and for any value at all; records are in `EntityForge.Json.Record`. When a value of
another type is found, a scalar is read first, so that a fault inside it wins.
-/

set_option autoImplicit false

universe u

namespace EntityForge.Json

/-- Takes a value off the front of a text, given how many containers may be opened. -/
abbrev Reader (α : Type u) : Type u := Nat → List Char → Step α

namespace Reader

/-- The containers that may be open at once. -/
def nestingLimit : Nat := 127

/-- Reads a value that is not a container. -/
def scalar : List Char → Step Json
  | [] => haltPast .endInValue []
  | 'n' :: rest => (word ['u', 'l', 'l'] rest).andThen fun rest => .ok (.null, rest)
  | 't' :: rest => (word ['r', 'u', 'e'] rest).andThen fun rest => .ok (.bool true, rest)
  | 'f' :: rest => (word ['a', 'l', 's', 'e'] rest).andThen fun rest => .ok (.bool false, rest)
  | '-' :: rest => numeral true rest
  | '"' :: rest => (stringBody rest).andThen fun text rest => .ok (.text text, rest)
  | c :: rest => if c.isDigit then numeral false (c :: rest) else haltPast .noValue (c :: rest)

/-- What a diagnostic calls a value. -/
def found : Json → Found
  | .null => .null
  | .bool value => .boolean value
  | .integer value => .integer value
  | .real value => .real value
  | .text value => .text value
  | .list _ => .list
  | .object _ => .object

/-- Halts because a value of another type is needed than the one that begins here. -/
def haltWrongType {α : Type u} (needed : Needed) : List Char → Except Halt α
  | '[' :: rest => haltAt (.wrongType .list needed) ('[' :: rest)
  | '\x7b' :: rest => haltAt (.wrongType .object needed) ('\x7b' :: rest)
  | rest =>
    (scalar rest).andThen fun value after => haltAt (.wrongType (found value) needed) after

/-- Reads a string. -/
def text : Reader String := fun _ rest =>
  match dropGaps rest with
  | '"' :: rest => stringBody rest
  | other => haltWrongType .text other

/-! ## Containers -/

/-- What comes next in a container: its end, or another item or key. -/
inductive Next where
  /-- The container ended; the text after it. -/
  | ended (rest : List Char)
  /-- Another item begins here, or the inside of another key. -/
  | more (rest : List Char)

/-- Goes to the next item of an array; `first` says that none has been read. -/
def nextItem (first : Bool) (rest : List Char) : Except Halt Next :=
  match dropGaps rest with
  | [] => haltPast .endInList []
  | c :: rest =>
    if c = ']' then .ok (.ended rest)
    else if first then .ok (.more (c :: rest))
    else if c = ',' then
      match dropGaps rest with
      | [] => haltPast .endInValue []
      | ']' :: rest => haltPast .trailingComma (']' :: rest)
      | other => .ok (.more other)
    else haltPast .listUnseparated (c :: rest)

/-- Goes inside the next key of an object; `first` says that none has been read. -/
def nextKey (first : Bool) (rest : List Char) : Except Halt Next :=
  match dropGaps rest with
  | [] => haltPast .endInObject []
  | c :: rest =>
    if c = '\x7d' then .ok (.ended rest)
    else if first then
      if c = '"' then .ok (.more rest) else haltPast .keyNotText (c :: rest)
    else if c = ',' then
      match dropGaps rest with
      | [] => haltPast .endInValue []
      | '"' :: rest => .ok (.more rest)
      | '\x7d' :: rest => haltPast .trailingComma ('\x7d' :: rest)
      | other => haltPast .keyNotText other
    else haltPast .objectUnseparated (c :: rest)

/-- Reads the items of an array up to and with its end. -/
def itemsLoop {α : Type u} (item : List Char → Step α) :
    Nat → Bool → List Char → Step (List α)
  | 0, _, rest => haltPast .endInList rest
  | fuel + 1, first, rest =>
    match nextItem first rest with
    | .error halt => .error halt
    | .ok (.ended rest) => .ok ([], rest)
    | .ok (.more rest) =>
      (item rest).andThen fun value rest =>
        (itemsLoop item fuel false rest).andThen fun values rest => .ok (value :: values, rest)

/-- Reads the entries of an object up to and with its end, in the order of the text. -/
def entriesLoop {α : Type u} (value : List Char → Step α) :
    Nat → Bool → List Char → Step (List (String × α))
  | 0, _, rest => haltPast .endInObject rest
  | fuel + 1, first, rest =>
    match nextKey first rest with
    | .error halt => .error halt
    | .ok (.ended rest) => .ok ([], rest)
    | .ok (.more rest) =>
      (stringBody rest).andThen fun key rest =>
        (colon rest).andThen fun rest =>
          (value rest).andThen fun found rest =>
            (entriesLoop value fuel false rest).andThen fun entries rest =>
              .ok ((key, found) :: entries, rest)

/-- Opens a container whose first character is still unread. -/
def opening {α : Type u} (inside : Reader α) : Reader α
  | 0, rest => haltPast .tooDeep rest
  | nesting + 1, rest => inside nesting (rest.drop 1)

/-- Reads an array of values of one type. -/
def list {α : Type u} (item : Reader α) : Reader (List α) := fun nesting rest =>
  match dropGaps rest with
  | '[' :: rest =>
    opening (fun nesting rest => itemsLoop (item nesting) (rest.length + 1) true rest) nesting
      ('[' :: rest)
  | other => haltWrongType .list other

/-- Reads an object with values of one type; of two entries with one key the later counts. -/
def dictionary {α : Type u} (value : Reader α) : Reader (Dictionary α) := fun nesting rest =>
  match dropGaps rest with
  | '\x7b' :: rest =>
    opening (fun nesting rest =>
      (entriesLoop (value nesting) (rest.length + 1) true rest).andThen fun entries rest =>
        .ok (Dictionary.ofList entries, rest)) nesting ('\x7b' :: rest)
  | other => haltWrongType .object other

/-- Reads any value. -/
def value : Reader Json
  | 0, rest =>
    match dropGaps rest with
    | '[' :: rest => haltPast .tooDeep ('[' :: rest)
    | '\x7b' :: rest => haltPast .tooDeep ('\x7b' :: rest)
    | other => scalar other
  | nesting + 1, rest =>
    match dropGaps rest with
    | '[' :: rest =>
      (itemsLoop (value nesting) (rest.length + 1) true rest).andThen fun items rest =>
        .ok (.list items, rest)
    | '\x7b' :: rest =>
      (entriesLoop (value nesting) (rest.length + 1) true rest).andThen fun entries rest =>
        .ok (.object (Dictionary.ofList entries).entries, rest)
    | other => scalar other

/-! ## Words of a fixed set -/

/-- Reads the value `null`. -/
def nothing (rest : List Char) : Pass :=
  match dropGaps rest with
  | 'n' :: rest => word ['u', 'l', 'l'] rest
  | other => haltWrongType .null other

/-- Reads the name of a variant after its opening quote. -/
def variantName {α : Type} (variants : List (String × α)) (rest : List Char) : Step α :=
  (stringBody rest).andThen fun name rest =>
    match lookupEntry name variants with
    | some variant => .ok (variant, rest)
    | none => haltAt (.unknownVariant name (variants.map (·.1))) rest

/-- Goes inside the key that an object has to have. -/
def onlyKey (rest : List Char) : Pass :=
  match nextKey true rest with
  | .error halt => .error halt
  | .ok (.ended _) => haltPast .noValue (dropGaps rest)
  | .ok (.more rest) => .ok rest

/-- Reads one word of a fixed set: as a string, or as the only key of an object that is `null`. -/
def choice {α : Type} (variants : List (String × α)) : Reader α := fun nesting rest =>
  match dropGaps rest with
  | [] => haltPast .endInValue []
  | '"' :: rest => variantName variants rest
  | '\x7b' :: rest =>
    opening (fun _ rest =>
      (onlyKey rest).andThen fun rest =>
        (variantName variants rest).andThen fun variant rest =>
          (colon rest).andThen fun rest =>
            (nothing rest).andThen fun rest =>
              match dropGaps rest with
              | [] => haltAt .endInObject []
              | '\x7d' :: rest => .ok (variant, rest)
              | other => haltAt .noValue other) nesting ('\x7b' :: rest)
  | other => haltPast .noValue other

/-! ## Whole texts -/

/-- Reads a value that makes up a whole text. -/
def whole {α : Type u} (reader : Reader α) (chars : List Char) : Except Halt α :=
  (reader nestingLimit chars).andThen fun value rest =>
    match dropGaps rest with
    | [] => .ok value
    | other => haltPast .trailingText other

end Reader

/-- Reads a text that holds one value. -/
def read {α : Type u} (reader : Reader α) (text : String) : Except Refusal α :=
  match Reader.whole reader text.toList with
  | .ok value => .ok value
  | .error halt => .error (halt.refusal text.toList)

end EntityForge.Json
