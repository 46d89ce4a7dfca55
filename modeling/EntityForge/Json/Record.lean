import EntityForge.Json.Reader

/-!
# Reading records

A record is read from an object or from an array. An object may list the fields in any order and
have further keys, whose values are passed over; a field may come once. An array lists the values
in the order of the fields. A field that is absent takes its default if it has one.

`Fields δ τ` describes the fields of a record whose values form the tuple `τ`; the tuple `δ` holds
what has been read so far.
-/

set_option autoImplicit false

namespace EntityForge.Json

/-- The fields of a record in order, each with its name, its default and its reader. -/
inductive Fields : Type → Type → Type 1 where
  | nil : Fields Unit Unit
  | cons {α δ τ : Type} (name : String) (fallback : Option α) (read : Reader α)
      (rest : Fields δ τ) : Fields (Option α × δ) (α × τ)

namespace Fields

/-- The number of fields. -/
def count : {δ τ : Type} → Fields δ τ → Nat
  | _, _, .nil => 0
  | _, _, .cons _ _ _ rest => rest.count + 1

/-- Nothing read so far. -/
def blank : {δ τ : Type} → Fields δ τ → δ
  | _, _, .nil => ()
  | _, _, .cons _ _ _ rest => (none, rest.blank)

/-- The values of all fields, or the name of the first field that has none. -/
def values : {δ τ : Type} → Fields δ τ → δ → Except String τ
  | _, _, .nil, _ => .ok ()
  | _, _, .cons name fallback _ rest, (slot, slots) =>
    match slot.or fallback with
    | none => .error name
    | some value =>
      match rest.values slots with
      | .ok values => .ok (value, values)
      | .error missing => .error missing

/-- What a key of an object is to a record. -/
inductive KeyRole (δ : Type) where
  /-- No field has this name. -/
  | unknown
  /-- The field was there already. -/
  | repeated
  /-- The field's value is to be read into its slot. -/
  | field (read : Reader δ)

/-- What a key is to a record of which some fields have been read. -/
def role : {δ τ : Type} → Fields δ τ → String → δ → KeyRole δ
  | _, _, .nil, _, _ => .unknown
  | _, _, .cons name _ read rest, key, (slot, slots) =>
    if key = name then
      if slot.isSome then .repeated
      else .field fun nesting chars =>
        (read nesting chars).andThen fun value after => .ok ((some value, slots), after)
    else
      match rest.role key slots with
      | .unknown => .unknown
      | .repeated => .repeated
      | .field read => .field fun nesting chars =>
        (read nesting chars).andThen fun slots after => .ok ((slot, slots), after)

/-- The text after the gap, and after the end of the object if that is next. -/
def passObjectEnd (rest : List Char) : List Char :=
  match dropGaps rest with
  | '\x7d' :: rest => rest
  | other => other

/-- Reads the entries of an object into the slots. -/
def objectLoop {δ τ : Type} (fields : Fields δ τ) (nesting : Nat) :
    Nat → Bool → δ → List Char → Step δ
  | 0, _, _, rest => haltPast .endInObject rest
  | fuel + 1, first, slots, rest =>
    match Reader.nextKey first rest with
    | .error halt => .error halt
    | .ok (.ended rest) => .ok (slots, rest)
    | .ok (.more rest) =>
      (stringBody rest).andThen fun key rest =>
        match fields.role key slots with
        | .unknown =>
          (colon rest).andThen fun rest =>
            (skipValue rest).andThen fun rest => objectLoop fields nesting fuel false slots rest
        | .repeated => haltAt (.repeatedField key) (passObjectEnd rest)
        | .field read =>
          (colon rest).andThen fun rest =>
            (read nesting rest).andThen fun slots rest =>
              objectLoop fields nesting fuel false slots rest

/-- The rest of an array whose items are read one by one. -/
inductive Items where
  /-- The array has not ended; whether nothing has been read of it. -/
  | unread (first : Bool) (rest : List Char)
  /-- The array has ended. -/
  | ended (rest : List Char)

/-- Goes to the next item unless the array has ended. -/
def Items.next : Items → Except Halt Reader.Next
  | .unread first rest => Reader.nextItem first rest
  | .ended rest => .ok (.ended rest)

/-- Reads the end of an array of which all needed items have been read. -/
def Items.close : Items → Pass
  | .ended rest => .ok rest
  | .unread _ rest =>
    match dropGaps rest with
    | [] => haltPast .endInList []
    | ']' :: rest => .ok rest
    | ',' :: rest =>
      match dropGaps rest with
      | ']' :: rest => haltPast .trailingComma (']' :: rest)
      | other => haltPast .trailingText other
    | other => haltPast .trailingText other

/-- Reads the items of an array as the fields from the one numbered `index` on. -/
def fromItems : {δ τ : Type} → Fields δ τ → (record : String) → (total nesting index : Nat) →
    Items → Except Halt (τ × Items)
  | _, _, .nil, _, _, _, _, items => .ok ((), items)
  | _, _, .cons _ fallback read rest, record, total, nesting, index, items =>
    match items.next with
    | .error halt => .error halt
    | .ok (.ended after) =>
      match fallback with
      | none => haltAt (.tooShort index record total) after
      | some value =>
        match rest.fromItems record total nesting (index + 1) (.ended after) with
        | .error halt => .error halt
        | .ok (values, items) => .ok ((value, values), items)
    | .ok (.more item) =>
      (read nesting item).andThen fun value after =>
        match rest.fromItems record total nesting (index + 1) (.unread false after) with
        | .error halt => .error halt
        | .ok (values, items) => .ok ((value, values), items)

end Fields

/-- Reads a record of the given name and fields. -/
def Reader.record {α δ τ : Type} (name : String) (fields : Fields δ τ) (make : τ → α) : Reader α :=
  fun nesting rest =>
    match dropGaps rest with
    | '\x7b' :: rest =>
      Reader.opening (fun nesting rest =>
        (fields.objectLoop nesting (rest.length + 1) true fields.blank rest).andThen
          fun slots rest =>
            match fields.values slots with
            | .ok values => .ok (make values, rest)
            | .error missing => haltAt (.missingField missing) rest) nesting ('\x7b' :: rest)
    | '[' :: rest =>
      Reader.opening (fun nesting rest =>
        match fields.fromItems name fields.count nesting 0 (.unread true rest) with
        | .error halt => .error halt
        | .ok (values, items) =>
          items.close.andThen fun rest => .ok (make values, rest)) nesting ('[' :: rest)
    | other => Reader.haltWrongType (.record name) other

end EntityForge.Json
