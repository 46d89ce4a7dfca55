import EntityForge.Yaml.FlowScalar
import EntityForge.Yaml.Token

/-!
# Directives, anchors and tags

A directive states the version or what a tag's handle stands for, on a line of its own. A node may
have an anchor, by which it can be referred to, and a tag. A tag is a handle with a suffix, a suffix
alone, or a whole name between angle brackets; a percent sign in it begins a byte by its
hexadecimal digits.
-/

set_option autoImplicit false

namespace EntityForge.Yaml

/-! ## Names -/

/-- Whether a character may follow an anchor's name besides a blank. -/
def endsAnchor (c : Char) : Bool :=
  c = '?' || c = ':' || c = ',' || c = ']' || c = '\x7d' || c = '%' || c = '@' || c = '\x60'

/-- Reads the name of an anchor after its mark. -/
def readAnchor (c : Cursor) : Option (List Char × Cursor) :=
  let name := c.rest.takeWhile isWordChar
  let after := c.advance name.length
  if !name.isEmpty && (atWordEnd after.rest || startsWith endsAnchor after.rest) then
    some (name, after)
  else none

/-! ## Tags -/

/-- Whether a character may occur in a tag; `whole` says that it stands between angle brackets. -/
def isTagChar (whole : Bool) (c : Char) : Bool :=
  isWordChar c || ";/?:@&=+$.%!~*'()".toList.contains c || (whole && ",[]".toList.contains c)

/-- How many bytes make up a character whose first byte is given; zero if there is none. -/
def byteCount (first : Nat) : Nat :=
  if first < 0x80 then 1
  else if first / 0x20 = 6 then 2
  else if first / 0x10 = 14 then 3
  else if first / 8 = 30 then 4
  else 0

/-- Reads a byte after a percent sign. -/
def percentByte? : List Char → Option Nat
  | '%' :: a :: b :: _ =>
    match Text.hexValue? a, Text.hexValue? b with
    | some a, some b => some (a * 16 + b)
    | _, _ => none
  | _ => none

/-- Reads the later bytes of a character. -/
def laterBytes : Nat → Cursor → Option (List Char × Cursor)
  | 0, c => some ([], c)
  | count + 1, c =>
    match percentByte? c.rest with
    | none => none
    | some byte =>
      if byte / 0x40 = 2 then
        (laterBytes count (c.advance 3)).map fun (bytes, after) => (Char.ofNat byte :: bytes, after)
      else none

/-- Reads the bytes of one character, each as the character of its number. -/
def percentBytes (c : Cursor) : Option (List Char × Cursor) :=
  match percentByte? c.rest with
  | none => none
  | some byte =>
    match byteCount byte with
    | 0 => none
    | later + 1 =>
      (laterBytes later (c.advance 3)).map fun (bytes, after) => (Char.ofNat byte :: bytes, after)

/-- Reads the characters of a tag. -/
def tagChars (whole : Bool) : Nat → Cursor → Option (List Char × Cursor)
  | 0, c => some ([], c)
  | fuel + 1, c =>
    match c.rest with
    | [] => some ([], c)
    | b :: _ =>
      if b = '%' then
        match percentBytes c with
        | none => none
        | some (bytes, after) =>
          (tagChars whole fuel after).map fun (more, after) => (bytes ++ more, after)
      else if isTagChar whole b then
        (tagChars whole fuel (c.advance 1)).map fun (more, after) => (b :: more, after)
      else some ([], c)

/-- Reads the characters of a tag at a cursor. -/
def readTagChars (whole : Bool) (c : Cursor) : Option (List Char × Cursor) :=
  tagChars whole (c.rest.length + 1) c

/-- Reads an exclamation mark, the word after it, and a further exclamation mark if there is one. -/
def readHandle (c : Cursor) : Option (List Char × Cursor) :=
  match c.rest with
  | '!' :: rest =>
    let word := rest.takeWhile isWordChar
    let after := c.advance (word.length + 1)
    if startsWith (· == '!') after.rest then some ('!' :: (word ++ ['!']), after.advance 1)
    else some ('!' :: word, after)
  | _ => none

/-- Whether a handle is closed by an exclamation mark of its own. -/
def isClosedHandle (handle : List Char) : Bool :=
  decide (1 < handle.length) && handle.getLast? == some '!'

/-- Reads the handle and the suffix of a tag. -/
def tagParts (c : Cursor) : Option (List Char × List Char × Cursor) :=
  if startsWith (· == '<') (c.rest.drop 1) then
    match readTagChars true (c.advance 2) with
    | none => none
    | some (name, after) =>
      if !name.isEmpty && startsWith (· == '>') after.rest then some ([], name, after.advance 1)
      else none
  else
    match readHandle c with
    | none => none
    | some (handle, after) =>
      match readTagChars false after with
      | none => none
      | some (more, after) =>
        if isClosedHandle handle then (if more.isEmpty then none else some (handle, more, after))
        else
          let suffix := handle.drop 1 ++ more
          if suffix.isEmpty then some ([], ['!'], after) else some (['!'], suffix, after)

/-- Reads a tag, after which a word or, in a flow collection, an entry ends. -/
def readTag (flow : Bool) (c : Cursor) : Option (TokenKind × Cursor) :=
  match tagParts c with
  | none => none
  | some (handle, suffix, after) =>
    if atWordEnd after.rest || (flow && startsWith (· == ',') after.rest) then
      some (.tag handle suffix, after)
    else none

/-! ## Directives -/

/-- Reads a number of at most nine digits. -/
def shortNumber (c : Cursor) : Option (Nat × Cursor) :=
  let digits := c.rest.takeWhile Char.isDigit
  if digits.isEmpty || decide (9 < digits.length) then none
  else some (digits.foldl (fun n d => n * 10 + (d.toNat - 48)) 0, c.advance digits.length)

/-- Reads the version of a directive. -/
def versionDirective (c : Cursor) : Option (TokenKind × Cursor) :=
  match shortNumber (c.pass isGap) with
  | none => none
  | some (major, c) =>
    if startsWith (· == '.') c.rest then
      (shortNumber (c.advance 1)).map fun (minor, c) => (.version major minor, c)
    else none

/-- Reads the handle of a directive and what it stands for. -/
def tagDirective (c : Cursor) : Option (TokenKind × Cursor) :=
  match readHandle (c.pass isGap) with
  | none => none
  | some (handle, c) =>
    if (handle = ['!'] ∨ isClosedHandle handle) ∧ startsWith isGap c.rest then
      match readTagChars true (c.pass isGap) with
      | none => none
      | some (expansion, c) =>
        if !expansion.isEmpty && atWordEnd c.rest then some (.tagHandle handle expansion, c)
        else none
    else none

/-- Reads a directive after its percent sign, with its whole line. -/
def readDirective (c : Cursor) : Option (TokenKind × Cursor) :=
  let name := c.rest.takeWhile isWordChar
  let after := c.advance name.length
  if !atWordEnd after.rest then none
  else
    let stated :=
      if name = "YAML".toList then versionDirective after
      else if name = "TAG".toList then tagDirective after
      else none
    match stated with
    | none => none
    | some (kind, c) =>
      let c := (c.pass isGap).passComment
      if atLineEnd c.rest then some (kind, c.lineEnd.2) else none

end EntityForge.Yaml
