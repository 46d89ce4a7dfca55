import EntityForge.Yaml.BlockScalar
import EntityForge.Yaml.Property

/-!
# Tokens of a text

Tokens are read off the front of the text one after another. Two things are not written where they
are needed. A block collection begins where a line is indented further than the collection around
it, and ends where a line is indented less. And that a node was a key is known only at the colon
after it; the place where a key may have begun is kept until then, one place for every open flow
collection, and the token that begins the key is put in there afterwards (`resolveKey`). A key must
end on the line on which it began, within 1024 characters.
-/

set_option autoImplicit false

namespace EntityForge.Yaml

/-- A place where a key may have begun. -/
structure KeyPlace where
  /-- Whether nothing else may stand there. -/
  required : Bool
  /-- How many tokens come before it. -/
  position : Nat
  /-- The place in the text. -/
  mark : Mark

/-- What has been read and what is open. -/
structure Scan where
  /-- The unread text. -/
  cursor : Cursor
  /-- The tokens, the latest first. -/
  tokens : List Token
  /-- The indentation of the innermost block collection, or `-1`. -/
  indent : Int
  /-- The indentations around it. -/
  outer : List Int
  /-- Whether a key may begin here. -/
  keyAllowed : Bool
  /-- Where a key may have begun, outside and in every open flow collection, the innermost first. -/
  keys : List (Option KeyPlace)

namespace Scan

/-- Nothing has been read. -/
def start (text : List Char) : Scan := ⟨.start text, [], -1, [], true, [none]⟩

/-- Whether a flow collection is open. -/
def inFlow (s : Scan) : Bool := decide (1 < s.keys.length)

/-- Adds a token. -/
def push (s : Scan) (kind : TokenKind) (mark : Mark) : Scan :=
  { s with tokens := ⟨kind, mark⟩ :: s.tokens }

/-- Adds a token for the next characters. -/
def pushNext (s : Scan) (kind : TokenKind) (count : Nat) : Scan :=
  { s.push kind s.cursor.mark with cursor := s.cursor.advance count }

/-- Adds a token after `position` tokens. -/
def insert (s : Scan) (position : Nat) (kind : TokenKind) (mark : Mark) : Scan :=
  { s with tokens := s.tokens.insertIdx (s.tokens.length - position) ⟨kind, mark⟩ }

/-! ## Keys -/

/-- Gives up places where no key can have begun, because the line has ended or is too long. -/
def dropStale (s : Scan) : Option Scan :=
  let isStale (key : KeyPlace) : Bool :=
    decide (key.mark.line < s.cursor.mark.line)
      || decide (key.mark.index + 1024 < s.cursor.mark.index)
  if s.keys.any (fun place => place.any (fun key => key.required && isStale key)) then none
  else some { s with keys := s.keys.map (fun place => place.filter (fun key => !isStale key)) }

/-- Gives up the innermost place; it is refused if a key is required there. -/
def dropKey (s : Scan) : Option Scan :=
  match s.keys with
  | some key :: keys => if key.required then none else some { s with keys := none :: keys }
  | _ => some s

/-- Keeps this place, if a key may begin here. -/
def keepKey (s : Scan) : Option Scan :=
  if s.keyAllowed then
    let required := !s.inFlow && decide (s.indent = s.cursor.mark.column)
    let place : KeyPlace := ⟨required, s.tokens.length, s.cursor.mark⟩
    s.dropKey.map fun s => { s with keys := some place :: s.keys.drop 1 }
  else some s

/-- Keeps this place and says that no key may begin after it. -/
def beginNode (s : Scan) : Option Scan :=
  s.keepKey.map fun s => { s with keyAllowed := false }

/-! ## Indentation -/

/-- Begins a block collection if a column is further to the right than the one around it. -/
def openBlock (s : Scan) (column position : Nat) (kind : TokenKind) (mark : Mark) : Scan :=
  if s.inFlow || decide ((column : Int) ≤ s.indent) then s
  else { s.insert position kind mark with indent := column, outer := s.indent :: s.outer }

/-- Begins a block collection here. -/
def openBlockHere (s : Scan) (kind : TokenKind) : Scan :=
  s.openBlock s.cursor.mark.column s.tokens.length kind s.cursor.mark

/-- The ends of block collections that are further to the right than a column. -/
def closeBlocksLoop (column : Int) : List Int → Scan → Scan
  | [], s => s
  | around :: outer, s =>
    if column < s.indent then
      closeBlocksLoop column outer
        { s.push .blockEnd s.cursor.mark with indent := around, outer := outer }
    else s

/-- Ends the block collections that are further to the right than a column. -/
def closeBlocks (s : Scan) (column : Int) : Scan :=
  if s.inFlow then s else closeBlocksLoop column s.outer s

/-! ## Between tokens -/

/-- Goes to the next token. -/
def toNextToken : Nat → Scan → Scan
  | 0, s => s
  | fuel + 1, s =>
    let c := s.cursor
    let c :=
      if c.mark.column == 0 && startsWith (fun b => b.toNat == 0xFEFF) c.rest then c.advance 1
      else c
    let tabs := s.inFlow || !s.keyAllowed
    let c := (c.pass (fun b => b = ' ' || (tabs && b = '\t'))).passComment
    if startsWith isBreak c.rest then
      toNextToken fuel { s with cursor := c.lineEnd.2, keyAllowed := s.keyAllowed || !s.inFlow }
    else { s with cursor := c }

/-! ## Tokens -/

/-- The end of the text, on a line of its own. -/
def finish (s : Scan) : Option Scan :=
  let c := if s.cursor.mark.column = 0 then s.cursor else s.cursor.newLine 0
  let ended : Scan := { s with cursor := c }
  (ended.closeBlocks (-1)).dropKey.map fun s =>
    { s.push .streamEnd c.mark with keyAllowed := false }

/-- Prepares for a token that stands outside of all collections. -/
def outside (s : Scan) : Option Scan :=
  (s.closeBlocks (-1)).dropKey.map fun s => { s with keyAllowed := false }

/-- A directive. -/
def directive (s : Scan) : Option Scan :=
  match s.outside with
  | none => none
  | some s =>
    (readDirective (s.cursor.advance 1)).map fun (kind, after) =>
      { s.push kind s.cursor.mark with cursor := after }

/-- The mark that begins or ends a document. -/
def documentMark (s : Scan) (kind : TokenKind) : Option Scan :=
  s.outside.map fun s => s.pushNext kind 3

/-- The beginning of a flow collection. -/
def openFlow (s : Scan) (kind : TokenKind) : Option Scan :=
  s.keepKey.map fun s =>
    { s.pushNext kind 1 with keys := none :: s.keys, keyAllowed := true }

/-- The end of a flow collection. -/
def closeFlow (s : Scan) (kind : TokenKind) : Option Scan :=
  s.dropKey.map fun s =>
    { s.pushNext kind 1 with
      keys := if s.inFlow then s.keys.drop 1 else s.keys, keyAllowed := false }

/-- A comma between the entries of a flow collection. -/
def flowEntry (s : Scan) : Option Scan :=
  s.dropKey.map fun s => { s.pushNext .flowEntry 1 with keyAllowed := true }

/-- A hyphen before an item. -/
def blockEntry (s : Scan) : Option Scan :=
  if !s.inFlow && !s.keyAllowed then none
  else
    let s := if s.inFlow then s else s.openBlockHere .blockListStart
    s.dropKey.map fun s => { s.pushNext .blockEntry 1 with keyAllowed := true }

/-- A question mark before a key. -/
def explicitKey (s : Scan) : Option Scan :=
  if !s.inFlow && !s.keyAllowed then none
  else
    let s := if s.inFlow then s else s.openBlockHere .blockMappingStart
    s.dropKey.map fun s => { s.pushNext .key 1 with keyAllowed := !s.inFlow }

/-- A colon after a key that began at a known place. -/
def resolveKey (s : Scan) (key : KeyPlace) : Scan :=
  let s := s.insert key.position .key key.mark
  let s := s.openBlock key.mark.column key.position .blockMappingStart key.mark
  { s.pushNext .value 1 with keys := none :: s.keys.drop 1, keyAllowed := false }

/-- A colon before a value. -/
def mappingValue (s : Scan) : Option Scan :=
  match s.keys with
  | some key :: _ => some (s.resolveKey key)
  | _ =>
    if !s.inFlow && !s.keyAllowed then none
    else
      let s := if s.inFlow then s else s.openBlockHere .blockMappingStart
      some { s.pushNext .value 1 with keyAllowed := !s.inFlow }

/-- An anchor or a reference to one. -/
def anchor (s : Scan) (kind : List Char → TokenKind) : Option Scan :=
  match s.beginNode with
  | none => none
  | some s =>
    (readAnchor (s.cursor.advance 1)).map fun (name, after) =>
      { s.push (kind name) s.cursor.mark with cursor := after }

/-- A tag. -/
def tag (s : Scan) : Option Scan :=
  match s.beginNode with
  | none => none
  | some s =>
    (readTag s.inFlow s.cursor).map fun (kind, after) =>
      { s.push kind s.cursor.mark with cursor := after }

/-- A block scalar. -/
def blockScalar (s : Scan) (literal : Bool) : Option Scan :=
  match s.dropKey with
  | none => none
  | some s =>
    (readBlock literal s.indent (s.cursor.advance 1)).map fun (text, after) =>
      { s.push (.scalar text false) s.cursor.mark with cursor := after, keyAllowed := true }

/-- A scalar in quotes. -/
def quotedScalar (s : Scan) (quote : Quote) : Option Scan :=
  match s.beginNode with
  | none => none
  | some s =>
    (readQuoted quote (s.cursor.advance 1)).map fun (text, after) =>
      { s.push (.scalar text false) s.cursor.mark with cursor := after }

/-- A plain scalar. -/
def plainScalar (s : Scan) : Option Scan :=
  match s.beginNode with
  | none => none
  | some s =>
    (readPlain s.inFlow (s.indent + 1).toNat s.cursor).map fun read =>
      { s.push (.scalar read.text true) s.cursor.mark with
        cursor := read.after, keyAllowed := read.lineEnded }

/-- Whether a plain scalar begins with a character before a text. -/
def beginsPlain (flow : Bool) (c : Char) (rest : List Char) : Bool :=
  if c = '-' then !startsWith isGap rest
  else if c = '?' ∨ c = ':' then !flow && !atWordEnd rest
  else !isGap c && !",[]\x7b\x7d#&*!|>'\"%@`".toList.contains c

/-- The token that begins here. -/
def tokenHere (s : Scan) : Option Scan :=
  let atLineStart := s.cursor.mark.column == 0
  match s.cursor.rest with
  | [] => s.finish
  | c :: rest =>
    if atLineStart && c = '%' then s.directive
    else if s.cursor.atDocumentMark then
      s.documentMark (if c = '-' then .documentStart else .documentEnd)
    else if c = '[' then s.openFlow .flowListStart
    else if c = '\x7b' then s.openFlow .flowMappingStart
    else if c = ']' then s.closeFlow .flowListEnd
    else if c = '\x7d' then s.closeFlow .flowMappingEnd
    else if c = ',' then s.flowEntry
    else if c = '-' ∧ atWordEnd rest then s.blockEntry
    else if c = '?' ∧ (s.inFlow ∨ atWordEnd rest) then s.explicitKey
    else if c = ':' ∧ (s.inFlow ∨ atWordEnd rest) then s.mappingValue
    else if c = '*' then s.anchor .reference
    else if c = '&' then s.anchor .anchor
    else if c = '!' then s.tag
    else if c = '|' ∧ !s.inFlow then s.blockScalar true
    else if c = '>' ∧ !s.inFlow then s.blockScalar false
    else if c = '\'' then s.quotedScalar .single
    else if c = '"' then s.quotedScalar .double
    else if beginsPlain s.inFlow c rest then s.plainScalar
    else none

/-- Reads the next token, and the ends of block collections before it. -/
def next (s : Scan) : Option Scan :=
  let s := toNextToken (s.cursor.rest.length + 1) s
  s.dropStale.bind fun s => (s.closeBlocks s.cursor.mark.column).tokenHere

/-- Whether the end of the text has been read. -/
def isFinished (s : Scan) : Bool := s.tokens.head?.any (fun token => token.kind == .streamEnd)

/-- Reads tokens up to the end of the text. -/
def loop : Nat → Scan → Option (List Token)
  | 0, _ => none
  | fuel + 1, s =>
    if s.isFinished then some s.tokens.reverse
    else s.next.bind (loop fuel)

end Scan

/-- The tokens of a text; none if it is malformed. -/
def tokens? (text : List Char) : Option (List Token) :=
  if text.all isAllowed then Scan.loop (text.length + 2) (.start text) else none

end EntityForge.Yaml
