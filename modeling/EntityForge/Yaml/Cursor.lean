import EntityForge.Yaml.Refusal

/-!
# Going through a YAML text

A cursor is the unread text with the mark of its first character. Spaces and tabs are gaps; a line
ends with a line feed, a carriage return or both, or with one of three further characters. When a
line end is read into a scalar it becomes a line feed, except for the line and the paragraph
separator, which stay as they are.
-/

set_option autoImplicit false

namespace EntityForge.Yaml

/-- Whether a character separates words on a line. -/
def isGap (c : Char) : Bool := c = ' ' || c = '\t'

/-- Whether a character separates lines and stays as it is when it is read. -/
def isSeparator (c : Char) : Bool := c.toNat == 0x2028 || c.toNat == 0x2029

/-- Whether a character ends a line. -/
def isBreak (c : Char) : Bool :=
  c = '\n' || c = '\r' || c.toNat == 0x85 || isSeparator c

/-- Whether a text begins with a character of a class. -/
def startsWith (p : Char → Bool) : List Char → Bool
  | [] => false
  | c :: _ => p c

/-- Whether no word goes on at the beginning of a text. -/
def atWordEnd : List Char → Bool
  | [] => true
  | c :: _ => isGap c || isBreak c

/-- Whether the line ends at the beginning of a text. -/
def atLineEnd : List Char → Bool
  | [] => true
  | c :: _ => isBreak c

/-- Whether a character may occur in a YAML text at all. -/
def isAllowed (c : Char) : Bool :=
  let n := c.toNat
  n == 0x09 || n == 0x0A || n == 0x0D || (0x20 ≤ n && n ≤ 0x7E) || n == 0x85
    || (0xA0 ≤ n && n ≤ 0xFFFD) || 0x10000 ≤ n

/-- Whether a character is a letter, a digit, an underscore or a hyphen. -/
def isWordChar (c : Char) : Bool := c.isAlphanum || c = '_' || c = '-'

/-- The unread text and where it begins. -/
structure Cursor where
  /-- The unread text. -/
  rest : List Char
  /-- The place of its first character. -/
  mark : Mark

namespace Cursor

/-- The beginning of a text. -/
def start (text : List Char) : Cursor := ⟨text, ⟨0, 0, 0⟩⟩

/-- The cursor some characters further on the same line. -/
def advance (c : Cursor) (count : Nat) : Cursor :=
  ⟨c.rest.drop count, ⟨c.mark.index + count, c.mark.line, c.mark.column + count⟩⟩

/-- The cursor after the characters of a class. -/
def pass (c : Cursor) (p : Char → Bool) : Cursor := c.advance (c.rest.takeWhile p).length

/-- The cursor on the next line, of which `count` characters before it end this one. -/
def newLine (c : Cursor) (count : Nat) : Cursor :=
  ⟨c.rest.drop count, ⟨c.mark.index + count, c.mark.line + 1, 0⟩⟩

/-- Reads a line end, if there is one here, as it is read into a scalar. -/
def lineEnd (c : Cursor) : List Char × Cursor :=
  match c.rest with
  | '\r' :: '\n' :: _ => (['\n'], c.newLine 2)
  | b :: _ =>
    if isSeparator b then ([b], c.newLine 1)
    else if isBreak b then (['\n'], c.newLine 1)
    else ([], c)
  | [] => ([], c)

/-- Whether a line begins here with a mark that begins or ends a document. -/
def atDocumentMark (c : Cursor) : Bool :=
  c.mark.column == 0
    && match c.rest with
      | '-' :: '-' :: '-' :: rest => atWordEnd rest
      | '.' :: '.' :: '.' :: rest => atWordEnd rest
      | _ => false

/-- The cursor after a comment, if one begins here. -/
def passComment (c : Cursor) : Cursor :=
  if startsWith (· == '#') c.rest then c.pass (fun b => !isBreak b) else c

end Cursor

end EntityForge.Yaml
