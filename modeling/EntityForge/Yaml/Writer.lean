import EntityForge.Yaml.Cursor
import EntityForge.Yaml.Scalar

/-!
# Writing a mapping of texts

A mapping of keys to texts is written with one entry per line. A text is written plainly if that
reads back as the same text. A text of several lines is written as a literal block scalar, one that
would mean something else in single quotes, and one with characters that cannot be written as they
are in double quotes with escapes. Lines are as long as their text.
-/

set_option autoImplicit false

namespace EntityForge.Yaml

/-! ## What a text allows -/

/-- Whether a character can be written as it is. -/
def isPrintable (c : Char) : Bool :=
  let n := c.toNat
  n == 0x0A || (0x20 ≤ n && n ≤ 0x7E) || (0xA0 ≤ n && n ≤ 0xFFFD && n != 0xFEFF) || 0x10000 ≤ n

/-- Whether a text begins like a mark of a document. -/
def beginsLikeMark (text : List Char) : Bool :=
  text.take 3 == ['-', '-', '-'] || text.take 3 == ['.', '.', '.']

/-- Whether the first character of a text keeps it from being plain. -/
def firstForbids : List Char → Bool
  | [] => false
  | c :: rest =>
    "#,[]\x7b\x7d&*!|>'\"%@`".toList.contains c
      || ((c = '?' || c = ':' || c = '-') && atWordEnd rest)

/-- Whether a later character keeps a text from being plain; `before` comes before the text. -/
def laterForbids (before : Char) : List Char → Bool
  | [] => false
  | c :: rest =>
    (c = ':' && atWordEnd rest) || (c = '#' && (isGap before || isBreak before))
      || laterForbids c rest

/-- Whether two neighbours of the given classes occur in a text. -/
def hasNeighbours (p q : Char → Bool) : List Char → Bool
  | a :: b :: rest => (p a && q b) || hasNeighbours p q (b :: rest)
  | _ => false

/-- Whether a character is a space. -/
def isSpace (c : Char) : Bool := c = ' '

/-- Whether the first or the last character of a text belongs to a class. -/
def isEdgedBy (p : Char → Bool) (text : List Char) : Bool :=
  text.head?.any p || text.getLast?.any p

/-- Whether a text can be written in single quotes. -/
def allowsSingle (text : List Char) : Bool :=
  text.all isPrintable && !hasNeighbours isBreak isSpace text && !hasNeighbours isSpace isBreak text

/-- Whether a text can be written plainly. -/
def allowsPlain (text : List Char) : Bool :=
  let forbidden :=
    match text with
    | [] => false
    | c :: rest => firstForbids text || laterForbids c rest
  allowsSingle text && !beginsLikeMark text && !forbidden && !text.any isBreak
    && !isEdgedBy isSpace text

/-- Whether a text can be written as a literal block scalar. -/
def allowsLiteral (text : List Char) : Bool :=
  text.all isPrintable && !hasNeighbours isSpace isBreak text && !text.getLast?.any isSpace

/-! ## Styles -/

/-- How a text is written. -/
inductive Style where
  | plain
  | single
  | double
  | literal
deriving DecidableEq, Repr

/-- Whether a plain scalar of a text reads back as that text. -/
def readsAsText (text : List Char) : Bool :=
  plainMeaning text == .text (String.ofList text) && !hasSuperfluousZero text

/-- The style in which a text is written. -/
def styleOf (text : List Char) : Style :=
  if text.contains '\n' then (if allowsLiteral text then .literal else .double)
  else if readsAsText text && allowsPlain text then .plain
  else if allowsSingle text then .single
  else .double

/-! ## Text in each style -/

/-- The indentation of the lines of a value. -/
def valueIndent : List Char := [' ', ' ']

/-- The text inside single quotes; after line ends the next line is indented. -/
def singleInside (afterBreak : Bool) : List Char → List Char
  | [] => if afterBreak then valueIndent else []
  | c :: rest =>
    if isBreak c then c :: singleInside true rest
    else
      let indent := if afterBreak && c != ' ' then valueIndent else []
      let written := if c = '\'' then ['\'', '\''] else [c]
      indent ++ written ++ singleInside (afterBreak && c == ' ') rest

/-- The letter of the escape for a character that has one. -/
def escapeLetter? (c : Char) : Option Char :=
  match c.toNat with
  | 0x00 => some '0'
  | 0x07 => some 'a'
  | 0x08 => some 'b'
  | 0x09 => some 't'
  | 0x0A => some 'n'
  | 0x0B => some 'v'
  | 0x0C => some 'f'
  | 0x0D => some 'r'
  | 0x1B => some 'e'
  | 0x22 => some '"'
  | 0x5C => some '\\'
  | 0x85 => some 'N'
  | 0xA0 => some '_'
  | 0x2028 => some 'L'
  | 0x2029 => some 'P'
  | _ => none

/-- The upper-case hexadecimal digits of a number, at least `width` of them. -/
def upperHex (width n : Nat) : List Char :=
  let digits := (Nat.toDigits 16 n).map Char.toUpper
  List.replicate (width - digits.length) '0' ++ digits

/-- The escape of a character by its code. -/
def codeEscape (c : Char) : List Char :=
  let n := c.toNat
  if n ≤ 0xFF then '\\' :: 'x' :: upperHex 2 n
  else if n ≤ 0xFFFF then '\\' :: 'u' :: upperHex 4 n
  else '\\' :: 'U' :: upperHex 8 n

/-- What stands for a character inside double quotes. -/
def doubleChar (c : Char) : List Char :=
  if isPrintable c && !isBreak c && c != '"' && c != '\\' then [c]
  else
    match escapeLetter? c with
    | some letter => ['\\', letter]
    | none => codeEscape c

/-- The header of a literal block scalar after its mark. -/
def literalHeader (text : List Char) : List Char :=
  let indent := if startsWith (fun c => isSpace c || isBreak c) text then ['2'] else []
  let chomping :=
    match text.reverse with
    | [] => ['-']
    | last :: before =>
      if !isBreak last then ['-']
      else if before.isEmpty || startsWith isBreak before then ['+']
      else []
  indent ++ chomping

/-- The lines of a literal block scalar; `afterBreak` says that a line begins. -/
def literalLines (afterBreak : Bool) : List Char → List Char
  | [] => []
  | c :: rest =>
    if isBreak c then c :: literalLines true rest
    else (if afterBreak then valueIndent else []) ++ c :: literalLines false rest

/-- A text as a value, with the end of its last line. -/
def valueChars (text : List Char) : List Char :=
  match styleOf text with
  | .plain => text ++ ['\n']
  | .single => '\'' :: (singleInside false text ++ ['\'', '\n'])
  | .double => '"' :: (text.flatMap doubleChar ++ ['"', '\n'])
  | .literal =>
    let lines := literalLines true text
    let ending := if text.getLast?.any isBreak then [] else ['\n']
    '|' :: (literalHeader text ++ '\n' :: (lines ++ ending))

/-- A mapping of plain keys to texts, with one entry per line. -/
def mappingChars (entries : List (String × String)) : List Char :=
  entries.flatMap fun entry => entry.1.toList ++ ':' :: ' ' :: valueChars entry.2.toList

end EntityForge.Yaml
