import EntityForge.Text.Hexadecimal
import EntityForge.Yaml.Cursor

/-!
# Plain and quoted scalars

A scalar that is plain or quoted may go over several lines. The blanks around a line end do not
count; one line end stands for a space, and of several the first one does not count.

A plain scalar ends where a colon before a gap or a comment follows, in a flow collection also at
the collection's marks, and otherwise where a line is indented less than it has to be. In single
quotes a quote is written twice. In double quotes a backslash begins an escape, and at the end of a
line it joins the next line without a space.
-/

set_option autoImplicit false

namespace EntityForge.Yaml

/-! ## Gaps -/

/-- What lies between two words of a scalar. -/
structure Gap where
  /-- The blanks before the first line end. -/
  blanks : List Char
  /-- The first line end. -/
  first : List Char
  /-- The line ends after the first one. -/
  later : List Char
  /-- Whether there was a line end. -/
  broken : Bool

namespace Gap

/-- Nothing between two words. -/
def none : Gap := ⟨[], [], [], false⟩

/-- The gap after a line end that was escaped. -/
def escapedBreak : Gap := ⟨[], [], [], true⟩

/-- What several line ends stand for. -/
def folded (first later : List Char) : List Char :=
  if startsWith (· == '\n') first then (if later.isEmpty then [' '] else later)
  else first ++ later

/-- What a gap stands for. -/
def text (gap : Gap) : List Char :=
  if gap.broken then folded gap.first gap.later else gap.blanks

end Gap

/-- Reads blanks and line ends; a tab that stands left of `limit` on a further line is refused. -/
def gapLoop (limit : Nat) : Nat → Gap → Cursor → Option (Gap × Cursor)
  | 0, gap, c => some (gap, c)
  | fuel + 1, gap, c =>
    match c.rest with
    | [] => some (gap, c)
    | b :: _ =>
      if isGap b then
        if gap.broken then
          if b = '\t' ∧ c.mark.column < limit then none
          else gapLoop limit fuel gap (c.advance 1)
        else gapLoop limit fuel { gap with blanks := gap.blanks ++ [b] } (c.advance 1)
      else if isBreak b then
        let (lineEnd, after) := c.lineEnd
        if gap.broken then
          gapLoop limit fuel { gap with later := gap.later ++ lineEnd } after
        else gapLoop limit fuel ⟨[], lineEnd, [], true⟩ after
      else some (gap, c)

/-- Reads the gap before the next word. -/
def readGap (limit : Nat) (gap : Gap) (c : Cursor) : Option (Gap × Cursor) :=
  gapLoop limit ((c.rest.takeWhile fun b => isGap b || isBreak b).length + 1) gap c

/-! ## Plain scalars -/

/-- Whether a character belongs to the marks of flow collections. -/
def isFlowMark (c : Char) : Bool := c = ',' || c = '[' || c = ']' || c = '\x7b' || c = '\x7d'

/-- The word of a plain scalar that a text begins with; none if it is malformed. -/
def plainWord (flow : Bool) : List Char → Option (List Char)
  | [] => some []
  | c :: rest =>
    if isGap c || isBreak c then some []
    else if flow && c = ':' && startsWith (fun b => isFlowMark b || b = '?') rest then none
    else if (c = ':' && atWordEnd rest) || (flow && isFlowMark c) then some []
    else (plainWord flow rest).map (c :: ·)

/-- A plain scalar that was read. -/
structure PlainScalar where
  /-- The text. -/
  text : List Char
  /-- Where reading goes on. -/
  after : Cursor
  /-- Whether a line ended after the last word. -/
  lineEnded : Bool

/-- Reads the words of a plain scalar after a gap. -/
def plainLoop (flow : Bool) (indent : Nat) : Nat → Gap → Cursor → Option PlainScalar
  | 0, gap, c => some ⟨[], c, gap.broken⟩
  | fuel + 1, gap, c =>
    if c.atDocumentMark || startsWith (· == '#') c.rest then some ⟨[], c, gap.broken⟩
    else
      match plainWord flow c.rest with
      | none => none
      | some word =>
        let read := if word.isEmpty then [] else gap.text ++ word
        let pending := if word.isEmpty then gap else Gap.none
        let c := c.advance word.length
        if startsWith (fun b => isGap b || isBreak b) c.rest then
          match readGap indent pending c with
          | none => none
          | some (gap, c) =>
            if !flow && c.mark.column < indent then some ⟨read, c, gap.broken⟩
            else
              (plainLoop flow indent fuel gap c).map fun more =>
                { more with text := read ++ more.text }
        else some ⟨read, c, pending.broken⟩

/-- Reads a plain scalar whose further lines are indented by at least `indent`. -/
def readPlain (flow : Bool) (indent : Nat) (c : Cursor) : Option PlainScalar :=
  plainLoop flow indent (c.rest.length + 1) Gap.none c

/-! ## Quoted scalars -/

/-- The value of the first `count` characters as hexadecimal digits. -/
def hexNumber? : Nat → Nat → List Char → Option Nat
  | 0, value, _ => some value
  | _ + 1, _, [] => none
  | count + 1, value, c :: rest =>
    match Text.hexValue? c with
    | some digit => hexNumber? count (value * 16 + digit) rest
    | none => none

/-- The code that a letter after a backslash names. -/
def escapeCode? (c : Char) : Option Nat :=
  match c with
  | '0' => some 0
  | 'a' => some 7
  | 'b' => some 8
  | 't' | '\t' => some 9
  | 'n' => some 10
  | 'v' => some 11
  | 'f' => some 12
  | 'r' => some 13
  | 'e' => some 27
  | ' ' => some 32
  | '"' => some 34
  | '/' => some 47
  | '\\' => some 92
  | 'N' => some 0x85
  | '_' => some 0xA0
  | 'L' => some 0x2028
  | 'P' => some 0x2029
  | _ => none

/-- How many digits follow a letter after a backslash. -/
def escapeDigits (c : Char) : Nat :=
  match c with
  | 'x' => 2
  | 'u' => 4
  | 'U' => 8
  | _ => 0

/-- Reads an escape after its backslash: the character and how many characters it takes. -/
def readEscape : List Char → Option (Char × Nat)
  | [] => none
  | c :: rest =>
    match escapeCode? c with
    | some code => some (Char.ofNat code, 1)
    | none =>
      let digits := escapeDigits c
      if digits = 0 then none
      else
        match hexNumber? digits 0 rest with
        | none => none
        | some code => if code.isValidChar then some (Char.ofNat code, digits + 1) else none

/-- The quotation mark of a scalar. -/
inductive Quote where
  | single
  | double
deriving DecidableEq, Repr

/-- The character that begins and ends a scalar in quotes. -/
def Quote.mark : Quote → Char
  | .single => '\''
  | .double => '"'

/-- Reads a word in quotes: its text, whether an escaped line end ended it, and what follows. -/
def quotedWord (quote : Quote) : Nat → Cursor → Option (List Char × Bool × Cursor)
  | 0, c => some ([], false, c)
  | fuel + 1, c =>
    match c.rest with
    | [] => some ([], false, c)
    | b :: rest =>
      if isGap b || isBreak b then some ([], false, c)
      else if quote = .single ∧ b = '\'' ∧ startsWith (· == '\'') rest then
        (quotedWord quote fuel (c.advance 2)).map fun (text, more) => ('\'' :: text, more)
      else if b = quote.mark then some ([], false, c)
      else if quote = .double ∧ b = '\\' then
        if startsWith isBreak rest then some ([], true, (c.advance 1).lineEnd.2)
        else
          match readEscape rest with
          | none => none
          | some (meant, count) =>
            (quotedWord quote fuel (c.advance (count + 1))).map fun (text, more) =>
              (meant :: text, more)
      else (quotedWord quote fuel (c.advance 1)).map fun (text, more) => (b :: text, more)

/-- Reads the words of a scalar in quotes up to and with the closing mark. -/
def quotedLoop (quote : Quote) : Nat → Cursor → Option (List Char × Cursor)
  | 0, _ => none
  | fuel + 1, c =>
    if c.atDocumentMark || c.rest.isEmpty then none
    else
      match quotedWord quote (fuel + 1) c with
      | none => none
      | some (word, escapedEnd, c) =>
        if startsWith (· == quote.mark) c.rest then some (word, c.advance 1)
        else
          match readGap 0 (if escapedEnd then Gap.escapedBreak else Gap.none) c with
          | none => none
          | some (gap, c) =>
            (quotedLoop quote fuel c).map fun (more, after) => (word ++ gap.text ++ more, after)

/-- Reads a scalar in quotes after its opening mark. -/
def readQuoted (quote : Quote) (c : Cursor) : Option (List Char × Cursor) :=
  quotedLoop quote (c.rest.length + 1) c

end EntityForge.Yaml
