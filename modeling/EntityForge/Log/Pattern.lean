import EntityForge.Text.Blank
import EntityForge.Text.Hexadecimal
import EntityForge.Text.Letters

/-!
# Patterns for the values of fields

A directive of a log filter may ask for a value that matches a pattern. No event has a field whose
value could be held against one, so that nothing here matches anything; but a directive with a
malformed pattern cannot be read, and `Pattern.isWellFormed` tells which patterns are well formed.

A pattern is made of characters, places, sets in square brackets and groups in parentheses, with
bars between alternatives; `?`, `*` and `+` repeat what stands before them. The flags of a group
choose the `Mode` of what follows in it. A pattern that means the characters of ASCII alone has to
match whole characters all the same, so that it may not ask for everything but some of them.
A closing brace ends the field of a directive. Hence nothing can be put between braces: no count of
repetitions, no code and no name of a set. The parts of a pattern may be nested in each other to a
certain depth.
-/

set_option autoImplicit false

namespace EntityForge.Pattern

/-! ## Modes -/

/-- How a part of a pattern is written and meant. -/
structure Mode where
  /-- Whether blanks and comments are skipped. -/
  spaced : Bool
  /-- Whether the characters of every script are meant, or else those of ASCII alone. -/
  unicode : Bool
deriving DecidableEq, Repr

namespace Mode

/-- The mode in which a pattern begins. -/
def standard : Mode := ⟨false, true⟩

/-- The text behind blanks and comments; a comment ends with its line. -/
def behindSpace : Bool → List Char → List Char
  | _, [] => []
  | true, c :: cs => behindSpace (c != '\n') cs
  | false, c :: cs =>
    if Text.isBlank c then behindSpace false cs
    else if c == '#' then behindSpace true cs
    else c :: cs

/-- The text without what is skipped in front of it. -/
def dropSpace (mode : Mode) (cs : List Char) : List Char :=
  if mode.spaced then behindSpace false cs else cs

/-- The character that tells whether a hyphen in front of a text stands for itself: the next one
that is neither blank nor the mark of a comment. -/
def next? (mode : Mode) (cs : List Char) : Option Char :=
  if mode.spaced then
    match cs.dropWhile Text.isBlank with
    | '#' :: rest => (rest.dropWhile Text.isBlank).head?
    | rest => rest.head?
  else cs.head?

end Mode

/-! ## Escapes -/

/-- What an escape or a single character stands for. -/
inductive Atom where
  /-- A character. -/
  | character (c : Char)
  /-- Any character of a set. -/
  | set
  /-- A place between two characters. -/
  | place
deriving DecidableEq, Repr

/-- How many hexadecimal digits a letter announces. -/
def codeWidth? : Char → Option Nat
  | 'x' => some 2
  | 'u' => some 4
  | 'U' => some 8
  | _ => none

/-- The number that so many hexadecimal digits state. -/
def code? (mode : Mode) : Nat → Nat → List Char → Option (Nat × List Char)
  | 0, value, cs => some (value, cs)
  | count + 1, value, cs =>
    match mode.dropSpace cs with
    | [] => none
    | c :: rest => (Text.hexValue? c).bind fun digit => code? mode count (16 * value + digit) rest

/-- The sets that have a letter as their name: controls and the like, letters, marks, numerals,
punctuation, symbols and separators. -/
def categories : List Char := ['c', 'l', 'm', 'n', 'p', 's', 'z']

/-- The characters that have a letter as their escape. -/
def controls : List (Char × Char) :=
  [('a', '\x07'), ('f', '\x0c'), ('t', '\t'), ('n', '\n'), ('r', '\r'), ('v', '\x0b')]

/-- Whether an escaped character stands for itself. -/
def isEscapable (c : Char) : Bool :=
  decide (c.toNat < 0x80) && !c.isAlphanum && c != '<' && c != '>'

/-- Reads an escape after its backslash. The bounds of words cannot be searched for among the
characters of every script. -/
def escape? (mode : Mode) : List Char → Option (Atom × List Char)
  | [] => none
  | c :: cs =>
    match codeWidth? c with
    | some width =>
      (code? mode width 0 cs).bind fun (code, rest) =>
        if code.isValidChar ∧ (mode.unicode ∨ width ≠ 2 ∨ code < 0x80) then
          some (.character (Char.ofNat code), rest)
        else none
    | none =>
      if c == 'p' || c == 'P' then
        match mode.dropSpace cs with
        | [] => none
        | name :: rest =>
          if mode.unicode && categories.contains name.toLower then some (.set, rest) else none
      else if ['d', 's', 'w'].contains c then some (.set, cs)
      else if ['D', 'S', 'W'].contains c then if mode.unicode then some (.set, cs) else none
      else if ['b', 'B', '<', '>'].contains c then if mode.unicode then none else some (.place, cs)
      else if c == 'A' || c == 'z' then some (.place, cs)
      else if isEscapable c then some (.character c, cs)
      else (controls.lookup c).map fun c => (.character c, cs)

/-! ## Depth -/

/-- Parts that stand side by side. A part is nested as deep as it holds others within it. -/
structure Parts where
  /-- How many there are. -/
  count : Nat
  /-- How deep those before the last are nested. -/
  earlier : Nat
  /-- How deep the last is nested. -/
  last : Nat
deriving DecidableEq, Repr

namespace Parts

/-- No parts. -/
def none : Parts := ⟨0, 0, 0⟩

/-- Adds a part that is nested so deep. -/
def add (parts : Parts) (depth : Nat) : Parts :=
  ⟨parts.count + 1, max parts.earlier parts.last, depth⟩

/-- Adds several parts that are not nested. -/
def addFlat (parts : Parts) : Nat → Parts
  | 0 => parts
  | count + 1 => (parts.add 0).addFlat count

/-- Repeats the last part, which is nested in its repetition. -/
def repeatLast (parts : Parts) : Parts := { parts with last := parts.last + 1 }

/-- How deep the parts are nested; several parts are nested in their row. -/
def depth (parts : Parts) : Nat :=
  let deepest := max parts.earlier parts.last
  if parts.count ≤ 1 then deepest else deepest + 1

end Parts

/-- How deep the parts of a pattern may be nested. -/
def depthLimit : Nat := 250

/-! ## Sets -/

/-- The names of sets between colons. -/
def namedSets : List String :=
  ["alnum", "alpha", "ascii", "blank", "cntrl", "digit", "graph", "lower", "print", "punct", "space",
   "upper", "word", "xdigit"]

/-- Reads a named set after its bracket, and whether everything but the set is meant. -/
def namedSet? : List Char → Option (Bool × List Char)
  | ':' :: rest =>
    let isNegated := rest.head? == some '^'
    let rest := if isNegated then rest.drop 1 else rest
    match rest.dropWhile (· != ':') with
    | ':' :: ']' :: behind =>
      if namedSets.contains (String.ofList (rest.takeWhile (· != ':'))) then
        some (isNegated, behind)
      else none
    | _ => none
  | _ => none

/-- Reads hyphens and what is skipped between them, and counts them. -/
def hyphens (mode : Mode) : Nat → List Char → Nat × List Char
  | 0, cs => (0, cs)
  | fuel + 1, cs =>
    match mode.dropSpace cs with
    | '-' :: rest =>
      let (count, rest) := hyphens mode fuel rest
      (count + 1, rest)
    | rest => (0, rest)

/-- Reads the head of a set after its bracket: a negation, hyphens that stand for themselves and,
without any of these, a closing bracket that stands for itself. -/
def openSet? (mode : Mode) (cs : List Char) : Option (Parts × List Char) :=
  match mode.dropSpace cs with
  | '^' :: rest => if mode.unicode then some (members rest) else none
  | rest => some (members rest)
where
  /-- Reads what stands for itself at the head of a set. -/
  members (cs : List Char) : Parts × List Char :=
    match hyphens mode (cs.length + 1) cs with
    | (0, ']' :: rest) => (Parts.none.add 0, rest)
    | (count, rest) => (Parts.none.addFlat count, rest)

/-- Whether a set may have a member. -/
def Atom.isMember (mode : Mode) : Atom → Bool
  | .character c => mode.unicode || decide (c.toNat < 0x80)
  | .set => true
  | .place => false

/-- Reads a character or an escape. -/
def atom? (mode : Mode) : List Char → Option (Atom × List Char)
  | [] => none
  | '\\' :: rest => escape? mode rest
  | c :: rest => some (.character c, rest)

/-- Reads a member of a set, or all between two characters with a hyphen between them. A hyphen
stands for itself in front of another one and at the end of the set. -/
def member? (mode : Mode) (cs : List Char) : Option (List Char) :=
  (atom? mode cs).bind fun (low, rest) =>
    if !low.isMember mode then none
    else
      match mode.dropSpace rest with
      | '-' :: behind =>
        if [some ']', some '-'].contains (mode.next? behind) then some ('-' :: behind)
        else
          (atom? mode (mode.dropSpace behind)).bind fun (high, rest) =>
            match low, high with
            | .character a, .character b =>
              if a ≤ b ∧ high.isMember mode then some rest else none
            | _, _ => none
      | rest => some rest

/-- A set that is open. -/
structure SetLevel where
  /-- How deep that is nested which has been combined with what follows. -/
  combined : Option Nat
  /-- The members since then. -/
  members : Parts
deriving DecidableEq, Repr

namespace SetLevel

/-- How deep a set is nested that closes here. -/
def depth (level : SetLevel) : Nat :=
  match level.combined with
  | none => level.members.depth
  | some depth => max depth level.members.depth + 1

/-- Adds a member that is nested so deep. -/
def add (level : SetLevel) (depth : Nat) : SetLevel :=
  { level with members := level.members.add depth }

/-- Combines a set so far with what follows. -/
def combine (level : SetLevel) : SetLevel := ⟨some level.depth, Parts.none⟩

end SetLevel

/-- Reads a set from behind its head, and tells how deep it is nested; `outer` are the sets in which
it lies. Two of the same mark combine two sets. -/
def closeSet? (mode : Mode) :
    Nat → SetLevel → (outer : List SetLevel) → List Char → Option (Nat × List Char)
  | 0, _, _, _ => none
  | fuel + 1, level, outer, cs =>
    match mode.dropSpace cs with
    | [] => none
    | '[' :: rest =>
      match namedSet? rest with
      | some (isNegated, rest) =>
        if isNegated && !mode.unicode then none else closeSet? mode fuel (level.add 0) outer rest
      | none =>
        (openSet? mode rest).bind fun (members, rest) =>
          closeSet? mode fuel ⟨none, members⟩ (level :: outer) rest
    | ']' :: rest =>
      match outer with
      | [] => some (level.depth + 1, rest)
      | around :: outer => closeSet? mode fuel (around.add (level.depth + 1)) outer rest
    | '&' :: '&' :: rest => closeSet? mode fuel level.combine outer rest
    | '-' :: '-' :: rest => closeSet? mode fuel level.combine outer rest
    | '~' :: '~' :: rest => closeSet? mode fuel level.combine outer rest
    | rest => (member? mode rest).bind (closeSet? mode fuel (level.add 0) outer)

/-- Reads a set after its bracket, and tells how deep it is nested. -/
def set? (mode : Mode) (cs : List Char) : Option (Nat × List Char) :=
  (openSet? mode cs).bind fun (members, rest) =>
    closeSet? mode (cs.length + 1) ⟨none, members⟩ [] rest

/-! ## Groups -/

/-- Whether a text can be the name of a group. -/
def isGroupName : List Char → Bool
  | [] => false
  | c :: cs =>
    (c == '_' || Text.isLetter c)
      && cs.all fun c => ['_', '.', '[', ']'].contains c || Text.isLetterOrNumeral c

/-- The letters of the flags: case, lines, dots, greed, scripts, line ends and spaces. -/
def flagLetters : List Char := ['i', 'm', 's', 'U', 'u', 'R', 'x']

/-- Whether a text states flags: none twice, with a minus before those that are taken back. -/
def areFlags (flags : List Char) : Bool :=
  flags.all (fun c => c == '-' || flagLetters.contains c)
    && decide flags.Nodup && flags.getLast? != some '-'

/-- Whether flags set one or take it back, if they state it. -/
def flag? (flags : List Char) (letter : Char) : Option Bool :=
  if flags.contains letter then some (!(flags.takeWhile (· != letter)).contains '-') else none

/-- The mode that flags choose. -/
def Mode.with (mode : Mode) (flags : List Char) : Mode :=
  ⟨(flag? flags 'x').getD mode.spaced, (flag? flags 'u').getD mode.unicode⟩

/-- What a parenthesis opens. -/
inductive Opening where
  /-- A group that has a mode and perhaps a name. -/
  | group (mode : Mode) (name : Option (List Char))
  /-- No group but a new mode. -/
  | setting (mode : Mode)
deriving DecidableEq, Repr

/-- Reads the name of a group after its bracket. -/
def named? (mode : Mode) (cs : List Char) : Option (Opening × List Char) :=
  let name := cs.takeWhile (· != '>')
  match cs.dropWhile (· != '>') with
  | [] => none
  | _ :: rest => if isGroupName name then some (.group mode (some name), rest) else none

/-- Reads flags after their question mark. -/
def flagged? (mode : Mode) (cs : List Char) : Option (Opening × List Char) :=
  let isFlag (c : Char) : Bool := c != ':' && c != ')'
  let flags := cs.takeWhile isFlag
  if !areFlags flags then none
  else
    match cs.dropWhile isFlag with
    | [] => none
    | ':' :: rest => some (.group (mode.with flags) none, rest)
    | _ :: rest => if flags.isEmpty then none else some (.setting (mode.with flags), rest)

/-- Reads what stands at the head of a group after its parenthesis. -/
def opening? (mode : Mode) (cs : List Char) : Option (Opening × List Char) :=
  match mode.dropSpace cs with
  | '?' :: 'P' :: '<' :: rest => named? mode rest
  | '?' :: '<' :: rest => named? mode rest
  | '?' :: rest => flagged? mode rest
  | rest => some (.group mode none, rest)

/-! ## Patterns -/

/-- A group that is open, or the whole pattern. -/
structure Level where
  /-- The mode of what follows in it. -/
  mode : Mode
  /-- The alternatives that are complete. -/
  alternatives : Parts
  /-- The parts of the last alternative. -/
  parts : Parts
deriving DecidableEq, Repr

namespace Level

/-- A group in which nothing has been read. -/
def empty (mode : Mode) : Level := ⟨mode, Parts.none, Parts.none⟩

/-- Adds a part that is nested so deep. -/
def add (level : Level) (depth : Nat) : Level := { level with parts := level.parts.add depth }

/-- Goes on to the next alternative. -/
def endAlternative (level : Level) : Level :=
  ⟨level.mode, level.alternatives.add level.parts.depth, Parts.none⟩

/-- How deep a group is nested that closes here. -/
def depth (level : Level) : Nat := level.endAlternative.alternatives.depth

end Level

/-- How far a pattern has been read. -/
structure Progress where
  /-- The innermost group. -/
  level : Level
  /-- The groups around it, from the inside out. -/
  outer : List Level
  /-- The names of groups. -/
  names : List (List Char)
  /-- Whether there is something in front that can be repeated. -/
  repeatable : Bool

namespace Progress

/-- Nothing has been read. -/
def start : Progress := ⟨.empty Mode.standard, [], [], false⟩

/-- The mode of what follows. -/
def mode (p : Progress) : Mode := p.level.mode

/-- Something has been read that can be repeated and is nested so deep. -/
def solid (p : Progress) (depth : Nat) : Progress :=
  { p with level := p.level.add depth, repeatable := true }

/-- A group or a new mode begins. -/
def opened (p : Progress) : Opening → Option Progress
  | .setting mode => some { p with level := { p.level.add 0 with mode }, repeatable := false }
  | .group mode none =>
    some { p with level := .empty mode, outer := p.level :: p.outer, repeatable := false }
  | .group mode (some name) =>
    if p.names.contains name then none
    else some ⟨.empty mode, p.level :: p.outer, name :: p.names, false⟩

/-- A group ends. -/
def closed (p : Progress) : Option Progress :=
  match p.outer with
  | [] => none
  | around :: outer => some ({ p with level := around, outer }.solid (p.level.depth + 1))

/-- What is in front is repeated. -/
def repeated (p : Progress) : Option Progress :=
  if p.repeatable then some { p with level.parts := p.level.parts.repeatLast } else none

/-- Reads the next part of a pattern. -/
def step (p : Progress) : List Char → Option (Progress × List Char)
  | [] => none
  | '(' :: rest =>
    (opening? p.mode rest).bind fun (opening, rest) => (p.opened opening).map fun p => (p, rest)
  | ')' :: rest => p.closed.map fun p => (p, rest)
  | '|' :: rest => some ({ p with level := p.level.endAlternative, repeatable := false }, rest)
  | '[' :: rest => (set? p.mode rest).map fun (depth, rest) => (p.solid depth, rest)
  | '\\' :: rest => (escape? p.mode rest).map fun (_, rest) => (p.solid 0, rest)
  | '.' :: rest => if p.mode.unicode then some (p.solid 0, rest) else none
  | '\x7b' :: _ => none
  | c :: rest =>
    if ['?', '*', '+'].contains c then
      p.repeated.map fun p => (p, if rest.head? = some '?' then rest.drop 1 else rest)
    else some (p.solid 0, rest)

/-- Whether a pattern may end here. -/
def mayEnd (p : Progress) : Bool := p.outer.isEmpty && decide (p.level.depth ≤ depthLimit)

/-- Whether the rest of a pattern is well formed. -/
def isCompletedBy : Nat → Progress → List Char → Bool
  | 0, _, _ => false
  | fuel + 1, p, cs =>
    match p.mode.dropSpace cs with
    | [] => p.mayEnd
    | rest =>
      match p.step rest with
      | some (p, rest) => isCompletedBy fuel p rest
      | none => false

end Progress

/-- Whether a text is a well-formed pattern. -/
def isWellFormed (cs : List Char) : Bool := Progress.start.isCompletedBy (cs.length + 1) cs

end EntityForge.Pattern
