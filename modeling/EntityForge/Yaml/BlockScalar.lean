import EntityForge.Yaml.Cursor

/-!
# Block scalars

A block scalar is made of whole lines that are indented. In a literal one every line end counts. In
a folded one a line end between two lines that begin with no blank stands for a space, or for
nothing if empty lines follow it. What happens to the line ends after the last line is the choice
of the scalar's header, which may also state the indentation; else the first line that is not empty
gives it.
-/

set_option autoImplicit false

namespace EntityForge.Yaml

/-- What happens to the line ends after the last line of a block scalar. -/
inductive Chomping where
  /-- All of them are dropped. -/
  | strip
  /-- The first one stays. -/
  | clip
  /-- All of them stay. -/
  | keep
deriving DecidableEq, Repr

/-- The header of a block scalar. -/
structure BlockHeader where
  /-- What happens to the line ends after the last line. -/
  chomping : Chomping
  /-- The stated indentation, or zero. -/
  increment : Nat

/-- Reads a digit that states an indentation; a zero is refused. -/
def indentDigit? : List Char → Option (Option Nat)
  | [] => some none
  | c :: _ =>
    if c.isDigit then (if c = '0' then none else some (some (c.toNat - 48))) else some none

/-- The chomping that a text begins with. -/
def chompingMark? : List Char → Option Chomping
  | '+' :: _ => some .keep
  | '-' :: _ => some .strip
  | _ => none

/-- Reads the two optional parts of a header, which come in either order. -/
def blockHeader (c : Cursor) : Option (BlockHeader × Cursor) :=
  match chompingMark? c.rest with
  | some chomping =>
    let c := c.advance 1
    match indentDigit? c.rest with
    | none => none
    | some none => some (⟨chomping, 0⟩, c)
    | some (some increment) => some (⟨chomping, increment⟩, c.advance 1)
  | none =>
    match indentDigit? c.rest with
    | none => none
    | some none => some (⟨.clip, 0⟩, c)
    | some (some increment) =>
      let c := c.advance 1
      match chompingMark? c.rest with
      | some chomping => some (⟨chomping, increment⟩, c.advance 1)
      | none => some (⟨.clip, increment⟩, c)

/-- The empty lines before a line of a block scalar. -/
structure EmptyLines where
  /-- The ends of the empty lines. -/
  breaks : List Char
  /-- The largest column that was reached. -/
  column : Nat
  /-- Where the next line's text begins. -/
  after : Cursor

/-- Reads indentation and empty lines; an indentation of zero is not known yet. -/
def emptyLines (indent : Nat) : Nat → EmptyLines → Option EmptyLines
  | 0, lines => some lines
  | fuel + 1, lines =>
    let c := lines.after
    let spaces := (c.rest.takeWhile (· == ' ')).length
    let spaces := if indent = 0 then spaces else min spaces (indent - c.mark.column)
    let c := c.advance spaces
    let column := max lines.column c.mark.column
    if (indent = 0 ∨ c.mark.column < indent) ∧ startsWith (· == '\t') c.rest then none
    else if startsWith isBreak c.rest then
      let (lineEnd, after) := c.lineEnd
      emptyLines indent fuel ⟨lines.breaks ++ lineEnd, column, after⟩
    else some ⟨lines.breaks, column, c⟩

/-- Reads indentation and empty lines at a cursor. -/
def passEmptyLines (indent : Nat) (c : Cursor) : Option EmptyLines :=
  emptyLines indent ((c.rest.takeWhile fun b => b == ' ' || isBreak b).length + 1) ⟨[], 0, c⟩

/-- The text of a block scalar up to its last line, with the line ends after it. -/
structure BlockText where
  /-- The text up to the last line. -/
  text : List Char
  /-- The end of the last line. -/
  lineEnd : List Char
  /-- The ends of the empty lines after it. -/
  breaks : List Char
  /-- Where reading goes on. -/
  after : Cursor

/-- Reads the lines of a block scalar. -/
def blockLines (literal : Bool) (indent : Nat) :
    Nat → (lineEnd breaks : List Char) → (blankBefore : Bool) → Cursor → Option BlockText
  | 0, lineEnd, breaks, _, c => some ⟨[], lineEnd, breaks, c⟩
  | fuel + 1, lineEnd, breaks, blankBefore, c =>
    if c.mark.column = indent ∧ !c.rest.isEmpty then
      let blank := startsWith isGap c.rest
      let joint :=
        if !literal && startsWith (· == '\n') lineEnd && !blankBefore && !blank then
          (if breaks.isEmpty then [' '] else [])
        else lineEnd
      let line := c.rest.takeWhile (fun b => !isBreak b)
      let (lineEnd, next) := (c.advance line.length).lineEnd
      match passEmptyLines indent next with
      | none => none
      | some lines =>
        (blockLines literal indent fuel lineEnd lines.breaks blank lines.after).map fun more =>
          { more with text := joint ++ breaks ++ line ++ more.text }
    else some ⟨[], lineEnd, breaks, c⟩

/-- Reads a block scalar after its mark; `parent` is the indentation around it. -/
def readBlock (literal : Bool) (parent : Int) (c : Cursor) : Option (List Char × Cursor) :=
  match blockHeader c with
  | none => none
  | some (header, c) =>
    let c := (c.pass isGap).passComment
    if !atLineEnd c.rest then none
    else
      let stated := if header.increment = 0 then 0 else (max parent 0).toNat + header.increment
      match passEmptyLines stated c.lineEnd.2 with
      | none => none
      | some lines =>
        let indent := if stated = 0 then max (max lines.column (parent + 1).toNat) 1 else stated
        match blockLines literal indent (c.rest.length + 1) [] lines.breaks false lines.after with
        | none => none
        | some block =>
          let ending :=
            match header.chomping with
            | .strip => []
            | .clip => block.lineEnd
            | .keep => block.lineEnd ++ block.breaks
          some (block.text ++ ending, block.after)

end EntityForge.Yaml
