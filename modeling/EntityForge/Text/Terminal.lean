/-!
# Text without orders to a terminal

Some characters do not stand for a shape but order a terminal about: an escape begins a sequence
that sets a colour, moves the cursor or names the window. Text that is not written to a terminal is
written without such sequences and without other controls than blanks and line ends.

`Terminal.plain` reads a text a character at a time and keeps what a terminal would show.
-/

set_option autoImplicit false

namespace EntityForge.Terminal

/-- Where in a sequence the next character stands. -/
inductive Position where
  /-- In no sequence. -/
  | ground
  /-- After an escape. -/
  | escape
  /-- After an escape and more marks. -/
  | longEscape
  /-- In the parameters of an order. -/
  | control
  /-- At the beginning of an order to a device. -/
  | device
  /-- In the parameters of an order to a device. -/
  | deviceParameters
  /-- In the marks behind the parameters of an order to a device. -/
  | deviceMarks
  /-- In the text for a device. -/
  | deviceText
  /-- In a text for nobody. -/
  | note
  /-- In an order with a text, such as the name of a window. -/
  | command
deriving DecidableEq, Repr

/-- Whether a number lies between two others or is one of them. -/
def isBetween (low high n : Nat) : Bool := decide (low ≤ n) && decide (n ≤ high)

/-- Whether a character is a blank or a line end that is shown even within a sequence. -/
def isSpace (c : Char) : Bool := ['\t', '\n', '\x0c', '\r', ' '].contains c

/-- Whether a character is shown where there is no sequence. -/
def isShown (c : Char) : Bool :=
  isSpace c || isBetween 0x20 0x7e c.toNat || decide (0x80 ≤ c.toNat)

/-- Whether one of the bytes of a character is `0x9c`, which ends a text. It can be any of the
later bytes, and each of these holds six bits of the character. -/
def hasEnd (c : Char) : Bool :=
  ([c.toNat, c.toNat / 0x40, c.toNat / 0x1000].take (c.utf8Size - 1)).any (· % 0x40 == 0x1c)

namespace Position

/-- The place after a character. An escape begins a new sequence everywhere, and two other controls
end one everywhere. -/
def after (p : Position) (c : Char) : Position :=
  if c == '\x1b' then .escape
  else if c == '\x18' || c == '\x1a' then .ground
  else
    match p with
    | .ground => .ground
    | .escape =>
      if isBetween 0x20 0x2f c.toNat then .longEscape
      else if !isBetween 0x20 0x7e c.toNat then .escape
      else
        match c with
        | '[' => .control
        | ']' => .command
        | 'P' => .device
        | 'X' | '^' | '_' => .note
        | _ => .ground
    | .longEscape => if isBetween 0x30 0x7e c.toNat then .ground else .longEscape
    | .control => if isBetween 0x40 0x7e c.toNat then .ground else .control
    | .device =>
      if isBetween 0x20 0x2f c.toNat then .deviceMarks
      else if isBetween 0x30 0x3f c.toNat then .deviceParameters
      else if isBetween 0x40 0x7e c.toNat then .deviceText
      else .device
    | .deviceParameters =>
      if isBetween 0x20 0x2f c.toNat then .deviceMarks
      else if isBetween 0x3c 0x7e c.toNat then .deviceText
      else .deviceParameters
    | .deviceMarks => if isBetween 0x30 0x7e c.toNat then .deviceText else .deviceMarks
    | .deviceText => if hasEnd c then .ground else .deviceText
    | .note => if hasEnd c then .ground else .note
    | .command => if c == '\x07' then .ground else .command

/-- Whether a character is shown at a place. -/
def shows (p : Position) (c : Char) : Bool :=
  match p with
  | .ground => isShown c
  | .escape | .longEscape | .control => isSpace c && c != ' '
  | .device | .deviceParameters | .deviceMarks | .deviceText | .note | .command => false

end Position

/-- How far a text has been read. -/
structure Progress where
  /-- The place of the next character. -/
  position : Position
  /-- Whether a sequence has been interrupted by a character that is shown. What is shown behind it
  does not belong to the sequence either. -/
  isInterrupted : Bool
deriving DecidableEq, Repr

namespace Progress

/-- Nothing has been read. -/
def start : Progress := ⟨.ground, false⟩

/-- Reads a character and tells whether it is shown. A character beyond ASCII that interrupts a
sequence ends it. -/
def step (p : Progress) (c : Char) : Progress × Bool :=
  if p.isInterrupted && isShown c then
    (if c.toNat < 0x80 then p else start, true)
  else
    let isKept := p.position.shows c
    (⟨p.position.after c, isKept && p.position != .ground⟩, isKept)

/-- What is shown of a text. -/
def keep : Progress → List Char → List Char
  | _, [] => []
  | p, c :: cs =>
    let (next, isKept) := p.step c
    if isKept then c :: keep next cs else keep next cs

end Progress

/-- What a terminal would show of a text. -/
def plain (text : String) : String := String.ofList (Progress.start.keep text.toList)

end EntityForge.Terminal
