import EntityForge.Json.Refusal

/-!
# Steps of reading

A step takes the unread text and gives what it read together with the text after it, or it halts.
A halt keeps the cause and the text that was unread at that moment, which fixes the position once
the whole text is known (`Halt.refusal`): steps need not count lines.

Only four characters separate tokens: space, tab, line feed and carriage return.
-/

set_option autoImplicit false

universe u v

namespace EntityForge.Json

/-- Reading stopped: why, before which text, and how many bytes into that text. -/
structure Halt where
  /-- Why reading stopped. -/
  cause : Cause
  /-- The text that was unread. -/
  rest : List Char
  /-- The bytes of it that belong to what was refused. -/
  bytes : Nat

/-- What a step gives: a value and the text after it. -/
abbrev Step (α : Type u) : Type u := Except Halt (α × List Char)

/-- What a step gives that only passes over text. -/
abbrev Pass : Type := Except Halt (List Char)

/-- Goes on with what a step read and the text after it. -/
@[inline] def Step.andThen {α : Type u} {β : Type v} (step : Step α)
    (next : α → List Char → Except Halt β) : Except Halt β :=
  match step with
  | .ok (value, rest) => next value rest
  | .error halt => .error halt

/-- Goes on with the text after what was passed over. -/
@[inline] def Pass.andThen {β : Type v} (pass : Pass) (next : List Char → Except Halt β) :
    Except Halt β :=
  match pass with
  | .ok rest => next rest
  | .error halt => .error halt

@[simp] theorem Step.andThen_ok {α : Type u} {β : Type v} (value : α) (rest : List Char)
    (next : α → List Char → Except Halt β) :
    Step.andThen (.ok (value, rest)) next = next value rest := rfl

@[simp] theorem Step.andThen_error {α : Type u} {β : Type v} (halt : Halt)
    (next : α → List Char → Except Halt β) : Step.andThen (.error halt) next = .error halt := rfl

@[simp] theorem Pass.andThen_ok {β : Type v} (rest : List Char)
    (next : List Char → Except Halt β) : Pass.andThen (.ok rest) next = next rest := rfl

@[simp] theorem Pass.andThen_error {β : Type v} (halt : Halt)
    (next : List Char → Except Halt β) : Pass.andThen (.error halt) next = .error halt := rfl

/-- Halts where the unread text begins. -/
def haltAt {α : Type u} (cause : Cause) (rest : List Char) : Except Halt α :=
  .error ⟨cause, rest, 0⟩

/-- Halts at the first byte of the unread text. -/
def haltPast {α : Type u} (cause : Cause) (rest : List Char) : Except Halt α :=
  .error ⟨cause, rest, 1⟩

/-- The refusal of a text in which reading halted. -/
def Halt.refusal (halt : Halt) (text : List Char) : Refusal :=
  let passed := text.take (text.length - halt.rest.length)
  ⟨halt.cause, (passed.foldl Position.after .start).ahead halt.bytes halt.rest⟩

/-- Whether a character may stand between tokens. -/
def isGap (c : Char) : Bool := c = ' ' || c = '\n' || c = '\t' || c = '\r'

/-- The text from its next token on. -/
def dropGaps (rest : List Char) : List Char := rest.dropWhile isGap

/-- Reads the remaining letters of a word. -/
def word : List Char → List Char → Pass
  | [], rest => .ok rest
  | _ :: _, [] => haltAt .endInValue []
  | letter :: letters, c :: rest =>
    if c = letter then word letters rest else haltPast .misspelledWord (c :: rest)

/-- Reads the colon between a key and its value. -/
def colon (rest : List Char) : Pass :=
  match dropGaps rest with
  | [] => haltPast .endInObject []
  | ':' :: after => .ok after
  | other => haltPast .missingColon other

theorem dropGaps_cons_of_not_isGap {c : Char} (rest : List Char) (h : isGap c = false) :
    dropGaps (c :: rest) = c :: rest := by
  simp [dropGaps, h]

end EntityForge.Json
