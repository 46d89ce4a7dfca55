import EntityForge.Dictionary
import EntityForge.Fault

/-!
# Templates

A slot of a template is a key between two opening and two closing braces, where a key is a letter
or an underscore followed by letters, digits and underscores of ASCII. `pieces` divides a text into
slots and other characters. No brace belongs to a key, so slots never overlap, and braces that
enclose no key are ordinary text.

Rendering puts a value in the place of every slot at once: a value that looks like a slot stays as
it is. The leftmost slot without a value is a fault.
-/

set_option autoImplicit false

namespace EntityForge

namespace Template

/-- Whether a key may begin with a character. -/
def isKeyStart (c : Char) : Bool := c.isAlpha || c = '_'

/-- Whether a key may go on with a character. -/
def isKeyChar (c : Char) : Bool := c.isAlphanum || c = '_'

/-- The key of the slot that a text begins with. -/
def slot? : List Char → Option (List Char)
  | '\x7b' :: '\x7b' :: rest =>
    let key := rest.takeWhile isKeyChar
    match key, rest.dropWhile isKeyChar with
    | c :: _, '\x7d' :: '\x7d' :: _ => if isKeyStart c then some key else none
    | _, _ => none
  | _ => none

/-- A part of a template. -/
inductive Piece where
  /-- A character that stands for itself. -/
  | char (c : Char)
  /-- A slot with its key. -/
  | slot (key : List Char)
deriving DecidableEq, Repr

/-- The text of a piece. -/
def Piece.source : Piece → List Char
  | .char c => [c]
  | .slot key => '\x7b' :: '\x7b' :: (key ++ ['\x7d', '\x7d'])

@[simp] theorem Piece.source_slot (key : List Char) :
    (Piece.slot key).source = '\x7b' :: '\x7b' :: (key ++ ['\x7d', '\x7d']) := rfl

/-- The pieces of a text of which the first `skip` characters belong to a slot already seen. -/
def piecesAfter (skip : Nat) : List Char → List Piece
  | [] => []
  | c :: rest =>
    match skip with
    | skip + 1 => piecesAfter skip rest
    | 0 =>
      match slot? (c :: rest) with
      | some key => .slot key :: piecesAfter (key.length + 3) rest
      | none => .char c :: piecesAfter 0 rest

/-- The pieces of a template. -/
def pieces (template : List Char) : List Piece := piecesAfter 0 template

/-- Puts values in the place of slots. -/
def fill (context : Dictionary String) : List Piece → Except Fault (List Char)
  | [] => .ok []
  | .char c :: rest =>
    match fill context rest with
    | .ok text => .ok (c :: text)
    | .error fault => .error fault
  | .slot key :: rest =>
    match context.get? (String.ofList key) with
    | none => .error (.template (.noValue (String.ofList key)))
    | some value =>
      match fill context rest with
      | .ok text => .ok (value.toList ++ text)
      | .error fault => .error fault

/-- Renders a template given as characters. -/
def renderChars (template : List Char) (context : Dictionary String) :
    Except Fault (List Char) :=
  fill context (pieces template)

/-- Renders a template with a value for every slot. -/
def render (template : String) (context : Dictionary String) : Except Fault String :=
  match renderChars template.toList context with
  | .ok text => .ok (String.ofList text)
  | .error fault => .error fault

end Template

end EntityForge
