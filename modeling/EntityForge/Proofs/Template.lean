import EntityForge.Template
import EntityForge.Proofs.Dictionary

/-!
# Filling in templates

A template is filled in piece by piece: a character stays and a slot becomes its value. Where every
slot has a value, rendering gives exactly that text (`Template.fill_eq_ok`), so a template whose
keys all belong to the context never fails. Pieces that follow each other in a template stay
together in the text (`Template.textOf_infix`).
-/

set_option autoImplicit false

namespace EntityForge.Template

/-- The text that a piece becomes; a slot without a value leaves nothing. -/
def Piece.textOf (context : Dictionary String) : Piece → List Char
  | .char c => [c]
  | .slot key => ((context.get? (String.ofList key)).getD "").toList

@[simp] theorem Piece.textOf_char (context : Dictionary String) (c : Char) :
    (Piece.char c).textOf context = [c] := rfl

/-- The text of pieces with values in the place of slots. -/
def textOf (context : Dictionary String) (pieces : List Piece) : List Char :=
  pieces.flatMap (Piece.textOf context)

/-- The pieces of a text without slots. -/
def chars (text : String) : List Piece := text.toList.map .char

/-- The key of a slot. -/
def Piece.key? : Piece → Option String
  | .char _ => none
  | .slot key => some (String.ofList key)

/-- The keys of the slots among pieces, in order. -/
def keys (pieces : List Piece) : List String := pieces.filterMap Piece.key?

variable (context : Dictionary String)

@[simp] theorem textOf_append (a b : List Piece) :
    textOf context (a ++ b) = textOf context a ++ textOf context b := List.flatMap_append

@[simp] theorem textOf_cons (piece : Piece) (rest : List Piece) :
    textOf context (piece :: rest) = piece.textOf context ++ textOf context rest :=
  List.flatMap_cons

@[simp] theorem textOf_chars (text : String) : textOf context (chars text) = text.toList := by
  simp [textOf, chars, List.flatMap_map, Piece.textOf]

variable {context}

theorem Piece.textOf_slot {key : List Char} {value : String}
    (h : context.get? (String.ofList key) = some value) :
    (Piece.slot key).textOf context = value.toList := by
  simp [Piece.textOf, h]

/-- Neighbouring pieces stay neighbours in the text. -/
theorem textOf_infix {a b : List Piece} (h : a <:+: b) :
    textOf context a <:+: textOf context b := by
  obtain ⟨before, after, rfl⟩ := h
  exact ⟨textOf context before, textOf context after, by simp only [textOf_append]⟩

/-- With a value for every slot, filling in succeeds and puts the values in their places. -/
theorem fill_eq_ok {pieces : List Piece} (h : ∀ key ∈ keys pieces, (context.get? key).isSome) :
    fill context pieces = .ok (textOf context pieces) := by
  induction pieces with
  | nil => rfl
  | cons piece rest ih =>
    cases piece with
    | char c =>
      have hrest := ih h
      simp [fill, hrest]
    | slot key =>
      have hkey : (context.get? (String.ofList key)).isSome :=
        h (String.ofList key) (by simp [keys, Piece.key?])
      have hrest := ih fun other hmem => h other (by
        simp only [keys, Piece.key?, List.filterMap_cons] at hmem ⊢
        exact List.mem_cons_of_mem _ hmem)
      obtain ⟨value, hvalue⟩ := Option.isSome_iff_exists.1 hkey
      simp [fill, hvalue, hrest, Piece.textOf_slot hvalue]

/-- Rendering succeeds where the context has every key of the template. -/
theorem renderChars_eq_ok {template : List Char}
    (h : ∀ key ∈ keys (pieces template), (context.get? key).isSome) :
    renderChars template context = .ok (textOf context (pieces template)) :=
  fill_eq_ok h

end EntityForge.Template
