/-!
# Pieces of a text

A text is cut at every occurrence of one character. There is always one piece more than there are
occurrences, so that pieces may be empty, and with the character between them they are the text
again.
-/

set_option autoImplicit false

namespace EntityForge.Text

/-- The pieces of a text between the occurrences of a character. -/
def pieces (separator : Char) : List Char → List (List Char)
  | [] => [[]]
  | c :: cs =>
    if c = separator then [] :: pieces separator cs
    else
      match pieces separator cs with
      | [] => [[c]]
      | piece :: rest => (c :: piece) :: rest

theorem pieces_ne_nil (separator : Char) (cs : List Char) : pieces separator cs ≠ [] := by
  cases cs with
  | nil => simp [pieces]
  | cons c cs =>
    simp only [pieces]
    split
    · simp
    · split <;> simp

/-- Pieces with a character between them. -/
def joined (separator : Char) : List (List Char) → List Char
  | [] => []
  | [piece] => piece
  | piece :: rest => piece ++ separator :: joined separator rest

theorem joined_cons_cons (separator c : Char) (piece : List Char) (rest : List (List Char)) :
    joined separator ((c :: piece) :: rest) = c :: joined separator (piece :: rest) := by
  cases rest <;> simp [joined]

/-- Cutting loses nothing but the separators. -/
theorem joined_pieces (separator : Char) :
    ∀ cs : List Char, joined separator (pieces separator cs) = cs
  | [] => rfl
  | c :: cs => by
    have ih := joined_pieces separator cs
    have hne := pieces_ne_nil separator cs
    simp only [pieces]
    split
    · rename_i h
      cases hp : pieces separator cs with
      | nil => exact absurd hp hne
      | cons piece rest =>
        change separator :: joined separator (piece :: rest) = c :: cs
        rw [← hp, ih, h]
    · cases hp : pieces separator cs with
      | nil => exact absurd hp hne
      | cons piece rest => rw [joined_cons_cons, ← hp, ih]

end EntityForge.Text
