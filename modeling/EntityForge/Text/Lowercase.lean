import EntityForge.Text.Boundaries
import EntityForge.Text.CaseData

/-!
# Lower case

`lowered` gives the lower case of one character; only the dotted capital I has a lower case of two
characters. `lowerFirst` changes the first character of a text and nothing else. `lowercase`
changes every character, and there a capital sigma at the end of a word becomes the final small
sigma (`endsWord`).
-/

set_option autoImplicit false

namespace EntityForge.Text

/-- Whether a character with the code `n` belongs to a run. -/
def CaseRun.covers (run : CaseRun) (n : Nat) : Bool :=
  run.first ≤ n && n ≤ run.last && (n - run.first) % run.step == 0

/-- The lower case of a character, without regard to its neighbours. -/
def lowered (c : Char) : List Char :=
  if c.toNat = 304 then ['i', Char.ofNat 775]
  else
    match lowercaseRuns.find? (fun run => run.covers c.toNat) with
    | some run => [Char.ofNat (c.toNat + run.shift).toNat]
    | none => [c]

/-- Lowers exactly the first character; the empty text stays empty. -/
def lowerFirst (text : String) : String :=
  match text.toList with
  | [] => text
  | first :: rest => String.ofList (lowered first ++ rest)

/-! ## Words -/

/-- Whether a character is a cased letter. -/
def isCased (c : Char) : Bool := within casedBoundaries c.toNat

/-- Whether a character is passed over when a letter's neighbourhood is examined. -/
def isCaseIgnorable (c : Char) : Bool := within caseIgnorableBoundaries c.toNat

/-- Whether the first character that is not passed over is a cased letter. -/
def leadsToCased (text : List Char) : Bool :=
  match text.dropWhile isCaseIgnorable with
  | [] => false
  | c :: _ => isCased c

/-- Whether a letter between two texts ends a word; the text before it is given backwards. -/
def endsWord (before after : List Char) : Bool := leadsToCased before && !leadsToCased after

/-- Lowers every character of a text that follows `before`, which is given backwards. -/
def lowercaseAfter (before : List Char) : List Char → List Char
  | [] => []
  | c :: rest =>
    let here :=
      if c = 'Σ' then [if endsWord before rest then 'ς' else 'σ'] else lowered c
    here ++ lowercaseAfter (c :: before) rest

/-- The lower case of a text. -/
def lowercase (text : String) : String := String.ofList (lowercaseAfter [] text.toList)

end EntityForge.Text
