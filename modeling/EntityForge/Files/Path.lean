import EntityForge.Text.Pieces

/-!
# Paths

A path is a text of names with slashes between them. It starts at the root if its first character
is a slash and at the working directory if not. Slashes in a row count as one, and so do a name
`.` and the slash after it; `..` is the directory above, which only a walk through a tree can
tell.

Four readings of a path are defined here: the names that a walk goes through, the location to
which they lead where there are no links, the directories that have to exist before the last name,
and whether a path below a directory stays below it.
-/

set_option autoImplicit false

namespace EntityForge.Files

/-- The names from the root to a place in a tree. -/
abbrev Location : Type := List String

namespace Path

/-- The pieces of a path between its slashes, be they empty or not. -/
def segments (path : String) : List String := (Text.pieces '/' path.toList).map String.ofList

/-- Whether a path starts at the root. -/
def isAbsolute (path : String) : Bool := path.toList.head? == some '/'

/-- Whether a path ends with a slash, so that it can only name a directory. -/
def endsWithSlash (path : String) : Bool := path.toList.getLast? == some '/'

/-- Whether a segment leads nowhere. -/
def isIdle (segment : String) : Bool := segment == "" || segment == "."

/-- The names that a walk along a path goes through. -/
def names (path : String) : List String := (segments path).filter (· ≠ "")

/-- Where a name leads from a directory if it is no link. -/
def step (here : Location) (name : String) : Location :=
  if name = "." then here else if name = ".." then here.dropLast else here ++ [name]

/-- Where a path leads from a directory if no link lies on its way. -/
def location (here : Location) (path : String) : Location :=
  (names path).foldl step (if isAbsolute path then [] else here)

/-- Whether a path, taken below a directory, names something below it, however the tree looks. -/
def staysInside (path : String) : Bool :=
  path ≠ "" && !isAbsolute path && !(segments path).contains ".."

/-- A path taken from a directory; a path from the root stays as it is. -/
def join (base path : String) : String :=
  if isAbsolute path then path
  else if base = "" ∨ endsWithSlash base then base ++ path
  else base ++ "/" ++ path

/-- Segments, the last one first, without those at the end that lead nowhere. -/
def trimEnd (reversed : List String) : List String := reversed.dropWhile isIdle

/-- The text of segments, given the last one first, with slashes between them. -/
def unsplit (reversed : List String) : String := "/".intercalate reversed.reverse

/-- Every beginning of segments, given the last one first, that ends in a name, with the text. -/
def beginnings : List String → List String
  | [] => []
  | segment :: before =>
    if isIdle segment then beginnings before
    else unsplit (segment :: before) :: beginnings before

/-- The directories that lead to the last name of a path, the innermost first; neither the root nor
the working directory is among them. -/
def enclosing (path : String) : List String := beginnings ((trimEnd (segments path).reverse).drop 1)

end Path

end EntityForge.Files
