import EntityForge.Files.Fault
import EntityForge.Files.Tree

/-!
# Walks

A walk follows the names of a path through a tree. On its way it passes directories and the
targets of links, of which there may be forty; what it does at the last name depends on its
purpose. A walk that looks for something ends at what is there, one that is to write a file may
also end at a vacant location, and one that is to make a directory does not follow a link at its
end.
-/

set_option autoImplicit false

namespace EntityForge.Files

/-- What a walk is for. -/
inductive Purpose where
  /-- To see or to read what is there. -/
  | look
  /-- To write a file, which may not be there yet. -/
  | write
  /-- To make a directory. -/
  | makeDirectory
deriving DecidableEq, Repr

/-- Where a walk ends. -/
inductive Place where
  /-- At something. -/
  | occupied (location : Location) (entry : Entry)
  /-- At a location in a directory where nothing is. -/
  | vacant (location : Location)
deriving DecidableEq

/-- The most bytes that a name may have. -/
def longestName : Nat := 255

/-- The most bytes that a path may have. -/
def longestPath : Nat := 4095

/-- The most links that a walk follows. -/
def mostLinks : Nat := 40

/-- How a walk goes on from a link: with names that are taken from a directory, and whether the path
ends with a slash. -/
abbrev Onward : Type := Location → List String → Bool → Except FileFault Place

namespace Tree

/-- Follows names from a directory to the first link or to the end. `slash` says that the path ends
with a slash. -/
def walkNames (tree : Tree) (purpose : Purpose) (onward : Onward) (slash : Bool) :
    Location → List String → Except FileFault Place
  | here, [] => .ok (.occupied here .directory)
  | here, name :: rest =>
    if name = "." then walkNames tree purpose onward slash here rest
    else if name = ".." then walkNames tree purpose onward slash here.dropLast rest
    else if rest = [] ∧ purpose = .write ∧ slash then .error .isDirectory
    else if name.utf8ByteSize > longestName then .error .nameTooLong
    else
      let location := here ++ [name]
      match tree.get? location with
      | none =>
        if rest = [] ∧ purpose ≠ .look then .ok (.vacant location) else .error .notFound
      | some .directory => walkNames tree purpose onward slash location rest
      | some (.file bytes) =>
        if rest ≠ [] ∨ (purpose = .look ∧ slash) then .error .notDirectory
        else .ok (.occupied location (.file bytes))
      | some (.link target) =>
        if rest = [] ∧ purpose = .makeDirectory then .ok (.occupied location (.link target))
        else
          onward (if Path.isAbsolute target then [] else here) (Path.names target ++ rest)
            (slash || (rest = [] && Path.endsWithSlash target))

/-- Follows names from a directory, and at most so many links. -/
def walk (tree : Tree) (purpose : Purpose) : Nat → Onward
  | 0 => fun here names slash =>
    tree.walkNames purpose (fun _ _ _ => .error .tooManyLinks) slash here names
  | links + 1 => fun here names slash =>
    tree.walkNames purpose (tree.walk purpose links) slash here names

/-- Where a path leads from a directory. -/
def reach (tree : Tree) (purpose : Purpose) (here : Location) (path : String) :
    Except FileFault Place :=
  if '\x00' ∈ path.toList then .error .nulInName
  else if path = "" then .error .notFound
  else if path.utf8ByteSize > longestPath then .error .nameTooLong
  else
    tree.walk purpose mostLinks (if Path.isAbsolute path then [] else here) (Path.names path)
      (Path.endsWithSlash path)

end Tree

end EntityForge.Files
