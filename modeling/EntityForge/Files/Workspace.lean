import EntityForge.Files.Walk

/-!
# Workspaces

A workspace is a tree of files with a working directory in it. Here are the operations that the
program has on files: it looks, reads, makes directories with all that lead to them, and writes a
file unless it already holds what is to be written. An operation that fails leaves what it had
done before the failure.
-/

set_option autoImplicit false

namespace EntityForge.Files

/-- A tree of files with a working directory. -/
structure Workspace where
  /-- The tree. -/
  tree : Tree
  /-- The directory from which relative paths lead. -/
  here : Location
deriving DecidableEq

namespace Workspace

/-- Where a path leads. -/
def reach (workspace : Workspace) (purpose : Purpose) (path : String) : Except FileFault Place :=
  workspace.tree.reach purpose workspace.here path

/-- Puts an entry at a location. -/
def set (workspace : Workspace) (location : Location) (entry : Entry) : Workspace :=
  { workspace with tree := workspace.tree.set location entry }

/-- Whether a path leads to a directory. -/
def isDirectory (workspace : Workspace) (path : String) : Bool :=
  match workspace.reach .look path with
  | .ok (.occupied _ .directory) => true
  | _ => false

/-- The bytes of the file to which a path leads. -/
def read (workspace : Workspace) (path : String) : Except FileFault ByteArray :=
  match workspace.reach .look path with
  | .error fault => .error fault
  | .ok (.occupied _ (.file bytes)) => .ok bytes
  | .ok (.occupied _ .directory) => .error .isDirectory
  | .ok _ => .error .notFound

/-- The text of the file to which a path leads. -/
def readText (workspace : Workspace) (path : String) : Except FileFault String :=
  match workspace.read path with
  | .error fault => .error fault
  | .ok bytes =>
    match String.fromUTF8? bytes with
    | some text => .ok text
    | none => .error .notText

/-- Makes a directory whose own directory is there. -/
def makeDirectory (workspace : Workspace) (path : String) : Except FileFault Workspace :=
  match workspace.reach .makeDirectory path with
  | .error fault => .error fault
  | .ok (.occupied _ _) => .error .alreadyExists
  | .ok (.vacant location) => .ok (workspace.set location .directory)

/-- Makes a directory unless it is there. -/
def ensureDirectory (workspace : Workspace) (path : String) : Except FileFault Workspace :=
  match workspace.makeDirectory path with
  | .error .alreadyExists =>
    if workspace.isDirectory path then .ok workspace else .error .alreadyExists
  | outcome => outcome

/-- Makes directories in order, up to the first one that fails. -/
def ensureDirectories (workspace : Workspace) :
    List String → Workspace × Except FileFault Unit
  | [] => (workspace, .ok ())
  | path :: paths =>
    match workspace.ensureDirectory path with
    | .error fault => (workspace, .error fault)
    | .ok workspace => workspace.ensureDirectories paths

/-- Makes directories of which each but the last lies in the next. `inner` holds those that wait for
the directory around them, the outermost first. -/
def ensureNested (workspace : Workspace) (inner : List String) :
    List String → Workspace × Except FileFault Unit
  | [] => workspace.ensureDirectories inner
  | path :: outer =>
    match workspace.ensureDirectory path with
    | .ok workspace => workspace.ensureDirectories inner
    | .error .notFound => workspace.ensureNested (path :: inner) outer
    | .error fault => (workspace, .error fault)

/-- Makes the directories that lead to the last name of a path. -/
def ensureEnclosing (workspace : Workspace) (path : String) : Workspace × Except FileFault Unit :=
  workspace.ensureNested [] (Path.enclosing path)

/-- Writes a file whose directory is there. -/
def write (workspace : Workspace) (path : String) (bytes : ByteArray) :
    Except FileFault Workspace :=
  match workspace.reach .write path with
  | .error fault => .error fault
  | .ok (.occupied _ .directory) => .error .isDirectory
  | .ok (.occupied location _) => .ok (workspace.set location (.file bytes))
  | .ok (.vacant location) => .ok (workspace.set location (.file bytes))

/-- Writes a file unless it holds the text already, and says whether it wrote. -/
def writeIfChanged (workspace : Workspace) (path text : String) :
    Workspace × Except FileFault Bool :=
  match workspace.ensureEnclosing path with
  | (workspace, .error fault) => (workspace, .error fault)
  | (workspace, .ok ()) =>
    match workspace.read path with
    | .ok bytes =>
      if bytes == text.toByteArray then (workspace, .ok false) else overwrite workspace
    | .error _ => overwrite workspace
where
  /-- Writes the text whatever was there. -/
  overwrite (workspace : Workspace) : Workspace × Except FileFault Bool :=
    match workspace.write path text.toByteArray with
    | .ok workspace => (workspace, .ok true)
    | .error fault => (workspace, .error fault)

/-- Puts a link at a path whose directory is there. -/
def link (workspace : Workspace) (path target : String) : Except FileFault Workspace :=
  match workspace.reach .makeDirectory path with
  | .error fault => .error fault
  | .ok (.occupied _ _) => .error .alreadyExists
  | .ok (.vacant location) => .ok (workspace.set location (.link target))

/-- The files, links and empty directories below the working directory, with their paths. -/
def listing (workspace : Workspace) : List (String × Entry) :=
  workspace.tree.entries.filterMap fun (location, entry) =>
    if workspace.here.isPrefixOf location && location != workspace.here
      && !workspace.tree.hasBelow location then
      some ("/".intercalate (location.drop workspace.here.length), entry)
    else none

end Workspace

end EntityForge.Files
