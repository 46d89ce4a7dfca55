import EntityForge.Files.Workspace
import EntityForge.Generation

/-!
# Artifacts in a directory

A directory manifest writes artifacts as files below a base directory. A path that would leave the
base is refused before anything is made. The directories on the way are made as needed, and a file
that already holds the text of an artifact is left alone.
-/

set_option autoImplicit false

namespace EntityForge

open Files (Workspace)

namespace DirectoryManifest

/-- The part of the program that the events of writes name. -/
def eventTarget : String := "crudgen_codegen::writer"

/-- An artifact was written, or its file held its text already. -/
def written (path : String) (changed : Bool) : Event :=
  ⟨.debug, eventTarget, (if changed then "Wrote " else "Unchanged ") ++ path⟩

/-- Writes an artifact below a base directory. -/
def write (base : String) (artifact : Artifact) (workspace : Workspace) :
    Activity Workspace Fault Unit :=
  if Files.Path.staysInside artifact.path then
    let path := Files.Path.join base artifact.path
    match workspace.writeIfChanged path artifact.content with
    | (workspace, .ok changed) => ⟨workspace, [written path changed], .ok ()⟩
    | (workspace, .error fault) => .failed workspace (.io fault)
  else .failed workspace (.configuration (.pathOutside artifact.path))

/-- Writes into a base directory. -/
def sink (base : String) : Sink Workspace where
  write := write base

end DirectoryManifest

end EntityForge
