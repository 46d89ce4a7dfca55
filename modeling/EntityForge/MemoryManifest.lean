import EntityForge.Generation

/-!
# Artifacts in memory

A memory manifest keeps artifacts under their paths. Nothing is refused, and a path that is written
again keeps the later text.
-/

set_option autoImplicit false

namespace EntityForge

/-- The texts of artifacts under their paths. -/
abbrev MemoryManifest : Type := Dictionary String

/-- Writes into a memory manifest. -/
def MemoryManifest.sink : Sink MemoryManifest where
  write artifact files := .done (files.insert artifact.path artifact.content) ()

end EntityForge
