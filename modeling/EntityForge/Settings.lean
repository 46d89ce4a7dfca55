import EntityForge.Fault
import EntityForge.Text.Blank

/-!
# Settings

The settings of a generation run say which marker makes a structure an entity and where the
artifacts go. Every artifact lies below `root`; a run that finds no entity leaves one diagnostic
there instead.
-/

set_option autoImplicit false

namespace EntityForge

/-- The settings of a generation run. -/
structure Settings where
  /-- The shape id of the marker. -/
  markerId : String
  /-- The directory of all artifacts, relative to the output. -/
  root : String
  /-- The extension of the artifacts' names. -/
  extension : String
  /-- The name of the diagnostic that says that nothing is marked. -/
  diagnosticFile : String
deriving DecidableEq, Repr

namespace Settings

/-- The settings of a run that states none. -/
def standard : Settings := ⟨"demo.traits#dynamoCrud", "crud", "ts", "README.txt"⟩

instance : Inhabited Settings := ⟨standard⟩

/-- Every setting under the name by which it is stored, in order. -/
def named (settings : Settings) : List (String × String) :=
  [("marker_id", settings.markerId), ("namespace", settings.root),
   ("extension", settings.extension), ("diagnostic_file", settings.diagnosticFile)]

/-- Why settings are refused, if they are; of several reasons the first. -/
def refusal? (settings : Settings) : Option ConfigurationCause :=
  match settings.named.find? (fun entry => Text.allBlank entry.2) with
  | some entry => some (.settingEmpty entry.1)
  | none =>
    if '#' ∉ settings.markerId.toList then some (.markerIdNotAbsolute settings.markerId)
    else if settings.root.toList.head? = some '/' ∨ settings.root.toList.getLast? = some '/' then
      some (.rootNotRelative settings.root)
    else if settings.extension.toList.head? = some '.' then some .extensionDotted
    else none

/-- Accepts settings that can be used for a run. -/
def validate (settings : Settings) : Except Fault Unit :=
  match settings.refusal? with
  | some cause => .error (.configuration cause)
  | none => .ok ()

/-- The path of the diagnostic. -/
def diagnosticPath (settings : Settings) : String :=
  settings.root ++ "/" ++ settings.diagnosticFile

/-- The directory of an entity's artifacts. -/
def entityDirectory (settings : Settings) (entity : String) : String :=
  settings.root ++ "/" ++ entity

/-- The path of an artifact of an entity. -/
def artifactPath (settings : Settings) (entity stem : String) : String :=
  settings.root ++ "/" ++ entity ++ "/" ++ stem ++ "." ++ settings.extension

end Settings

end EntityForge
