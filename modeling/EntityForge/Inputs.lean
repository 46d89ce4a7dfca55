import EntityForge.Files.Workspace
import EntityForge.Log.Event
import EntityForge.Model.Merge
import EntityForge.SettingsText

/-!
# Models and settings in files

A model is given by files that are merged one after another; a refusal of a document names its file.
Settings are given by one file. The first file that cannot be read or merged ends the loading.
-/

set_option autoImplicit false

namespace EntityForge

open Files (Workspace)

/-- Names the file in which a model is at fault. -/
def Fault.inFile (path : String) : Fault → Fault
  | .model cause => .model (.inFile path cause)
  | fault => fault

namespace Model

/-- The part of the program that the events of loading name. -/
def eventTarget : String := "crudgen_core::model::smithy"

/-- A file is read and merged. -/
def loaded (path : String) : Event := ⟨.debug, eventTarget, "Loaded model file " ++ path⟩

/-- Merges the document in a file. -/
def loadFile (workspace : Workspace) (path : String) (model : Model) : Activity Model Fault Unit :=
  match workspace.readText path with
  | .error fault => .failed model (.io fault)
  | .ok text =>
    match model.merge text with
    | (model, .ok ()) => ⟨model, [loaded path], .ok ()⟩
    | (model, .error fault) => .failed model (fault.inFile path)

/-- Merges the documents in files in order. -/
def loadFiles (workspace : Workspace) : List String → Model → Activity Model Fault Unit
  | [], model => .done model ()
  | path :: paths, model =>
    (model.loadFile workspace path).andThen fun model _ => loadFiles workspace paths model

/-- Loads a model from files. -/
def ofFiles (workspace : Workspace) (paths : List String) : Activity Model Fault Unit :=
  loadFiles workspace paths .empty

end Model

/-- Reads settings from a file. -/
def Settings.ofFile (workspace : Workspace) (path : String) : Except Fault Settings :=
  match workspace.readText path with
  | .error fault => .error (.io fault)
  | .ok text => Settings.ofYaml text

end EntityForge
