import EntityForge.CommandLine.Arguments
import EntityForge.CommandLine.Failure
import EntityForge.CommandLine.Listing
import EntityForge.CommandLine.Pages
import EntityForge.DirectoryManifest
import EntityForge.Inputs
import EntityForge.Log.Filter
import EntityForge.Log.Line
import EntityForge.Model.View

/-!
# Runs of the program

A run reads its command line, loads the settings and the model, does what is asked for and tells
about it. What is told goes to the standard output; log lines and the report of a failure go to
the standard error. A run that fails ends with `1`, one that is not understood with `2`.
-/

set_option autoImplicit false

namespace EntityForge.CommandLine

open Files (Workspace)

/-- What a run leaves for the one who called the program. -/
structure Printed where
  /-- The code with which the program ends. -/
  exit : UInt32
  /-- The standard output. -/
  output : String
  /-- The standard error. -/
  errors : String
deriving DecidableEq, Repr

/-- The part of the program that the events of requests name. -/
def eventTarget : String := "crudgen::commands"

/-- The model is loaded. -/
def modelLoaded (model : Model) : Event :=
  ⟨.debug, eventTarget, "Model has " ++ toString model.shapeCount ++ " shapes"⟩

/-- The outcome of an activity with faults put into a context. -/
def inContext {α : Type} (context : Option String) : Except Fault α → Except Failure α
  | .ok value => .ok value
  | .error fault => .error ⟨context, fault⟩

namespace Request

/-- Loads the settings of a request. -/
def loadSettings (request : Request) (workspace : Workspace) : Except Failure Settings :=
  match request.settings with
  | none => .ok .standard
  | some path =>
    inContext (some ("failed to load config " ++ path)) (Settings.ofFile workspace path)

/-- Loads the model of a request. -/
def loadModel (request : Request) (workspace : Workspace) : Activity Model Failure Unit :=
  let loading := Model.ofFiles workspace request.models
  match loading.outcome with
  | .ok () => ⟨loading.state, loading.events ++ [modelLoaded loading.state], .ok ()⟩
  | .error fault =>
    ⟨loading.state, loading.events, .error ⟨some "failed to load model", fault⟩⟩

/-- Does a task with settings and a model, and says what is to be told. -/
def perform (task : Task) (settings : Settings) (model : Model) (workspace : Workspace) :
    Activity Workspace Failure String :=
  match task with
  | .generate output =>
    let run := Generation.run settings model.view (DirectoryManifest.sink output) workspace
    ⟨run.state, run.events,
      (inContext (some "code generation failed") run.outcome).map
        (generationListing settings output)⟩
  | .map asJson =>
    ⟨workspace, [],
      (inContext none (RouteMap.ofView settings model.view)).map (routeListing asJson)⟩

/-- Serves a request. -/
def serve (request : Request) (workspace : Workspace) : Activity Workspace Failure String :=
  match request.loadSettings workspace with
  | .error failure => .failed workspace failure
  | .ok settings =>
    let loading := request.loadModel workspace
    match loading.outcome with
    | .error failure => ⟨workspace, loading.events, .error failure⟩
    | .ok () => (perform request.task settings loading.state workspace).after loading.events

/-- The files that a request reads. -/
def inputs (request : Request) : List String := request.settings.toList ++ request.models

/-- The files that a request sets out to write, as far as its inputs can be read. -/
def outputs (request : Request) (workspace : Workspace) : List String :=
  match request.task, request.loadSettings workspace with
  | .generate output, .ok settings =>
    let plan := Generation.plan settings (request.loadModel workspace).state.view
    ((plan.artifacts.map (·.path)).filter Files.Path.staysInside).map (Files.Path.join output)
  | _, _ => []

/-- The log lines of those events that pass a filter. -/
def logLines (request : Request) (filter : LogFilter) (time : String) (events : List Event) :
    String :=
  let line := if request.jsonLog then Event.jsonLine time else Event.textLine time
  String.join ((events.filter filter.admits).map line)

/-- Serves a request and prints. -/
def print (request : Request) (filter : LogFilter) (time : String) (workspace : Workspace) :
    Workspace × Printed :=
  let activity := request.serve workspace
  let log := request.logLines filter time activity.events
  match activity.outcome with
  | .ok text => (activity.state, ⟨0, text, log⟩)
  | .error failure => (activity.state, ⟨1, "", log ++ failure.report⟩)

end Request

/-- Runs the program: `setting` states the log filter, and log lines are written at `time`. -/
def run (setting : Option String) (time : String) (arguments : List String)
    (workspace : Workspace) : Workspace × Printed :=
  match read arguments with
  | .error fault => (workspace, ⟨2, "", fault.message⟩)
  | .ok (.read page) => (workspace, ⟨0, page.text, ""⟩)
  | .ok .version => (workspace, ⟨0, versionText, ""⟩)
  | .ok (.serve request) => request.print (LogFilter.ofSetting setting) time workspace

end EntityForge.CommandLine
