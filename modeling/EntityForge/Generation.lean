import EntityForge.Artifact
import EntityForge.ModelView
import EntityForge.Log.Event

/-!
# Generation

A run generates every marked structure of a model into a sink, one entity at a time and six
artifacts each. It ends at the first fault, be it of a marker, of the members or of a write; what
was written before stays in the sink. A run that finds nothing marked writes one diagnostic.

`Plan` is what a run sets out to write, fixed by the model and the settings alone: the sink only
decides how far the run gets.
-/

set_option autoImplicit false

namespace EntityForge

/-- Where artifacts are written, with a state of type `σ`. -/
structure Sink (σ : Type) where
  /-- Writes an artifact, in place of an earlier one of the same path. -/
  write : Artifact → σ → Activity σ Fault Unit

/-- What a run emitted. -/
structure Report where
  /-- The names of the entities in the order in which they were processed. -/
  entities : List String
  /-- The paths of the artifacts in the order in which they were emitted. -/
  artifacts : List String
deriving DecidableEq, Repr, Inhabited

namespace Report

/-- The report of a run that has emitted nothing. -/
def empty : Report := ⟨[], []⟩

/-- Whether a run found nothing marked. -/
def isEmpty (report : Report) : Bool := report.entities.isEmpty

end Report

namespace Generation

/-- The part of the program that the events of a run name. -/
def eventTarget : String := "crudgen_codegen"

/-- Nothing is marked. -/
def nothingMarked (markerId : String) : Event :=
  ⟨.warn, eventTarget, "No structures annotated with @" ++ markerId ++ " were found"⟩

/-- An entity has the name of an earlier one. -/
def nameTaken (name id : String) : Event :=
  ⟨.warn, eventTarget,
    "Entity name " ++ name ++ " is used by more than one structure; " ++ id
      ++ " overwrites earlier output"⟩

/-- All artifacts of an entity are written. -/
def generated (entity : Entity) : Event :=
  ⟨.info, eventTarget,
    "Generated CRUD handlers for " ++ entity.name ++ " (table " ++ entity.table ++ ", key "
      ++ entity.hashKey ++ ")"⟩

/-- A run is complete. -/
def completed (report : Report) : Event :=
  ⟨.info, eventTarget,
    "Code generation completed: " ++ toString report.entities.length ++ " entities, "
      ++ toString report.artifacts.length ++ " files"⟩

/-- Writes artifacts in order up to the first one that is refused. -/
def writeAll {σ : Type} (sink : Sink σ) : List Artifact → σ → Activity σ Fault Unit
  | [], state => .done state ()
  | artifact :: artifacts, state =>
    (sink.write artifact state).andThen fun state _ => writeAll sink artifacts state

/-- Generates one entity: the report with it, or the fault that stopped the run. -/
def step {σ : Type} (settings : Settings) (view : ModelView) (sink : Sink σ) (decl : Declaration)
    (report : Report) (state : σ) : Activity σ Fault Report :=
  match view.entity decl settings.markerId with
  | .error fault => .failed state fault
  | .ok entity =>
    let warnings := if entity.name ∈ report.entities then [nameTaken entity.name decl.id] else []
    let written : Activity σ Fault Report :=
      match Artifact.allOf settings entity with
      | .error fault => .failed state fault
      | .ok artifacts =>
        (writeAll sink artifacts state).andThen fun state _ =>
          ⟨state, [generated entity],
            .ok ⟨report.entities ++ [entity.name], report.artifacts ++ artifacts.map (·.path)⟩⟩
    written.after warnings

/-- Generates the entities of declarations in order. -/
def entities {σ : Type} (settings : Settings) (view : ModelView) (sink : Sink σ) :
    List Declaration → Report → σ → Activity σ Fault Report
  | [], report, state => ⟨state, [completed report], .ok report⟩
  | decl :: decls, report, state =>
    (step settings view sink decl report state).andThen fun state report =>
      entities settings view sink decls report state

/-- Writes the diagnostic that says that nothing is marked. -/
def diagnosticOnly {σ : Type} (settings : Settings) (sink : Sink σ) (state : σ) :
    Activity σ Fault Report :=
  let written : Activity σ Fault Report :=
    match Artifact.diagnostic settings with
    | .error fault => .failed state fault
    | .ok artifact =>
      (sink.write artifact state).andThen fun state _ => .done state ⟨[], [artifact.path]⟩
  written.after [nothingMarked settings.markerId]

/-- Generates every marked structure of a model into a sink. -/
def run {σ : Type} (settings : Settings) (view : ModelView) (sink : Sink σ) (state : σ) :
    Activity σ Fault Report :=
  match view.annotated settings.markerId with
  | [] => diagnosticOnly settings sink state
  | decls => entities settings view sink decls .empty state

/-! ## What a run sets out to write -/

/-- The artifacts that a run sets out to write, and the fault that ends it after them, if any. -/
structure Plan where
  /-- The artifacts in order. -/
  artifacts : List Artifact
  /-- The fault after the last artifact. -/
  fault : Option Fault

/-- The artifacts of a declaration. -/
def artifactsOf (settings : Settings) (view : ModelView) (decl : Declaration) :
    Except Fault (List Artifact) :=
  match view.entity decl settings.markerId with
  | .error fault => .error fault
  | .ok entity => Artifact.allOf settings entity

/-- The plan for the entities of declarations: all of them up to the first that is at fault. -/
def planEntities (settings : Settings) (view : ModelView) : List Declaration → Plan
  | [] => ⟨[], none⟩
  | decl :: decls =>
    match artifactsOf settings view decl with
    | .error fault => ⟨[], some fault⟩
    | .ok artifacts =>
      let later := planEntities settings view decls
      ⟨artifacts ++ later.artifacts, later.fault⟩

/-- The plan of a run. -/
def plan (settings : Settings) (view : ModelView) : Plan :=
  match view.annotated settings.markerId with
  | [] =>
    match Artifact.diagnostic settings with
    | .error fault => ⟨[], some fault⟩
    | .ok artifact => ⟨[artifact], none⟩
  | decls => planEntities settings view decls

end Generation

end EntityForge
