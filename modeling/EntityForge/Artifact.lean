import EntityForge.Entity
import EntityForge.Settings
import EntityForge.SourceText
import EntityForge.Template
import EntityForge.Json.Literal

/-!
# Artifacts

An artifact is a generated text with its path. Every entity has six: the declaration of its type,
four files with handlers, and an index that exports the handlers. The handlers write table, key and
message as string literals, so that no value can end its literal early; all of them begin with the
same preamble.
-/

set_option autoImplicit false

namespace EntityForge

/-- A generated text with its path relative to the output. -/
structure Artifact where
  /-- The path, relative to the output. -/
  path : String
  /-- The text. -/
  content : String
deriving DecidableEq, Repr, Inhabited

/-- The six artifacts of an entity. -/
inductive Stem where
  | types
  | create
  | read
  | update
  | delete
  | index
deriving DecidableEq, Repr, Inhabited

namespace Stem

/-- All artifacts of an entity in the order in which they are emitted. -/
def all : List Stem := [.types, .create, .read, .update, .delete, .index]

/-- The name of an artifact's file without its extension. -/
def name : Stem → String
  | .types => "types"
  | .create => "create"
  | .read => "read"
  | .update => "update"
  | .delete => "delete"
  | .index => "index"

theorem mem_all (stem : Stem) : stem ∈ all := by cases stem <;> decide

theorem name_injective {a b : Stem} (h : a.name = b.name) : a = b := by
  revert h
  cases a <;> cases b <;> decide

end Stem

namespace Artifact

/-- The line that declares a field. -/
def fieldLine (field : Field) : String := "  " ++ field.name ++ ": " ++ field.type.source ++ ";"

/-- The lines that declare the fields of an entity. -/
def fieldLines (entity : Entity) : String :=
  String.intercalate "\n" (entity.fields.map fieldLine)

/-- The values of the slots of the type declaration. -/
def typesContext (entity : Entity) : Dictionary String :=
  .ofList [("name", entity.name), ("fields", fieldLines entity)]

/-- The values of the slots of the handlers. -/
def handlerContext (entity : Entity) : Dictionary String :=
  .ofList
    [("name", entity.name), ("table", Json.literal entity.table),
     ("hash_key", Json.literal entity.hashKey),
     ("not_found", Json.literal (entity.label ++ " not found"))]

/-- The values of the slots of the index. -/
def indexContext (entity : Entity) : Dictionary String := .ofList [("name", entity.name)]

/-- The text of a file of handlers. -/
def handlerText (template : List Char) (entity : Entity) : Except Fault (List Char) :=
  match Template.renderChars template (handlerContext entity) with
  | .ok body => .ok (SourceText.preamble ++ body)
  | .error fault => .error fault

/-- The text of an artifact of an entity. -/
def text (entity : Entity) : Stem → Except Fault (List Char)
  | .types => Template.renderChars SourceText.typesTemplate (typesContext entity)
  | .create => handlerText SourceText.createTemplate entity
  | .read => handlerText SourceText.readTemplate entity
  | .update => handlerText SourceText.updateTemplate entity
  | .delete => handlerText SourceText.deleteTemplate entity
  | .index => Template.renderChars SourceText.indexTemplate (indexContext entity)

/-- One artifact of an entity. -/
def ofEntity (settings : Settings) (entity : Entity) (stem : Stem) : Except Fault Artifact :=
  match text entity stem with
  | .ok chars => .ok ⟨settings.artifactPath entity.name stem.name, String.ofList chars⟩
  | .error fault => .error fault

/-- Artifacts of an entity, one after another. -/
def ofStems (settings : Settings) (entity : Entity) : List Stem → Except Fault (List Artifact)
  | [] => .ok []
  | stem :: stems =>
    match ofEntity settings entity stem with
    | .error fault => .error fault
    | .ok artifact =>
      match ofStems settings entity stems with
      | .error fault => .error fault
      | .ok artifacts => .ok (artifact :: artifacts)

/-- All artifacts of an entity. -/
def allOf (settings : Settings) (entity : Entity) : Except Fault (List Artifact) :=
  ofStems settings entity Stem.all

/-- What is left when nothing is marked. -/
def diagnostic (settings : Settings) : Except Fault Artifact :=
  match Template.renderChars SourceText.diagnosticTemplate
      (.ofList [("marker_id", settings.markerId)]) with
  | .ok chars => .ok ⟨settings.diagnosticPath, String.ofList chars⟩
  | .error fault => .error fault

end Artifact

end EntityForge
