import EntityForge.Generation
import EntityForge.RouteMap
import EntityForge.Json.Record

/-!
# JSON forms

Every type that is exchanged has a JSON form, which is written by `toJson` and read back by
`reader`: a record is an object with its fields in order, a word of a fixed set is a string.
-/

set_option autoImplicit false

namespace EntityForge

open Json (Fields Reader)

/-! ## Words -/

/-- The JSON form of a kind. -/
def ShapeKind.toJson (kind : ShapeKind) : Json := .text kind.name

/-- Reads a kind. -/
def ShapeKind.reader : Reader ShapeKind := Reader.choice ShapeKind.named

/-- The JSON form of a type. -/
def TargetType.toJson (type : TargetType) : Json := .text type.name

/-- Reads a type. -/
def TargetType.reader : Reader TargetType := Reader.choice TargetType.named

/-! ## Records -/

/-- A field that must be there. -/
abbrev required {α δ τ : Type} (name : String) (read : Reader α) (rest : Fields δ τ) :
    Fields (Option α × δ) (α × τ) :=
  .cons name none read rest

/-- A field that takes a default when it is absent. -/
abbrev optional {α δ τ : Type} (name : String) (fallback : α) (read : Reader α)
    (rest : Fields δ τ) : Fields (Option α × δ) (α × τ) :=
  .cons name (some fallback) read rest

/-- The JSON form of a declaration. -/
def Declaration.toJson (decl : Declaration) : Json :=
  .object [("id", .text decl.id), ("name", .text decl.name)]

/-- Reads a declaration. -/
def Declaration.reader : Reader Declaration :=
  Reader.record "StructuralDeclaration"
    (required "id" Reader.text <| required "name" Reader.text .nil)
    fun (id, name, _) => ⟨id, name⟩

/-- The JSON form of a member. -/
def Member.toJson (member : Member) : Json :=
  .object [("name", .text member.name), ("kind", member.kind.toJson)]

/-- Reads a member. -/
def Member.reader : Reader Member :=
  Reader.record "Member"
    (required "name" Reader.text <| required "kind" ShapeKind.reader .nil)
    fun (name, kind, _) => ⟨name, kind⟩

/-- The JSON form of a field. -/
def Field.toJson (field : Field) : Json :=
  .object [("name", .text field.name), ("mapped_type", field.type.toJson)]

/-- Reads a field. -/
def Field.reader : Reader Field :=
  Reader.record "FieldDescriptor"
    (required "name" Reader.text <| required "mapped_type" TargetType.reader .nil)
    fun (name, type, _) => ⟨name, type⟩

/-- The JSON form of an entity. -/
def Entity.toJson (entity : Entity) : Json :=
  .object
    [("name", .text entity.name), ("alias", .text entity.label),
     ("table_name", .text entity.table), ("hash_key", .text entity.hashKey),
     ("fields", .list (entity.fields.map Field.toJson))]

/-- Reads an entity. -/
def Entity.reader : Reader Entity :=
  Reader.record "EntityDescriptor"
    (required "name" Reader.text <| required "alias" Reader.text <|
      required "table_name" Reader.text <| required "hash_key" Reader.text <|
      required "fields" (Reader.list Field.reader) .nil)
    fun (name, label, table, hashKey, fields, _) => ⟨name, label, table, hashKey, fields⟩

/-- The JSON form of a marker. -/
def EntityMarker.toJson (marker : EntityMarker) : Json :=
  .object [(tableKey, .text marker.table), (hashKeyKey, .text marker.hashKey)]

/-- Reads a marker. -/
def EntityMarker.reader : Reader EntityMarker :=
  Reader.record "EntityMarker"
    (required tableKey Reader.text <| required hashKeyKey Reader.text .nil)
    fun (table, hashKey, _) => ⟨table, hashKey⟩

/-- The JSON form of settings. -/
def Settings.toJson (settings : Settings) : Json :=
  .object (settings.named.map fun entry => (entry.1, .text entry.2))

/-- Reads settings; what is absent is as in the standard ones. -/
def Settings.reader : Reader Settings :=
  Reader.record "GeneratorConfig"
    (optional "marker_id" standard.markerId Reader.text <|
      optional "namespace" standard.root Reader.text <|
      optional "extension" standard.extension Reader.text <|
      optional "diagnostic_file" standard.diagnosticFile Reader.text .nil)
    fun (markerId, root, extension, diagnosticFile, _) =>
      ⟨markerId, root, extension, diagnosticFile⟩

/-- The JSON form of an artifact. -/
def Artifact.toJson (artifact : Artifact) : Json :=
  .object [("relative_path", .text artifact.path), ("content", .text artifact.content)]

/-- Reads an artifact. -/
def Artifact.reader : Reader Artifact :=
  Reader.record "GeneratedArtifact"
    (required "relative_path" Reader.text <| required "content" Reader.text .nil)
    fun (path, content, _) => ⟨path, content⟩

/-- The JSON form of a report. -/
def Report.toJson (report : Report) : Json :=
  .object [("entities", .texts report.entities), ("artifacts", .texts report.artifacts)]

/-- Reads a report. -/
def Report.reader : Reader Report :=
  Reader.record "GenerationReport"
    (required "entities" (Reader.list Reader.text) <|
      required "artifacts" (Reader.list Reader.text) .nil)
    fun (entities, artifacts, _) => ⟨entities, artifacts⟩

/-- The JSON form of what is known of an entity. -/
def EntityInfo.toJson (info : EntityInfo) : Json :=
  .object
    [("name", .text info.name), ("shape_id", .text info.shapeId), ("table", .text info.table),
     ("hash_key", .text info.hashKey), ("directory", .text info.directory)]

/-- Reads what is known of an entity. -/
def EntityInfo.reader : Reader EntityInfo :=
  Reader.record "EntityInfo"
    (required "name" Reader.text <| required "shape_id" Reader.text <|
      required "table" Reader.text <| required "hash_key" Reader.text <|
      required "directory" Reader.text .nil)
    fun (name, shapeId, table, hashKey, directory, _) => ⟨name, shapeId, table, hashKey, directory⟩

/-- The JSON form of a route. -/
def Route.toJson (route : Route) : Json :=
  .object
    [("entity", .text route.entity), ("operation", .text route.operation),
     ("symbol", .text route.symbol), ("method", .text route.method), ("path", .text route.path),
     ("file", .text route.file)]

/-- Reads a route. -/
def Route.reader : Reader Route :=
  Reader.record "HandlerRoute"
    (required "entity" Reader.text <| required "operation" Reader.text <|
      required "symbol" Reader.text <| required "method" Reader.text <|
      required "path" Reader.text <| required "file" Reader.text .nil)
    fun (entity, operation, symbol, method, path, file, _) =>
      ⟨entity, operation, symbol, method, path, file⟩

/-- The JSON form of a route map. -/
def RouteMap.toJson (map : RouteMap) : Json :=
  .object
    [("entities", .list (map.entities.map EntityInfo.toJson)),
     ("routes", .list (map.routes.map Route.toJson))]

/-- Reads a route map. -/
def RouteMap.reader : Reader RouteMap :=
  Reader.record "HandlerMap"
    (required "entities" (Reader.list EntityInfo.reader) <|
      required "routes" (Reader.list Route.reader) .nil)
    fun (entities, routes, _) => ⟨entities, routes⟩

/-- The text of a route map with an entry per line. -/
def RouteMap.text (map : RouteMap) : String := map.toJson.spread

end EntityForge
