import EntityForge.Artifact
import EntityForge.ModelView

/-!
# Route maps

A route map says for every entity where its artifacts lie and which handler answers which method
and path. Five routes serve an entity; the path of a single record ends in a place for its `id`.
-/

set_option autoImplicit false

namespace EntityForge

/-- Where an entity is stored and where its artifacts lie. -/
structure EntityInfo where
  /-- The name of the entity. -/
  name : String
  /-- The shape id of its structure. -/
  shapeId : String
  /-- The table that holds it. -/
  table : String
  /-- The field that identifies a record. -/
  hashKey : String
  /-- The directory of its artifacts. -/
  directory : String
deriving DecidableEq, Repr, Inhabited

/-- Which handler answers a method and a path. -/
structure Route where
  /-- The name of the entity. -/
  entity : String
  /-- What the handler does. -/
  operation : String
  /-- The symbol under which the handler is exported. -/
  symbol : String
  /-- The method of the request. -/
  method : String
  /-- The path of the request. -/
  path : String
  /-- The artifact that holds the handler. -/
  file : String
deriving DecidableEq, Repr, Inhabited

/-- All entities of a model with their routes. -/
structure RouteMap where
  /-- The entities in the order of their shape ids. -/
  entities : List EntityInfo
  /-- The routes, entity by entity. -/
  routes : List Route
deriving DecidableEq, Repr, Inhabited

namespace RouteMap

/-- The path of all records of an entity. -/
def collectionPath (entity : Entity) : String := "/" ++ Text.lowercase entity.name ++ "s"

/-- The path of one record of an entity. -/
def recordPath (entity : Entity) : String := collectionPath entity ++ "/\x7bid\x7d"

/-- What is known of an entity besides its routes. -/
def infoOf (settings : Settings) (decl : Declaration) (entity : Entity) : EntityInfo :=
  ⟨entity.name, decl.id, entity.table, entity.hashKey, settings.entityDirectory entity.name⟩

/-- The routes of an entity. -/
def routesOf (settings : Settings) (entity : Entity) : List Route :=
  let file (stem : Stem) : String := settings.artifactPath entity.name stem.name
  [⟨entity.name, "create", entity.createSymbol, "POST", collectionPath entity, file .create⟩,
   ⟨entity.name, "list", entity.listSymbol, "GET", collectionPath entity, file .read⟩,
   ⟨entity.name, "get", entity.getSymbol, "GET", recordPath entity, file .read⟩,
   ⟨entity.name, "update", entity.updateSymbol, "PUT", recordPath entity, file .update⟩,
   ⟨entity.name, "delete", entity.deleteSymbol, "DELETE", recordPath entity, file .delete⟩]

/-- The route map of declarations, up to the first that is at fault. -/
def ofDeclarations (settings : Settings) (view : ModelView) :
    List Declaration → Except Fault RouteMap
  | [] => .ok ⟨[], []⟩
  | decl :: decls =>
    match view.entity decl settings.markerId with
    | .error fault => .error fault
    | .ok entity =>
      match ofDeclarations settings view decls with
      | .error fault => .error fault
      | .ok later =>
        .ok ⟨infoOf settings decl entity :: later.entities,
          routesOf settings entity ++ later.routes⟩

/-- The route map of every marked structure of a model. -/
def ofView (settings : Settings) (view : ModelView) : Except Fault RouteMap :=
  ofDeclarations settings view (view.annotated settings.markerId)

/-- The routes of the entities of a name. -/
def routesFor (map : RouteMap) (name : String) : List Route :=
  map.routes.filter (fun route => route.entity == name)

end RouteMap

end EntityForge
