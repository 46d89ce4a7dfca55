import EntityForge.Files.Path
import EntityForge.Generation
import EntityForge.Interchange

/-!
# Listings

What the program tells after its work: the entities for which it generated handlers and the number
of files, or the routes of all entities in columns.
-/

set_option autoImplicit false

namespace EntityForge.CommandLine

/-- A text with spaces after it up to a number of characters. -/
def padded (width : Nat) (text : String) : String :=
  text ++ String.ofList (List.replicate (width - text.length) ' ')

/-- What is told after a generation into a directory. -/
def generationListing (settings : Settings) (output : String) (report : Report) : String :=
  if report.isEmpty then
    "No structures annotated with @" ++ settings.markerId ++ " were found (see "
      ++ Files.Path.join output settings.diagnosticPath ++ ")\n"
  else
    String.join (report.entities.map fun name => "✓ " ++ name ++ "\n")
      ++ "✓ Code generation completed: " ++ toString report.artifacts.length ++ " files in "
      ++ output ++ "\n"

/-- The line of a route. -/
def routeLine (route : Route) : String :=
  "  " ++ padded 7 route.method ++ " " ++ padded 20 route.path ++ " " ++ route.symbol ++ " -> "
    ++ route.file ++ "\n"

/-- The lines of an entity and of the routes to its name. -/
def entityLines (map : RouteMap) (info : EntityInfo) : String :=
  info.name ++ " (" ++ info.shapeId ++ ") table=" ++ info.table ++ " key=" ++ info.hashKey ++ "\n"
    ++ String.join ((map.routesFor info.name).map routeLine)

/-- The routes of all entities, as a listing or as JSON. -/
def routeListing (asJson : Bool) (map : RouteMap) : String :=
  if asJson then map.text ++ "\n"
  else
    "Handler Map:\n" ++ String.join (map.entities.map (entityLines map))
      ++ "Entities: " ++ toString map.entities.length ++ "\n"
      ++ "Routes: " ++ toString map.routes.length ++ "\n"

end EntityForge.CommandLine
