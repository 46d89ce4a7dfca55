import EntityForge.Interchange
import EntityForge.Proofs.Json.ReadBack

/-!
# Exchanged values read back

Every type that is exchanged reads back from its JSON form: words because all of them are listed,
records because their fields do and have distinct names, and lists of records item by item. The
deepest form is that of a route map, three containers deep.

So the texts that are exchanged say everything (`forms_read_back`): the spread text of a route map
and the compact texts of entities, markers, reports, artifacts, members, declarations and settings
are read as the value that was written, whatever strings it holds and however many.
-/

set_option autoImplicit false

namespace EntityForge

open Json (Reader ReadsBack text_readsBack list_readsBack choice_readsBack record_readsBack
  read_compact read_spread)

variable {depth : Nat}

/-! ## Words -/

theorem ShapeKind.readsBack (kind : ShapeKind) :
    ReadsBack depth ShapeKind.reader kind.toJson kind := by
  have hlisted : ∀ kind : ShapeKind, lookupEntry kind.name named = some kind := by
    intro kind
    cases kind <;> decide
  exact choice_readsBack (hlisted kind)

theorem TargetType.readsBack (type : TargetType) :
    ReadsBack depth TargetType.reader type.toJson type := by
  have hlisted : ∀ type : TargetType, lookupEntry type.name named = some type := by
    intro type
    cases type <;> decide
  exact choice_readsBack (hlisted type)

/-- A list of strings reads back. -/
theorem texts_readsBack (texts : List String) :
    ReadsBack (depth + 1) (Reader.list Reader.text) (.texts texts) texts :=
  list_readsBack fun text _ => text_readsBack text

/-! ## Records of strings and words -/

theorem Declaration.readsBack (decl : Declaration) :
    ReadsBack (depth + 1) Declaration.reader decl.toJson decl :=
  record_readsBack (by decide) (.text (.text .nil))

theorem Member.readsBack (member : Member) :
    ReadsBack (depth + 1) Member.reader member.toJson member :=
  record_readsBack (by decide) (.text (.cons member.kind.readsBack .nil))

theorem Field.readsBack (field : Field) :
    ReadsBack (depth + 1) Field.reader field.toJson field :=
  record_readsBack (by decide) (.text (.cons field.type.readsBack .nil))

theorem EntityMarker.readsBack (marker : EntityMarker) :
    ReadsBack (depth + 1) EntityMarker.reader marker.toJson marker :=
  record_readsBack (by decide) (.text (.text .nil))

/-- The defaults do not come in: all settings are written. -/
theorem Settings.readsBack (settings : Settings) :
    ReadsBack (depth + 1) Settings.reader settings.toJson settings :=
  record_readsBack (by decide) (.text (.text (.text (.text .nil))))

theorem Artifact.readsBack (artifact : Artifact) :
    ReadsBack (depth + 1) Artifact.reader artifact.toJson artifact :=
  record_readsBack (by decide) (.text (.text .nil))

theorem EntityInfo.readsBack (info : EntityInfo) :
    ReadsBack (depth + 1) EntityInfo.reader info.toJson info :=
  record_readsBack (by decide) (.text (.text (.text (.text (.text .nil)))))

theorem Route.readsBack (route : Route) :
    ReadsBack (depth + 1) Route.reader route.toJson route :=
  record_readsBack (by decide) (.text (.text (.text (.text (.text (.text .nil))))))

/-! ## Records with lists -/

theorem Report.readsBack (report : Report) :
    ReadsBack (depth + 2) Report.reader report.toJson report :=
  record_readsBack (by decide) (.cons (texts_readsBack _) (.cons (texts_readsBack _) .nil))

theorem Entity.readsBack (entity : Entity) :
    ReadsBack (depth + 3) Entity.reader entity.toJson entity := by
  have hfields : ReadsBack (depth + 2) (Reader.list Field.reader)
      (.list (entity.fields.map Field.toJson)) entity.fields :=
    list_readsBack fun field _ => field.readsBack
  exact record_readsBack (by decide) (.text (.text (.text (.text (.cons hfields .nil)))))

theorem RouteMap.readsBack (map : RouteMap) :
    ReadsBack (depth + 3) RouteMap.reader map.toJson map := by
  have hentities : ReadsBack (depth + 2) (Reader.list EntityInfo.reader)
      (.list (map.entities.map EntityInfo.toJson)) map.entities :=
    list_readsBack fun info _ => info.readsBack
  have hroutes : ReadsBack (depth + 2) (Reader.list Route.reader)
      (.list (map.routes.map Route.toJson)) map.routes :=
    list_readsBack fun route _ => route.readsBack
  exact record_readsBack (by decide) (.cons hentities (.cons hroutes .nil))

/-! ## Texts -/

/-- Every exchanged text is read as the value that was written. -/
theorem forms_read_back :
    (∀ map : RouteMap, Json.read RouteMap.reader map.text = .ok map) ∧
      (∀ entity : Entity, Json.read Entity.reader entity.toJson.compact = .ok entity) ∧
      (∀ marker : EntityMarker,
        Json.read EntityMarker.reader marker.toJson.compact = .ok marker) ∧
      (∀ report : Report, Json.read Report.reader report.toJson.compact = .ok report) ∧
      (∀ artifact : Artifact,
        Json.read Artifact.reader artifact.toJson.compact = .ok artifact) ∧
      (∀ member : Member, Json.read Member.reader member.toJson.compact = .ok member) ∧
      (∀ decl : Declaration, Json.read Declaration.reader decl.toJson.compact = .ok decl) ∧
      (∀ settings : Settings,
        Json.read Settings.reader settings.toJson.compact = .ok settings) := by
  refine ⟨?_, ?_, ?_, ?_, ?_, ?_, ?_, ?_⟩
  · exact fun map => read_spread map.readsBack
  · exact fun entity => read_compact entity.readsBack
  · exact fun marker => read_compact marker.readsBack
  · exact fun report => read_compact report.readsBack
  · exact fun artifact => read_compact artifact.readsBack
  · exact fun member => read_compact member.readsBack
  · exact fun decl => read_compact decl.readsBack
  · exact fun settings => read_compact settings.readsBack

end EntityForge
