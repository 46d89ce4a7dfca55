import EntityForge.Proofs.Exports
import EntityForge.Proofs.Generation.Memory

/-!
# Route maps and runs agree

The route map and the generator go through the same declarations and know nothing of each other.
Whatever the model says, either both fail, and with the same fault, or both succeed; then the route
map describes what a run into memory has left there (`Generation.routeMap_agrees_run`).

`EntityAgreement` says what holds of one entity, with its block of routes and its block of paths. It
holds also of entities that share their name, and with it their paths, with other ones: what the
later one writes over exports the same symbols.
-/

set_option autoImplicit false

namespace EntityForge

/-- Where every item becomes `n` items, the items from `n * i` on are those of item `i`. -/
theorem block_eq {α β : Type} {f : α → List β} {n : Nat} (hf : ∀ a, (f a).length = n)
    {items : List α} {a : α} {i : Nat} (h : items[i]? = some a) :
    ((items.flatMap f).drop (n * i)).take n = f a := by
  induction items generalizing i with
  | nil => simp at h
  | cons b items ih =>
    rw [List.flatMap_cons]
    cases i with
    | zero =>
      obtain rfl : b = a := by simpa using h
      rw [Nat.mul_zero, List.drop_zero, List.take_left' (hf b)]
    | succ i =>
      rw [Nat.mul_succ, Nat.add_comm, ← List.drop_drop, List.drop_left' (hf b)]
      exact ih (by simpa using h)

/-! ## The route map of declarations -/

namespace RouteMap

open Generation (outcomeOf)

variable (settings : Settings) (view : ModelView)

/-- The entries of a route map for declarations with their entities. -/
def ofEntities (decls : List Declaration) (entities : List Entity) : RouteMap :=
  ⟨List.zipWith (infoOf settings) decls entities, entities.flatMap (routesOf settings)⟩

theorem ofDeclarations_eq (decls : List Declaration) :
    ofDeclarations settings view decls
      = outcomeOf (view.firstFault? settings.markerId decls)
          (.ok (ofEntities settings decls (view.soundEntities settings.markerId decls))) := by
  induction decls with
  | nil => rfl
  | cons decl decls ih =>
    cases hentity : view.entity decl settings.markerId with
    | error fault => simp [ofDeclarations, ModelView.firstFault?_of_error hentity, hentity]
    | ok entity =>
      cases hfault : view.firstFault? settings.markerId decls with
      | some fault =>
        simp [ofDeclarations, ModelView.firstFault?_of_ok hentity, hentity, ih, hfault]
      | none =>
        simp [ofDeclarations, ModelView.firstFault?_of_ok hentity,
          ModelView.soundEntities_of_ok hentity, hentity, ih, hfault, ofEntities]

/-- Without a fault, every entry is that of a declaration's entity. -/
theorem exists_entity_of_entries {decls : List Declaration} {entities : List Entity} {i : Nat}
    {info : EntityInfo} (h : (ofEntities settings decls entities).entities[i]? = some info) :
    ∃ decl entity, entities[i]? = some entity ∧ info = infoOf settings decl entity := by
  obtain ⟨decl, entity, -, hentity, rfl⟩ := List.getElem?_zipWith_eq_some.1 h
  exact ⟨decl, entity, hentity, rfl⟩

theorem map_name_ofEntities {decls : List Declaration} {entities : List Entity}
    (h : entities.map (·.name) = decls.map (·.name)) :
    (ofEntities settings decls entities).entities.map (·.name) = decls.map (·.name) := by
  rw [← h]
  induction decls generalizing entities with
  | nil => cases entities with
    | nil => rfl
    | cons entity entities => simp at h
  | cons decl decls ih =>
    cases entities with
    | nil => simp at h
    | cons entity entities =>
      simp only [List.map_cons, List.cons.injEq] at h
      simpa [ofEntities, infoOf] using ih h.2

end RouteMap

/-! ## Agreement -/

/-- What holds of one entity of a route map, with its routes and its paths, and of the files in
memory. -/
structure EntityAgreement (settings : Settings) (info : EntityInfo) (routes : List Route)
    (paths : List String) (files : MemoryManifest) : Prop where
  /-- Five routes serve the entity. -/
  routes_length : routes.length = 5
  /-- They name the entity. -/
  routes_entity : ∀ route ∈ routes, route.entity = info.name
  /-- They are bound to the files that the index names. -/
  routes_file : ∀ route ∈ routes, ∃ stem ∈ Stem.handlers,
    route.file = settings.artifactPath info.name stem.name
  /-- Six artifacts were written. -/
  paths_eq : paths = Stem.all.map fun stem => settings.artifactPath info.name stem.name
  /-- They lie in the directory of the entity. -/
  paths_directory : ∀ path ∈ paths, (info.directory ++ "/").toList <+: path.toList
  /-- The index exports the symbols of the routes file by file, and nothing else. -/
  index_eq : files.get? (settings.artifactPath info.name Stem.index.name)
    = some (RouteMap.exportLines settings info.name routes)

/-- What holds of a route map, a report and the files in memory. -/
structure RouteMap.Agreement (settings : Settings) (map : RouteMap) (report : Report)
    (files : MemoryManifest) : Prop where
  /-- The entities are the same, in the same order. -/
  names_eq : map.entities.map (·.name) = report.entities
  /-- There are five routes for every entity. -/
  routes_length : map.routes.length = 5 * map.entities.length
  /-- There are six artifacts for every entity, and one where there is none. -/
  artifacts_length : report.artifacts.length
    = if map.entities = [] then 1 else 6 * map.entities.length
  /-- The routes and the paths of the entities follow each other in blocks. -/
  entity : ∀ (i : Nat) (info : EntityInfo), map.entities[i]? = some info →
    EntityAgreement settings info ((map.routes.drop (5 * i)).take 5)
      ((report.artifacts.drop (6 * i)).take 6) files
  /-- The handler of a route is exported in the file of the route. -/
  exported : ∀ route ∈ map.routes, ∃ content, files.get? route.file = some content ∧
    (RouteMap.exported route).toList <:+: content.toList

namespace Generation

variable {settings : Settings}

theorem directory_prefix_artifactPath (name : String) (stem : Stem) :
    (settings.entityDirectory name ++ "/").toList
      <+: (settings.artifactPath name stem.name).toList := by
  simp only [Settings.entityDirectory, Settings.artifactPath, String.toList_append,
    List.append_assoc]
  simp

theorem entityAgreement {entities : List Entity} {entity : Entity} {i : Nat}
    (h : entities[i]? = some entity) (decl : Declaration) :
    EntityAgreement settings (RouteMap.infoOf settings decl entity)
      (((entities.flatMap (RouteMap.routesOf settings)).drop (5 * i)).take 5)
      ((((entities.flatMap (Artifact.emitted settings)).map (·.path)).drop (6 * i)).take 6)
      (MemoryManifest.ofArtifacts (entities.flatMap (Artifact.emitted settings))) := by
  have hroutes := block_eq (f := RouteMap.routesOf settings) (n := 5) (fun _ => rfl) h
  have hpaths := block_eq (f := fun entity => (Artifact.emitted settings entity).map (·.path))
    (n := 6) (fun _ => rfl) h
  rw [hroutes, List.map_flatMap, hpaths]
  exact {
    routes_length := rfl
    routes_entity := by simp [RouteMap.routesOf, RouteMap.infoOf]
    routes_file := by
      intro route hroute
      obtain ⟨stem, hstem, hfile, -⟩ := RouteMap.export_infix_rendered hroute
      exact ⟨stem, hstem, hfile⟩
    paths_eq := rfl
    paths_directory := by
      intro path hpath
      obtain ⟨artifact, hmem, rfl⟩ := List.mem_map.1 hpath
      obtain ⟨stem, -, rfl⟩ := List.mem_map.1 hmem
      exact directory_prefix_artifactPath entity.name stem
    index_eq := by
      obtain ⟨twin, -, hname, hget⟩ := get?_written (List.mem_of_getElem? h) Stem.index
      rw [RouteMap.rendered_index hname, String.ofList_toList] at hget
      exact hget }

theorem agreement_of_entities {decls : List Declaration} {entities : List Entity}
    (hmarked : decls ≠ []) (h : entities.map (·.name) = decls.map (·.name)) :
    RouteMap.Agreement settings (RouteMap.ofEntities settings decls entities)
      ⟨decls.map (·.name), (entities.flatMap (Artifact.emitted settings)).map (·.path)⟩
      (MemoryManifest.ofArtifacts (entities.flatMap (Artifact.emitted settings))) := by
  have hnames := RouteMap.map_name_ofEntities settings h
  have hcount : (RouteMap.ofEntities settings decls entities).entities.length
      = entities.length := by
    simpa using congrArg List.length (hnames.trans h.symm)
  have hsome : (RouteMap.ofEntities settings decls entities).entities ≠ [] := by
    intro hnil
    rw [hnil] at hnames
    exact hmarked (List.map_eq_nil_iff.1 hnames.symm)
  exact {
    names_eq := hnames
    routes_length := by
      rw [hcount]
      exact length_blocks (f := RouteMap.routesOf settings) (n := 5) (fun _ => rfl) entities
    artifacts_length := by
      rw [if_neg hsome, hcount, List.length_map]
      exact length_blocks (length_emitted settings) entities
    entity := by
      intro i info hinfo
      obtain ⟨decl, entity, hentity, rfl⟩ := RouteMap.exists_entity_of_entries settings hinfo
      exact entityAgreement hentity decl
    exported := by
      intro route hroute
      obtain ⟨entity, hentity, hmem⟩ := List.mem_flatMap.1 hroute
      obtain ⟨stem, -, hfile, hexported⟩ := RouteMap.export_infix_rendered hmem
      -- the file may hold what another entity of this name has written
      obtain ⟨twin, -, hname, hget⟩ := get?_written hentity stem
      refine ⟨_, hfile ▸ hget, ?_⟩
      rw [String.toList_ofList]
      exact hexported twin hname }

/-- A route map and a run into memory agree. Either both fail with the same fault, or both succeed
and the route map describes what the run has left in memory. -/
theorem routeMap_agrees_run (settings : Settings) (view : ModelView) :
    (∃ map report, RouteMap.ofView settings view = .ok map ∧
      (run settings view MemoryManifest.sink .empty).outcome = .ok report ∧
      RouteMap.Agreement settings map report
        (run settings view MemoryManifest.sink .empty).state) ∨
    ∃ fault, RouteMap.ofView settings view = .error fault ∧
      (run settings view MemoryManifest.sink .empty).outcome = .error fault := by
  obtain ⟨hstate, houtcome⟩ := run_memory settings view
  rw [RouteMap.ofView, RouteMap.ofDeclarations_eq, houtcome, hstate]
  cases hfault : view.firstFault? settings.markerId (view.annotated settings.markerId) with
  | some fault => exact .inr ⟨fault, rfl, rfl⟩
  | none =>
    refine .inl ⟨_, _, rfl, rfl, ?_⟩
    have hnames := ModelView.map_name_soundEntities hfault
    cases hdecls : view.annotated settings.markerId with
    | nil =>
      -- only the diagnostic is written, and no entity is there to compare
      simp only [sequence, hdecls]
      exact {
        names_eq := rfl
        routes_length := rfl
        artifacts_length := rfl
        entity := fun _ _ hinfo => by simp [RouteMap.ofEntities] at hinfo
        exported := fun _ hroute => by
          simp [RouteMap.ofEntities] at hroute }
    | cons decl decls =>
      rw [hdecls] at hnames
      simp only [sequence, hdecls]
      exact agreement_of_entities (List.cons_ne_nil decl decls) hnames

end Generation

end EntityForge
