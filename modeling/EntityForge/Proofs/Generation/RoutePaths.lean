import EntityForge.Model.View
import EntityForge.Proofs.Generation.Routes

/-!
# Which routes clash

A deployment binds a handler to a method and a path, so two routes with the same method and the same
path cannot both be bound. The path of a route is made from the name of its entity in lower case.
Hence routes clash exactly if they do the same for entities whose names have one lower case
(`RouteMap.clash_iff`), and a route map is free of clashes exactly if the names of its entities are
pairwise distinct in lower case (`RouteMap.clashFree_iff`).

That the names themselves are distinct does not suffice
(`RouteMap.not_clashFree_of_distinct_names`).
-/

set_option autoImplicit false

namespace EntityForge

/-- Two routes answer the same requests. -/
def Route.Clash (a b : Route) : Prop := a.method = b.method ∧ a.path = b.path

instance (a b : Route) : Decidable (a.Clash b) := inferInstanceAs (Decidable (_ ∧ _))

namespace RouteMap

variable {settings : Settings} {a b : Entity}

/-! ## Paths -/

theorem collectionPath_inj :
    collectionPath a = collectionPath b ↔ Text.lowercase a.name = Text.lowercase b.name := by
  constructor
  · intro h
    have hchars := congrArg String.toList h
    simp only [collectionPath, String.toList_append] at hchars
    exact String.toList_inj.1 (List.append_cancel_left (List.append_cancel_right hchars))
  · intro h
    rw [collectionPath, h, collectionPath]

theorem recordPath_inj :
    recordPath a = recordPath b ↔ Text.lowercase a.name = Text.lowercase b.name := by
  rw [← collectionPath_inj]
  constructor
  · intro h
    have hchars := congrArg String.toList h
    simp only [recordPath, String.toList_append] at hchars
    exact String.toList_inj.1 (List.append_cancel_right hchars)
  · intro h
    rw [recordPath, h, recordPath]

/-- One ends with a letter and the other one with a brace. -/
theorem collectionPath_ne_recordPath (a b : Entity) : collectionPath a ≠ recordPath b := by
  intro h
  have hlast := congrArg (fun path => path.toList.reverse.head?) h
  simp [collectionPath, recordPath, String.toList_append] at hlast

/-! ## Clashes -/

/-- Routes clash exactly if they do the same for entities whose names have one lower case. -/
theorem clash_iff {x y : Route} (hx : x ∈ routesOf settings a) (hy : y ∈ routesOf settings b) :
    x.Clash y ↔ x.operation = y.operation ∧ Text.lowercase a.name = Text.lowercase b.name := by
  have hcollection := collectionPath_ne_recordPath a b
  have hrecord := (collectionPath_ne_recordPath b a).symm
  simp only [routesOf, List.mem_cons, List.not_mem_nil, or_false] at hx hy
  -- list and get, and update and delete, are told apart by the path or by the method
  rcases hx with rfl | rfl | rfl | rfl | rfl <;> rcases hy with rfl | rfl | rfl | rfl | rfl <;>
    simp [Route.Clash, collectionPath_inj, recordPath_inj, hcollection, hrecord]

/-- The routes of one entity never clash. -/
theorem clashFree_routesOf (settings : Settings) (entity : Entity) :
    (routesOf settings entity).Pairwise fun x y => ¬ x.Clash y := by
  have hoperations :
      (routesOf settings entity).Pairwise fun x y => x.operation ≠ y.operation := by
    simp [routesOf]
  refine hoperations.imp_of_mem fun hx hy hne hclash => ?_
  exact hne ((clash_iff hx hy).1 hclash).1

/-- The routes of entities do not clash exactly if the names have different lower cases. -/
theorem clashFree_flatMap_iff (settings : Settings) (entities : List Entity) :
    (entities.flatMap (routesOf settings)).Pairwise (fun x y => ¬ x.Clash y) ↔
      (entities.map fun entity => Text.lowercase entity.name).Nodup := by
  rw [List.pairwise_flatMap, List.Nodup, List.pairwise_map]
  constructor
  · rintro ⟨-, hacross⟩
    refine hacross.imp fun {a b} hclash hsame => ?_
    -- the routes that create records would clash
    have hfirst : ∀ entity, ∃ route ∈ routesOf settings entity, route.operation = "create" :=
      fun _ => ⟨_, List.mem_cons_self, rfl⟩
    obtain ⟨x, hx, hcreate⟩ := hfirst a
    obtain ⟨y, hy, hcreate'⟩ := hfirst b
    exact hclash x hx y hy ((clash_iff hx hy).2 ⟨hcreate.trans hcreate'.symm, hsame⟩)
  · intro hnames
    refine ⟨fun entity _ => clashFree_routesOf settings entity, ?_⟩
    refine hnames.imp fun hne x hx y hy hclash => ?_
    exact hne ((clash_iff hx hy).1 hclash).2

/-- A route map has no two routes with the same method and the same path exactly if the names of its
entities are pairwise distinct in lower case. -/
theorem clashFree_iff {settings : Settings} {view : ModelView} {map : RouteMap}
    (h : ofView settings view = .ok map) :
    map.routes.Pairwise (fun x y => ¬ x.Clash y) ↔
      (map.entities.map fun info => Text.lowercase info.name).Nodup := by
  rw [ofView, ofDeclarations_eq] at h
  cases hfault : view.firstFault? settings.markerId (view.annotated settings.markerId) with
  | some fault =>
    rw [hfault] at h
    cases h
  | none =>
    rw [hfault] at h
    cases h
    have hsound := ModelView.map_name_soundEntities hfault
    have hnames := (map_name_ofEntities settings hsound).trans hsound.symm
    have hlowered := congrArg (List.map Text.lowercase) hnames
    simp only [List.map_map, Function.comp_def] at hlowered
    rw [hlowered]
    exact clashFree_flatMap_iff settings _

/-- A model with two marked structures of the given names. -/
def twoEntities (first second : String) : Model :=
  let entity (table : String) : Shape :=
    ⟨Shape.structureType, .empty, [],
      .ofList [(Settings.standard.markerId, .object [(EntityMarker.tableKey, .text table)])]⟩
  ⟨.ofList [("demo#" ++ first, entity "First"), ("demo#" ++ second, entity "Second")]⟩

/-- The plural of one name may be the other name. -/
theorem clashFree_twoEntities : ∃ map,
    ofView .standard (twoEntities "Task" "Tasks").view = .ok map ∧
      map.routes.length = 10 ∧ map.routes.Pairwise fun x y => ¬ x.Clash y := by
  obtain ⟨map, hmap, hroutes, hnames⟩ : ∃ map,
      ofView .standard (twoEntities "Task" "Tasks").view = .ok map ∧ map.routes.length = 10 ∧
        (map.entities.map fun info => Text.lowercase info.name).Nodup :=
    ⟨_, rfl, by decide +kernel, by decide +kernel⟩
  exact ⟨map, hmap, hroutes, (clashFree_iff hmap).2 hnames⟩

/-- Names that are distinct, but not in lower case, do not keep routes apart. -/
theorem not_clashFree_of_distinct_names :
    ¬ ∀ (settings : Settings) (model : Model) (map : RouteMap),
      ofView settings model.view = .ok map → (map.entities.map (·.name)).Nodup →
        map.routes.Pairwise fun x y => ¬ x.Clash y := by
  intro h
  obtain ⟨map, hmap, hnames, hclash⟩ : ∃ map,
      ofView .standard (twoEntities "TASK" "Task").view = .ok map ∧
        (map.entities.map (·.name)).Nodup ∧ ¬ map.routes.Pairwise fun x y => ¬ x.Clash y :=
    ⟨_, rfl, by decide +kernel, by decide +kernel⟩
  exact hclash (h .standard (twoEntities "TASK" "Task") map hmap hnames)

end RouteMap

end EntityForge
