import EntityForge.RouteMap
import EntityForge.Proofs.Artifact

/-!
# Exported symbols

The symbols of an entity are spelled twice: by the routes, and by the templates around the slot of
the name. Here the two spellings meet. Every handler is exported in its file under the symbol of its
route (`RouteMap.export_infix_rendered`), and the index consists of one line per file with handlers
that exports the symbols of the routes bound to this file, in order (`RouteMap.rendered_index`).
-/

set_option autoImplicit false

namespace EntityForge

open Template (Piece chars textOf pieces)

/-- The artifacts with handlers, in the order in which the index names them. -/
def Stem.handlers : List Stem := [.create, .read, .update, .delete]

/-! ## Symbols in templates -/

namespace Template

/-- A symbol around the slot of the name. -/
def symbolPieces (verb ending : String) : List Piece :=
  chars verb ++ .slot "name".toList :: chars ending

/-- The beginning of an exported handler. -/
def handlerPieces (verb ending : String) : List Piece :=
  chars "export const " ++ symbolPieces verb ending ++ chars " = async ("

/-- A line that exports symbols of a file again. -/
def exportLine (symbols : List String) (stem : Stem) : String :=
  "export \x7b " ++ ", ".intercalate symbols ++ " \x7d from \"./" ++ stem.name ++ "\";\n"

/-- The pieces of such a line, for symbols with the given verbs and endings. -/
def linePieces (symbols : List (String × String)) (stem : Stem) : List Piece :=
  chars "export \x7b "
    ++ (chars ", ").intercalate (symbols.map fun symbol => symbolPieces symbol.1 symbol.2)
    ++ chars " \x7d from \"./" ++ chars stem.name ++ chars "\";\n"

theorem textOf_symbolPieces {context : Dictionary String} {name : String}
    (h : context.get? "name" = some name) (verb ending : String) :
    textOf context (symbolPieces verb ending) = (verb ++ name ++ ending).toList := by
  have hslot : (Piece.slot "name".toList).textOf context = name.toList :=
    Piece.textOf_slot (by rw [String.ofList_toList]; exact h)
  simp only [symbolPieces, textOf_append, textOf_cons, textOf_chars, hslot, String.toList_append,
    List.append_assoc]

theorem textOf_handlerPieces {context : Dictionary String} {name : String}
    (h : context.get? "name" = some name) (verb ending : String) :
    textOf context (handlerPieces verb ending)
      = ("export const " ++ (verb ++ name ++ ending) ++ " = async (").toList := by
  simp only [handlerPieces, textOf_append, textOf_chars, textOf_symbolPieces h,
    String.toList_append]

theorem textOf_intercalate (context : Dictionary String) (separator : String)
    (parts : List (List Piece)) :
    textOf context ((chars separator).intercalate parts)
      = separator.toList.intercalate (parts.map (textOf context)) := by
  induction parts with
  | nil => rfl
  | cons part parts ih =>
    cases parts with
    | nil => simp
    | cons next rest =>
      rw [List.intercalate_cons_cons, textOf_append, textOf_append, textOf_chars, ih]
      simp

theorem textOf_linePieces {context : Dictionary String} {name : String}
    (h : context.get? "name" = some name) (symbols : List (String × String)) (stem : Stem) :
    textOf context (linePieces symbols stem)
      = (exportLine (symbols.map fun symbol => symbol.1 ++ name ++ symbol.2) stem).toList := by
  have hsymbols : (symbols.map fun symbol => symbolPieces symbol.1 symbol.2).map (textOf context)
      = (symbols.map fun symbol => symbol.1 ++ name ++ symbol.2).map String.toList := by
    simp only [List.map_map, Function.comp_def, textOf_symbolPieces h]
  simp only [linePieces, exportLine, textOf_append, textOf_chars, textOf_intercalate, hsymbols,
    String.toList_append, String.toList_intercalate]

/-- Every handler, with the artifact that holds it and the verb and the ending of its symbol. -/
def handlers : List (Stem × String × String) :=
  [(.create, "create", ""), (.read, "list", "s"), (.read, "get", ""), (.update, "update", ""),
   (.delete, "delete", "")]

/-- The templates export the handlers. -/
theorem handlerPieces_infix {stem : Stem} {verb ending : String}
    (h : (stem, verb, ending) ∈ handlers) :
    handlerPieces verb ending <:+: pieces stem.template := by
  simp only [handlers, List.mem_cons, List.not_mem_nil, or_false, Prod.mk.injEq] at h
  -- in every case the pieces are computed from the lines of the template
  rcases h with ⟨rfl, rfl, rfl⟩ | ⟨rfl, rfl, rfl⟩ | ⟨rfl, rfl, rfl⟩ | ⟨rfl, rfl, rfl⟩ |
    ⟨rfl, rfl, rfl⟩ <;>
    simp only [Stem.template, SourceText.createTemplate, SourceText.readTemplate,
      SourceText.updateTemplate, SourceText.deleteTemplate] <;>
    (repeat rw [SourceText.wholeLines_cons_ofList]) <;>
    decide +kernel

theorem pieces_indexTemplate :
    pieces SourceText.indexTemplate
      = linePieces [("create", "")] .create ++ linePieces [("list", "s"), ("get", "")] .read
        ++ linePieces [("update", "")] .update ++ linePieces [("delete", "")] .delete := by
  unfold SourceText.indexTemplate
  repeat rw [SourceText.wholeLines_cons_ofList]
  decide +kernel

end Template

/-! ## Handlers in their files -/

namespace Artifact

theorem get?_context_name (entity : Entity) (stem : Stem) :
    (context entity stem).get? "name" = some entity.name := by
  cases stem <;>
    simp [context, typesContext, handlerContext, indexContext]

/-- What stands in a template stands, filled in, in the artifact. -/
theorem infix_rendered {stem : Stem} {part : List Piece} (entity : Entity)
    (h : part <:+: pieces stem.template) :
    textOf (context entity stem) part <:+: rendered entity stem :=
  (Template.textOf_infix h).trans (List.suffix_append _ _).isInfix

/-- A handler of a template is exported in the artifact under a symbol around the name. -/
theorem handler_infix_rendered {stem : Stem} {verb ending : String} (entity : Entity)
    (h : Template.handlerPieces verb ending <:+: pieces stem.template) :
    ("export const " ++ (verb ++ entity.name ++ ending) ++ " = async (").toList
      <:+: rendered entity stem := by
  rw [← Template.textOf_handlerPieces (get?_context_name entity stem)]
  exact infix_rendered entity h

end Artifact

namespace RouteMap

/-- The beginning of the handler that a route is bound to. -/
def exported (route : Route) : String := "export const " ++ route.symbol ++ " = async ("

/-- Routes are bound to files with handlers, and a route has the symbol of a handler there. -/
theorem handler_of_route {settings : Settings} {entity : Entity} {route : Route}
    (hroute : route ∈ routesOf settings entity) :
    ∃ stem ∈ Stem.handlers, ∃ verb ending : String,
      (stem, verb, ending) ∈ Template.handlers ∧
      route.file = settings.artifactPath entity.name stem.name ∧
      route.symbol = verb ++ entity.name ++ ending := by
  simp only [routesOf, List.mem_cons, List.not_mem_nil, or_false] at hroute
  rcases hroute with rfl | rfl | rfl | rfl | rfl
  · exact ⟨.create, by decide, "create", "", by decide, rfl, String.append_empty.symm⟩
  · exact ⟨.read, by decide, "list", "s", by decide, rfl, rfl⟩
  · exact ⟨.read, by decide, "get", "", by decide, rfl, String.append_empty.symm⟩
  · exact ⟨.update, by decide, "update", "", by decide, rfl, String.append_empty.symm⟩
  · exact ⟨.delete, by decide, "delete", "", by decide, rfl, String.append_empty.symm⟩

/-- The handler of a route is exported in the file of the route. Another entity of the same name
may have written this file; its handlers have the same symbols. -/
theorem export_infix_rendered {settings : Settings} {entity : Entity} {route : Route}
    (hroute : route ∈ routesOf settings entity) :
    ∃ stem ∈ Stem.handlers, route.file = settings.artifactPath entity.name stem.name ∧
      ∀ twin : Entity, twin.name = entity.name →
        (exported route).toList <:+: Artifact.rendered twin stem := by
  obtain ⟨stem, hstem, verb, ending, hhandler, hfile, hsymbol⟩ := handler_of_route hroute
  refine ⟨stem, hstem, hfile, fun twin htwin => ?_⟩
  rw [exported, hsymbol, ← htwin]
  exact Artifact.handler_infix_rendered twin (Template.handlerPieces_infix hhandler)

/-! ## The index -/

/-- The line that exports the symbols of the routes bound to a file of an entity, in order. -/
def exportLine (settings : Settings) (name : String) (routes : List Route) (stem : Stem) :
    String :=
  let bound := routes.filter fun route => route.file == settings.artifactPath name stem.name
  Template.exportLine (bound.map (·.symbol)) stem

/-- The lines that export the symbols of routes, file by file. -/
def exportLines (settings : Settings) (name : String) (routes : List Route) : String :=
  String.join (Stem.handlers.map (exportLine settings name routes))

/-- The routes of an entity, file by file. -/
theorem exportLines_routesOf (settings : Settings) (entity : Entity) :
    exportLines settings entity.name (routesOf settings entity)
      = String.join
        [Template.exportLine [entity.createSymbol] .create,
          Template.exportLine [entity.listSymbol, entity.getSymbol] .read,
          Template.exportLine [entity.updateSymbol] .update,
          Template.exportLine [entity.deleteSymbol] .delete] := by
  have hpath : ∀ s t : Stem, (settings.artifactPath entity.name s.name
      == settings.artifactPath entity.name t.name) = decide (s = t) := by
    intro s t
    rw [Bool.eq_iff_iff, beq_iff_eq, decide_eq_true_iff, Settings.artifactPath_inj]
    exact and_iff_right rfl
  simp [exportLines, exportLine, Stem.handlers, routesOf, hpath]

/-- The index of an entity exports the symbols of its routes, file by file. -/
theorem rendered_index {settings : Settings} {entity twin : Entity} (h : twin.name = entity.name) :
    Artifact.rendered twin .index
      = (exportLines settings entity.name (routesOf settings entity)).toList := by
  have hline := Template.textOf_linePieces (Artifact.get?_context_name twin .index)
  rw [h] at hline
  rw [exportLines_routesOf, Artifact.rendered, Stem.heading, Stem.template,
    Template.pieces_indexTemplate]
  simp only [Template.textOf_append, hline, String.toList_join, List.flatMap_cons,
    List.flatMap_nil, List.append_nil, List.nil_append, List.append_assoc, List.map_cons,
    List.map_nil, String.append_empty]
  rfl

end RouteMap

end EntityForge
