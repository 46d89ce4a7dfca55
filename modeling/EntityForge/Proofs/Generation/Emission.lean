import EntityForge.Generation
import EntityForge.Proofs.Artifact

/-!
# What a run writes

A run has one sequence of artifacts to write, `Generation.sequence`, which settings and model fix:
the diagnostic if nothing is marked, and otherwise the six artifacts of every entity up to the first
declaration that is at fault. Whatever the sink does, the run attempts the writes of this sequence
in order, up to the first that is refused, and nothing else (`Generation.run_writes_sequence`).

`Emits` is the relation between a sequence and what becomes of it in a sink; it is a function of the
sink and the state (`Emits.unique`). Every part of a run is described by it: a list of artifacts
(`Generation.writeAll_emits`), an entity (`Generation.step_emits`) and a list of declarations
(`Generation.entities_emits`).
-/

set_option autoImplicit false

namespace EntityForge

variable {σ : Type}

/-! ## Writing a sequence -/

/-- What becomes of a sequence of artifacts that is written into a sink: the artifacts that were
attempted, the state in the end, and the fault with which the last write was refused, if it was. -/
inductive Emits (sink : Sink σ) : List Artifact → σ → List Artifact → σ → Option Fault → Prop where
  | done (state : σ) : Emits sink [] state [] state none
  | written {artifact : Artifact} {artifacts attempted : List Artifact} {state final : σ}
      {refusal : Option Fault} :
      (sink.write artifact state).outcome = .ok () →
      Emits sink artifacts (sink.write artifact state).state attempted final refusal →
      Emits sink (artifact :: artifacts) state (artifact :: attempted) final refusal
  | refused {artifact : Artifact} (artifacts : List Artifact) {state : σ} {fault : Fault} :
      (sink.write artifact state).outcome = .error fault →
      Emits sink (artifact :: artifacts) state [artifact] (sink.write artifact state).state
        (some fault)

/-- A sink does to its own states what another one does to the states for which they stand. -/
structure Sink.Represents {τ : Type} (f : τ → σ) (fine : Sink τ) (sink : Sink σ) : Prop where
  /-- Writes lead to states that stand for each other. -/
  state : ∀ artifact state,
    f (fine.write artifact state).state = (sink.write artifact (f state)).state
  /-- Writes have the same outcome. -/
  outcome : ∀ artifact state,
    (fine.write artifact state).outcome = (sink.write artifact (f state)).outcome

/-- A sink that also notes every artifact that it is asked to write. -/
def Sink.noting (sink : Sink σ) : Sink (List Artifact × σ) where
  write artifact state :=
    let written := sink.write artifact state.2
    ⟨(state.1 ++ [artifact], written.state), written.events, written.outcome⟩

namespace Emits

variable {sink : Sink σ} {artifacts later attempted : List Artifact} {state middle final : σ}
  {refusal : Option Fault}

/-- Only a prefix is attempted, and all of it unless a write is refused. -/
theorem attempted_prefix (h : Emits sink artifacts state attempted final refusal) :
    attempted <+: artifacts ∧ (refusal = none → attempted = artifacts) := by
  induction h with
  | done state => exact ⟨List.prefix_refl _, fun _ => rfl⟩
  | written _ _ ih =>
    refine ⟨(List.prefix_cons_inj _).2 ih.1, fun hnone => ?_⟩
    rw [ih.2 hnone]
  | refused artifacts _ => exact ⟨⟨artifacts, rfl⟩, nofun⟩

/-- The sink decides what becomes of a sequence. -/
theorem unique (h : Emits sink artifacts state attempted final refusal) :
    ∀ {attempted' : List Artifact} {final' : σ} {refusal' : Option Fault},
      Emits sink artifacts state attempted' final' refusal' →
        attempted' = attempted ∧ final' = final ∧ refusal' = refusal := by
  induction h with
  | done state =>
    intro _ _ _ h'
    cases h'
    exact ⟨rfl, rfl, rfl⟩
  | written hok _ ih =>
    intro _ _ _ h'
    cases h' with
    | written _ hrest =>
      obtain ⟨rfl, rfl, rfl⟩ := ih hrest
      exact ⟨rfl, rfl, rfl⟩
    | refused _ hfault =>
      rw [hok] at hfault
      cases hfault
  | refused artifacts hfault =>
    intro _ _ _ h'
    cases h' with
    | written hok _ =>
      rw [hok] at hfault
      cases hfault
    | refused _ hfault' =>
      rw [hfault] at hfault'
      cases hfault'
      exact ⟨rfl, rfl, rfl⟩

/-- After a sequence that was accepted, what comes later is written from there. -/
theorem append {attempted' : List Artifact}
    (h : Emits sink artifacts state attempted middle none) :
    Emits sink later middle attempted' final refusal →
      Emits sink (artifacts ++ later) state (attempted ++ attempted') final refusal := by
  -- the induction needs an index that is a variable
  generalize hnone : (none : Option Fault) = accepted at h
  induction h with
  | done state => exact id
  | written hok _ ih => exact fun hlater => .written hok (ih hnone hlater)
  | refused _ _ => cases hnone

/-- What comes after a refused write is not attempted. -/
theorem append_of_refused {fault : Fault}
    (h : Emits sink artifacts state attempted final (some fault)) (later : List Artifact) :
    Emits sink (artifacts ++ later) state attempted final (some fault) := by
  generalize hsome : some fault = refusal at h ⊢
  induction h with
  | done state => cases hsome
  | written hok _ ih => exact .written hok (ih hsome)
  | refused artifacts hfault => exact .refused (artifacts ++ later) hfault

/-- The fault that ends the writing is that of a write. -/
theorem exists_refused {fault : Fault}
    (h : Emits sink artifacts state attempted final (some fault)) :
    ∃ artifact before, (sink.write artifact before).outcome = .error fault := by
  generalize hsome : some fault = refusal at h
  induction h with
  | done state => cases hsome
  | written _ _ ih => exact ih hsome
  | refused artifacts hfault =>
    cases hsome
    exact ⟨_, _, hfault⟩

/-- What becomes of a sequence becomes of it among the states for which the others stand. -/
theorem map {τ : Type} {f : τ → σ} {fine : Sink τ} {start last : τ}
    (hrep : fine.Represents f sink) (h : Emits fine artifacts start attempted last refusal) :
    Emits sink artifacts (f start) attempted (f last) refusal := by
  induction h with
  | done state => exact .done (f state)
  | written hok _ ih =>
    rw [hrep.state] at ih
    rw [hrep.outcome] at hok
    exact .written hok ih
  | refused artifacts hfault =>
    rw [hrep.outcome] at hfault
    rw [hrep.state]
    exact .refused artifacts hfault

/-- What becomes of a sequence becomes of it also among the states that stand for the others. -/
theorem lift {τ : Type} {f : τ → σ} {fine : Sink τ} (hrep : fine.Represents f sink)
    (h : Emits sink artifacts state attempted final refusal) : ∀ {start : τ}, f start = state →
      ∃ last, f last = final ∧ Emits fine artifacts start attempted last refusal := by
  induction h with
  | done state =>
    rintro start rfl
    exact ⟨start, rfl, .done start⟩
  | written hok _ ih =>
    rintro start rfl
    rw [← hrep.outcome] at hok
    obtain ⟨last, hlast, hrest⟩ := ih (hrep.state _ start)
    exact ⟨last, hlast, .written hok hrest⟩
  | refused artifacts hfault =>
    rintro start rfl
    rw [← hrep.outcome] at hfault
    exact ⟨_, hrep.state _ start, .refused artifacts hfault⟩

/-- Noting changes nothing else, and notes exactly what is attempted. -/
theorem of_noting {start : List Artifact × σ} {stop : List Artifact × σ}
    (h : Emits sink.noting artifacts start attempted stop refusal) :
    Emits sink artifacts start.2 attempted stop.2 refusal ∧ stop.1 = start.1 ++ attempted := by
  have hrep : sink.noting.Represents Prod.snd sink := ⟨fun _ _ => rfl, fun _ _ => rfl⟩
  refine ⟨h.map hrep, ?_⟩
  induction h with
  | done state => exact (List.append_nil _).symm
  | written _ _ ih =>
    rw [ih]
    simp [Sink.noting]
  | refused => rfl

end Emits

namespace Generation

/-- The outcome of writes: a fault if one was refused. -/
def outcomeOf {α : Type} (refusal : Option Fault) (otherwise : Except Fault α) : Except Fault α :=
  match refusal with
  | some fault => .error fault
  | none => otherwise

@[simp] theorem outcomeOf_none {α : Type} (otherwise : Except Fault α) :
    outcomeOf none otherwise = otherwise := rfl

@[simp] theorem outcomeOf_some {α : Type} (fault : Fault) (otherwise : Except Fault α) :
    outcomeOf (some fault) otherwise = .error fault := rfl

/-- Writing all artifacts of a list emits the list. -/
theorem writeAll_emits (sink : Sink σ) (artifacts : List Artifact) : ∀ state : σ,
    ∃ attempted refusal,
      Emits sink artifacts state attempted (writeAll sink artifacts state).state refusal ∧
        (writeAll sink artifacts state).outcome = outcomeOf refusal (.ok ()) := by
  induction artifacts with
  | nil => exact fun state => ⟨[], none, .done state, rfl⟩
  | cons artifact artifacts ih =>
    intro state
    cases hwrite : (sink.write artifact state).outcome with
    | error fault =>
      refine ⟨[artifact], some fault, ?_, ?_⟩
      · simpa [writeAll, Activity.andThen_of_error hwrite] using Emits.refused artifacts hwrite
      · simp [writeAll, Activity.andThen_of_error hwrite]
    | ok value =>
      obtain ⟨attempted, refusal, hemits, houtcome⟩ := ih (sink.write artifact state).state
      refine ⟨artifact :: attempted, refusal, ?_, ?_⟩
      · simpa [writeAll, Activity.andThen_of_ok hwrite] using Emits.written hwrite hemits
      · simpa [writeAll, Activity.andThen_of_ok hwrite] using houtcome

end Generation

/-! ## What a model has to be written -/

/-- Where every item becomes `n` items, there are `n` times as many. -/
theorem length_blocks {α β : Type} {f : α → List β} {n : Nat} (hf : ∀ a, (f a).length = n)
    (items : List α) : (items.flatMap f).length = n * items.length := by
  induction items with
  | nil => rfl
  | cons a items ih =>
    rw [List.flatMap_cons, List.length_append, hf, ih, List.length_cons, Nat.mul_succ, Nat.add_comm]

namespace ModelView

variable (view : ModelView) (markerId : String)

/-- The entities of declarations in order, up to the first declaration that is at fault. -/
def soundEntities : List Declaration → List Entity
  | [] => []
  | decl :: decls =>
    match view.entity decl markerId with
    | .error _ => []
    | .ok entity => entity :: soundEntities decls

/-- The fault of the first declaration that is at fault. -/
def firstFault? : List Declaration → Option Fault
  | [] => none
  | decl :: decls =>
    match view.entity decl markerId with
    | .error fault => some fault
    | .ok _ => firstFault? decls

variable {view markerId} {decl : Declaration} {decls : List Declaration}

@[simp] theorem soundEntities_nil : view.soundEntities markerId [] = [] := rfl

@[simp] theorem firstFault?_nil : view.firstFault? markerId [] = none := rfl

theorem soundEntities_of_ok {entity : Entity} (h : view.entity decl markerId = .ok entity) :
    view.soundEntities markerId (decl :: decls) = entity :: view.soundEntities markerId decls := by
  rw [soundEntities, h]

theorem soundEntities_of_error {fault : Fault} (h : view.entity decl markerId = .error fault) :
    view.soundEntities markerId (decl :: decls) = [] := by
  rw [soundEntities, h]

theorem firstFault?_of_ok {entity : Entity} (h : view.entity decl markerId = .ok entity) :
    view.firstFault? markerId (decl :: decls) = view.firstFault? markerId decls := by
  rw [firstFault?, h]

theorem firstFault?_of_error {fault : Fault} (h : view.entity decl markerId = .error fault) :
    view.firstFault? markerId (decl :: decls) = some fault := by
  rw [firstFault?, h]

/-- An entity is built from a marker that was read and from the members. -/
theorem entity_ok {entity : Entity} (h : view.entity decl markerId = .ok entity) :
    ∃ node marker members, view.marker decl markerId = some node ∧
      EntityMarker.ofNode decl.id node = .ok marker ∧ view.members decl = .ok members ∧
      entity = Entity.build decl marker members := by
  unfold ModelView.entity at h
  split at h
  · cases h
  rename_i node hnode
  split at h
  · cases h
  rename_i marker hmarker
  split at h
  · cases h
  rename_i members hmembers
  cases h
  exact ⟨node, marker, members, hnode, hmarker, hmembers, rfl⟩

/-- Why a declaration has no entity: it has no marker, its marker cannot be read, or its members
cannot be listed. -/
theorem entity_error {fault : Fault} (h : view.entity decl markerId = .error fault) :
    (view.marker decl markerId = none ∧
        fault = .configuration (.markerNotApplied decl.id markerId)) ∨
      ∃ node, view.marker decl markerId = some node ∧
        (EntityMarker.ofNode decl.id node = .error fault ∨
          ∃ marker, EntityMarker.ofNode decl.id node = .ok marker ∧
            view.members decl = .error fault) := by
  unfold ModelView.entity at h
  split at h
  · rename_i hnone
    cases h
    exact .inl ⟨hnone, rfl⟩
  rename_i node hnode
  refine .inr ⟨node, hnode, ?_⟩
  split at h
  · rename_i hmarker
    cases h
    exact .inl hmarker
  rename_i marker hmarker
  split at h
  · rename_i hmembers
    cases h
    exact .inr ⟨marker, hmarker, hmembers⟩
  · cases h

/-- An entity is named by its declaration. -/
theorem name_of_entity {entity : Entity} (h : view.entity decl markerId = .ok entity) :
    entity.name = decl.name := by
  obtain ⟨_, _, _, -, -, -, rfl⟩ := entity_ok h
  rfl

/-- Before the first declaration that is at fault all are sound. -/
theorem split_of_firstFault? {fault : Fault}
    (h : view.firstFault? markerId decls = some fault) :
    ∃ before decl after, decls = before ++ decl :: after ∧
      (∀ earlier ∈ before, ∃ entity, view.entity earlier markerId = .ok entity) ∧
      view.entity decl markerId = .error fault := by
  induction decls with
  | nil => cases h
  | cons decl decls ih =>
    cases hentity : view.entity decl markerId with
    | error reason =>
      rw [firstFault?_of_error hentity] at h
      cases h
      exact ⟨[], decl, decls, rfl, nofun, hentity⟩
    | ok entity =>
      rw [firstFault?_of_ok hentity] at h
      obtain ⟨before, other, after, rfl, hbefore, hother⟩ := ih h
      refine ⟨decl :: before, other, after, rfl, ?_, hother⟩
      exact List.forall_mem_cons.2 ⟨⟨entity, hentity⟩, hbefore⟩

theorem exists_of_firstFault? {fault : Fault}
    (h : view.firstFault? markerId decls = some fault) :
    ∃ decl ∈ decls, view.entity decl markerId = .error fault := by
  obtain ⟨before, decl, after, rfl, -, hentity⟩ := split_of_firstFault? h
  exact ⟨decl, List.mem_append_right before List.mem_cons_self, hentity⟩

theorem map_name_soundEntities
    (h : view.firstFault? markerId decls = none) :
    (view.soundEntities markerId decls).map (·.name) = decls.map (·.name) := by
  induction decls with
  | nil => rfl
  | cons decl decls ih =>
    cases hentity : view.entity decl markerId with
    | error fault => simp [firstFault?_of_error hentity] at h
    | ok entity =>
      rw [firstFault?_of_ok hentity] at h
      simp [soundEntities_of_ok hentity, ih h, name_of_entity hentity]

end ModelView

namespace Generation

/-- The artifacts that a run has to write, in order. -/
def sequence (settings : Settings) (view : ModelView) : List Artifact :=
  match view.annotated settings.markerId with
  | [] => [Artifact.nothingMarked settings]
  | decls => (view.soundEntities settings.markerId decls).flatMap (Artifact.emitted settings)

theorem length_emitted (settings : Settings) (entity : Entity) :
    (Artifact.emitted settings entity).length = 6 := rfl

/-! ## A run emits its sequence -/

variable (settings : Settings) (view : ModelView) (sink : Sink σ)

/-- A declaration without a fault emits the artifacts of its entity. -/
theorem step_emits {decl : Declaration} {entity : Entity}
    (h : view.entity decl settings.markerId = .ok entity) (report : Report) (state : σ) :
    ∃ attempted refusal,
      Emits sink (Artifact.emitted settings entity) state attempted
          (step settings view sink decl report state).state refusal ∧
        (step settings view sink decl report state).outcome = outcomeOf refusal
          (.ok ⟨report.entities ++ [decl.name],
            report.artifacts ++ (Artifact.emitted settings entity).map (·.path)⟩) := by
  obtain ⟨attempted, refusal, hemits, houtcome⟩ :=
    writeAll_emits sink (Artifact.emitted settings entity) state
  refine ⟨attempted, refusal, ?_, ?_⟩
  · cases refusal <;> simpa [step, h, Artifact.allOf_eq_ok, Activity.andThen, houtcome] using hemits
  · cases refusal <;>
      simp [step, h, Artifact.allOf_eq_ok, Activity.andThen, houtcome, ModelView.name_of_entity h]

/-- Declarations emit the artifacts of their entities up to the first that is at fault. -/
theorem entities_emits (decls : List Declaration) : ∀ (report : Report) (state : σ),
    ∃ attempted refusal,
      Emits sink ((view.soundEntities settings.markerId decls).flatMap (Artifact.emitted settings))
          state attempted (entities settings view sink decls report state).state refusal ∧
        (entities settings view sink decls report state).outcome = outcomeOf refusal
          (outcomeOf (view.firstFault? settings.markerId decls)
            (.ok ⟨report.entities ++ decls.map (·.name), report.artifacts ++
              ((view.soundEntities settings.markerId decls).flatMap
                (Artifact.emitted settings)).map (·.path)⟩)) := by
  -- on the declarations; the report and the state grow with every entity
  induction decls with
  | nil =>
    intro report state
    exact ⟨[], none, .done state, by simp [entities]⟩
  | cons decl decls ih =>
    intro report state
    cases hentity : view.entity decl settings.markerId with
    | error fault =>
      -- nothing is written any more
      refine ⟨[], none, ?_, ?_⟩
      · simpa [entities, step, hentity, ModelView.soundEntities_of_error hentity, Activity.andThen,
          Activity.failed] using Emits.done state
      · simp [entities, step, hentity, ModelView.firstFault?_of_error hentity, Activity.andThen,
          Activity.failed]
    | ok entity =>
      obtain ⟨attempted, refusal, hemits, houtcome⟩ := step_emits settings view sink hentity report
        state
      rw [ModelView.soundEntities_of_ok hentity, ModelView.firstFault?_of_ok hentity,
        List.flatMap_cons]
      cases refusal with
      | some fault =>
        -- a write of this entity is refused, so the later entities are not reached
        refine ⟨attempted, some fault, ?_, ?_⟩
        · simpa [entities, Activity.andThen_of_error houtcome] using hemits.append_of_refused _
        · simp [entities, Activity.andThen_of_error houtcome]
      | none =>
        obtain ⟨attempted', refusal', hemits', houtcome'⟩ := ih
          ⟨report.entities ++ [decl.name],
            report.artifacts ++ (Artifact.emitted settings entity).map (·.path)⟩
          (step settings view sink decl report state).state
        refine ⟨attempted ++ attempted', refusal', ?_, ?_⟩
        · simpa [entities, Activity.andThen_of_ok houtcome] using hemits.append hemits'
        · simpa [entities, Activity.andThen_of_ok houtcome] using houtcome'

/-- A run emits its sequence. -/
theorem run_emits (state : σ) :
    ∃ attempted refusal,
      Emits sink (sequence settings view) state attempted (run settings view sink state).state
          refusal ∧
        (run settings view sink state).outcome = outcomeOf refusal
          (outcomeOf (view.firstFault? settings.markerId (view.annotated settings.markerId))
            (.ok ⟨(view.annotated settings.markerId).map (·.name),
              (sequence settings view).map (·.path)⟩)) := by
  cases hdecls : view.annotated settings.markerId with
  | nil =>
    cases hwrite : (sink.write (Artifact.nothingMarked settings) state).outcome with
    | error fault =>
      refine ⟨[Artifact.nothingMarked settings], some fault, ?_, ?_⟩
      · simpa [sequence, run, hdecls, diagnosticOnly, Artifact.diagnostic_eq_ok,
          Activity.andThen_of_error hwrite] using Emits.refused [] hwrite
      · simp [run, hdecls, diagnosticOnly, Artifact.diagnostic_eq_ok,
          Activity.andThen_of_error hwrite]
    | ok value =>
      refine ⟨[Artifact.nothingMarked settings], none, ?_, ?_⟩
      · simpa [sequence, run, hdecls, diagnosticOnly, Artifact.diagnostic_eq_ok,
          Activity.andThen_of_ok hwrite, Activity.done] using Emits.written hwrite (.done _)
      · simp [sequence, run, hdecls, diagnosticOnly, Artifact.diagnostic_eq_ok,
          Activity.andThen_of_ok hwrite, Activity.done]
  | cons decl decls =>
    obtain ⟨attempted, refusal, hemits, houtcome⟩ :=
      entities_emits settings view sink (decl :: decls) .empty state
    refine ⟨attempted, refusal, ?_, ?_⟩
    · simpa [sequence, run, hdecls] using hemits
    · simpa [sequence, run, hdecls, Report.empty] using houtcome

/-- The plan of a run is its sequence and the fault of its first declaration that is at fault. -/
theorem plan_eq :
    plan settings view = ⟨sequence settings view,
      view.firstFault? settings.markerId (view.annotated settings.markerId)⟩ := by
  have hentities : ∀ decls : List Declaration,
      planEntities settings view decls
        = ⟨(view.soundEntities settings.markerId decls).flatMap (Artifact.emitted settings),
            view.firstFault? settings.markerId decls⟩ := by
    intro decls
    induction decls with
    | nil => rfl
    | cons decl decls ih =>
      cases hentity : view.entity decl settings.markerId with
      | error fault =>
        simp [planEntities, artifactsOf, ModelView.soundEntities_of_error hentity,
          ModelView.firstFault?_of_error hentity, hentity]
      | ok entity =>
        simp [planEntities, artifactsOf, ModelView.soundEntities_of_ok hentity,
          ModelView.firstFault?_of_ok hentity, hentity, ih, Artifact.allOf_eq_ok]
  cases hdecls : view.annotated settings.markerId with
  | nil => simp [plan, sequence, hdecls, Artifact.diagnostic_eq_ok]
  | cons decl decls => simp [plan, sequence, hdecls, hentities]

end Generation

end EntityForge
