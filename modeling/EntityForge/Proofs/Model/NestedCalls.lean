import EntityForge.Proofs.Model.MemberLocality
import EntityForge.Proofs.Model.TraitInheritance

/-!
# Nested calls of the traversals

Looking for a trait and collecting members are recursions over a graph that may have cycles. Their
functions take an allowance for nested calls, so that they end whatever the graph is. Here both are
run without one, as machines that keep the calls that wait for others on a stack
(`Model.searchStep`, `Model.visitStep`): a step makes a call, goes on with the innermost call that
waits, or ends it.

* A call within an allowance leads the machine to what the function gives, and never has more calls
  nested than the allowance permits (`searchTrait_runs`, `collectMembers_runs`). As the allowance of
  the number of shapes and one more is never used up, the machines end, and so many calls are the
  most that are ever nested.
* At every moment the path is the ids of the calls that wait (`searchStep_settled`,
  `visitStep_settled`), so a call that gives its path back gives it back as it was.

`traversals_terminate` puts both together.
-/

set_option autoImplicit false

namespace EntityForge.Model

/-! ## Machines -/

section Machines

variable {σ : Type} {step : σ → Option σ} {height : σ → Nat} {bound bound' : Nat}
  {start middle final state : σ}

/-- Steps lead from a state to another one, in any number. -/
def StepsTo (step : σ → Option σ) : σ → σ → Prop :=
  Relation.ReflTransGen fun before after => step before = some after

/-- Steps lead from a state to another one through states of a bounded height. -/
inductive RunsWithin (step : σ → Option σ) (height : σ → Nat) (bound : Nat) : σ → σ → Prop where
  /-- The run has arrived. -/
  | refl {state : σ} : height state ≤ bound → RunsWithin step height bound state state
  /-- The run begins with a step. -/
  | head {state next final : σ} : height state ≤ bound → step state = some next →
      RunsWithin step height bound next final → RunsWithin step height bound state final

/-- A machine that starts in a state ends, and its states have a bounded height. -/
structure EndsWithin (step : σ → Option σ) (height : σ → Nat) (bound : Nat)
    (start final : σ) : Prop where
  /-- Nothing follows the last state. -/
  halted : step final = none
  /-- Wherever the machine is, it goes on to the last state. -/
  ends : ∀ state, StepsTo step start state → StepsTo step state final
  /-- No state is higher than the bound. -/
  height_le : ∀ state, StepsTo step start state → height state ≤ bound

theorem RunsWithin.single (hstate : height start ≤ bound) (hstep : step start = some final)
    (hfinal : height final ≤ bound) : RunsWithin step height bound start final :=
  .head hstate hstep (.refl hfinal)

theorem RunsWithin.trans (h : RunsWithin step height bound start middle)
    (h' : RunsWithin step height bound middle final) :
    RunsWithin step height bound start final := by
  induction h with
  | refl => exact h'
  | head hstate hstep _ ih => exact .head hstate hstep (ih h')

theorem RunsWithin.stepsTo (h : RunsWithin step height bound start final) :
    StepsTo step start final := by
  induction h with
  | refl => exact .refl
  | head _ hstep _ ih => exact .head hstep ih

theorem RunsWithin.height_le (h : RunsWithin step height bound start final) :
    height start ≤ bound := by
  cases h with
  | refl hstate => exact hstate
  | head hstate => exact hstate

/-- A state after the start lies on the run to a state that nothing follows, as a state has at most
one successor. -/
theorem RunsWithin.of_stepsTo (h : RunsWithin step height bound start final)
    (hhalted : step final = none) :
    StepsTo step start state → RunsWithin step height bound state final := by
  induction h with
  | refl hstate =>
    intro hsteps
    rcases hsteps.cases_head with rfl | ⟨next, hnext, -⟩
    · exact .refl hstate
    · rw [hhalted] at hnext
      cases hnext
  | head hstate hstep hrest ih =>
    intro hsteps
    rcases hsteps.cases_head with rfl | ⟨next, hnext, hafter⟩
    · exact .head hstate hstep hrest
    · rw [hstep] at hnext
      cases hnext
      exact ih hhalted hafter

/-- A bounded run to a state that nothing follows is all that the machine does. -/
theorem RunsWithin.endsWithin (h : RunsWithin step height bound start final)
    (hhalted : step final = none) : EndsWithin step height bound start final where
  halted := hhalted
  ends := fun _ hsteps => (h.of_stepsTo hhalted hsteps).stepsTo
  height_le := fun _ hsteps => (h.of_stepsTo hhalted hsteps).height_le

/-- What a step preserves holds all along. -/
theorem StepsTo.invariant {p : σ → Prop} (h : StepsTo step start state) (hstart : p start)
    (hstep : ∀ before after, step before = some after → p before → p after) : p state := by
  induction h with
  | refl => exact hstart
  | tail _ hlast ih => exact hstep _ _ hlast ih

end Machines

/-! ## Looking for a trait -/

/-- A search that waits for the one that it has made: its id, and the mixins that come after. -/
structure SearchFrame where
  /-- The id at which the search is. -/
  id : String
  /-- The mixins at which nothing has been sought yet. -/
  waiting : List String

/-- A state of the searches that have begun and not ended. -/
inductive SearchState where
  /-- A search at an id is about to begin; the frames are those that wait for it. -/
  | calling (id : String) (path : List String) (frames : List SearchFrame)
  /-- The innermost search goes on with what has been found. -/
  | resuming (found : Option Json) (path : List String) (frames : List SearchFrame)

namespace SearchState

/-- The searches that wait for another one, or go on. -/
def frames : SearchState → List SearchFrame
  | calling _ _ frames => frames
  | resuming _ _ frames => frames

/-- The path as it is handed on. -/
def path : SearchState → List String
  | calling _ path _ => path
  | resuming _ path _ => path

/-- The searches that are nested, with the one that is about to begin. -/
def height : SearchState → Nat
  | calling _ _ frames => frames.length + 1
  | resuming _ _ frames => frames.length

end SearchState

/-- One step of a search. It begins at an id, which it leaves at once if the id is on the path, has
no record or carries the trait; else it goes through the mixins that lend the trait, up to the first
at which something is found. On its way back it takes the id off the path. -/
def searchStep (model : Model) (traitId : String) : SearchState → Option SearchState
  | .calling id path frames =>
    if id ∈ path then some (.resuming none path frames)
    else
      match model.shape? id with
      | none => some (.resuming none ((id :: path).erase id) frames)
      | some shape =>
        match shape.traits.get? traitId with
        | some value => some (.resuming (some value) ((id :: path).erase id) frames)
        | none => some (.resuming none (id :: path) (⟨id, model.lenders shape traitId⟩ :: frames))
  | .resuming _ _ [] => none
  | .resuming (some value) path (frame :: frames) =>
    some (.resuming (some value) (path.erase frame.id) frames)
  | .resuming none path (⟨id, []⟩ :: frames) => some (.resuming none (path.erase id) frames)
  | .resuming none path (⟨id, mixin :: waiting⟩ :: frames) =>
    some (.calling mixin path (⟨id, waiting⟩ :: frames))

section Searches

variable {model : Model} {id traitId : String} {path path' base : List String} {depth : Nat}

/-- Searches at mixins one after another lead the search that makes them to its end. -/
theorem searchFirst_runs {search : Search} {found : Option Json} {ids : List String}
    (frames : List SearchFrame)
    (hsearch : ∀ mixin path found path' waiting, search mixin path = some (found, path') →
      RunsWithin (model.searchStep traitId) SearchState.height (frames.length + 1 + depth)
        (.calling mixin path (⟨id, waiting⟩ :: frames))
        (.resuming found path' (⟨id, waiting⟩ :: frames)))
    (h : searchFirst search ids path = some (found, path')) :
    RunsWithin (model.searchStep traitId) SearchState.height (frames.length + 1 + depth)
      (.resuming none path (⟨id, ids⟩ :: frames)) (.resuming found (path'.erase id) frames) := by
  have hhere : frames.length + 1 ≤ frames.length + 1 + depth := Nat.le_add_right _ _
  have hback : frames.length ≤ frames.length + 1 + depth := by omega
  induction ids generalizing path with
  | nil =>
    cases h
    exact .single hhere rfl hback
  | cons mixin waiting ih =>
    unfold searchFirst at h
    split at h
    · cases h
    · rename_i value trail hfirst
      cases h
      have hcall := hsearch mixin path _ _ waiting hfirst
      exact .head hhere rfl (hcall.trans (.single hhere rfl hback))
    · rename_i trail hfirst
      have hcall := hsearch mixin path _ _ waiting hfirst
      exact .head hhere rfl (hcall.trans (ih h))

/-- A search that ends within an allowance leads the machine to what it gives, and has no more
searches nested than the allowance permits. -/
theorem searchTrait_runs (depth : Nat) : ∀ {id path found path'} (frames : List SearchFrame),
    model.searchTrait traitId depth id path = some (found, path') →
      RunsWithin (model.searchStep traitId) SearchState.height (frames.length + depth)
        (.calling id path frames) (.resuming found path' frames) := by
  -- on the allowance; the searches at mixins are nested one deeper and have one less
  induction depth with
  | zero =>
    intro id path found path' frames h
    cases h
  | succ depth ih =>
    intro id path found path' frames h
    have hcall : frames.length + 1 ≤ frames.length + (depth + 1) := by omega
    have hback : frames.length ≤ frames.length + (depth + 1) := Nat.le_add_right _ _
    unfold searchTrait at h
    split at h
    · rename_i hmem
      cases h
      exact .single hcall (by simp [searchStep, hmem]) hback
    rename_i hfresh
    split at h
    · rename_i hshape
      cases h
      exact .single hcall (by simp [searchStep, hfresh, hshape]) hback
    rename_i shape hshape
    split at h
    · rename_i value hown
      cases h
      exact .single hcall (by simp [searchStep, hfresh, hshape, hown]) hback
    rename_i hown
    split at h
    · cases h
    rename_i found trail hmixins
    cases h
    have hsame : frames.length + (depth + 1) = frames.length + 1 + depth := by omega
    have hloop : RunsWithin (model.searchStep traitId) SearchState.height
        (frames.length + 1 + depth) (.resuming none (id :: path)
          (⟨id, model.lenders shape traitId⟩ :: frames)) (.resuming found (trail.erase id) frames) :=
      searchFirst_runs frames (fun _ _ _ _ waiting => ih (⟨id, waiting⟩ :: frames)) hmixins
    rw [hsame] at hcall ⊢
    exact .head hcall (by simp [searchStep, hfresh, hshape, hown]) hloop

/-- The searches that wait or go on have their ids on the path, in front of what was there before
the first of them. -/
def SearchState.Settled (base : List String) (state : SearchState) : Prop :=
  state.path = state.frames.map (·.id) ++ base

/-- A step keeps the path settled. -/
theorem searchStep_settled (before after : SearchState)
    (hstep : model.searchStep traitId before = some after) (h : before.Settled base) :
    after.Settled base := by
  cases before with
  | calling id path frames =>
    have hpath : path = frames.map (·.id) ++ base := h
    have hback : (id :: path).erase id = frames.map (·.id) ++ base := by
      rw [List.erase_cons_head, hpath]
    simp only [searchStep] at hstep
    split at hstep
    · cases hstep
      exact hpath
    split at hstep
    · cases hstep
      exact hback
    split at hstep
    · cases hstep
      exact hback
    · cases hstep
      exact congrArg (id :: ·) hpath
  | resuming found path frames =>
    have hpath : path = frames.map (·.id) ++ base := h
    cases frames with
    | nil => cases hstep
    | cons frame frames =>
      have hback : path.erase frame.id = frames.map (·.id) ++ base := by
        rw [hpath, List.map_cons, List.cons_append, List.erase_cons_head]
      cases found with
      | some value =>
        cases hstep
        exact hback
      | none =>
        obtain ⟨id, waiting⟩ := frame
        cases waiting with
        | nil =>
          cases hstep
          exact hback
        | cons mixin waiting =>
          -- the search goes on, so its id stays on the path
          cases hstep
          exact hpath

/-- Whatever is on the path and however a search ends, it gives the path back as it was. -/
theorem searchTrait_path {found : Option Json}
    (h : model.searchTrait traitId depth id path = some (found, path')) : path' = path := by
  have hsettled := (searchTrait_runs depth [] h).stepsTo.invariant
    (p := SearchState.Settled path) rfl searchStep_settled
  exact hsettled

/-- The search for a trait ends, and at no time are more searches nested than the model has shapes
and one more. -/
theorem search_endsWithin (model : Model) (id traitId : String) :
    EndsWithin (model.searchStep traitId) SearchState.height (model.shapes.size + 1)
      (.calling id [] []) (.resuming (model.trait? id traitId) [] []) := by
  obtain ⟨found, hsearch, -⟩ :=
    searchTrait_eq traitId model.visitLimit (.nil model id) (Nat.zero_add _)
  have htrait : model.trait? id traitId = found := by simp [trait?, hsearch]
  have hruns := searchTrait_runs model.visitLimit [] hsearch
  rw [List.length_nil, Nat.zero_add, visitLimit] at hruns
  rw [htrait]
  exact hruns.endsWithin rfl

end Searches

/-! ## Collecting members -/

/-- A visit that waits for the one that it has made: its id, the mixins that come after, and the
members of the shape itself. -/
structure VisitFrame where
  /-- The id that is visited. -/
  id : String
  /-- The mixins that have not been visited yet. -/
  waiting : List String
  /-- The members that are added at the end, with their targets. -/
  own : List (String × String)

/-- A state of the visits that have begun and not ended. -/
inductive VisitState where
  /-- A visit of an id is about to begin; the frames are those that wait for it. -/
  | calling (id : String) (path : List String) (kinds : Kinds) (frames : List VisitFrame)
  /-- The innermost visit goes on with the kinds so far. -/
  | resuming (path : List String) (kinds : Kinds) (frames : List VisitFrame)
  /-- The innermost visit fails. -/
  | failing (fault : Fault) (frames : List VisitFrame)

namespace VisitState

/-- The visits that are nested, with the one that is about to begin. -/
def height : VisitState → Nat
  | calling _ _ _ frames => frames.length + 1
  | resuming _ _ frames => frames.length
  | failing _ frames => frames.length

/-- Unless they fail, the visits that wait or go on have their ids on the path, in front of what was
there before the first of them. -/
def Settled (base : List String) : VisitState → Prop
  | calling _ path _ frames => path = frames.map (·.id) ++ base
  | resuming path _ frames => path = frames.map (·.id) ++ base
  | failing _ _ => True

/-- The last state of visits that give the kinds of all members or fail. -/
def ended : Except Fault Kinds → VisitState
  | .ok kinds => resuming [] kinds []
  | .error fault => failing fault []

end VisitState

/-- One step of a visit. It begins at an id, and fails if the id is on the path or has no
definition; else it goes through all mixins, adds the members of the shape itself and takes the id
off the path. A failure ends one visit after another and leaves the path as it is. -/
def visitStep (model : Model) : VisitState → Option VisitState
  | .calling id path kinds frames =>
    if id ∈ path then some (.failing (.model (.mixinCycle id)) frames)
    else
      match model.definition? id with
      | none => some (.failing (.model (.notDefined id)) frames)
      | some shape =>
        some (.resuming (id :: path) kinds (⟨id, shape.mixins, shape.members.entries⟩ :: frames))
  | .resuming _ _ [] => none
  | .resuming path kinds (⟨id, [], own⟩ :: frames) =>
    match model.addMembers own kinds with
    | .error fault => some (.failing fault frames)
    | .ok kinds => some (.resuming (path.erase id) kinds frames)
  | .resuming path kinds (⟨id, mixin :: waiting, own⟩ :: frames) =>
    some (.calling mixin path kinds (⟨id, waiting, own⟩ :: frames))
  | .failing _ [] => none
  | .failing fault (_ :: frames) => some (.failing fault frames)

section Visits

variable {model : Model} {id : String} {path path' base : List String} {kinds kinds' : Kinds}
  {own : List (String × String)} {fault : Fault} {depth : Nat}

/-- The machine makes the visits that `visit` makes: it gets to what they give, or to their fault,
with at most `depth` visits nested in those that wait. -/
structure MakesVisits (model : Model) (visit : Visit) (depth : Nat) : Prop where
  ok : ∀ {id path kinds path' kinds'} (frames : List VisitFrame),
    visit id path kinds = .ok (path', kinds') →
      RunsWithin model.visitStep VisitState.height (frames.length + depth)
        (.calling id path kinds frames) (.resuming path' kinds' frames)
  error : ∀ {id path kinds fault} (frames : List VisitFrame),
    visit id path kinds = .error (.fault fault) →
      RunsWithin model.visitStep VisitState.height (frames.length + depth)
        (.calling id path kinds frames) (.failing fault frames)

/-- Visits of mixins one after another lead the visit that makes them to its own members. -/
theorem visitAll_runs_ok {visit : Visit} (hvisit : model.MakesVisits visit depth)
    {ids : List String} (frames : List VisitFrame)
    (h : visitAll visit ids path kinds = .ok (path', kinds')) :
    RunsWithin model.visitStep VisitState.height (frames.length + 1 + depth)
      (.resuming path kinds (⟨id, ids, own⟩ :: frames))
      (.resuming path' kinds' (⟨id, [], own⟩ :: frames)) := by
  have hhere : frames.length + 1 ≤ frames.length + 1 + depth := Nat.le_add_right _ _
  induction ids generalizing path kinds with
  | nil =>
    cases h
    exact .refl hhere
  | cons mixin waiting ih =>
    obtain ⟨trail, middle, hfirst, hothers⟩ := visitAll_cons_ok h
    have hcall := hvisit.ok (⟨id, waiting, own⟩ :: frames) hfirst
    exact .head hhere rfl (hcall.trans (ih hothers))

/-- Of visits of mixins one after another the first that fails makes the visit fail that makes
them. -/
theorem visitAll_runs_error {visit : Visit} (hvisit : model.MakesVisits visit depth)
    {ids : List String} (frames : List VisitFrame)
    (h : visitAll visit ids path kinds = .error (.fault fault)) :
    RunsWithin model.visitStep VisitState.height (frames.length + 1 + depth)
      (.resuming path kinds (⟨id, ids, own⟩ :: frames)) (.failing fault frames) := by
  have hhere : frames.length + 1 ≤ frames.length + 1 + depth := Nat.le_add_right _ _
  have hback : frames.length ≤ frames.length + 1 + depth := by omega
  induction ids generalizing path kinds with
  | nil => cases h
  | cons mixin waiting ih =>
    rcases visitAll_cons_error h with hfirst | ⟨trail, middle, hfirst, hothers⟩
    · have hcall := hvisit.error (⟨id, waiting, own⟩ :: frames) hfirst
      exact .head hhere rfl (hcall.trans (.single hhere rfl hback))
    · have hcall := hvisit.ok (⟨id, waiting, own⟩ :: frames) hfirst
      exact .head hhere rfl (hcall.trans (ih hothers))

/-- A visit of an id that is not on the path goes on with the mixins of its shape. -/
theorem visitStep_calling {shape : Shape} (hfresh : id ∉ path)
    (hshape : model.definition? id = some shape) (kinds : Kinds) (frames : List VisitFrame) :
    model.visitStep (.calling id path kinds frames)
      = some (.resuming (id :: path) kinds
          (⟨id, shape.mixins, shape.members.entries⟩ :: frames)) := by
  simp [visitStep, hfresh, hshape]

/-- Visits that end within an allowance are made by the machine, and no more of them are nested than
the allowance permits. -/
theorem collectMembers_runs (model : Model) (depth : Nat) :
    model.MakesVisits (model.collectMembers depth) depth := by
  -- on the allowance; the visits of mixins are nested one deeper and have one less
  induction depth with
  | zero =>
    constructor
    case ok =>
      intro id path kinds path' kinds' frames h
      cases h
    case error =>
      intro id path kinds fault frames h
      cases h
  | succ depth ih =>
    have hdeeper : ∀ frames : List VisitFrame,
        frames.length + (depth + 1) = frames.length + 1 + depth := by
      intro frames
      omega
    have hinside : ∀ frames : List VisitFrame, frames.length + 1 ≤ frames.length + 1 + depth :=
      fun frames => Nat.le_add_right _ _
    have hback : ∀ frames : List VisitFrame, frames.length ≤ frames.length + 1 + depth :=
      fun frames => Nat.le_of_succ_le (hinside frames)
    constructor
    case ok =>
      intro id path kinds path' kinds' frames h
      obtain ⟨hfresh, shape, trail, middle, hshape, hmixins, hown, rfl⟩ := collectMembers_succ_ok h
      have hbegin := visitStep_calling hfresh hshape kinds frames
      rw [hdeeper]
      refine .head (hinside frames) hbegin ((visitAll_runs_ok ih frames hmixins).trans ?_)
      exact .single (hinside frames) (by simp [visitStep, hown]) (hback frames)
    case error =>
      intro id path kinds fault frames h
      rw [hdeeper]
      rcases collectMembers_succ_error h with
        ⟨hmem, hfault⟩ | ⟨hfresh, ⟨hnone, hfault⟩ | ⟨shape, hshape, hlater⟩⟩
      · -- the id is on the path
        cases hfault
        exact .single (hinside frames) (by simp [visitStep, hmem]) (hback frames)
      · -- the id has no definition
        cases hfault
        exact .single (hinside frames) (by simp [visitStep, hfresh, hnone]) (hback frames)
      have hbegin := visitStep_calling hfresh hshape kinds frames
      refine .head (hinside frames) hbegin ?_
      rcases hlater with hmixins | ⟨trail, middle, fault, hmixins, hown, hfault⟩
      · exact visitAll_runs_error ih frames hmixins
      · -- all mixins are visited, and a member of the shape itself cannot be added
        cases hfault
        refine (visitAll_runs_ok ih frames hmixins).trans ?_
        exact .single (hinside frames) (by simp [visitStep, hown]) (hback frames)

/-- A step keeps the path settled. -/
theorem visitStep_settled (before after : VisitState)
    (hstep : model.visitStep before = some after) (h : before.Settled base) :
    after.Settled base := by
  cases before with
  | calling id path kinds frames =>
    have hpath : path = frames.map (·.id) ++ base := h
    simp only [visitStep] at hstep
    split at hstep
    · cases hstep
      trivial
    split at hstep
    · cases hstep
      trivial
    · cases hstep
      exact congrArg (id :: ·) hpath
  | resuming path kinds frames =>
    have hpath : path = frames.map (·.id) ++ base := h
    cases frames with
    | nil => cases hstep
    | cons frame frames =>
      obtain ⟨id, waiting, own⟩ := frame
      cases waiting with
      | nil =>
        simp only [visitStep] at hstep
        split at hstep
        · cases hstep
          trivial
        · cases hstep
          change path.erase id = _
          rw [hpath, List.map_cons, List.cons_append, List.erase_cons_head]
      | cons mixin waiting =>
        -- the visit goes on, so its id stays on the path
        cases hstep
        exact hpath
  | failing fault frames =>
    cases frames with
    | nil => cases hstep
    | cons frame frames =>
      cases hstep
      trivial

/-- Collecting members ends, and at no time are more visits nested than the model has shapes and one
more. -/
theorem visit_endsWithin (model : Model) (id : String) :
    EndsWithin model.visitStep VisitState.height (model.shapes.size + 1)
      (.calling id [] .empty []) (.ended (model.memberKinds id)) := by
  have hlength : ([] : List String).length + model.visitLimit = model.visitLimit := Nat.zero_add _
  have hbound : ([] : List VisitFrame).length + model.visitLimit = model.shapes.size + 1 :=
    Nat.zero_add _
  have hvisits := collectMembers_runs model model.visitLimit
  unfold memberKinds
  split
  · rename_i trail kinds hcollect
    obtain ⟨rfl, -⟩ := collectMembers_ok _ hcollect
    have hruns := hvisits.ok [] hcollect
    rw [hbound] at hruns
    exact hruns.endsWithin rfl
  · rename_i fault hcollect
    have hruns := hvisits.error [] hcollect
    rw [hbound] at hruns
    exact hruns.endsWithin rfl
  · -- there was allowance enough
    rename_i hcollect
    obtain ⟨⟨cause, hcause⟩, -⟩ := collectMembers_error _ (.nil model id) hlength hcollect
    cases hcause

end Visits

/-! ## Both -/

/-- Both traversals end in every model, however its mixins are wired. From an empty path, the search
for a trait and the collecting of members come to what `trait?` and `memberKinds` say, and at no
time are more calls nested than the model has shapes and one more. From any path, a search has at
every moment the ids of the searches that wait or go on in front of that path, and so has collecting
members until it fails: a search gives its path back as it was however it ends, and collecting
members does so if it succeeds. -/
theorem traversals_terminate (model : Model) (id traitId : String) :
    EndsWithin (model.searchStep traitId) SearchState.height (model.shapes.size + 1)
      (.calling id [] []) (.resuming (model.trait? id traitId) [] []) ∧
    EndsWithin model.visitStep VisitState.height (model.shapes.size + 1)
      (.calling id [] .empty []) (.ended (model.memberKinds id)) ∧
    (∀ path state, StepsTo (model.searchStep traitId) (.calling id path []) state →
      state.Settled path) ∧
    (∀ path kinds state, StepsTo model.visitStep (.calling id path kinds []) state →
      state.Settled path) ∧
    (∀ depth path found path',
      model.searchTrait traitId depth id path = some (found, path') → path' = path) ∧
    ∀ depth path kinds path' kinds',
      model.collectMembers depth id path kinds = .ok (path', kinds') → path' = path := by
  refine ⟨search_endsWithin model id traitId, visit_endsWithin model id, ?_, ?_, ?_, ?_⟩
  · intro path state hsteps
    exact hsteps.invariant rfl searchStep_settled
  · intro path kinds state hsteps
    exact hsteps.invariant rfl visitStep_settled
  · intro depth path found path' h
    exact searchTrait_path h
  · intro depth path kinds path' kinds' h
    exact (collectMembers_ok depth h).1

/-- Two shapes that are each other's mixins. One of them is also its own mixin, the other one has a
mixin that is not there. -/
def knot : Model :=
  ⟨.ofList
    [("a", ⟨Shape.structureType, .empty, ["a", "b"], .empty⟩),
     ("b", ⟨Shape.structureType, .empty, ["a", "gone"], .empty⟩),
     ("c", ⟨Shape.structureType, .ofList [("size", "smithy.api#Long")], [], .empty⟩)]⟩

/-- Everything in the knot ends with at most four calls nested. A search that comes to the mixin that
is not there has both shapes on its path, and what was there before; it gives that back when it ends,
and so does a visit beside the knot. -/
theorem traversals_terminate_knot :
    EndsWithin (knot.searchStep "demo#crud") SearchState.height 4
      (.calling "a" [] []) (.resuming none [] []) ∧
    EndsWithin knot.visitStep VisitState.height 4
      (.calling "a" [] .empty []) (.failing (.model (.mixinCycle "a")) []) ∧
    (StepsTo (knot.searchStep "demo#crud") (.calling "a" ["top"] [])
        (.calling "gone" ["b", "a", "top"] [⟨"b", ["a"]⟩, ⟨"a", ["a"]⟩]) ∧
      SearchState.Settled ["top"]
        (.calling "gone" ["b", "a", "top"] [⟨"b", ["a"]⟩, ⟨"a", ["a"]⟩])) ∧
    (StepsTo knot.visitStep (.calling "b" ["top"] .empty [])
        (.calling "a" ["b", "top"] .empty [⟨"b", ["gone"], []⟩]) ∧
      VisitState.Settled ["top"] (.calling "a" ["b", "top"] .empty [⟨"b", ["gone"], []⟩])) ∧
    knot.searchTrait "demo#crud" 4 "a" ["top"] = some (none, ["top"]) ∧
    ∃ kinds, knot.collectMembers 4 "c" ["top"] .empty = .ok (["top"], kinds) := by
  obtain ⟨hsearch, hvisit, hsearches, -, hpath, -⟩ := traversals_terminate knot "a" "demo#crud"
  obtain ⟨-, -, -, hvisits, -, -⟩ := traversals_terminate knot "b" "demo#crud"
  obtain ⟨-, -, -, -, -, hcollected⟩ := traversals_terminate knot "c" "demo#crud"
  have hinner : StepsTo (knot.searchStep "demo#crud")
      (.calling "b" ["a", "top"] [⟨"a", ["a"]⟩])
      (.calling "gone" ["b", "a", "top"] [⟨"b", ["a"]⟩, ⟨"a", ["a"]⟩]) :=
    .head (b := .resuming none ["b", "a", "top"] [⟨"b", ["gone", "a"]⟩, ⟨"a", ["a"]⟩]) rfl
      (.single rfl)
  have hsteps : StepsTo (knot.searchStep "demo#crud") (.calling "a" ["top"] [])
      (.calling "gone" ["b", "a", "top"] [⟨"b", ["a"]⟩, ⟨"a", ["a"]⟩]) :=
    .head (b := .resuming none ["a", "top"] [⟨"a", ["b", "a"]⟩]) rfl (.head rfl hinner)
  have hvisiting : StepsTo knot.visitStep (.calling "b" ["top"] .empty [])
      (.calling "a" ["b", "top"] .empty [⟨"b", ["gone"], []⟩]) :=
    .head (b := .resuming ["b", "top"] .empty [⟨"b", ["a", "gone"], []⟩]) rfl (.single rfl)
  obtain ⟨found, trail, hfound⟩ : ∃ found trail,
      knot.searchTrait "demo#crud" 4 "a" ["top"] = some (found, trail) ∧ found = none :=
    ⟨_, _, rfl, rfl⟩
  obtain ⟨trail', kinds, hkinds⟩ : ∃ trail kinds,
      knot.collectMembers 4 "c" ["top"] .empty = .ok (trail, kinds) := ⟨_, _, rfl⟩
  refine ⟨hsearch, hvisit, ⟨hsteps, hsearches _ _ hsteps⟩, ⟨hvisiting, hvisits _ _ _ hvisiting⟩,
    ?_, kinds, ?_⟩
  · obtain ⟨hsome, rfl⟩ := hfound
    rw [hsome, hpath _ _ _ _ hsome]
  · rw [hkinds, hcollected _ _ _ _ _ hkinds]

end EntityForge.Model
