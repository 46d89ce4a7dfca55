/-!
# Log events

An event is a message of a level that some part of the program, its target, leaves behind. Events
are values: an activity returns them in order, and whether anyone sees them is decided elsewhere.
-/

set_option autoImplicit false

namespace EntityForge

/-- How important an event is, from the most to the least important. -/
inductive Level where
  | error
  | warn
  | info
  | debug
  | trace
deriving DecidableEq, Repr, Inhabited

namespace Level

/-- The name of a level. -/
def name : Level → String
  | .error => "ERROR"
  | .warn => "WARN"
  | .info => "INFO"
  | .debug => "DEBUG"
  | .trace => "TRACE"

/-- How far a level is from the most important one, counted from one. -/
def verbosity : Level → Nat
  | .error => 1
  | .warn => 2
  | .info => 3
  | .debug => 4
  | .trace => 5

end Level

/-- A message that a part of the program leaves behind. -/
structure Event where
  /-- How important the message is. -/
  level : Level
  /-- The part of the program. -/
  target : String
  /-- The message. -/
  message : String
deriving DecidableEq, Repr, Inhabited

/-- What an activity leaves behind: a state, events in order, and a result or a fault. -/
structure Activity (σ : Type) (ε : Type) (α : Type) where
  /-- The state after the activity. -/
  state : σ
  /-- The events, the earliest first. -/
  events : List Event
  /-- The result, or the fault that ended the activity. -/
  outcome : Except ε α

namespace Activity

variable {σ ε α β : Type}

/-- An activity that only has a result. -/
def done (state : σ) (value : α) : Activity σ ε α := ⟨state, [], .ok value⟩

/-- An activity that only fails. -/
def failed (state : σ) (fault : ε) : Activity σ ε α := ⟨state, [], .error fault⟩

/-- Puts events before those of an activity. -/
def after (events : List Event) (activity : Activity σ ε α) : Activity σ ε α :=
  { activity with events := events ++ activity.events }

/-- Goes on from the state and the result of an activity, unless it failed. -/
def andThen (activity : Activity σ ε α) (next : σ → α → Activity σ ε β) : Activity σ ε β :=
  match activity.outcome with
  | .error fault => ⟨activity.state, activity.events, .error fault⟩
  | .ok value => (next activity.state value).after activity.events

@[simp] theorem after_state (events : List Event) (activity : Activity σ ε α) :
    (activity.after events).state = activity.state := rfl

@[simp] theorem after_outcome (events : List Event) (activity : Activity σ ε α) :
    (activity.after events).outcome = activity.outcome := rfl

theorem andThen_of_ok {activity : Activity σ ε α} {value : α} (h : activity.outcome = .ok value)
    (next : σ → α → Activity σ ε β) :
    activity.andThen next = (next activity.state value).after activity.events := by
  rw [andThen, h]

theorem andThen_of_error {activity : Activity σ ε α} {fault : ε}
    (h : activity.outcome = .error fault) (next : σ → α → Activity σ ε β) :
    activity.andThen next = ⟨activity.state, activity.events, .error fault⟩ := by
  rw [andThen, h]

end Activity

end EntityForge
