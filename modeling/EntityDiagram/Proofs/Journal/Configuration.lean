import EntityDiagram.Proofs.Journal.Setup

/-!
What a logger is set to: its level, its sinks and whether it propagates. Loggers that come to exist
change parents, but not what any logger is set to. A set-up takes its steps on one logger after the
other and stops at the first step that fails. Only the level can be refused, and it is set first, so
a set-up either takes all its steps or none.
-/
namespace EntityDiagram.Journal

structure Configuration where
  level : Level
  sinks : List Sink
  propagates : Bool
  deriving DecidableEq

def Logger.configuration (logger : Logger) : Configuration :=
  ⟨logger.level, logger.sinks, logger.propagates⟩

inductive Step where
  | setLevel (word : String)
  | clearSinks
  | addSink (sink : Sink)
  | stopPropagation

def Step.apply (logger : Logger) : Step → Except LevelError Logger
  | setLevel word => (Level.ofWord word).map fun level => { logger with level }
  | clearSinks => .ok { logger with sinks := [] }
  | addSink sink =>
    .ok { logger with
      sinks := if sink ∈ logger.sinks then logger.sinks else logger.sinks ++ [sink] }
  | stopPropagation => .ok { logger with propagates := false }

def setupSteps (service word : String) (sink : Sink) : List (String × Step) :=
  [canonical service, programName].flatMap fun name =>
    [(name, .setLevel word), (name, .clearSinks), (name, .addSink sink), (name, .stopPropagation)]

namespace State

def configuration (state : State) (name : String) : Configuration :=
  (state.logger name).configuration

/-- No logger was set to anything. Loggers may exist. -/
def IsPristine (state : State) : Prop :=
  ∀ name, state.configuration name = (pristine name).configuration

/-- Takes steps on loggers in order, up to the first that fails. What was done before stays. -/
def perform (state : State) : List (String × Step) → State × Option LevelError
  | [] => (state, none)
  | (name, step) :: rest =>
    match step.apply (state.logger name) with
    | .ok logger => (state.configure name logger).perform rest
    | .error e => (state, some e)

section Lookup

variable {name other : String}

theorem lookup_map_adopted (name other : String) (loggers : List (String × Logger)) :
    (loggers.map (adopted name)).lookup other =
      (loggers.lookup other).map fun logger => (adopted name (other, logger)).2 := by
  induction loggers with
  | nil => rfl
  | cons entry rest ih =>
    rw [List.map_cons, List.lookup_cons, List.lookup_cons, adopted_fst, ih]
    cases h : other == entry.1 with
    | false => rfl
    | true =>
      obtain rfl := eq_of_beq h
      rfl

theorem configuration_adopted (name : String) (child : String × Logger) :
    (adopted name child).2.configuration = child.2.configuration := by
  unfold adopted
  split <;> rfl

/-- A logger that comes to exist is not set to anything, and others keep what they are set to. -/
@[simp]
theorem configuration_acquire (state : State) (name other : String) :
    (state.acquire name).configuration other = state.configuration other := by
  unfold acquire
  split
  · rfl
  · next hnew =>
    simp only [hasLogger, Bool.or_eq_true, decide_eq_true_eq, not_or, Bool.not_eq_true,
      Option.isSome_eq_false_iff, Option.isNone_iff_eq_none] at hnew
    unfold configuration logger
    rw [List.lookup_cons, lookup_map_adopted]
    by_cases h : other = name
    · subst h
      rw [beq_self_eq_true, hnew.2]
      rfl
    · rw [beq_false_of_ne h]
      cases hlookup : state.loggers.lookup other with
      | none => rfl
      | some found => exact configuration_adopted name (other, found)

@[simp]
theorem setups_acquire (state : State) (name : String) :
    (state.acquire name).setups = state.setups := by
  unfold acquire
  split <;> rfl

@[simp]
theorem configuration_prepare (state : State) (service name : String) :
    (state.prepare service).configuration name = state.configuration name := by
  simp [prepare]

@[simp]
theorem setups_prepare (state : State) (service : String) :
    (state.prepare service).setups = state.setups := by
  simp [prepare]

theorem lookup_filter_ne (h : other ≠ name) (loggers : List (String × Logger)) :
    (loggers.filter (·.1 ≠ name)).lookup other = loggers.lookup other := by
  induction loggers with
  | nil => rfl
  | cons entry rest ih =>
    by_cases hkey : entry.1 = name
    · have hother : (other == entry.1) = false := beq_false_of_ne fun heq => h (heq.trans hkey)
      rw [List.filter_cons_of_neg (by simpa using hkey), ih, List.lookup_cons, hother]
    · rw [List.filter_cons_of_pos (by simpa using hkey), List.lookup_cons, List.lookup_cons, ih]

theorem lookup_configure (state : State) (name other : String) (logger : Logger) :
    (state.configure name logger).loggers.lookup other =
      if other = name then some { logger with parent := state.parent name }
      else state.loggers.lookup other := by
  unfold configure
  rw [List.lookup_cons]
  by_cases h : other = name
  · simp [h]
  · rw [beq_false_of_ne h, if_neg h, lookup_filter_ne h]

/-- Configuring a logger changes no other one. -/
theorem configuration_configure (state : State) (name other : String) (logger : Logger) :
    (state.configure name logger).configuration other =
      if other = name then logger.configuration else state.configuration other := by
  unfold configuration State.logger
  rw [lookup_configure]
  split <;> rfl

theorem logger_configure_self (state : State) (name : String) (logger : Logger) :
    (state.configure name logger).logger name = { logger with parent := state.parent name } := by
  unfold State.logger
  rw [lookup_configure, if_pos rfl]
  rfl

/-- Of two configurations of one logger the second counts. -/
theorem configure_configure (state : State) (name : String) (first second : Logger) :
    (state.configure name first).configure name second = state.configure name second := by
  have hparent : (state.configure name first).parent name = state.parent name := by
    rw [parent, lookup_configure, if_pos rfl]
  rw [configure, hparent]
  simp [configure, List.filter_filter]

end Lookup

/-- The steps on one logger, taken when the word stands for a level. -/
theorem perform_of_level {word : String} {level : Level} (hlevel : Level.ofWord word = .ok level)
    (state : State) (name : String) (sink : Sink) (rest : List (String × Step)) :
    state.perform ((name, .setLevel word) :: (name, .clearSinks) :: (name, .addSink sink) ::
        (name, .stopPropagation) :: rest) =
      (state.configure name { level, sinks := [sink], propagates := false }).perform rest := by
  simp only [perform, Step.apply, Except.map, hlevel, logger_configure_self, configure_configure,
    List.not_mem_nil, if_false, List.nil_append]
  -- a configured logger keeps its parent
  rfl

/-- Both loggers are configured when the word stands for a level, and none otherwise. -/
theorem perform_setupSteps (state : State) (service word : String) (sink : Sink) :
    state.perform (setupSteps service word sink) =
      match Level.ofWord word with
      | .ok level =>
        ((state.configure (canonical service) ⟨level, [sink], false, rootName⟩).configure
          programName ⟨level, [sink], false, rootName⟩, none)
      | .error e => (state, some e) := by
  cases hlevel : Level.ofWord word with
  | error e =>
    -- the first step is the one that fails
    simp [setupSteps, perform, Step.apply, hlevel, Except.map]
  | ok level =>
    calc
      state.perform (setupSteps service word sink) =
          (state.configure (canonical service) ⟨level, [sink], false, rootName⟩).perform
            ((setupSteps service word sink).drop 4) := perform_of_level hlevel _ _ _ _
      _ = _ := perform_of_level hlevel _ _ _ _

end State

end EntityDiagram.Journal
