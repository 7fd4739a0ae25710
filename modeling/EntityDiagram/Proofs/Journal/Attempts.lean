import EntityDiagram.Proofs.Journal.Configuration

/-!
Attempts to set up a journal, one after the other, for any services and with any words for levels.
They never make a record be written twice: a logger with a sink has one, and does not propagate. A
logger is set to what the last successful attempt set it to that configures it. The program's logger
is configured by every successful attempt and so goes with the last one, while the loggers of other
services stay as they were set. An attempt that fails leaves all loggers as they were.
-/
namespace EntityDiagram.Journal

structure Attempt where
  service : String
  word : String

namespace Attempt

def level? (a : Attempt) : Option Level := (Level.ofWord a.word).toOption

def sink (a : Attempt) (state : State) : Sink := ⟨a.service, state.setups⟩

def Configures (a : Attempt) (name : String) : Prop := name = canonical a.service ∨ name = programName

instance (a : Attempt) (name : String) : Decidable (a.Configures name) :=
  inferInstanceAs (Decidable (_ ∨ _))

variable {a : Attempt}

theorem level?_eq_some_iff {level : Level} :
    a.level? = some level ↔ Level.ofWord a.word = .ok level := by
  unfold level?
  cases Level.ofWord a.word <;> simp [Except.toOption]

theorem level?_eq_none_iff : a.level? = none ↔ ∃ e, Level.ofWord a.word = .error e := by
  unfold level?
  cases Level.ofWord a.word <;> simp [Except.toOption]

end Attempt

namespace State

def attempt (state : State) (a : Attempt) : State × Option LevelError :=
  match (state.prepare a.service).perform (setupSteps a.service a.word (a.sink state)) with
  | (next, none) => ({ next with setups := state.setups + 1 }, none)
  | failed => failed

def afterAttempts (state : State) (attempts : List Attempt) : State :=
  attempts.foldl (fun state a => (state.attempt a).1) state

section OneAttempt

variable {a : Attempt}

/-- Step by step, a set-up does what it does at once. -/
theorem attempt_eq_setup (state : State) (a : Attempt) :
    state.attempt a =
      match state.setup a.service a.word with
      | .ok next => (next, none)
      | .error e => (state.prepare a.service, some e) := by
  unfold attempt setup
  rw [perform_setupSteps]
  cases Level.ofWord a.word with
  | error e => rfl
  | ok level =>
    simp [configure, Attempt.sink, bind, Except.bind, pure, Except.pure]

/-- The error of an attempt is the one that its word is reserved for. -/
theorem attempt_snd (state : State) (a : Attempt) :
    (state.attempt a).2 = reservedWords.lookup (Text.upper a.word) := by
  unfold attempt
  rw [perform_setupSteps]
  cases hreserved : reservedWords.lookup (Text.upper a.word) with
  | some e =>
    have hlevel : Level.ofWord a.word = .error e := by simp [Level.ofWord, hreserved]
    rw [hlevel]
  | none =>
    have hlevel : Level.ofWord a.word =
        .ok ((Level.words.lookup (Text.upper a.word)).getD .info) := by
      simp [Level.ofWord, hreserved]
    rw [hlevel]

theorem level?_eq_none_of_error {e : LevelError} {state : State} (h : (state.attempt a).2 = some e) :
    a.level? = none := by
  rw [attempt_snd] at h
  exact Attempt.level?_eq_none_iff.mpr ⟨e, by simp [Level.ofWord, h]⟩

/-- A successful attempt configures its loggers, with a new sink. -/
theorem attempt_of_level {level : Level} (h : a.level? = some level) (state : State) :
    (state.attempt a).1.setups = state.setups + 1 ∧
      ∀ name, (state.attempt a).1.configuration name =
        if a.Configures name then ⟨level, [a.sink state], false⟩ else state.configuration name := by
  unfold attempt
  rw [perform_setupSteps, Attempt.level?_eq_some_iff.mp h]
  refine ⟨rfl, fun name => ?_⟩
  show State.configuration (State.configure (State.configure _ _ _) _ _) name = _
  rw [configuration_configure, configuration_configure, configuration_prepare]
  by_cases hservice : name = canonical a.service
  · simp [Attempt.Configures, Logger.configuration, hservice]
  · simp [Attempt.Configures, Logger.configuration, hservice]

/-- A failed attempt leaves the loggers as they were. -/
theorem attempt_of_none (h : a.level? = none) (state : State) :
    (state.attempt a).1.setups = state.setups ∧
      ∀ name, (state.attempt a).1.configuration name = state.configuration name := by
  obtain ⟨e, hlevel⟩ := Attempt.level?_eq_none_iff.mp h
  unfold attempt
  rw [perform_setupSteps, hlevel]
  exact ⟨setups_prepare _ _, configuration_prepare state a.service⟩

end OneAttempt

/-- A logger with a sink has no other one and does not propagate, and its sink is that of a set-up
so far. -/
structure Orderly (state : State) : Prop where
  single : ∀ name, ∀ sink ∈ (state.configuration name).sinks,
    (state.configuration name).sinks = [sink] ∧ (state.configuration name).propagates = false
  serial : ∀ name, ∀ sink ∈ (state.configuration name).sinks, sink.serial < state.setups

theorem IsPristine.orderly {state : State} (h : state.IsPristine) : state.Orderly := by
  have hsinks : ∀ name, (state.configuration name).sinks = [] := by
    intro name
    rw [h name, pristine]
    split <;> rfl
  constructor
  · intro name sink hsink
    rw [hsinks name] at hsink
    cases hsink
  · intro name sink hsink
    rw [hsinks name] at hsink
    cases hsink

/-- The sink of an attempt is one that no logger had before. -/
theorem Orderly.sink_not_mem {state : State} (h : state.Orderly) (a : Attempt) (name : String) :
    a.sink state ∉ (state.configuration name).sinks := by
  intro hsink
  exact absurd (h.serial name _ hsink) (Nat.lt_irrefl _)

theorem Orderly.attempt {state : State} (h : state.Orderly) (a : Attempt) :
    (state.attempt a).1.Orderly := by
  cases hlevel : a.level? with
  | none =>
    obtain ⟨hsetups, hsame⟩ := attempt_of_none hlevel state
    refine ⟨fun name => ?_, fun name => ?_⟩
    · rw [hsame]
      exact h.single name
    · rw [hsame, hsetups]
      exact h.serial name
  | some level =>
    obtain ⟨hsetups, hconfigured⟩ := attempt_of_level hlevel state
    refine ⟨fun name sink hsink => ?_, fun name sink hsink => ?_⟩
    · rw [hconfigured] at hsink ⊢
      split at hsink
      · next hname =>
        rw [if_pos hname, List.mem_singleton.mp hsink]
        exact ⟨rfl, rfl⟩
      · next hname =>
        rw [if_neg hname]
        exact h.single name sink hsink
    -- the new sink has the number that was free, and all others have smaller ones
    · rw [hconfigured] at hsink
      rw [hsetups]
      split at hsink
      · obtain rfl := List.mem_singleton.mp hsink
        exact Nat.lt_succ_self state.setups
      · exact Nat.lt_succ_of_lt (h.serial name sink hsink)

theorem Orderly.afterAttempts {state : State} (h : state.Orderly) (attempts : List Attempt) :
    (state.afterAttempts attempts).Orderly := by
  induction attempts generalizing state with
  | nil => exact h
  | cons a rest ih => exact ih (h.attempt a)

theorem Orderly.acquire {state : State} (h : state.Orderly) (name : String) :
    (state.acquire name).Orderly where
  single other := by
    rw [configuration_acquire]
    exact h.single other
  serial other := by
    rw [configuration_acquire, setups_acquire]
    exact h.serial other

/-- Attempts that do not succeed in configuring a logger leave it as it was. -/
theorem configuration_afterAttempts {attempts : List Attempt} {name : String}
    (h : ∀ a ∈ attempts, a.level? = none ∨ ¬ a.Configures name) (state : State) :
    (state.afterAttempts attempts).configuration name = state.configuration name := by
  induction attempts generalizing state with
  | nil => rfl
  | cons a rest ih =>
    have hrest := ih (fun b hb => h b (List.mem_cons_of_mem _ hb)) (state.attempt a).1
    have hfirst : (state.attempt a).1.configuration name = state.configuration name := by
      cases hlevel : a.level? with
      | none => exact (attempt_of_none hlevel state).2 name
      | some level =>
        have hother : ¬ a.Configures name := by simpa [hlevel] using h a List.mem_cons_self
        rw [(attempt_of_level hlevel state).2 name, if_neg hother]
    exact hrest.trans hfirst

/-- A logger is set to what the last successful attempt sets it to that configures it. -/
theorem configuration_afterAttempts_append {a : Attempt} {after : List Attempt} {name : String}
    {level : Level} (hlevel : a.level? = some level) (hname : a.Configures name)
    (hafter : ∀ b ∈ after, b.level? = none ∨ ¬ b.Configures name) (state : State)
    (before : List Attempt) :
    (state.afterAttempts (before ++ a :: after)).configuration name =
      ⟨level, [a.sink (state.afterAttempts before)], false⟩ := by
  have hsplit : state.afterAttempts (before ++ a :: after) =
      ((state.afterAttempts before).attempt a).1.afterAttempts after := by
    rw [State.afterAttempts, List.foldl_append, List.foldl_cons]
    rfl
  rw [hsplit, configuration_afterAttempts hafter, (attempt_of_level hlevel _).2 name, if_pos hname]

end State

def Outcome.writes : Outcome → Nat
  | written entries => entries.length
  | bare _ => 1
  | unwritable => 0

/-- Along a lineage a record reaches one sink at most: the first logger that has one stops it. -/
theorem length_reached_le {state : State} (h : state.Orderly) (lineage : List String) :
    (reached state lineage).length ≤ 1 := by
  induction lineage with
  | nil => exact Nat.zero_le 1
  | cons name rest ih =>
    have hsingle : ∀ sink ∈ (state.logger name).sinks,
        (state.logger name).sinks = [sink] ∧ (state.logger name).propagates = false :=
      h.single name
    cases hsinks : (state.logger name).sinks with
    | nil =>
      rw [reached, hsinks, List.nil_append]
      split
      · exact ih
      · exact Nat.zero_le 1
    | cons sink others =>
      obtain ⟨hone, hstops⟩ := hsingle sink (by simp [hsinks])
      rw [reached, hone, hstops]
      exact Nat.le_refl 1

/-- A record is written once at most. -/
theorem writes_submit_le {state : State} (h : state.Orderly) (level : Level) (logger : String)
    (message exception : Option String) :
    (submit state level logger message exception).writes ≤ 1 := by
  have hreached := length_reached_le h (lineage state (canonical logger))
  have hentries : ∀ record : Record, record.logger = logger →
      (entries state record).length ≤ 1 := by
    rintro record rfl
    unfold entries
    split
    · rwa [List.length_map]
    · exact Nat.zero_le 1
  unfold submit
  simp only
  split
  · exact Nat.zero_le 1
  · cases message with
    | none => exact Nat.zero_le 1
    | some message =>
      simp only
      split
      · exact Nat.le_refl 1
      · exact hentries ⟨level, logger, message, exception⟩ rfl

structure KeepsOrder (start : State) (attempts : List Attempt) : Prop where
  /-- A logger with a sink has no other one and does not propagate. -/
  single : ∀ name, ∀ sink ∈ ((start.afterAttempts attempts).logger name).sinks,
    ((start.afterAttempts attempts).logger name).sinks = [sink] ∧
      ((start.afterAttempts attempts).logger name).propagates = false
  /-- A record is written once at most, whatever logger it is handed to. -/
  once : ∀ level logger message exception,
    (submit ((start.afterAttempts attempts).acquire (canonical logger)) level logger message
      exception).writes ≤ 1
  /-- The program's logger goes with the service of the last successful attempt. -/
  latest : ∀ before a after level, attempts = before ++ a :: after → a.level? = some level →
    (∀ b ∈ after, b.level? = none) → ∀ name, a.Configures name →
      (start.afterAttempts attempts).configuration name =
        ⟨level, [a.sink (start.afterAttempts before)], false⟩
  /-- The logger of a service stays as the last successful attempt for the service set it. -/
  earlier : ∀ before a after level, attempts = before ++ a :: after → a.level? = some level →
    canonical a.service ≠ programName →
    (∀ b ∈ after, b.level? = none ∨ canonical b.service ≠ canonical a.service) →
      (start.afterAttempts attempts).configuration (canonical a.service) =
        ⟨level, [a.sink (start.afterAttempts before)], false⟩
  /-- The sink of an attempt is one that no logger had before. -/
  own : ∀ before a after name, attempts = before ++ a :: after →
    a.sink (start.afterAttempts before) ∉ ((start.afterAttempts before).logger name).sinks
  /-- Other loggers are not set to anything. -/
  untouched : ∀ name, (∀ a ∈ attempts, a.level? = none ∨ ¬ a.Configures name) →
    (start.afterAttempts attempts).configuration name = (pristine name).configuration
  /-- A further attempt fails exactly when its word is reserved. -/
  refused : ∀ a, ((start.afterAttempts attempts).attempt a).2 =
    reservedWords.lookup (Text.upper a.word)
  /-- It leaves all loggers as they were if it fails. -/
  failed : ∀ a e, ((start.afterAttempts attempts).attempt a).2 = some e →
    ∀ name, ((start.afterAttempts attempts).attempt a).1.configuration name =
      (start.afterAttempts attempts).configuration name
  /-- Its steps do what a set-up does at once. -/
  atOnce : ∀ a, (start.afterAttempts attempts).attempt a =
    match (start.afterAttempts attempts).setup a.service a.word with
    | .ok next => (next, none)
    | .error e => ((start.afterAttempts attempts).prepare a.service, some e)

/-- From loggers that were not set to anything, set-ups never make a record be written twice. The
program's logger and that of the last service share a sink and a level, other services keep theirs,
and a set-up that fails changes nothing. -/
theorem setups_keep_order {start : State} (h : start.IsPristine) (attempts : List Attempt) :
    KeepsOrder start attempts where
  single := (h.orderly.afterAttempts attempts).single
  once level logger message exception :=
    writes_submit_le ((h.orderly.afterAttempts attempts).acquire _) level logger message exception
  latest := by
    rintro before a after level rfl hlevel hafter name hname
    exact State.configuration_afterAttempts_append hlevel hname
      (fun b hb => Or.inl (hafter b hb)) start before
  earlier := by
    rintro before a after level rfl hlevel hservice hafter
    refine State.configuration_afterAttempts_append hlevel (Or.inl rfl) (fun b hb => ?_) start before
    refine (hafter b hb).imp_right fun hother hname => ?_
    exact hname.elim (fun heq => hother heq.symm) hservice
  own before a _ name _ := (h.orderly.afterAttempts before).sink_not_mem a name
  untouched name hname := (State.configuration_afterAttempts hname start).trans (h name)
  refused := State.attempt_snd _
  failed a e herror := (State.attempt_of_none (State.level?_eq_none_of_error herror) _).2
  atOnce := State.attempt_eq_setup _

def askedFor : State := ({} : State).acquire "src.reader"

/-- The program's own logger, a service with two successful attempts and two that fail, and a logger
below the program's. -/
def mixedAttempts : List Attempt :=
  [⟨"src", "debug"⟩, ⟨"api", "basic_format"⟩, ⟨"api", "warn"⟩, ⟨"src.reader", "error"⟩,
   ⟨"api", "chatty"⟩, ⟨"api", "_styles"⟩]

theorem setups_keep_order_mixed :
    askedFor.IsPristine ∧ KeepsOrder askedFor mixedAttempts ∧
      (askedFor.afterAttempts mixedAttempts).configuration "src" = ⟨.info, [⟨"api", 3⟩], false⟩ ∧
      (askedFor.afterAttempts mixedAttempts).configuration "src.reader" =
        ⟨.error, [⟨"src.reader", 2⟩], false⟩ := by
  have hpristine : askedFor.IsPristine := fun name => State.configuration_acquire {} _ name
  exact ⟨hpristine, setups_keep_order hpristine mixedAttempts, by decide +kernel⟩

end EntityDiagram.Journal
