import EntityDiagram.Journal
import Mathlib.Data.List.Basic

/-!
A set-up of a journal. It configures the logger of a service and that of the program's own modules,
which then share one level and one sink and do not propagate. Where no other loggers exist above a
module of the program, the lineage of the module leads to one of the two, so a record of the module
that is important enough is written exactly once.
-/
namespace EntityDiagram.Journal

def IsAtOrAbove (upper name : String) : Prop := upper = name ∨ isAbove upper name.toList = true

instance (upper name : String) : Decidable (IsAtOrAbove upper name) :=
  inferInstanceAs (Decidable (_ ∨ _))

namespace State

def names (state : State) : List String := state.loggers.map (·.1)

/-- The program's logger exists, and the loggers that exist at and above a name share a level and a
sink. -/
structure SetUpAbove (state : State) (name : String) (level : Level) (sink : Sink) : Prop where
  program : programName ∈ state.names
  configured : ∀ entry ∈ state.loggers, IsAtOrAbove entry.1 name →
    entry.2.level = level ∧ entry.2.sinks = [sink] ∧ entry.2.propagates = false

/-- The loggers that exist at and above a name are those that a set-up for a service configures. -/
def IsClear (state : State) (service name : String) : Prop :=
  ∀ upper ∈ state.names, IsAtOrAbove upper name → upper = programName ∨ upper = canonical service

@[simp]
theorem adopted_fst (name : String) (child : String × Logger) :
    (adopted name child).1 = child.1 := by
  unfold adopted
  split <;> rfl

theorem mem_names_acquire {state : State} {name other : String}
    (h : other ∈ (state.acquire name).names) : other = name ∨ other ∈ state.names := by
  unfold acquire at h
  split at h
  · exact Or.inr h
  · simpa [names, Function.comp_def] using h

theorem mem_names_prepare {state : State} {service other : String}
    (h : other ∈ (state.prepare service).names) :
    other = programName ∨ other = canonical service ∨ other ∈ state.names := by
  rcases mem_names_acquire h with rfl | h
  · exact Or.inl rfl
  · exact Or.inr (mem_names_acquire h)

/-- A set-up configures every logger above a name that it makes or finds. -/
theorem setUpAbove_setup {word : String} {level : Level} (hlevel : Level.ofWord word = .ok level)
    (state : State) (service : String) :
    ∃ next, state.setup service word = .ok next ∧ next.trace = state.trace ∧
      ∀ name, state.IsClear service name →
        next.SetUpAbove name level ⟨service, state.setups⟩ := by
  unfold setup
  rw [hlevel]
  refine ⟨_, rfl, ?_, fun name hclear => ⟨?_, ?_⟩⟩
  · unfold prepare acquire
    split
    · split <;> rfl
    · split <;> rfl
  · exact List.mem_cons_self
  · intro entry hentry habove
    rcases List.mem_cons.mp hentry with rfl | hentry
    · exact ⟨rfl, rfl, rfl⟩
    · obtain ⟨hentry, hprogram⟩ := List.mem_filter.mp hentry
      rcases List.mem_cons.mp hentry with rfl | hentry
      · exact ⟨rfl, rfl, rfl⟩
      -- an entry from before would be of one of the two loggers
      · obtain ⟨hentry, hservice⟩ := List.mem_filter.mp hentry
        have hnames : entry.1 = programName ∨ entry.1 = canonical service := by
          rcases mem_names_prepare (List.mem_map_of_mem hentry) with heq | heq | hmem
          · exact Or.inl heq
          · exact Or.inr heq
          · exact hclear entry.1 hmem habove
        rcases hnames with heq | heq
        · simp [heq] at hprogram
        · simp [heq] at hservice

/-- The nearest logger above a name is the given one or one that exists above the name. -/
theorem nearestAbove_cases (name : List Char) (nearest : String)
    (loggers : List (String × Logger)) :
    nearestAbove name nearest loggers = nearest ∨
      nearestAbove name nearest loggers ∈ loggers.map (·.1) ∧
        isAbove (nearestAbove name nearest loggers) name = true := by
  induction loggers generalizing nearest with
  | nil => exact Or.inl rfl
  | cons entry rest ih =>
    obtain ⟨other, logger⟩ := entry
    unfold nearestAbove
    split
    · next hcond =>
      rcases ih other with heq | ⟨hmem, habove⟩
      · rw [heq]
        exact Or.inr ⟨List.mem_cons_self, (Bool.and_eq_true_iff.mp hcond).1⟩
      · exact Or.inr ⟨List.mem_cons_of_mem _ hmem, habove⟩
    · exact (ih nearest).imp_right fun h => ⟨List.mem_cons_of_mem _ h.1, h.2⟩

/-- Where a logger above a name exists, the nearest one does, and it is above the name. -/
theorem nearestAbove_mem {name : List Char} {upper : String} {loggers : List (String × Logger)}
    (hupper : upper ∈ loggers.map (·.1)) (habove : isAbove upper name = true) :
    nearestAbove name rootName loggers ∈ loggers.map (·.1) ∧
      isAbove (nearestAbove name rootName loggers) name = true := by
  induction loggers with
  | nil => cases hupper
  | cons entry rest ih =>
    obtain ⟨other, logger⟩ := entry
    unfold nearestAbove
    split
    · next hcond =>
      rcases nearestAbove_cases name other rest with heq | ⟨hmem, hnearest⟩
      · rw [heq]
        exact ⟨List.mem_cons_self, (Bool.and_eq_true_iff.mp hcond).1⟩
      · exact ⟨List.mem_cons_of_mem _ hmem, hnearest⟩
    · next hcond =>
      have hrest : upper ∈ rest.map (·.1) := by
        rcases List.mem_cons.mp hupper with rfl | hrest
        · simp [habove] at hcond
        · exact hrest
      exact ⟨List.mem_cons_of_mem _ (ih hrest).1, (ih hrest).2⟩

/-- The lineage of the parent of a logger begins with the parent: a name below the program's is not
empty. -/
theorem exists_lineageWithin {state : State} {name : String}
    (hbelow : isAbove programName name.toList = true) (upper : String) :
    ∃ rest, lineageWithin state name.length upper = upper :: rest := by
  have hpos : name.length ≠ 0 := by
    intro hempty
    rw [String.length_eq_zero_iff.mp hempty] at hbelow
    exact absurd hbelow (by decide)
  obtain ⟨count, hcount⟩ := Nat.exists_eq_succ_of_ne_zero hpos
  rw [hcount, lineageWithin]
  split
  · next hroot => exact ⟨[], by rw [hroot]⟩
  · exact ⟨_, rfl⟩

namespace SetUpAbove

variable {state : State} {name : String} {level : Level} {sink : Sink}

theorem logger_of_mem (h : state.SetUpAbove name level sink) {upper : String}
    (hupper : upper ∈ state.names) (habove : IsAtOrAbove upper name) :
    (state.logger upper).level = level ∧ (state.logger upper).sinks = [sink] ∧
      (state.logger upper).propagates = false := by
  unfold logger
  cases hlookup : state.loggers.lookup upper with
  | none =>
    obtain ⟨entry, hentry, rfl⟩ := List.mem_map.mp hupper
    simpa using List.lookup_eq_none_iff.mp hlookup entry hentry
  | some found =>
    obtain ⟨before, after, hsplit, -⟩ := List.lookup_eq_some_iff.mp hlookup
    exact h.configured (upper, found) (by simp [hsplit]) habove

/-- A lineage that begins with a logger that exists ends there. -/
theorem of_head (h : state.SetUpAbove name level sink) (hlevel : level ≠ .notSet) {upper : String}
    (hupper : upper ∈ state.names) (habove : IsAtOrAbove upper name) (rest : List String) :
    threshold state (upper :: rest) = level ∧ reached state (upper :: rest) = [sink] := by
  obtain ⟨hset, hsinks, hpropagates⟩ := h.logger_of_mem hupper habove
  simp [threshold, reached, hset, hsinks, hpropagates, hlevel]

/-- A logger below the program's takes its level and its sink from a logger that exists. -/
theorem below (h : state.SetUpAbove name level sink) (hlevel : level ≠ .notSet)
    (hbelow : isAbove programName name.toList = true) :
    threshold state (lineage state name) = level ∧ reached state (lineage state name) = [sink] := by
  have hroot : name ≠ rootName := by
    rintro rfl
    exact absurd hbelow (by decide)
  have hlineage : lineage state name =
      name :: lineageWithin state name.length (state.parent name) := by
    rw [lineage, lineageWithin, if_neg hroot]
  rw [hlineage]
  cases hlookup : state.loggers.lookup name with
  | some found =>
    obtain ⟨before, after, hsplit, -⟩ := List.lookup_eq_some_iff.mp hlookup
    exact h.of_head hlevel (by simp [names, hsplit]) (Or.inl rfl) _
  | none =>
    obtain ⟨hparent, habove⟩ := nearestAbove_mem h.program hbelow
    have heq : state.parent name = nearestAbove name.toList rootName state.loggers := by
      rw [parent, hlookup]
    rw [← heq] at hparent habove
    obtain ⟨rest, hrest⟩ := exists_lineageWithin hbelow (state.parent name)
    have hlogger : state.logger name = {} := by
      rw [logger, hlookup, Option.getD_none, pristine, if_neg hroot]
    obtain ⟨hthreshold, hreached⟩ := h.of_head hlevel hparent (Or.inr habove) rest
    rw [hrest, threshold, reached, hlogger]
    exact ⟨hthreshold, hreached⟩

/-- A record for a logger below the program's is written once. -/
theorem entries_eq {record : Record} (h : state.SetUpAbove record.logger level sink)
    (hlevel : level ≠ .notSet) (hbelow : isAbove programName record.logger.toList = true)
    (henabled : level.rank ≤ record.level.rank) :
    entries state record = [⟨record, sink.service, state.trace⟩] := by
  have hname : canonical record.logger = record.logger := by
    rw [canonical, if_neg]
    intro hempty
    rw [hempty] at hbelow
    exact absurd hbelow (by decide)
  obtain ⟨hthreshold, hreached⟩ := h.below hlevel hbelow
  rw [entries, isEnabled, hname, hthreshold, hreached, if_pos (decide_eq_true henabled)]
  rfl

end SetUpAbove

end State

end EntityDiagram.Journal
