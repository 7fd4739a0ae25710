import EntityDiagram.Proofs.Line.Significant

/-!
Blocks in the lines of a text. Each line moves the block machine from one open entity to the next,
and a run of the machine is a path of such moves. On a path from outside of every block, a body line
follows a header of its own entity with nothing but body lines between, a brace stands between a
header and a later line outside of every block, and the last line that opens or closes a block tells
which entity is open at the end.
-/
namespace EntityDiagram

namespace Line

inductive Moves : Option String → Line → Option String → Prop
  | opening {current : Option String} {text name : String} :
      Moves current (.opening text name) (some name)
  | closing {current : Option String} : Moves current .closing none
  | body {text owner : String} : Moves (some owner) (.body text owner) (some owner)
  | topLevel {text : String} : Moves none (.topLevel text) none

inductive Path : Option String → List Line → Option String → Prop
  | nil {current : Option String} : Path current [] current
  | cons {current next final : Option String} {line : Line} {rest : List Line}
      (h : Moves current line next) (hrest : Path next rest final) :
      Path current (line :: rest) final

def isBoundary : Line → Bool
  | opening _ _ | closing => true
  | body _ _ | topLevel _ => false

def lastBoundary? (lines : List Line) : Option Line := (lines.filter isBoundary).getLast?

def openAfter (current : Option String) (lines : List Line) : Option String :=
  match lastBoundary? lines with
  | some line => line.entity?
  | none => current

theorem lastBoundary?_cons (line : Line) (rest : List Line) :
    lastBoundary? (line :: rest) =
      (lastBoundary? rest).or (if line.isBoundary then some line else none) := by
  unfold lastBoundary?
  by_cases h : line.isBoundary = true
  · rw [List.filter_cons_of_pos h, List.getLast?_cons, if_pos h]
    cases (rest.filter isBoundary).getLast? <;> rfl
  · rw [List.filter_cons_of_neg h, if_neg h, Option.or_none]

theorem isBoundary_of_lastBoundary? {lines : List Line} {line : Line}
    (h : lastBoundary? lines = some line) : line.isBoundary = true :=
  (List.mem_filter.mp (List.mem_of_getLast? h)).2

theorem moves_step (current : Option String) (text : String) :
    Moves current (step current text).1 (step current text).2 := by
  unfold step
  split
  · exact .opening
  · split
    · exact .closing
    · split
      · exact .body
      · exact .topLevel

/-- Every run of the machine is a path. -/
theorem path_run (current : Option String) (texts : List String) :
    Path current (run current texts).1 (run current texts).2 := by
  induction texts generalizing current with
  | nil => exact .nil
  | cons text rest ih => exact .cons (moves_step current text) (ih _)

namespace Path

variable {current final : Option String} {lines : List Line}

theorem append_iff {xs ys : List Line} :
    Path current (xs ++ ys) final ↔ ∃ middle, Path current xs middle ∧ Path middle ys final := by
  induction xs generalizing current with
  | nil =>
    constructor
    · exact fun h => ⟨current, .nil, h⟩
    · rintro ⟨_, ⟨⟩, h⟩
      exact h
  | cons line rest ih =>
    constructor
    · rintro (_ | ⟨hmove, hrest⟩)
      obtain ⟨middle, hxs, hys⟩ := ih.mp hrest
      exact ⟨middle, .cons hmove hxs, hys⟩
    · rintro ⟨middle, _ | ⟨hmove, hxs⟩, hys⟩
      exact .cons hmove (ih.mpr ⟨middle, hxs, hys⟩)

/-- An entity that is open at the end was open from the start on, or was opened last; all lines
since then are its body. -/
theorem exists_opening {owner : String} (h : Path current lines (some owner)) :
    (current = some owner ∧ ∃ texts : List String, lines = texts.map (body · owner)) ∨
      ∃ (earlier : List Line) (header : String) (texts : List String),
        lines = earlier ++ opening header owner :: texts.map (body · owner) := by
  obtain ⟨final, hfinal⟩ : ∃ final, final = some owner := ⟨_, rfl⟩
  rw [← hfinal] at h
  induction h with
  | nil => exact Or.inl ⟨hfinal, [], rfl⟩
  | @cons current next final line rest hmove _ ih =>
    rcases ih hfinal with ⟨rfl, texts, rfl⟩ | ⟨earlier, header, texts, rfl⟩
    · cases hmove with
      | opening => exact Or.inr ⟨[], _, texts, rfl⟩
      | @body text _ => exact Or.inl ⟨rfl, text :: texts, rfl⟩
    · exact Or.inr ⟨line :: earlier, header, texts, rfl⟩

/-- Only a brace leads out of an open block. -/
theorem closing_mem (h : Path current lines final) (hcurrent : current ≠ none)
    (hfinal : final = none) : closing ∈ lines := by
  induction h with
  | nil => exact absurd hfinal hcurrent
  | cons hmove _ ih =>
    cases hmove with
    | opening => exact List.mem_cons_of_mem _ (ih (by simp) hfinal)
    | closing => exact List.mem_cons_self
    | body => exact List.mem_cons_of_mem _ (ih (by simp) hfinal)
    | topLevel => exact absurd rfl hcurrent

/-- The last line that opens or closes a block tells what is open at the end. -/
theorem final_eq (h : Path current lines final) : final = openAfter current lines := by
  induction h with
  | nil => rfl
  | @cons current next final line rest hmove _ ih =>
    rw [ih, openAfter, openAfter, lastBoundary?_cons]
    cases lastBoundary? rest with
    | some last => rfl
    | none => cases hmove <;> rfl

end Path

/-- An entity is open at the end exactly when its header is the last line that opens or closes a
block. -/
theorem openAfter_none_eq_some_iff {lines : List Line} {name : String} :
    openAfter none lines = some name ↔
      ∃ header, lastBoundary? lines = some (.opening header name) := by
  unfold openAfter
  constructor
  · intro h
    split at h
    · next line hlast =>
      have hboundary := isBoundary_of_lastBoundary? hlast
      cases line with
      | opening header other =>
        obtain rfl := Option.some.inj h
        exact ⟨header, hlast⟩
      | closing => cases h
      | body _ _ => cases hboundary
      | topLevel _ => cases h
    · cases h
  · rintro ⟨header, hlast⟩
    rw [hlast]
    rfl

end Line

namespace Document

variable {d : Document}

theorem finalState_eq_inBlock_iff : d.finalState = .inBlock ↔ d.openEntity ≠ none := by
  unfold finalState
  cases d.openEntity <;> simp

theorem finalState_eq_atTop_iff : d.finalState = .atTop ↔ d.openEntity = none := by
  unfold finalState
  cases d.openEntity <;> simp

theorem path_ofText (text : String) :
    Line.Path none (ofText text).lines (ofText text).openEntity :=
  Line.path_run none (significantLines text)

end Document

end EntityDiagram
