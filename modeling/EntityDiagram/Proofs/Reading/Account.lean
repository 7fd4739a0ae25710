import EntityDiagram.Proofs.Journal.Setup
import EntityDiagram.Proofs.Line.Blocks
import EntityDiagram.Reading

/-!
The account that the notes on a text give of its lines. Each significant line is a header, a closing
brace, a column, a relationship, or it is dropped, and the notes say of the dropped ones which they
are, in order. A body line that looks like a relationship is noted as skipped directly before it is
noted as dropped. An open block at the end is noted, and the last note counts what was read. In a
journal for debugging every note is one entry.
-/
namespace EntityDiagram

namespace Line

def isOpening : Line → Bool
  | opening _ _ => true
  | _ => false

def isClosing : Line → Bool
  | closing => true
  | _ => false

def isColumn : Line → Bool
  | body text _ => (Attribute.ofLine? text).isSome
  | _ => false

def isDropped : Line → Bool
  | body text _ => (Attribute.ofLine? text).isNone
  | topLevel text => (Relationship.ofLine? text).isNone
  | _ => false

/-- Each line takes one route: it is a header, a brace, a column, a relationship, or dropped. -/
theorem route_eq (line : Line) :
    (if line.isOpening then 1 else 0) + (if line.isClosing then 1 else 0) +
      (if line.isColumn then 1 else 0) + (if (Diagram.relationshipOf? line).isSome then 1 else 0) +
      (if line.isDropped then 1 else 0) = 1 := by
  cases line with
  | opening => rfl
  | closing => rfl
  | body text owner =>
    cases hread : Attribute.ofLine? text <;>
      simp [isOpening, isClosing, isColumn, isDropped, Diagram.relationshipOf?, hread]
  | topLevel text =>
    cases hread : Relationship.ofLine? text <;>
      simp [isOpening, isClosing, isColumn, isDropped, Diagram.relationshipOf?, hread]

theorem length_eq_routes (lines : List Line) :
    lines.length = lines.countP isOpening + lines.countP isClosing + lines.countP isColumn +
      (lines.filterMap Diagram.relationshipOf?).length + lines.countP isDropped := by
  rw [List.length_filterMap_eq_countP]
  induction lines with
  | nil => rfl
  | cons line rest ih =>
    have hroute := line.route_eq
    simp only [List.length_cons, List.countP_cons]
    omega

theorem length_run (current : Option String) (texts : List String) :
    (run current texts).1.length = texts.length := by
  induction texts generalizing current with
  | nil => rfl
  | cons text rest ih => simp [run, ih]

end Line

namespace Reading

def Note.dropped? : Note → Option Line
  | droppedInBlock owner text => some (.body text owner)
  | droppedTopLevel text => some (.topLevel text)
  | _ => none

def Note.isOnLine : Note → Bool
  | skippedShape _ | droppedInBlock _ _ | droppedTopLevel _ => true
  | openBlock _ | finished _ _ _ _ => false

def Note.isFinal : Note → Bool
  | finished _ _ _ _ => true
  | _ => false

/-- A body line that looks like a relationship is noted as skipped, then as dropped. -/
theorem lineNotes_of_isShaped {text : String} (h : Relationship.isShaped text = true)
    (owner : String) :
    lineNotes (.body text owner) = [.skippedShape text, .droppedInBlock owner text] := by
  simp [lineNotes, Attribute.ofLine?, h]

/-- On any other line there is one note when it is dropped, and none when it is not. -/
theorem lineNotes_cases (line : Line) :
    (∃ text owner, line = .body text owner ∧ Relationship.isShaped text = true) ∨
      (line.isDropped = false ∧ lineNotes line = []) ∨
      (line.isDropped = true ∧ ∃ note, lineNotes line = [note] ∧ note.dropped? = some line) := by
  cases line with
  | opening => exact Or.inr (Or.inl ⟨rfl, rfl⟩)
  | closing => exact Or.inr (Or.inl ⟨rfl, rfl⟩)
  | body text owner =>
    by_cases hshaped : Relationship.isShaped text = true
    · exact Or.inl ⟨text, owner, rfl, hshaped⟩
    · cases hread : Attribute.ofLine? text <;>
        simp [lineNotes, Line.isDropped, hread, hshaped, Note.dropped?]
  | topLevel text =>
    cases hread : Relationship.ofLine? text <;>
      simp [lineNotes, Line.isDropped, hread, Note.dropped?]

/-- The notes on a line drop it or drop nothing. -/
theorem dropped_lineNotes (line : Line) :
    (lineNotes line).filterMap Note.dropped? = if line.isDropped then [line] else [] := by
  rcases lineNotes_cases line with ⟨text, owner, rfl, hshaped⟩ | ⟨hkept, hnone⟩ |
    ⟨hdropped, note, hnote, hline⟩
  · have hdropped : (Line.body text owner).isDropped = true := by
      simp [Line.isDropped, Attribute.ofLine?, hshaped]
    rw [lineNotes_of_isShaped hshaped, if_pos hdropped]
    rfl
  · simp [hnone, hkept]
  · simp [hnote, hline, hdropped]

theorem Note.isOnLine_of_dropped {note : Note} {line : Line} (h : note.dropped? = some line) :
    note.isOnLine = true := by
  cases note with
  | droppedInBlock | droppedTopLevel => rfl
  | skippedShape | openBlock | finished => cases h

theorem isOnLine_of_mem {line : Line} {note : Note} (h : note ∈ lineNotes line) :
    note.isOnLine = true := by
  rcases lineNotes_cases line with ⟨text, owner, rfl, hshaped⟩ | ⟨-, hnone⟩ |
    ⟨-, single, hnote, hdropped⟩
  · rw [lineNotes_of_isShaped hshaped] at h
    rcases List.mem_pair.mp h with rfl | rfl <;> rfl
  · simp [hnone] at h
  · rw [hnote] at h
    obtain rfl := List.mem_singleton.mp h
    exact Note.isOnLine_of_dropped hdropped

theorem dropped_notes (lines : List Line) :
    (lines.flatMap lineNotes).filterMap Note.dropped? = lines.filter Line.isDropped := by
  induction lines with
  | nil => rfl
  | cons line rest ih =>
    rw [List.flatMap_cons, List.filterMap_append, dropped_lineNotes, ih, List.filter_cons]
    split <;> rfl

section Occurrences

variable {α β : Type} {before after : List β} {b : β}

/-- An occurrence in two lists, one after the other, is in the first or in the second. -/
theorem exists_of_append_eq {first second : List β} (h : first ++ second = before ++ b :: after) :
    (∃ post, first = before ++ b :: post ∧ after = post ++ second) ∨
      ∃ pre, before = first ++ pre ∧ second = pre ++ b :: after := by
  rcases List.append_eq_append_iff.mp h with ⟨pre, hbefore, hsecond⟩ | ⟨middle, hfirst, hright⟩
  · exact Or.inr ⟨pre, hbefore, hsecond⟩
  · cases middle with
    | nil => exact Or.inr ⟨[], by simpa using hfirst.symm, hright.symm⟩
    | cons _ post =>
      obtain ⟨rfl, rfl⟩ := List.cons.inj hright
      exact Or.inl ⟨post, hfirst, rfl⟩

/-- An occurrence in what the elements of a list stand for comes from one of them. -/
theorem exists_of_flatMap_eq {f : α → List β} {xs : List α}
    (h : xs.flatMap f = before ++ b :: after) :
    ∃ earlier x later pre post, xs = earlier ++ x :: later ∧ f x = pre ++ b :: post ∧
      before = earlier.flatMap f ++ pre ∧ after = post ++ later.flatMap f := by
  induction xs generalizing before with
  | nil => simp at h
  | cons x rest ih =>
    rw [List.flatMap_cons] at h
    rcases exists_of_append_eq h with ⟨post, hx, rfl⟩ | ⟨pre, rfl, hrest⟩
    · exact ⟨[], x, rest, before, post, rfl, hx, rfl, rfl⟩
    · obtain ⟨earlier, y, later, pre, post, rfl, hy, rfl, rfl⟩ := ih hrest
      exact ⟨x :: earlier, y, later, pre, post, rfl, hy, by simp, rfl⟩

end Occurrences

/-- A note that a line is skipped is about a body line that looks like a relationship. It is the
first of the two on that line, and the other says that the line is dropped. -/
theorem skippedShape_facts {line : Line} {text : String} {pre post : List Note}
    (h : lineNotes line = pre ++ .skippedShape text :: post) :
    ∃ owner, line = .body text owner ∧ Relationship.isShaped text = true ∧ pre = [] ∧
      post = [.droppedInBlock owner text] := by
  rcases lineNotes_cases line with ⟨shaped, owner, rfl, hshaped⟩ | ⟨-, hnone⟩ |
    ⟨-, note, hnote, hdropped⟩
  · rw [lineNotes_of_isShaped hshaped] at h
    cases pre with
    | nil =>
      obtain ⟨hskip, rfl⟩ := List.cons.inj h
      obtain rfl := Note.skippedShape.inj hskip
      exact ⟨owner, rfl, hshaped, rfl, rfl⟩
    | cons first rest =>
      have hmem : .skippedShape text ∈ [Note.droppedInBlock owner shaped] := by
        rw [(List.cons.inj h).2]
        exact List.mem_append_right _ List.mem_cons_self
      cases List.mem_singleton.mp hmem
  · simp [hnone] at h
  · have hmem : .skippedShape text ∈ [note] := by
      rw [← hnote, h]
      exact List.mem_append_right _ List.mem_cons_self
    obtain rfl := List.mem_singleton.mp hmem
    cases hdropped

structure Accounts (text : String) (notes : List Note) : Prop where
  /-- Every significant line is a header, a brace, a column, a relationship, or dropped. -/
  balance : (significantLines text).length =
    (Document.ofText text).lines.countP Line.isOpening +
      (Document.ofText text).lines.countP Line.isClosing +
      (Document.ofText text).lines.countP Line.isColumn +
      (Report.ofText text).relationships.length + (notes.filterMap Note.dropped?).length
  /-- The notes name the dropped lines in order. -/
  dropped : notes.filterMap Note.dropped? = (Document.ofText text).lines.filter Line.isDropped
  /-- A body line that looks like a relationship is skipped right before it is dropped. -/
  skipped : ∀ earlier line owner later,
    (Document.ofText text).lines = earlier ++ .body line owner :: later →
    Relationship.isShaped line = true →
    ∃ before after, notes = before ++ .skippedShape line :: .droppedInBlock owner line :: after ∧
      before.filterMap Note.dropped? = earlier.filter Line.isDropped
  /-- No other line is skipped. -/
  shaped : ∀ before line rest, notes = before ++ .skippedShape line :: rest →
    ∃ earlier owner later after,
      (Document.ofText text).lines = earlier ++ .body line owner :: later ∧
      Relationship.isShaped line = true ∧ rest = .droppedInBlock owner line :: after ∧
      before.filterMap Note.dropped? = earlier.filter Line.isDropped
  /-- The block that is open at the end is noted. -/
  unclosed : ∀ owner, .openBlock owner ∈ notes ↔ (Document.ofText text).openEntity = some owner
  inBlock : (∃ owner, .openBlock owner ∈ notes) ↔ (Document.ofText text).finalState = .inBlock
  /-- One note counts what was read, and it is the last. -/
  final : ∃ earlier, (∀ note ∈ earlier, note.isFinal = false) ∧
    notes = earlier ++ [.finished (Report.ofText text).entities.length
      (Report.ofText text).relationships.length (Report.ofText text).summary.errorCount
      (Report.ofText text).summary.warningCount]

def closingNotes (text : String) : List Note :=
  ((Document.ofText text).openEntity.map Note.openBlock).toList ++
    [.finished (Report.ofText text).entities.length (Report.ofText text).relationships.length
      (Report.ofText text).summary.errorCount (Report.ofText text).summary.warningCount]

theorem notes_eq (text : String) :
    notes text = (Document.ofText text).lines.flatMap lineNotes ++ closingNotes text := by
  simp [notes, closingNotes]

theorem dropped_closingNotes (text : String) :
    (closingNotes text).filterMap Note.dropped? = [] := by
  unfold closingNotes
  cases (Document.ofText text).openEntity <;> rfl

theorem dropped_notes_text (text : String) :
    (notes text).filterMap Note.dropped? = (Document.ofText text).lines.filter Line.isDropped := by
  rw [notes_eq, List.filterMap_append, dropped_notes, dropped_closingNotes, List.append_nil]

theorem openBlock_mem_notes {text owner : String} :
    .openBlock owner ∈ notes text ↔ (Document.ofText text).openEntity = some owner := by
  have hlines : .openBlock owner ∉ (Document.ofText text).lines.flatMap lineNotes := by
    intro hmem
    obtain ⟨line, -, hnote⟩ := List.mem_flatMap.mp hmem
    cases isOnLine_of_mem hnote
  rw [notes_eq, List.mem_append, or_iff_right hlines, closingNotes]
  cases (Document.ofText text).openEntity <;> simp [eq_comm]

theorem skippedShape_not_mem_closingNotes (line text : String) :
    .skippedShape line ∉ closingNotes text := by
  unfold closingNotes
  cases (Document.ofText text).openEntity <;> simp

/-- A note that a line is skipped is followed by the note that it is dropped, among the notes on the
lines. -/
theorem exists_of_notes_eq {text line : String} {before rest : List Note}
    (h : notes text = before ++ .skippedShape line :: rest) :
    ∃ earlier owner later after, (Document.ofText text).lines = earlier ++ .body line owner :: later ∧
      Relationship.isShaped line = true ∧ rest = .droppedInBlock owner line :: after ∧
      before = earlier.flatMap lineNotes := by
  rw [notes_eq] at h
  rcases exists_of_append_eq h with ⟨post, hlines, rfl⟩ | ⟨pre, -, hclosing⟩
  · obtain ⟨earlier, _, later, pre, _, hsplit, hnotes, rfl, rfl⟩ := exists_of_flatMap_eq hlines
    obtain ⟨owner, rfl, hshaped, rfl, rfl⟩ := skippedShape_facts hnotes
    exact ⟨earlier, owner, later, _, hsplit, hshaped, rfl, List.append_nil _⟩
  · refine absurd ?_ (skippedShape_not_mem_closingNotes line text)
    rw [hclosing]
    exact List.mem_append_right _ List.mem_cons_self

theorem accounts_notes (text : String) : Accounts text (notes text) where
  balance := by
    have hroutes := Line.length_eq_routes (Document.ofText text).lines
    have hlength : (Document.ofText text).lines.length = (significantLines text).length :=
      Line.length_run none (significantLines text)
    rw [dropped_notes_text, ← List.countP_eq_length_filter, ← hlength]
    exact hroutes
  dropped := dropped_notes_text text
  skipped earlier line owner later hlines hshaped := by
    refine ⟨earlier.flatMap lineNotes, later.flatMap lineNotes ++ closingNotes text, ?_,
      dropped_notes earlier⟩
    rw [notes_eq, hlines, List.flatMap_append, List.flatMap_cons, lineNotes_of_isShaped hshaped]
    simp
  shaped before line rest hnotes := by
    obtain ⟨earlier, owner, later, after, hlines, hshaped, hrest, rfl⟩ := exists_of_notes_eq hnotes
    exact ⟨earlier, owner, later, after, hlines, hshaped, hrest, dropped_notes earlier⟩
  unclosed owner := openBlock_mem_notes
  inBlock := by
    simp only [openBlock_mem_notes, Document.finalState_eq_inBlock_iff, Option.ne_none_iff_exists']
  final := by
    refine ⟨(Document.ofText text).lines.flatMap lineNotes ++
      ((Document.ofText text).openEntity.map Note.openBlock).toList, ?_, ?_⟩
    · intro note hnote
      rcases List.mem_append.mp hnote with hline | hopen
      · obtain ⟨line, -, hmem⟩ := List.mem_flatMap.mp hline
        have honLine := isOnLine_of_mem hmem
        cases note with
        | finished => cases honLine
        | _ => rfl
      · obtain ⟨owner, -, rfl⟩ := by simpa using hopen
        rfl
    · rfl

/-- Notes are made by modules of the program. -/
theorem Note.below_program (note : Note) :
    Journal.isAbove Journal.programName note.record.logger.toList = true := by
  have hcolumns : Journal.isAbove Journal.programName (skippedShape "").logger.toList = true := by
    decide
  have hlines : Journal.isAbove Journal.programName (openBlock "").logger.toList = true := by
    decide
  cases note with
  | skippedShape => exact hcolumns
  | _ => exact hlines

/-- In a journal that is set up for debugging, every note is one entry. -/
theorem entries_eq_notes {state : Journal.State} {sink : Journal.Sink}
    (h : ∀ note : Note, state.SetUpAbove note.logger .debug sink) (text : String) :
    entries state text =
      (notes text).map fun note => ⟨note.record, sink.service, state.trace⟩ := by
  have hentry (note : Note) : Journal.entries state note.record =
      [⟨note.record, sink.service, state.trace⟩] :=
    Journal.State.SetUpAbove.entries_eq (h note) (by decide) note.below_program (Nat.le_refl _)
  simp only [entries, hentry, List.map_eq_flatMap]

end Reading

/-- Reading a text in a journal that was set up for debugging leaves one entry for each note, all of
the level for debugging, and the notes account for the lines of the text. No logger of its own may
stand between the modules that read and the program's logger. -/
theorem reading_accounts_for_lines {state : Journal.State} {service word : String}
    (hdebug : Journal.Level.ofWord word = .ok .debug)
    (hclear : ∀ note : Reading.Note, state.IsClear service note.logger) (text : String) :
    ∃ next, state.setup service word = .ok next ∧
      Reading.entries next text =
        (Reading.notes text).map (fun note => ⟨note.record, service, state.trace⟩) ∧
      (∀ entry ∈ Reading.entries next text, entry.record.level = .debug) ∧
      Reading.Accounts text (Reading.notes text) := by
  obtain ⟨next, hnext, htrace, hsetUp⟩ := Journal.State.setUpAbove_setup hdebug state service
  have hentries := Reading.entries_eq_notes (fun note => hsetUp note.logger (hclear note)) text
  rw [htrace] at hentries
  refine ⟨next, hnext, hentries, ?_, Reading.accounts_notes text⟩
  intro entry hentry
  rw [hentries] at hentry
  obtain ⟨note, -, rfl⟩ := List.mem_map.mp hentry
  rfl

/-- A header inside of a block, a relationship inside of a block, and lines that are not read. -/
def untidyText : String :=
  "A \x7b\n int id PK\n A ||--|| B : \x22x\x22\n what?\nB \x7b\n int a_id FK\n\x7d\nnothing\nA \x7b"

def gatewayJournal : Journal.State :=
  let logger : Journal.Logger := { level := .error, sinks := [⟨"gateway", 0⟩], propagates := false }
  { loggers := [("src", logger), ("gateway", logger)], setups := 1 }

theorem reading_accounts_for_lines_untidy :
    Journal.State.setup {} "gateway" "error" = .ok gatewayJournal ∧
      ∃ next, gatewayJournal.setup "erd-validator" "Debug" = .ok next ∧
        (∀ entry ∈ Reading.entries next untidyText, entry.record.level = .debug) ∧
        Reading.Accounts untidyText (Reading.notes untidyText) ∧
        (Reading.notes untidyText).filterMap Reading.Note.dropped? =
          [.body "A ||--|| B : \x22x\x22" "A", .body "what?" "A", .topLevel "nothing"] := by
  have hdebug : Journal.Level.ofWord "Debug" = .ok .debug := by decide
  have hclear (note : Reading.Note) : gatewayJournal.IsClear "erd-validator" note.logger := by
    intro upper hupper habove
    rcases List.mem_pair.mp hupper with rfl | rfl
    · exact Or.inl rfl
    · have hcolumns : ¬ Journal.IsAtOrAbove "gateway" (Reading.Note.skippedShape "").logger := by
        decide
      have hlines : ¬ Journal.IsAtOrAbove "gateway" (Reading.Note.openBlock "").logger := by decide
      cases note with
      | skippedShape => exact absurd habove hcolumns
      | _ => exact absurd habove hlines
  obtain ⟨next, hnext, -, hlevel, haccounts⟩ :=
    reading_accounts_for_lines hdebug hclear untidyText
  have hdropped : (Document.ofText untidyText).lines.filter Line.isDropped =
      [.body "A ||--|| B : \x22x\x22" "A", .body "what?" "A", .topLevel "nothing"] := by decide
  exact ⟨by decide, next, hnext, hlevel, haccounts, haccounts.dropped.trans hdropped⟩

end EntityDiagram
