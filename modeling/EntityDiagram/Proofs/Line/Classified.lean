import EntityDiagram.Proofs.Line.Blocks

/-!
The block machine with both of its variables. A block is open exactly while an entity is current:
each step preserves this, and so does each run. A machine in step classifies lines as the machine
whose only state is the open entity reads them, with kinds and entities written out. So what holds
along the paths of the latter holds of classified lines.
-/
namespace EntityDiagram

namespace Line

def classified : Line → ClassifiedLine
  | opening text name => ⟨.entityOpen, text, some name⟩
  | closing => ⟨.entityClose, closingText, none⟩
  | body text owner => ⟨.entityBody, text, some owner⟩
  | topLevel text => ⟨.topLevel, text, none⟩

variable {line : Line} {text : String} {entity : Option String}

theorem classified_eq_opening_iff :
    line.classified = ⟨.entityOpen, text, entity⟩ ↔
      ∃ name, line = .opening text name ∧ entity = some name := by
  cases line <;> simp [classified, eq_comm, and_comm]

theorem classified_eq_body_iff :
    line.classified = ⟨.entityBody, text, entity⟩ ↔
      ∃ owner, line = .body text owner ∧ entity = some owner := by
  cases line <;> simp [classified, eq_comm, and_comm]

theorem classified_eq_topLevel_iff :
    line.classified = ⟨.topLevel, text, entity⟩ ↔ line = .topLevel text ∧ entity = none := by
  cases line <;> simp [classified, eq_comm]

end Line

theorem BlockState.eq_of_inBlock_iff {s t : BlockState} (h : s = .inBlock ↔ t = .inBlock) :
    s = t := by
  cases s <;> cases t <;> simp at h ⊢

namespace BlockMachine

/-- A block is open exactly while an entity is current. -/
def InStep (m : BlockMachine) : Prop := m.state = .inBlock ↔ m.current ≠ none

theorem inStep_initial : InStep {} := by simp [InStep]

variable {m : BlockMachine}

theorem inStep_step (h : m.InStep) (text : String) : (m.step text).2.InStep := by
  unfold step
  split
  · simp [InStep]
  · split
    · simp [InStep]
    · split
      · exact h
      · exact h

theorem inStep_run (h : m.InStep) (texts : List String) : (m.run texts).2.InStep := by
  induction texts generalizing m with
  | nil => exact h
  | cons text rest ih => exact ih (inStep_step h text)

theorem step_eq (h : m.InStep) (text : String) :
    (m.step text).1 = (Line.step m.current text).1.classified ∧
      (m.step text).2.current = (Line.step m.current text).2 := by
  unfold step Line.step
  split
  · exact ⟨rfl, rfl⟩
  · split
    · next hclosing => exact ⟨by rw [hclosing]; rfl, rfl⟩
    · obtain ⟨state, current⟩ := m
      cases state <;> cases current <;> simp [InStep, Line.classified] at h ⊢

/-- A run in step is a run over the open entity alone. -/
theorem run_eq (h : m.InStep) (texts : List String) :
    (m.run texts).1 = (Line.run m.current texts).1.map Line.classified ∧
      (m.run texts).2.current = (Line.run m.current texts).2 := by
  induction texts generalizing m with
  | nil => exact ⟨rfl, rfl⟩
  | cons text rest ih =>
    obtain ⟨hline, hcurrent⟩ := step_eq h text
    obtain ⟨hlines, hfinal⟩ := ih (inStep_step h text)
    rw [hcurrent] at hlines hfinal
    refine ⟨?_, hfinal⟩
    rw [run, Line.run, hline, hlines, List.map_cons]

end BlockMachine

namespace Document

def classified (d : Document) : ClassifiedDocument :=
  ⟨d.lines.map Line.classified, d.finalState, d.openEntity⟩

end Document

namespace ClassifiedLine

def isBoundary (line : ClassifiedLine) : Bool :=
  line.kind = .entityOpen || line.kind = .entityClose

end ClassifiedLine

namespace ClassifiedDocument

def lastBoundary? (d : ClassifiedDocument) : Option ClassifiedLine :=
  (d.lines.filter ClassifiedLine.isBoundary).getLast?

/-- Every line stands where its kind allows and has an entity where its kind has one, and the end is
what the last line that opens or closes a block says. -/
structure WellBlocked (d : ClassifiedDocument) : Prop where
  entity : ∀ line ∈ d.lines,
    line.entity ≠ none ↔ line.kind = .entityOpen ∨ line.kind = .entityBody
  body : ∀ before text entity after, d.lines = before ++ ⟨.entityBody, text, entity⟩ :: after →
    ∃ earlier header between, before = earlier ++ ⟨.entityOpen, header, entity⟩ :: between ∧
      ∀ line ∈ between, line.kind ≠ .entityOpen ∧ line.kind ≠ .entityClose
  topLevel : ∀ before text entity after, d.lines = before ++ ⟨.topLevel, text, entity⟩ :: after →
    ∀ earlier header name between, before = earlier ++ ⟨.entityOpen, header, name⟩ :: between →
      ∃ line ∈ between, line.kind = .entityClose
  inBlock : ∀ name, d.finalState = .inBlock ∧ d.openEntity = some name ↔
    ∃ header, d.lastBoundary? = some ⟨.entityOpen, header, some name⟩
  atTop : (∀ header name, d.lastBoundary? ≠ some ⟨.entityOpen, header, some name⟩) →
    d.finalState = .atTop ∧ d.openEntity = none

/-- The classified lines of a text are its lines with kinds and entities written out, and the state
at the end is the one that the open entity tells. -/
theorem ofText_eq (text : String) : ofText text = (Document.ofText text).classified := by
  have hinitial := BlockMachine.inStep_initial
  obtain ⟨hlines, hcurrent⟩ := BlockMachine.run_eq hinitial (significantLines text)
  have hstep := BlockMachine.inStep_run hinitial (significantLines text)
  rw [BlockMachine.InStep, hcurrent] at hstep
  have hstate := BlockState.eq_of_inBlock_iff
    (hstep.trans (Document.finalState_eq_inBlock_iff (d := Document.ofText text)).symm)
  rw [ofText, Document.classified, hlines, hcurrent, hstate]
  rfl

end ClassifiedDocument

namespace Document

variable {d : Document}

theorem lastBoundary?_classified :
    d.classified.lastBoundary? = (Line.lastBoundary? d.lines).map Line.classified := by
  have hkind : ClassifiedLine.isBoundary ∘ Line.classified = Line.isBoundary := by
    funext line
    cases line <;> rfl
  rw [ClassifiedDocument.lastBoundary?, classified, List.filter_map, hkind, List.getLast?_map,
    Line.lastBoundary?]

theorem lastBoundary?_classified_eq_opening_iff {header name : String} :
    d.classified.lastBoundary? = some ⟨.entityOpen, header, some name⟩ ↔
      Line.lastBoundary? d.lines = some (.opening header name) := by
  rw [lastBoundary?_classified, Option.map_eq_some_iff]
  constructor
  · rintro ⟨line, hline, hopening⟩
    obtain ⟨_, rfl, ⟨⟩⟩ := Line.classified_eq_opening_iff.mp hopening
    exact hline
  · exact fun hline => ⟨_, hline, rfl⟩

/-- Where a classified line comes from. -/
theorem exists_of_classified_eq {lines : List Line} {before after : List ClassifiedLine}
    {line : ClassifiedLine} (h : lines.map Line.classified = before ++ line :: after) :
    ∃ xs typed ys, lines = xs ++ typed :: ys ∧ before = xs.map Line.classified ∧
      typed.classified = line ∧ after = ys.map Line.classified := by
  obtain ⟨xs, rest, rfl, rfl, hrest⟩ := List.map_eq_append_iff.mp h
  obtain ⟨typed, ys, rfl, rfl, rfl⟩ := List.map_eq_cons_iff.mp hrest
  exact ⟨xs, typed, ys, rfl, rfl, rfl, rfl⟩

/-- Lines along which the machine moves from outside of every block are well blocked. -/
theorem wellBlocked_of_path (h : Line.Path none d.lines d.openEntity) :
    d.classified.WellBlocked where
  entity line hline := by
    obtain ⟨typed, -, rfl⟩ := List.mem_map.mp hline
    cases typed <;> simp [Line.classified]
  body before text entity after heq := by
    obtain ⟨xs, typed, ys, hlines, rfl, hbody, -⟩ := exists_of_classified_eq heq
    rw [hlines, Line.Path.append_iff] at h
    obtain ⟨middle, hbefore, hafter⟩ := h
    obtain ⟨owner, rfl, rfl⟩ := Line.classified_eq_body_iff.mp hbody
    -- the machine reaches a body line only inside of the block of its entity
    obtain _ | ⟨⟨⟩, -⟩ := hafter
    obtain ⟨⟨⟩, -⟩ | ⟨earlier, header, texts, rfl⟩ := hbefore.exists_opening
    refine ⟨earlier.map Line.classified, header, _, List.map_append, ?_⟩
    intro line hline
    simp only [List.map_map, List.mem_map, Function.comp_apply] at hline
    obtain ⟨text', -, rfl⟩ := hline
    exact ⟨nofun, nofun⟩
  topLevel before text entity after heq earlier header name between hbefore := by
    obtain ⟨xs, typed, ys, hlines, rfl, htop, -⟩ := exists_of_classified_eq heq
    obtain ⟨us, opened, vs, rfl, -, hopening, rfl⟩ := exists_of_classified_eq hbefore
    rw [hlines, Line.Path.append_iff] at h
    obtain ⟨middle, hpath, hafter⟩ := h
    obtain ⟨rfl, -⟩ := Line.classified_eq_topLevel_iff.mp htop
    obtain ⟨_, rfl, -⟩ := Line.classified_eq_opening_iff.mp hopening
    -- the machine is outside of every block at the line, and inside of one behind the header
    obtain _ | ⟨⟨⟩, -⟩ := hafter
    obtain ⟨_, -, _ | ⟨⟨⟩, hbetween⟩⟩ := Line.Path.append_iff.mp hpath
    have hclosing := hbetween.closing_mem (by simp) rfl
    exact ⟨_, List.mem_map_of_mem hclosing, rfl⟩
  inBlock name := by
    simp only [lastBoundary?_classified_eq_opening_iff]
    rw [← Line.openAfter_none_eq_some_iff, ← h.final_eq, classified, finalState_eq_inBlock_iff]
    constructor
    · exact fun hopen => hopen.2
    · exact fun hopen => ⟨by simp [hopen], hopen⟩
  atTop hnone := by
    have hopen : d.openEntity = none := by
      rw [Option.eq_none_iff_forall_ne_some]
      intro name hname
      obtain ⟨header, hlast⟩ := Line.openAfter_none_eq_some_iff.mp (h.final_eq.symm.trans hname)
      exact hnone header name (lastBoundary?_classified_eq_opening_iff.mpr hlast)
    exact ⟨finalState_eq_atTop_iff.mpr hopen, hopen⟩

end Document

end EntityDiagram
