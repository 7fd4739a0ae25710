import EntityDiagram.Proofs.Diagram.Printing
import EntityDiagram.Proofs.Line.Classified
import EntityDiagram.Service.Message

/-!
Building of a diagram line by line. A header declares an entity without columns, and a body line
looks up the entity of its block to add a column to it. The lookup fails for an entity that is not
declared. On the lines of a text it never does, since a body line always follows a header of its own
entity, and the outcome is the diagram of the text. So every text has a report.
-/
namespace EntityDiagram

namespace Entity

/-- A column is added to a declared entity in its place. -/
theorem extend?_declare (e : Entity) (a : Attribute) (entities : List Entity) :
    extend? e.name a (e.declare entities) =
      some ({ e with attributes := e.attributes ++ [a] }.declare entities) := by
  induction entities with
  | nil => simp [declare, extend?]
  | cons f rest ih =>
    by_cases h : f.name = e.name
    · simp [declare, extend?, h]
    · simp [declare, extend?, h, ih]

end Entity

namespace Diagram

theorem leadingBody_append {ys : List Line} (h : leadingBody ys = []) (xs : List Line) :
    leadingBody (xs ++ ys) = leadingBody xs := by
  induction xs with
  | nil => exact h
  | cons line rest ih => cases line <;> simp [leadingBody, ih]

/-- Lines that do not go on with a body have blocks of their own. -/
theorem blocks_append {ys : List Line} (h : leadingBody ys = []) (xs : List Line) :
    blocks (xs ++ ys) = blocks xs ++ blocks ys := by
  induction xs with
  | nil => rfl
  | cons line rest ih => cases line <;> simp [blocks, ih, leadingBody_append h]

/-- The blocks of further lines are declared after those that are known. -/
theorem ofLines_append {ys : List Line} (h : leadingBody ys = []) (xs : List Line) :
    ofLines (xs ++ ys) =
      ⟨(blocks ys).foldl (fun entities block => (Entity.ofBlock block.1 block.2).declare entities)
          (ofLines xs).entities,
        (ofLines xs).relationships ++ ys.filterMap relationshipOf?⟩ := by
  rw [ofLines, blocks_append h, List.foldl_append, List.filterMap_append]
  rfl

/-- The block that is open at the end is the last one. -/
theorem blocks_open (earlier : List Line) (header owner : String) (texts : List String) :
    blocks (earlier ++ .opening header owner :: texts.map (Line.body · owner)) =
      blocks earlier ++ [(owner, texts)] := by
  have hbody := leadingBody_body_append owner texts []
  have hblocks := blocks_body_append owner texts []
  rw [List.append_nil] at hbody hblocks
  rw [blocks_append rfl, blocks, hbody, hblocks]
  simp [leadingBody, blocks]

theorem addColumn_eq_ok {d : Diagram} {name : String} {a : Attribute} {entities : List Entity}
    (h : Entity.extend? name a d.entities = some entities) :
    d.addColumn (some name) a = .ok { d with entities } := by
  unfold addColumn
  rw [Option.bind_some, h]

/-- A body line adds its column to the entity whose block is open. -/
theorem addLine_body {lines : List Line} {owner : String} {done : List (String × List String)}
    {texts : List String} (hopen : blocks lines = done ++ [(owner, texts)]) (text : String)
    (hlonger : blocks (lines ++ [.body text owner]) = done ++ [(owner, texts ++ [text])]) :
    (ofLines lines).addLine (Line.body text owner).classified =
      .ok (ofLines (lines ++ [.body text owner])) := by
  have hlinks : (lines ++ [Line.body text owner]).filterMap relationshipOf? =
      lines.filterMap relationshipOf? := by
    simp [List.filterMap_append, relationshipOf?]
  rw [addLine, Line.classified, ofLines, ofLines, hlinks, hopen, hlonger, List.foldl_concat,
    List.foldl_concat]
  cases hread : Attribute.ofLine? text with
  | none =>
    have hsame : Entity.ofBlock owner (texts ++ [text]) = Entity.ofBlock owner texts := by
      simp [Entity.ofBlock, List.filterMap_append, hread]
    rw [hsame]
  | some a =>
    have hmore : Entity.ofBlock owner (texts ++ [text]) =
        { Entity.ofBlock owner texts with
          attributes := (Entity.ofBlock owner texts).attributes ++ [a] } := by
      simp [Entity.ofBlock, List.filterMap_append, hread]
    rw [hmore]
    exact addColumn_eq_ok (Entity.extend?_declare (Entity.ofBlock owner texts) a _)

/-- Building on one line more never fails, and gives the diagram of the lines with it. -/
theorem addLine_ofLines {lines : List Line} {line : Line} {current next : Option String}
    (h : Line.Path none lines current) (hmove : Line.Moves current line next) :
    (ofLines lines).addLine line.classified = .ok (ofLines (lines ++ [line])) := by
  cases hmove with
  | opening =>
    rw [ofLines_append rfl, addLine]
    simp [Line.classified, blocks, leadingBody, relationshipOf?]
  | closing =>
    rw [ofLines_append rfl, addLine]
    simp [Line.classified, blocks, List.filterMap_cons, relationshipOf?]
  | @topLevel text =>
    rw [ofLines_append rfl, addLine]
    cases hread : Relationship.ofLine? text <;>
      simp [Line.classified, blocks, relationshipOf?, hread]
  | @body text owner =>
    -- the block of the line is the one that was opened last
    obtain ⟨⟨⟩, -⟩ | ⟨earlier, header, texts, rfl⟩ := h.exists_opening
    apply addLine_body (blocks_open earlier header owner texts)
    have hlines := blocks_open earlier header owner (texts ++ [text])
    rwa [List.map_append, ← List.cons_append, ← List.append_assoc] at hlines

/-- Building on the lines of a run never fails. -/
theorem addLines_eq {lines : List Line} {final : Option String} (h : Line.Path none lines final) :
    addLines ⟨[], []⟩ (lines.map Line.classified) = .ok (ofLines lines) := by
  induction lines using List.reverseRecOn generalizing final with
  | nil => rfl
  | append_singleton lines line ih =>
    obtain ⟨current, hlines, _ | ⟨hmove, -⟩⟩ := Line.Path.append_iff.mp h
    have hread := ih hlines
    rw [addLines] at hread ⊢
    rw [List.map_append, List.foldlM_append, hread]
    change List.foldlM addLine (ofLines lines) [line.classified] = _
    rw [List.foldlM_cons, addLine_ofLines hlines hmove]
    rfl

/-- The lookups of entities never fail, and building line by line gives the diagram of the text. -/
theorem build_eq (text : String) : build text = .ok (ofText text) := by
  rw [build, ClassifiedDocument.ofText_eq]
  exact addLines_eq (Document.path_ofText text)

end Diagram

namespace Service

theorem reportOf_eq_ok {doc : Json} {source : String} (h : sourceText doc = .ok source) :
    reportOf doc = .ok (Report.ofText source) := by
  rw [reportOf, h]
  change ((Diagram.build source).mapError ReportError.unbuilt >>= _) = _
  rw [Diagram.build_eq]
  rfl

end Service

/-- Every text is read without failure. A block is open exactly while an entity is current, whatever
lines the machine has run over. The classified lines of a text are well blocked, so the entity of a
body line is declared whenever it is looked up, and building line by line gives the diagram of the
text. Texts have reports, also those with half of a character in them, and no other document has
one. -/
theorem reading_never_fails (text : String) :
    (∀ lines, (BlockMachine.run {} lines).2.InStep) ∧
      (ClassifiedDocument.ofText text).WellBlocked ∧
      Diagram.build text = .ok (Diagram.ofText text) ∧
      Service.reportOf (.text text) = .ok (Report.ofText text) ∧
      Service.reportOf (.brokenText text) = .ok (Report.ofText text) ∧
      ∀ doc, (∃ error, Service.reportOf doc = .error error) ↔
        (∀ source, doc ≠ .text source) ∧ ∀ shown, doc ≠ .brokenText shown := by
  refine ⟨BlockMachine.inStep_run BlockMachine.inStep_initial, ?_, Diagram.build_eq text,
    Service.reportOf_eq_ok rfl, Service.reportOf_eq_ok rfl, fun doc => ?_⟩
  · rw [ClassifiedDocument.ofText_eq]
    exact Document.wellBlocked_of_path (Document.path_ofText text)
  constructor
  · rintro ⟨error, herror⟩
    constructor
    · rintro source rfl
      rw [Service.reportOf_eq_ok rfl] at herror
      cases herror
    · rintro shown rfl
      rw [Service.reportOf_eq_ok rfl] at herror
      cases herror
  · rintro ⟨htext, hbroken⟩
    refine ⟨.refused .notText, ?_⟩
    cases doc with
    | text source => exact absurd rfl (htext source)
    | brokenText shown => exact absurd rfl (hbroken shown)
    | _ => rfl

end EntityDiagram
