import EntityDiagram.Proofs.Attribute.Readable
import EntityDiagram.Repair

/-!
Written diagrams. A diagram is written as the line that names its kind, the blocks of its entities
and the lines of its relationships. Reading the text of a diagram whose entities have distinct names
and whose lines keep their places gives its readable part: columns whose names are no words are
left out. A diagram whose parts are what their lines say is recovered from its written text.
-/
namespace EntityDiagram

open Text

namespace Entity

structure Printable (e : Entity) : Prop where
  name : IsWord e.name.toList
  displayName_eq : e.displayName = Text.displayName e.name
  attributes : ∀ a ∈ e.attributes, a.Printable

structure Faithful (e : Entity) : Prop where
  name : IsWord e.name.toList
  displayName_eq : e.displayName = Text.displayName e.name
  attributes : ∀ a ∈ e.attributes, a.Written

/-- The entity is what its written block says, and its name has no dotted capital I. -/
structure Written (e : Entity) : Prop where
  name : IsName e.name.toList
  displayName_eq : e.displayName = Text.displayName e.name
  attributes : ∀ a ∈ e.attributes, a.Written

def readable (e : Entity) : Entity :=
  { e with attributes := e.attributes.filter Attribute.isReadable }

def lines (e : Entity) : List String := Repair.blockLines e.name (e.attributes.map Attribute.line)

def contentLines (e : Entity) : List String :=
  (e.name ++ " \x7b") :: e.attributes.map Attribute.line ++ [Line.closingText]

def roles (e : Entity) : List Line :=
  .opening (e.name ++ " \x7b") e.name :: e.attributes.map (Line.body ·.line e.name) ++ [.closing]

end Entity

namespace Diagram

structure Printable (d : Diagram) : Prop where
  nodup : (d.entities.map (·.name)).Nodup
  entities : ∀ e ∈ d.entities, e.Printable
  relationships : ∀ q ∈ d.relationships, q.Faithful

structure Faithful (d : Diagram) : Prop where
  nodup : (d.entities.map (·.name)).Nodup
  entities : ∀ e ∈ d.entities, e.Faithful
  relationships : ∀ q ∈ d.relationships, q.Faithful

structure Written (d : Diagram) : Prop where
  nodup : (d.entities.map (·.name)).Nodup
  entities : ∀ e ∈ d.entities, e.Written
  relationships : ∀ q ∈ d.relationships, q.Written

def readable (d : Diagram) : Diagram := { d with entities := d.entities.map Entity.readable }

@[simp]
theorem readable_relationships (d : Diagram) : d.readable.relationships = d.relationships := rfl

def lines (d : Diagram) : List String :=
  diagramHeader :: d.entities.flatMap Entity.lines
    ++ d.relationships.map fun q => Repair.entityIndent q.line

def text (d : Diagram) : String := trimEnd (String.intercalate "\n" d.lines)

end Diagram

namespace Entity

variable {e : Entity}

theorem Written.faithful (h : e.Written) : e.Faithful :=
  ⟨h.name.toIsWord, h.displayName_eq, h.attributes⟩

theorem Faithful.printable (h : e.Faithful) : e.Printable :=
  ⟨h.name, h.displayName_eq, fun a ha => (h.attributes a ha).printable⟩

theorem Faithful.readable_eq (h : e.Faithful) : e.readable = e := by
  have hall : e.attributes.filter Attribute.isReadable = e.attributes := by
    apply List.filter_eq_self.mpr
    intro a ha
    exact (h.attributes a ha).isReadable
  rw [readable, hall]

theorem trim_entityIndent {line : String} (h : IsContent line.toList) :
    trim (Repair.entityIndent line) = line :=
  h.trim_indent (forall_mem_of_all (by decide))

theorem trim_attributeIndent {line : String} (h : IsContent line.toList) :
    trim (Repair.attributeIndent line) = line :=
  h.trim_indent (forall_mem_of_all (by decide))

/-- The lines of a block that carry content are its header, its attributes and its brace. -/
theorem significant_lines (h : e.Printable) :
    (e.lines.map trim).filter isSignificant = e.contentLines := by
  have hattributes : (e.attributes.map Attribute.line).map (trim ∘ Repair.attributeIndent) =
      e.attributes.map Attribute.line := by
    rw [List.map_map]
    apply List.map_congr_left
    intro a ha
    exact trim_attributeIndent (Attribute.isContent_line (h.attributes a ha).parts)
  have hsignificant : (e.attributes.map Attribute.line).filter isSignificant =
      e.attributes.map Attribute.line := by
    apply List.filter_eq_self.mpr
    intro line hline
    obtain ⟨a, ha, rfl⟩ := List.mem_map.mp hline
    exact (Attribute.isContent_line (h.attributes a ha).parts).isSignificant
  have hheader := isContent_header h.name
  have hend : ([Repair.entityIndent "\x7d", ""].map trim).filter isSignificant =
      [Line.closingText] := by decide
  rw [lines, Repair.blockLines, List.map_append, List.filter_append, hend, List.map_cons,
    trim_entityIndent hheader, List.filter_cons_of_pos hheader.isSignificant, List.map_map,
    hattributes, hsignificant]
  rfl

/-- The machine sees the block of an entity as a whole and leaves it. -/
theorem run_contentLines (h : e.Printable) (current : Option String) :
    Line.run current e.contentLines = (e.roles, none) := by
  have hbody : ∀ text ∈ e.attributes.map Attribute.line,
      headerName? text = none ∧ text ≠ Line.closingText := by
    intro text htext
    obtain ⟨a, ha, rfl⟩ := List.mem_map.mp htext
    have hparts := (h.attributes a ha).parts
    exact ⟨Attribute.headerName?_line hparts, (Attribute.isContent_line hparts).ne_closing⟩
  have hrun := Line.run_block current h.name hbody
  rw [List.map_map] at hrun
  exact hrun

/-- The block of an entity gives the columns that can be read. -/
theorem ofBlock_lines (h : e.Printable) :
    ofBlock e.name (e.attributes.map Attribute.line) = e.readable := by
  have hread : (e.attributes.map Attribute.line).filterMap Attribute.ofLine? =
      e.attributes.filter Attribute.isReadable := by
    rw [List.filterMap_map, ← List.filterMap_eq_filter]
    exact List.filterMap_congr fun a ha => (h.attributes a ha).read
  rw [ofBlock, hread, readable, h.displayName_eq]

/-- An entity with a new name is added at the end. -/
theorem declare_of_not_mem {entities : List Entity} (h : e.name ∉ entities.map (·.name)) :
    e.declare entities = entities ++ [e] := by
  induction entities with
  | nil => rfl
  | cons f rest ih =>
    have hf : f.name ≠ e.name := fun heq => h (by simp [heq])
    have hrest : e.name ∉ rest.map (·.name) := fun hmem => h (List.mem_cons_of_mem _ hmem)
    rw [declare, if_neg hf, ih hrest, List.cons_append]

/-- Entities with distinct names are all added. -/
theorem foldl_declare {entities known : List Entity}
    (h : ((known ++ entities).map (·.name)).Nodup) :
    entities.foldl (fun known e => e.declare known) known = known ++ entities := by
  induction entities generalizing known with
  | nil => simp
  | cons e rest ih =>
    have hnew : e.name ∉ known.map (·.name) := by
      intro hmem
      rw [List.map_append] at h
      exact (List.nodup_append.mp h).2.2 e.name hmem e.name (by simp) rfl
    rw [List.append_cons] at h
    rw [List.foldl_cons, declare_of_not_mem hnew, ih h, List.append_assoc, List.singleton_append]

end Entity

namespace Diagram

variable {d : Diagram}

theorem Written.faithful (h : d.Written) : d.Faithful :=
  ⟨h.nodup, fun e he => (h.entities e he).faithful, fun q hq => (h.relationships q hq).faithful⟩

theorem Faithful.readable_eq (h : d.Faithful) : d.readable = d := by
  have hall : d.entities.map Entity.readable = d.entities :=
    (List.map_congr_left fun e he => (h.entities e he).readable_eq).trans (List.map_id _)
  rw [readable, hall]

theorem newline_not_mem_lines (h : d.Printable) : ∀ line ∈ d.lines, '\n' ∉ line.toList := by
  have hindent : ∀ line : String, '\n' ∉ line.toList → '\n' ∉ (Repair.entityIndent line).toList :=
    fun line hline => by simp [Repair.entityIndent, hline]
  have hindent' : ∀ line : String, '\n' ∉ line.toList →
      '\n' ∉ (Repair.attributeIndent line).toList :=
    fun line hline => by simp [Repair.attributeIndent, hline]
  intro line hline
  rw [lines, List.cons_append, List.mem_cons, List.mem_append] at hline
  rcases hline with rfl | hline | hline
  · decide
  · obtain ⟨e, he, hline⟩ := List.mem_flatMap.mp hline
    have hprintable := h.entities e he
    rw [Entity.lines, Repair.blockLines, List.cons_append, List.mem_cons, List.mem_append] at hline
    rcases hline with rfl | hline | hline
    · exact hindent _ (isContent_header hprintable.name).newline
    · rw [List.map_map] at hline
      obtain ⟨a, ha, rfl⟩ := List.mem_map.mp hline
      exact hindent' _ (Attribute.isContent_line (hprintable.attributes a ha).parts).newline
    · simp only [List.mem_cons, List.not_mem_nil, or_false] at hline
      rcases hline with rfl | rfl <;> decide
  · obtain ⟨q, hq, rfl⟩ := List.mem_map.mp hline
    exact hindent _ (Relationship.isContent_line (h.relationships q hq)).newline

/-- The significant lines of a written text. -/
theorem significantLines_text (h : d.Printable) :
    significantLines d.text =
      d.entities.flatMap Entity.contentLines ++ d.relationships.map Relationship.line := by
  have hheader : isSignificant (trim diagramHeader) = false := by decide
  have hentities : ((d.entities.flatMap Entity.lines).map trim).filter isSignificant =
      d.entities.flatMap Entity.contentLines := by
    rw [List.map_flatMap, List.filter_flatMap]
    exact List.flatMap_congr fun e he => Entity.significant_lines (h.entities e he)
  have hlinks : ((d.relationships.map fun q => Repair.entityIndent q.line).map trim).filter
      isSignificant = d.relationships.map Relationship.line := by
    have htrim : (d.relationships.map fun q => Repair.entityIndent q.line).map trim =
        d.relationships.map Relationship.line := by
      rw [List.map_map]
      exact List.map_congr_left fun q hq =>
        Entity.trim_entityIndent (Relationship.isContent_line (h.relationships q hq))
    rw [htrim]
    apply List.filter_eq_self.mpr
    intro line hline
    obtain ⟨q, hq, rfl⟩ := List.mem_map.mp hline
    exact (Relationship.isContent_line (h.relationships q hq)).isSignificant
  rw [text, significantLines_trimEnd,
    significantLines_intercalate (by simp [lines]) (newline_not_mem_lines h), lines,
    List.map_append, List.filter_append, hlinks, List.map_cons,
    List.filter_cons_of_neg (by simp [hheader]), hentities]

/-- The roles of the lines of entities, one block after the other. -/
theorem run_entities {entities : List Entity} (h : ∀ e ∈ entities, e.Printable) :
    Line.run none (entities.flatMap Entity.contentLines) =
      (entities.flatMap Entity.roles, none) := by
  induction entities with
  | nil => rfl
  | cons e rest ih =>
    rw [List.flatMap_cons, Line.run_append,
      Entity.run_contentLines (h e List.mem_cons_self),
      ih fun f hf => h f (List.mem_cons_of_mem _ hf)]
    rfl

theorem lines_ofText_text (h : d.Printable) :
    (Document.ofText d.text).lines =
      d.entities.flatMap Entity.roles ++ d.relationships.map (Line.topLevel ·.line) := by
  have hlinks : ∀ text ∈ d.relationships.map Relationship.line,
      headerName? text = none ∧ text ≠ Line.closingText := by
    intro text htext
    obtain ⟨q, hq, rfl⟩ := List.mem_map.mp htext
    have hfaithful := h.relationships q hq
    exact ⟨Relationship.headerName?_line hfaithful,
      (Relationship.isContent_line hfaithful).ne_closing⟩
  simp only [Document.ofText, significantLines_text h, Line.run_append, run_entities h.entities,
    Line.run_topLevel hlinks, List.map_map]
  rfl

theorem leadingBody_body_append (owner : String) (texts : List String) (rest : List Line) :
    leadingBody (texts.map (Line.body · owner) ++ rest) = texts ++ leadingBody rest := by
  induction texts with
  | nil => rfl
  | cons text texts ih => simp [leadingBody, ih]

theorem blocks_body_append (owner : String) (texts : List String) (rest : List Line) :
    blocks (texts.map (Line.body · owner) ++ rest) = blocks rest := by
  induction texts with
  | nil => rfl
  | cons text texts ih => simp [blocks, ih]

theorem blocks_topLevel (texts : List String) : blocks (texts.map Line.topLevel) = [] := by
  induction texts with
  | nil => rfl
  | cons text texts ih => simp [blocks, ih]

/-- One block for each entity. -/
theorem blocks_roles_append (entities : List Entity) (texts : List String) :
    blocks (entities.flatMap Entity.roles ++ texts.map Line.topLevel) =
      entities.map fun e => (e.name, e.attributes.map Attribute.line) := by
  induction entities with
  | nil => exact blocks_topLevel texts
  | cons e rest ih =>
    have hbody : e.attributes.map (Line.body ·.line e.name) =
        (e.attributes.map Attribute.line).map (Line.body · e.name) := by
      rw [List.map_map]
      rfl
    have hclosing : leadingBody (Line.closing ::
        (rest.flatMap Entity.roles ++ texts.map Line.topLevel)) = [] := rfl
    rw [List.flatMap_cons, Entity.roles, hbody, List.append_assoc, List.append_assoc,
      List.cons_append, blocks, List.singleton_append, leadingBody_body_append, hclosing,
      List.append_nil, blocks_body_append, blocks, ih, List.map_cons]
    · rintro text name ⟨⟩

theorem relationships_roles (entities : List Entity) :
    (entities.flatMap Entity.roles).filterMap relationshipOf? = [] := by
  apply List.filterMap_eq_nil_iff.mpr
  intro line hline
  obtain ⟨e, -, hline⟩ := List.mem_flatMap.mp hline
  simp only [Entity.roles, List.cons_append, List.mem_cons, List.mem_append, List.mem_map,
    List.not_mem_nil, or_false] at hline
  rcases hline with rfl | ⟨a, -, rfl⟩ | rfl <;> rfl

/-- Reading the text of a diagram gives the columns that can be read. -/
theorem ofText_text_of_printable (h : d.Printable) : ofText d.text = d.readable := by
  have hrelationships : (d.relationships.map (Line.topLevel ·.line)).filterMap relationshipOf? =
      d.relationships := by
    rw [List.filterMap_map]
    calc
      d.relationships.filterMap (relationshipOf? ∘ fun q => Line.topLevel q.line) =
          d.relationships.filterMap some :=
        List.filterMap_congr fun q hq => Relationship.ofLine?_line (h.relationships q hq)
      _ = d.relationships := List.filterMap_some
  have hmap : d.relationships.map (Line.topLevel ·.line) =
      (d.relationships.map Relationship.line).map Line.topLevel := by
    rw [List.map_map]
    rfl
  have hblocks := blocks_roles_append d.entities (d.relationships.map Relationship.line)
  rw [← hmap] at hblocks
  have hnodup : ((d.entities.map Entity.readable).map (·.name)).Nodup := by
    rw [List.map_map]
    exact h.nodup
  have hentities : (d.entities.map fun e => (e.name, e.attributes.map Attribute.line)).foldl
      (fun entities block => (Entity.ofBlock block.1 block.2).declare entities) [] =
        d.entities.map Entity.readable := by
    rw [List.foldl_map]
    calc
      d.entities.foldl (fun known e =>
          (Entity.ofBlock e.name (e.attributes.map Attribute.line)).declare known) [] =
          d.entities.foldl (fun known e => e.readable.declare known) [] :=
        List.foldl_ext _ _ _ fun known e he => by rw [Entity.ofBlock_lines (h.entities e he)]
      _ = (d.entities.map Entity.readable).foldl (fun known e => e.declare known) [] := by
        rw [List.foldl_map]
      _ = d.entities.map Entity.readable := Entity.foldl_declare hnodup
  rw [ofText, lines_ofText_text h, ofLines, hblocks, hentities, List.filterMap_append,
    relationships_roles, hrelationships, List.nil_append, readable]

end Diagram

end EntityDiagram
