import EntityDiagram.Proofs.Repair.Convergence
import EntityDiagram.Proofs.Repair.Introduced

/-!
Blocks of junction entities. The block that is written for a many-to-many relationship is read as
one entity: it has the joined name, a key of its own and a foreign key to either side. The columns
of the foreign keys are called after the sides in lower case, but only sides that are equal as they
are written get different columns. So when two sides differ in case only, the entity has a column
twice, and this is the only finding about its structure and the names in it.
-/
namespace EntityDiagram

open Text Repair

namespace Entity

variable {e : Entity}

theorem newline_not_mem_lines (h : e.Printable) : ∀ line ∈ e.lines, '\n' ∉ line.toList := by
  have hprintable : (Diagram.mk [e] []).Printable :=
    ⟨List.nodup_singleton _, by simpa using h, by simp⟩
  intro line hline
  apply Diagram.newline_not_mem_lines hprintable
  rw [Diagram.lines, List.flatMap_singleton, List.map_nil, List.append_nil]
  exact List.mem_cons_of_mem _ hline

/-- The lines of a block, read on their own, give the entity with the columns that can be read. -/
theorem ofText_lines (h : e.Printable) :
    Diagram.ofText (String.intercalate "\n" e.lines) = ⟨[e.readable], []⟩ := by
  have hlines : (Document.ofText (String.intercalate "\n" e.lines)).lines = e.roles := by
    rw [Document.ofText, significantLines_intercalate (by simp [lines, Repair.blockLines])
      (newline_not_mem_lines h), significant_lines h, run_contentLines h]
  have hblocks := Diagram.blocks_roles_append [e] []
  have hrelationships := Diagram.relationships_roles [e]
  rw [List.flatMap_singleton] at hblocks hrelationships
  rw [List.map_nil, List.append_nil] at hblocks
  rw [Diagram.ofText, hlines, Diagram.ofLines, hblocks, hrelationships, List.map_singleton,
    List.foldl_cons, List.foldl_nil, ofBlock_lines h, declare]

/-- Nothing is found about the names in an entity without columns that conflict. -/
theorem namingFindings_eq_nil (hconflicts : e.nameConflicts = [])
    (hsystem : ∀ a ∈ e.attributes, lower a.name ∉ Platform.systemColumns) :
    e.namingFindings = [] := by
  have hnone : e.systemConflicts = [] := by
    rw [systemConflicts, List.map_eq_nil_iff, List.filter_eq_nil_iff]
    intro a ha
    simpa using hsystem a ha
  rw [namingFindings, nameFindings, systemFindings, hconflicts, hnone]
  rfl

/-- An entity with one primary key has no finding about its structure but for columns that occur
twice. -/
theorem structureFindings_details (hkeys : e.primaryKeys.length = 1) :
    e.structureFindings.map (·.detail) =
      if e.duplicates = [] then [] else [.duplicateColumns e.duplicates] := by
  obtain ⟨key, hkey⟩ := List.length_eq_one_iff.mp hkeys
  have hne : e.attributes ≠ [] := by
    intro hnil
    rw [primaryKeys, hnil, List.filter_nil] at hkey
    cases hkey
  have hempty : e.emptyFindings = [] := by
    rw [emptyFindings, if_neg (by simpa using hne)]
  rw [structureFindings, keyFindings, hkey, hempty, duplicateFindings]
  by_cases hduplicates : e.duplicates = []
  · simp [hduplicates]
  · simp [hduplicates, Finding.ofDetail]

end Entity

namespace Repair

variable {fix : JunctionFix}

/-- The block of a junction, read on its own, is its entity. -/
theorem ofText_junctionBlock (hjunction : IsName fix.junctionEntity.toList)
    (hfrom : IsName fix.fromEntity.toList) (hto : IsName fix.toEntity.toList) :
    Diagram.ofText (String.intercalate "\n" (junctionBlock fix)) = ⟨[madeEntity fix], []⟩ := by
  have hfaithful := (written_madeEntity hjunction hfrom hto).faithful
  rw [← lines_madeEntity, Entity.ofText_lines hfaithful.printable, hfaithful.readable_eq]

/-- A junction entity has a column twice when its sides differ in case only. -/
theorem duplicates_madeEntity (hfrom : IsWord fix.fromEntity.toList)
    (hto : IsWord fix.toEntity.toList) :
    (madeEntity fix).duplicates =
      if fix.fromEntity = fix.toEntity ∨ lower fix.fromEntity ≠ lower fix.toEntity then []
      else [(junctionColumns fix).1] := by
  split
  · next hapart => exact repeated_eq_nil_iff.mpr (nodup_madeEntity hfrom hto hapart)
  · next hapart =>
    obtain ⟨hsides, hlower⟩ := not_or.mp hapart
    rw [not_not] at hlower
    have hcolumns : (junctionColumns fix).2 = (junctionColumns fix).1 := by
      simp [junctionColumns, hsides, hlower]
    have hid := (derivedFrom_junctionColumns hfrom hto).1.ne_id.symm
    rw [Entity.duplicates, map_lower_madeEntity hfrom hto, hcolumns, repeated_pair hid]

theorem keyFlags_madeEntity (fix : JunctionFix) :
    (madeEntity fix).attributes.map keyFlags = [(true, false), (false, true), (false, true)] := by
  have hkey : keyFlags keyAttribute = (true, false) := by decide
  have hreference (column entity : String) :
      keyFlags (referenceAttribute column entity) = (false, true) := by
    rw [keyFlags, referenceAttribute_isPrimaryKey, referenceAttribute_isForeignKey]
  simp only [madeEntity, List.map_cons, List.map_nil, hkey, hreference]

end Repair

/-- A word in ASCII has no dotted capital I. -/
theorem isName_of_ascii {name : List Char} (hne : name ≠ [])
    (hascii : ∀ c ∈ name, isWordChar c = true ∧ c.toNat < 128) : IsName name := by
  refine ⟨⟨hne, fun c hc => (hascii c hc).1⟩, fun hdot => ?_⟩
  exact absurd (hascii _ hdot).2 (by decide)

theorem Relationship.isName_junctionName {q : Relationship} (hfrom : IsName q.fromEntity.toList)
    (hto : IsName q.toEntity.toList) : IsName q.junctionName.toList := by
  rw [junctionName, String.toList_append]
  exact hfrom.append hto

/-- The block of the junction entity of a relationship is read as that entity: it has the joined
name, and its three columns are a primary key and two foreign keys. Nothing is found about names in
it. Its columns are distinct, and nothing is found about its structure, exactly when the sides of
the relationship are the same or differ in lower case. Otherwise one column is there twice. -/
theorem junction_block_reads_back {q : Relationship} (hfrom : IsName q.fromEntity.toList)
    (hto : IsName q.toEntity.toList) :
    ∃ e, Diagram.ofText (String.intercalate "\n" (junctionBlock q.junction)) = ⟨[e], []⟩ ∧
      e.name = q.fromEntity ++ q.toEntity ∧
      e.attributes.map keyFlags = [(true, false), (false, true), (false, true)] ∧
      ((e.attributes.map fun a => lower a.name).Nodup ↔
        q.fromEntity = q.toEntity ∨ lower q.fromEntity ≠ lower q.toEntity) ∧
      e.namingFindings = [] ∧
      e.structureFindings.map (·.detail) =
        if q.fromEntity = q.toEntity ∨ lower q.fromEntity ≠ lower q.toEntity then []
        else [.duplicateColumns [lower q.fromEntity ++ "_id"]] := by
  have hduplicates : (madeEntity q.junction).duplicates =
      if q.fromEntity = q.toEntity ∨ lower q.fromEntity ≠ lower q.toEntity then []
      else [lower q.fromEntity ++ "_id"] := duplicates_madeEntity hfrom.toIsWord hto.toIsWord
  refine ⟨madeEntity q.junction,
    ofText_junctionBlock (Relationship.isName_junctionName hfrom hto) hfrom hto, rfl,
    keyFlags_madeEntity _, ?_, ?_, ?_⟩
  · rw [← repeated_eq_nil_iff, ← Entity.duplicates, hduplicates, ite_eq_left_iff]
    simp only [List.cons_ne_nil, imp_false, not_not]
  · exact Entity.namingFindings_eq_nil
      (Entity.nameConflicts_eq_nil_iff.mpr (isNameConflict_madeEntity hfrom.toIsWord hto.toIsWord))
      (not_mem_systemColumns_madeEntity hfrom.toIsWord hto.toIsWord)
  · rw [Entity.structureFindings_details (length_primaryKeys_madeEntity _), hduplicates]
    split <;> simp

theorem junction_block_reads_back_self : ∃ q e,
    Relationship.ofLine? "Node \x7do--o\x7b Node" = some q ∧ q.isManyToMany = true ∧
      IsName q.fromEntity.toList ∧ IsName q.toEntity.toList ∧
      Diagram.ofText (String.intercalate "\n" (junctionBlock q.junction)) = ⟨[e], []⟩ ∧
      (e.attributes.map fun a => lower a.name).Nodup ∧ e.structureFindings = [] := by
  obtain ⟨q, hq, hmany, hfrom, hto⟩ : ∃ q, Relationship.ofLine? "Node \x7do--o\x7b Node" = some q ∧
      q.isManyToMany = true ∧ q.fromEntity = "Node" ∧ q.toEntity = "Node" := by
    exact ⟨_, rfl, by decide, by decide, by decide⟩
  have hname : IsName "Node".toList := isName_of_ascii (by decide) (forall_mem_of_all (by decide))
  rw [← hfrom] at hname
  obtain ⟨e, he, -, -, hdistinct, -, hstructure⟩ :=
    junction_block_reads_back hname (hto.trans hfrom.symm ▸ hname)
  have hsame : q.fromEntity = q.toEntity := hfrom.trans hto.symm
  rw [if_pos (Or.inl hsame), List.map_eq_nil_iff] at hstructure
  exact ⟨q, e, hq, hmany, hname, hsame ▸ hname, he, hdistinct.mpr (Or.inl hsame), hstructure⟩

theorem junction_block_repeats_column : ∃ q e,
    Relationship.ofLine? "Node \x7do--o\x7b node" = some q ∧ q.isManyToMany = true ∧
      Diagram.ofText (String.intercalate "\n" (junctionBlock q.junction)) = ⟨[e], []⟩ ∧
      ¬ (e.attributes.map fun a => lower a.name).Nodup ∧ e.structureFindings ≠ [] := by
  obtain ⟨q, hq, hmany, hfrom, hto⟩ : ∃ q, Relationship.ofLine? "Node \x7do--o\x7b node" = some q ∧
      q.isManyToMany = true ∧ q.fromEntity = "Node" ∧ q.toEntity = "node" := by
    exact ⟨_, rfl, by decide, by decide, by decide⟩
  have hnames : IsName q.fromEntity.toList ∧ IsName q.toEntity.toList := by
    rw [hfrom, hto]
    exact ⟨isName_of_ascii (by decide) (forall_mem_of_all (by decide)),
      isName_of_ascii (by decide) (forall_mem_of_all (by decide))⟩
  have hsides : ¬ (q.fromEntity = q.toEntity ∨ lower q.fromEntity ≠ lower q.toEntity) := by
    rw [hfrom, hto]
    decide +kernel
  have hduplicates : (madeEntity q.junction).duplicates ≠ [] := by
    rw [duplicates_madeEntity hnames.1.toIsWord hnames.2.toIsWord]
    exact (if_neg hsides).trans_ne (List.cons_ne_nil _ _)
  refine ⟨q, madeEntity q.junction, hq, hmany,
    ofText_junctionBlock (Relationship.isName_junctionName hnames.1 hnames.2) hnames.1 hnames.2,
    repeated_eq_nil_iff.not.mp hduplicates, fun hnone => ?_⟩
  have hdetails := Entity.structureFindings_details (length_primaryKeys_madeEntity q.junction)
  rw [hnone, if_neg hduplicates] at hdetails
  cases hdetails

end EntityDiagram
