import EntityDiagram.Proofs.Diagram.Reading
import EntityDiagram.Proofs.Finding.Raises
import EntityDiagram.Proofs.Repair.Entities

/-!
Repaired diagrams. What a repair does is stated on diagrams: entities are repaired one by one,
junction entities are added, and relationships that they replace give way to links. The repaired
text of a report is the written text of the repaired diagram. Reading it gives the readable part of
that diagram, which is all of it when no name has a dotted capital I.
-/
namespace EntityDiagram

open Text

def Relationship.junction (q : Relationship) : JunctionFix :=
  ⟨q.junctionName, q.fromEntity, q.toEntity⟩

@[simp]
theorem Relationship.junction_junctionEntity (q : Relationship) :
    q.junction.junctionEntity = q.junctionName := rfl

@[simp]
theorem Relationship.junction_fromEntity (q : Relationship) :
    q.junction.fromEntity = q.fromEntity := rfl

@[simp]
theorem Relationship.junction_toEntity (q : Relationship) : q.junction.toEntity = q.toEntity := rfl

/-- The sides of a relationship determine its junction. -/
theorem Relationship.junction_eq_iff {p q : Relationship} :
    p.junction = q.junction ↔ p.fromEntity = q.fromEntity ∧ p.toEntity = q.toEntity := by
  simp only [junction, JunctionFix.mk.injEq, junctionName]
  refine ⟨fun h => h.2, fun h => ⟨?_, h⟩⟩
  rw [h.1, h.2]

namespace Repair

def keyAttribute : Attribute :=
  Attribute.ofParts ⟨"string".toList, "id".toList, "PK".toList, some "Unique identifier".toList⟩

def madeEntity (fix : JunctionFix) : Entity where
  name := fix.junctionEntity
  displayName := Text.displayName fix.junctionEntity
  attributes :=
    [keyAttribute, referenceAttribute (junctionColumns fix).1 fix.fromEntity,
      referenceAttribute (junctionColumns fix).2 fix.toEntity]

def link (fix : JunctionFix) (side : String) : Relationship :=
  Relationship.ofParts
    ⟨side.toList, "||--o\x7b".toList, fix.junctionEntity.toList, "\"has\"".toList⟩

@[simp]
theorem link_fromEntity (fix : JunctionFix) (side : String) : (link fix side).fromEntity = side :=
  String.ofList_toList

@[simp]
theorem link_toEntity (fix : JunctionFix) (side : String) :
    (link fix side).toEntity = fix.junctionEntity :=
  String.ofList_toList

@[simp]
theorem link_symbols (fix : JunctionFix) (side : String) :
    (link fix side).symbols = "||--o\x7b" :=
  String.ofList_toList

theorem expectedForeignKey_link (fix : JunctionFix) (side : String) :
    (link fix side).expectedForeignKey = lower side ++ "_id" := by
  rw [Relationship.expectedForeignKey, link_fromEntity]
  rfl

theorem isManyToMany_link (fix : JunctionFix) (side : String) :
    (link fix side).isManyToMany = false := by
  have hcardinality : (link fix side).cardinality = Cardinality.ofSymbols "||--o\x7b" :=
    congrArg Cardinality.ofSymbols String.ofList_toList
  rw [Relationship.isManyToMany, hcardinality]
  decide

def repairedEntity (plan : Plan) (e : Entity) : Entity :=
  { e with
    attributes := repairedAttributes e (plan.conflictsOf e.name) (plan.foreignKeysOf e.name) }

end Repair

open Repair

namespace Diagram

def plan (d : Diagram) : Plan := Plan.ofFindings d.findings

def created (d : Diagram) : List JunctionFix :=
  d.plan.junctions.filter fun fix => !d.names.contains fix.junctionEntity

def kept (d : Diagram) : List Relationship :=
  d.relationships.filter fun q => !isReplaced d.plan.junctions q

def repaired (d : Diagram) : Diagram where
  entities := d.entities.map (repairedEntity d.plan) ++ d.created.map madeEntity
  relationships :=
    d.kept ++ d.plan.junctions.flatMap fun fix => [link fix fix.fromEntity, link fix fix.toEntity]

end Diagram

namespace Repair

theorem line_attribute (c : Column) : c.attribute.line = c.line := by
  rw [Column.attribute, Attribute.line_rewritten]
  rfl

theorem lines_repairedEntity (plan : Plan) (e : Entity) :
    (repairedEntity plan e).lines = (entityBlock plan e).lines := by
  have hcolumns (columns : List Column) :
      (columns.map Column.attribute).map Attribute.line = columns.map Column.line := by
    rw [List.map_map]
    exact List.map_congr_left fun c _ => line_attribute c
  have hadded (fixes : List ForeignKeyFix) :
      (fixes.map addedAttribute).map Attribute.line = fixes.map addedLine := by
    rw [List.map_map]
    exact List.map_congr_left fun fix _ => line_referenceAttribute _ _
  simp only [Entity.lines, repairedEntity, repairedAttributes, entityBlock, entityColumns,
    List.map_append, hcolumns, hadded]

theorem lines_madeEntity (fix : JunctionFix) : (madeEntity fix).lines = junctionBlock fix := by
  simp only [Entity.lines, madeEntity, junctionBlock, List.map_cons, List.map_nil,
    line_referenceAttribute]
  rfl

theorem line_link (fix : JunctionFix) (side : String) :
    (link fix side).line =
      Relationship.lineText side "||--o\x7b" fix.junctionEntity (some "has") := by
  have hlabel : Relationship.unquote (trimChars "\"has\"".toList) = "has".toList := by decide
  simp only [Relationship.line, link, Relationship.ofParts, String.ofList_toList, hlabel]
  rfl

end Repair

theorem createdJunctions_ofDiagram (d : Diagram) :
    (Report.ofDiagram d).createdJunctions d.plan = d.created := by
  simp [Report.createdJunctions, Diagram.created, Report.ofDiagram, Diagram.names]

/-- The repaired text of a report is the written text of the repaired diagram. -/
theorem correct_text (d : Diagram) : (Report.ofDiagram d).correct.text = d.repaired.text := by
  have hlines : (Report.ofDiagram d).correctedLines d.plan (d.entities.map (entityBlock d.plan)) =
      d.repaired.lines := by
    have hentities : (d.entities.map (repairedEntity d.plan)).flatMap Entity.lines =
        (d.entities.map (entityBlock d.plan)).flatMap (·.lines) := by
      rw [List.flatMap_map, List.flatMap_map]
      exact List.flatMap_congr fun e _ => lines_repairedEntity d.plan e
    have hmade : (d.created.map madeEntity).flatMap Entity.lines =
        d.created.flatMap junctionBlock := by
      rw [List.flatMap_map]
      exact List.flatMap_congr fun fix _ => lines_madeEntity fix
    have hlinks : (d.plan.junctions.flatMap fun fix =>
        [link fix fix.fromEntity, link fix fix.toEntity]).map (fun q => entityIndent q.line) =
          d.plan.junctions.flatMap junctionLinks := by
      rw [List.map_flatMap]
      refine List.flatMap_congr fun fix _ => ?_
      simp [line_link, junctionLinks]
    simp only [Report.correctedLines, Diagram.lines, Diagram.repaired, createdJunctions_ofDiagram,
      List.flatMap_append, List.map_append, hentities, hmade, hlinks, List.append_assoc,
      List.cons_append]
    rfl
  rw [Report.correct, Diagram.text, ← hlines]
  rfl

namespace Diagram

variable {d : Diagram}

/-- What is read from findings of one kind is what the broken rules of that kind ask for. -/
theorem mem_filterMap_findings_iff {β : Type} {read? : Finding → Option β} {detail : β → Detail}
    (hread : ∀ f b, read? f = some b ↔ f.detail = detail b) {b : β} :
    b ∈ d.findings.filterMap read? ↔ ∃ entity, d.Raises entity (detail b) := by
  rw [List.mem_filterMap]
  constructor
  · intro ⟨f, hf, hb⟩
    exact ⟨f.entity, (hread f b).mp hb ▸ (justifies_of_mem_findings hf).1⟩
  · intro ⟨entity, hraises⟩
    obtain ⟨f, hf, hsubject⟩ := List.mem_map.mp (mem_subjects_of_raises hraises)
    exact ⟨f, hf, (hread f b).mpr (Prod.mk.inj hsubject).2⟩

theorem mem_foreignKeys_iff {fix : ForeignKeyFix} :
    fix ∈ d.plan.foreignKeys ↔ ∃ entity, d.Raises entity (.missingForeignKey fix) := by
  apply mem_filterMap_findings_iff
  intro f fix
  unfold foreignKeyFix?
  split <;> simp_all

theorem mem_junctionFixes_iff {fix : JunctionFix} :
    fix ∈ d.findings.filterMap junctionFix? ↔ ∃ entity, d.Raises entity (.manyToMany fix) := by
  apply mem_filterMap_findings_iff
  intro f fix
  unfold junctionFix?
  split <;> simp_all

theorem mem_conflicts_iff {conflict : String × List String} :
    conflict ∈ d.plan.conflicts ↔
      ∃ e ∈ d.entities, e.nameConflicts ≠ [] ∧ conflict = (e.name, e.nameConflicts.map lower) := by
  simp only [plan, Plan.ofFindings, List.mem_filterMap]
  constructor
  · rintro ⟨f, hf, hconflict⟩
    have hraises := (justifies_of_mem_findings hf).1
    unfold conflict? at hconflict
    split at hconflict
    · next columns entity hdetail hentity =>
      obtain rfl := Option.some.inj hconflict
      rw [hdetail, hentity] at hraises
      cases hraises with
      | @namingConflict e he h => exact ⟨e, he, h, rfl⟩
    · cases hconflict
  · rintro ⟨e, he, hne, rfl⟩
    obtain ⟨f, hf, hsubject⟩ :=
      List.mem_map.mp (mem_subjects_of_raises (Raises.namingConflict he hne))
    obtain ⟨hentity, hdetail⟩ := Prod.mk.inj hsubject
    exact ⟨f, hf, by simp [conflict?, hentity, hdetail]⟩

/-- Declared entities with one name are the same. -/
theorem Faithful.entity_unique (h : d.Faithful) {e f : Entity} (he : e ∈ d.entities)
    (hf : f ∈ d.entities) (hname : e.name = f.name) : e = f :=
  List.inj_on_of_nodup_map h.nodup he hf hname

theorem mem_conflictsOf_iff (h : d.Faithful) {e : Entity} (he : e ∈ d.entities) {column : String} :
    column ∈ d.plan.conflictsOf e.name ↔ column ∈ e.nameConflicts.map lower := by
  have hname : e.name ≠ "" := by
    intro hempty
    have hne := (h.entities e he).name.ne_nil
    rw [hempty] at hne
    exact hne rfl
  rw [Plan.conflictsOf, if_neg hname, List.mem_flatMap]
  constructor
  · rintro ⟨conflict, hconflict, hcolumn⟩
    obtain ⟨hmem, hentity⟩ := List.mem_filter.mp hconflict
    obtain ⟨f, hf, -, rfl⟩ := mem_conflicts_iff.mp hmem
    obtain rfl : f = e := h.entity_unique hf he (by simpa using hentity)
    exact hcolumn
  · intro hcolumn
    have hne : e.nameConflicts ≠ [] := by
      intro hnil
      simp [hnil] at hcolumn
    exact ⟨_, List.mem_filter.mpr ⟨mem_conflicts_iff.mpr ⟨e, he, hne, rfl⟩, by simp⟩, hcolumn⟩

theorem isConflicting_conflictsOf (h : d.Faithful) {e : Entity} (he : e ∈ d.entities)
    {a : Attribute} (ha : a ∈ e.attributes) :
    isConflicting (d.plan.conflictsOf e.name) a = isNameConflict a := by
  rw [Bool.eq_iff_iff]
  simp only [isConflicting, isNameConflict, Bool.and_eq_true, List.contains_iff_mem,
    mem_conflictsOf_iff h he, decide_eq_true_eq]
  refine and_congr_right fun hkey => ?_
  simp only [Entity.nameConflicts, List.map_map, List.mem_map, List.mem_filter,
    Function.comp_apply, Bool.and_eq_true, decide_eq_true_eq]
  constructor
  · rintro ⟨b, ⟨-, hb, -⟩, hlower⟩
    exact hlower.symm.trans hb
  · intro hlower
    exact ⟨a, ⟨ha, hlower, hkey⟩, rfl⟩

/-- A missing foreign key is that of a relationship between declared entities. -/
theorem exists_of_mem_foreignKeysOf {e : Entity} {fix : ForeignKeyFix}
    (h : fix ∈ d.plan.foreignKeysOf e.name) :
    ∃ q ∈ d.relationships, q.isManyToMany = false ∧ q.fromEntity ∈ d.names ∧
      q.toEntity = e.name ∧ fix = ⟨e.name, q.expectedForeignKey, q.fromEntity⟩ := by
  obtain ⟨hmem, hentity⟩ := List.mem_filter.mp (mem_of_mem_firstSeen h)
  obtain ⟨entity, hraises⟩ := mem_foreignKeys_iff.mp hmem
  cases hraises with
  | @missingForeignKey q target hq hmany hsource htarget hmissing =>
    have hname : target.name = e.name := by simpa using hentity
    have hto := (Entity.mem_of_named? htarget).2
    exact ⟨q, hq, hmany, hsource, hto.symm.trans hname, by rw [hname]⟩

/-- The plan of a diagram fits each of its entities. -/
theorem Faithful.fits (h : d.Faithful) {e : Entity} (he : e ∈ d.entities) :
    Fits (d.plan.conflictsOf e.name) (d.plan.foreignKeysOf e.name) e where
  conflicting _ ha := isConflicting_conflictsOf h he ha
  derived fix hfix := by
    obtain ⟨q, hq, -, -, -, rfl⟩ := exists_of_mem_foreignKeysOf hfix
    exact derivedFrom_expectedForeignKey (h.relationships q hq).fromEntity
  referenced fix hfix := by
    obtain ⟨q, hq, -, -, -, rfl⟩ := exists_of_mem_foreignKeysOf hfix
    exact (h.relationships q hq).fromEntity
  nodup := nodup_map_firstSeen _

/-- A junction that is asked for is that of a many-to-many relationship. -/
theorem exists_of_mem_junctions {fix : JunctionFix} (h : fix ∈ d.plan.junctions) :
    ∃ q ∈ d.relationships, q.isManyToMany = true ∧ fix = q.junction := by
  obtain ⟨entity, hraises⟩ := mem_junctionFixes_iff.mp (mem_of_mem_firstSeen h)
  cases hraises with
  | @manyToMany q hq hmany => exact ⟨q, hq, hmany, rfl⟩

/-- A relationship is replaced when its own junction is asked for. -/
theorem isReplaced_iff {q : Relationship} :
    isReplaced d.plan.junctions q = true ↔
      q.isManyToMany = true ∧ q.junction ∈ d.plan.junctions := by
  simp only [isReplaced, Bool.and_eq_true, List.any_eq_true, decide_eq_true_eq]
  refine and_congr_right fun _ => ⟨?_, fun hmem => ⟨_, hmem, rfl, rfl⟩⟩
  rintro ⟨fix, hfix, hsides⟩
  obtain ⟨p, -, -, rfl⟩ := exists_of_mem_junctions hfix
  exact Relationship.junction_eq_iff.mpr hsides ▸ hfix

theorem Written.fits (h : d.Written) {e : Entity} (he : e ∈ d.entities) :
    Fits (d.plan.conflictsOf e.name) (d.plan.foreignKeysOf e.name) e :=
  h.faithful.fits he

/-- The parts of a junction are words. -/
theorem Faithful.junction_words (h : d.Faithful) {fix : JunctionFix}
    (hfix : fix ∈ d.plan.junctions) :
    IsWord fix.junctionEntity.toList ∧ IsWord fix.fromEntity.toList ∧
      IsWord fix.toEntity.toList := by
  obtain ⟨q, hq, -, rfl⟩ := exists_of_mem_junctions hfix
  have hfaithful := h.relationships q hq
  refine ⟨?_, hfaithful.fromEntity, hfaithful.toEntity⟩
  rw [Relationship.junction, Relationship.junctionName, String.toList_append]
  exact hfaithful.fromEntity.append hfaithful.toEntity.chars

/-- The parts of a junction are names. -/
theorem Written.junction_names (h : d.Written) {fix : JunctionFix} (hfix : fix ∈ d.plan.junctions) :
    IsName fix.junctionEntity.toList ∧ IsName fix.fromEntity.toList ∧
      IsName fix.toEntity.toList := by
  obtain ⟨q, hq, -, rfl⟩ := exists_of_mem_junctions hfix
  have hwritten := h.relationships q hq
  refine ⟨?_, hwritten.fromEntity, hwritten.toEntity⟩
  rw [Relationship.junction, Relationship.junctionName, String.toList_append]
  exact hwritten.fromEntity.append hwritten.toEntity

end Diagram

namespace Repair

theorem derivedFrom_junctionColumns {fix : JunctionFix} (hfrom : IsWord fix.fromEntity.toList)
    (hto : IsWord fix.toEntity.toList) :
    DerivedFrom fix.fromEntity (junctionColumns fix).1 ∧
      DerivedFrom fix.toEntity (junctionColumns fix).2 := by
  refine ⟨derivedFrom_key hfrom, ?_⟩
  unfold junctionColumns
  dsimp only
  split
  · exact derivedFrom_related hto
  · exact derivedFrom_key hto

theorem written_keyAttribute : keyAttribute.Written := by
  apply Attribute.written_ofParts
  apply Attribute.Parts.Written.plain
  · exact ⟨by decide, forall_mem_of_all (by decide)⟩
  · exact ⟨by decide, forall_mem_of_all (by decide)⟩
  · exact ⟨'i', by decide, by decide⟩
  · exact ⟨by decide, forall_mem_of_all (by decide)⟩
  · exact forall_mem_of_all (by decide)

theorem written_madeEntity {fix : JunctionFix} (hjunction : IsName fix.junctionEntity.toList)
    (hfrom : IsName fix.fromEntity.toList) (hto : IsName fix.toEntity.toList) :
    (madeEntity fix).Written := by
  obtain ⟨hfirst, hsecond⟩ := derivedFrom_junctionColumns hfrom.toIsWord hto.toIsWord
  refine ⟨hjunction, rfl, ?_⟩
  intro a ha
  simp only [madeEntity, List.mem_cons, List.not_mem_nil, or_false] at ha
  rcases ha with rfl | rfl | rfl
  · exact written_keyAttribute
  · exact written_referenceAttribute (hfirst.isWord hfrom) hfirst.exists_not_isSymbol
      fun c hc => isDelimiter_of_isWordChar (hfrom.chars c hc)
  · exact written_referenceAttribute (hsecond.isWord hto) hsecond.exists_not_isSymbol
      fun c hc => isDelimiter_of_isWordChar (hto.chars c hc)

theorem printable_madeEntity {fix : JunctionFix} (hjunction : IsWord fix.junctionEntity.toList)
    (hfrom : IsWord fix.fromEntity.toList) (hto : IsWord fix.toEntity.toList) :
    (madeEntity fix).Printable := by
  obtain ⟨hfirst, hsecond⟩ := derivedFrom_junctionColumns hfrom hto
  refine ⟨hjunction, rfl, ?_⟩
  intro a ha
  simp only [madeEntity, List.mem_cons, List.not_mem_nil, or_false] at ha
  rcases ha with rfl | rfl | rfl
  · exact written_keyAttribute.printable
  · exact printable_referenceAttribute hfirst
      fun c hc => isDelimiter_of_isWordChar (hfrom.chars c hc)
  · exact printable_referenceAttribute hsecond
      fun c hc => isDelimiter_of_isWordChar (hto.chars c hc)

theorem faithful_link {fix : JunctionFix} {side : String}
    (hjunction : IsWord fix.junctionEntity.toList) (hside : IsWord side.toList) :
    (link fix side).Faithful := by
  have hsymbols : Relationship.IsSymbols "||--o\x7b".toList :=
    ⟨by decide, forall_mem_of_all (by decide)⟩
  have hlabel : '\n' ∉ "\"has\"".toList := by decide
  exact Relationship.faithful_ofParts hside hsymbols hjunction hlabel

theorem written_link {fix : JunctionFix} {side : String}
    (hjunction : IsName fix.junctionEntity.toList) (hside : IsName side.toList) :
    (link fix side).Written := by
  apply (faithful_link hjunction.toIsWord hside.toIsWord).written
  · rw [link_fromEntity]
    exact hside.undotted
  · rw [link_toEntity]
    exact hjunction.undotted

end Repair

namespace Diagram

variable {d : Diagram}

theorem names_repaired (d : Diagram) :
    d.repaired.names = d.names ++ d.created.map (·.junctionEntity) := by
  simp only [names, repaired, List.map_append, List.map_map]
  rfl

@[simp]
theorem names_readable (d : Diagram) : d.readable.names = d.names := by
  rw [names, readable, List.map_map]
  rfl

theorem mem_names_repaired {name : String} (h : name ∈ d.names) : name ∈ d.repaired.names := by
  rw [names_repaired]
  exact List.mem_append_left _ h

theorem junctionEntity_mem_names {fix : JunctionFix} (h : fix ∈ d.plan.junctions) :
    fix.junctionEntity ∈ d.repaired.names := by
  by_cases hdeclared : fix.junctionEntity ∈ d.names
  · exact mem_names_repaired hdeclared
  · rw [names_repaired]
    refine List.mem_append_right _ (List.mem_map_of_mem (List.mem_filter.mpr ⟨h, ?_⟩))
    simpa using hdeclared

theorem nodup_names_repaired (h : d.Faithful) : d.repaired.names.Nodup := by
  rw [names_repaired, List.nodup_append]
  refine ⟨h.nodup, (nodup_map_firstSeen _).sublist (List.filter_sublist.map _), ?_⟩
  rintro name hname _ hcreated rfl
  obtain ⟨fix, hfix, rfl⟩ := List.mem_map.mp hcreated
  simpa [hname] using (List.mem_filter.mp hfix).2

/-- The relationships of a repaired diagram are those that it keeps and links of junctions. -/
theorem mem_relationships_repaired {q : Relationship} (h : q ∈ d.repaired.relationships) :
    (q ∈ d.relationships ∧ isReplaced d.plan.junctions q = false) ∨
      ∃ fix ∈ d.plan.junctions, ∃ side, (side = fix.fromEntity ∨ side = fix.toEntity) ∧
        q = link fix side := by
  rcases List.mem_append.mp h with hkept | hlink
  · obtain ⟨hq, hreplaced⟩ := List.mem_filter.mp hkept
    exact Or.inl ⟨hq, by simpa using hreplaced⟩
  · obtain ⟨fix, hfix, hq⟩ := List.mem_flatMap.mp hlink
    simp only [List.mem_cons, List.not_mem_nil, or_false] at hq
    rcases hq with rfl | rfl
    · exact Or.inr ⟨fix, hfix, _, Or.inl rfl, rfl⟩
    · exact Or.inr ⟨fix, hfix, _, Or.inr rfl, rfl⟩

/-- The lines of a repaired diagram keep their places. -/
theorem Faithful.printable_repaired (h : d.Faithful) : d.repaired.Printable where
  nodup := nodup_names_repaired h
  entities e he := by
    rcases List.mem_append.mp he with he | he
    · obtain ⟨f, hf, rfl⟩ := List.mem_map.mp he
      have hfaithful := h.entities f hf
      exact ⟨hfaithful.name, hfaithful.displayName_eq,
        printable_repairedAttributes (h.fits hf) hfaithful⟩
    · obtain ⟨fix, hfix, rfl⟩ := List.mem_map.mp he
      obtain ⟨hjunction, hfrom, hto⟩ := h.junction_words (List.mem_filter.mp hfix).1
      exact printable_madeEntity hjunction hfrom hto
  relationships q hq := by
    rcases mem_relationships_repaired hq with ⟨hq, -⟩ | ⟨fix, hfix, side, hside, rfl⟩
    · exact h.relationships q hq
    · obtain ⟨hjunction, hfrom, hto⟩ := h.junction_words hfix
      rcases hside with rfl | rfl
      · exact faithful_link hjunction hfrom
      · exact faithful_link hjunction hto

/-- An entity of a repaired diagram is found by its name among those that are read again. -/
theorem named?_readable_repaired (h : d.Faithful) {e : Entity} (he : e ∈ d.repaired.entities) :
    Entity.named? e.name d.repaired.readable.entities = some e.readable := by
  have hnodup : d.repaired.readable.names.Nodup := by
    rw [names_readable]
    exact nodup_names_repaired h
  exact Entity.named?_of_mem hnodup (List.mem_map_of_mem he)

/-- A repaired diagram is what its text says when no name has a dotted capital I. -/
theorem Written.repaired (h : d.Written) : d.repaired.Written where
  nodup := nodup_names_repaired h.faithful
  entities e he := by
    rcases List.mem_append.mp he with he | he
    · obtain ⟨f, hf, rfl⟩ := List.mem_map.mp he
      have hwritten := h.entities f hf
      refine ⟨hwritten.name, hwritten.displayName_eq,
        written_repairedAttributes (h.fits hf) hwritten fun fix hfix => ?_⟩
      obtain ⟨q, hq, -, -, -, rfl⟩ := exists_of_mem_foreignKeysOf hfix
      exact (h.relationships q hq).fromEntity
    · obtain ⟨fix, hfix, rfl⟩ := List.mem_map.mp he
      obtain ⟨hjunction, hfrom, hto⟩ := h.junction_names (List.mem_filter.mp hfix).1
      exact written_madeEntity hjunction hfrom hto
  relationships q hq := by
    rcases mem_relationships_repaired hq with ⟨hq, -⟩ | ⟨fix, hfix, side, hside, rfl⟩
    · exact h.relationships q hq
    · obtain ⟨hjunction, hfrom, hto⟩ := h.junction_names hfix
      rcases hside with rfl | rfl
      · exact written_link hjunction hfrom
      · exact written_link hjunction hto

/-- Reading the repaired text of a report gives what can be read of the repaired diagram. -/
theorem ofText_correct_readable (text : String) :
    ofText (Report.ofText text).correct.text = (ofText text).repaired.readable := by
  rw [Report.ofText, correct_text,
    ofText_text_of_printable (faithful_ofText text).printable_repaired]

/-- Reading the repaired text of a report gives the repaired diagram when no name has a dotted
capital I. -/
theorem ofText_correct {text : String} (h : (ofText text).Written) :
    ofText (Report.ofText text).correct.text = (ofText text).repaired := by
  rw [ofText_correct_readable, h.repaired.faithful.readable_eq]

end Diagram

end EntityDiagram
