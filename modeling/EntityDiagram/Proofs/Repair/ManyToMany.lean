import EntityDiagram.Proofs.Finding.Validity
import EntityDiagram.Proofs.Repair.Resolved

/-!
Many-to-many relationships after a repair. A repair makes one junction for each name, that of the
first many-to-many relationship with it, and replaces the relationships between the sides of that
one. The name of a junction is made of the names of its sides, so relationships between other sides
may have the same one. These stay as they are, and nothing else does: no many-to-many relationship
is left exactly when the name of a junction tells which entities it joins.
-/
namespace EntityDiagram

open Text Repair

namespace Report

def firstJoined? (r : Report) (junction : String) : Option Relationship :=
  r.relationships.find? fun p => p.isManyToMany && p.junctionName = junction

/-- The junction with the name that the relationship asks for joins other entities. -/
def isCrowdedOut (r : Report) (q : Relationship) : Bool :=
  (r.firstJoined? q.junctionName).any fun p =>
    p.fromEntity ≠ q.fromEntity || p.toEntity ≠ q.toEntity

def JunctionNamesApart (r : Report) : Prop :=
  ∀ q ∈ r.relationships, ∀ q' ∈ r.relationships, q.isManyToMany = true → q'.isManyToMany = true →
    q.fromEntity ++ q.toEntity = q'.fromEntity ++ q'.toEntity →
    q.fromEntity = q'.fromEntity ∧ q.toEntity = q'.toEntity

end Report

namespace Diagram

variable {d : Diagram} {q : Relationship}

/-- The only junction that the findings about a relationship ask for is its own. -/
theorem filterMap_junctionFix?_findings (q : Relationship) (entities : List Entity) :
    (q.findings entities).filterMap junctionFix? =
      if q.isManyToMany then [q.junction] else [] := by
  have hside (side : String) (entity : Option Entity) :
      (q.sideFindings side entity).filterMap junctionFix? = [] := by
    cases entity <;> rfl
  have hself : q.selfFindings.filterMap junctionFix? = [] := by
    unfold Relationship.selfFindings
    split <;> rfl
  have hkey (source target : Option Entity) :
      (q.foreignKeyFindings source target).filterMap junctionFix? = [] := by
    unfold Relationship.foreignKeyFindings
    split
    · split <;> rfl
    · rfl
  have hmany : q.manyToManyFindings.filterMap junctionFix? =
      if q.isManyToMany then [q.junction] else [] := by
    unfold Relationship.manyToManyFindings
    split <;> rfl
  simp only [Relationship.findings, List.filterMap_append, hside, hself, hkey, hmany,
    List.nil_append, List.append_nil]

/-- Findings about the structure and the names of an entity ask for no junction. -/
theorem filterMap_junctionFix?_entity (e : Entity) :
    e.structureFindings.filterMap junctionFix? = [] ∧
      e.namingFindings.filterMap junctionFix? = [] := by
  have hkeys : e.keyFindings.filterMap junctionFix? = [] := by
    unfold Entity.keyFindings
    split <;> rfl
  have hduplicates : e.duplicateFindings.filterMap junctionFix? = [] := by
    unfold Entity.duplicateFindings
    dsimp only
    split <;> rfl
  have hempty : e.emptyFindings.filterMap junctionFix? = [] := by
    unfold Entity.emptyFindings
    split <;> rfl
  have hnames : e.nameFindings.filterMap junctionFix? = [] := by
    unfold Entity.nameFindings
    split <;> rfl
  have hsystem : e.systemFindings.filterMap junctionFix? = [] := by
    unfold Entity.systemFindings
    split <;> rfl
  constructor
  · simp [Entity.structureFindings, hkeys, hduplicates, hempty]
  · simp [Entity.namingFindings, hnames, hsystem]

/-- The findings ask for the junctions of the many-to-many relationships, in their order. -/
theorem junctionFixes_eq (d : Diagram) :
    d.findings.filterMap junctionFix? =
      (d.relationships.filter (·.isManyToMany)).map Relationship.junction := by
  have hstructure : (d.entities.flatMap Entity.structureFindings).filterMap junctionFix? = [] := by
    rw [List.filterMap_flatMap, List.flatMap_eq_nil_iff]
    exact fun e _ => (filterMap_junctionFix?_entity e).1
  have hnaming : (d.entities.flatMap Entity.namingFindings).filterMap junctionFix? = [] := by
    rw [List.filterMap_flatMap, List.flatMap_eq_nil_iff]
    exact fun e _ => (filterMap_junctionFix?_entity e).2
  have hplatform (matched : List Platform.Match) :
      (matched.map Platform.Match.finding).filterMap junctionFix? = [] := by
    rw [List.filterMap_map, List.filterMap_eq_nil_iff]
    exact fun m _ => rfl
  have hlinks (relationships : List Relationship) :
      (relationships.flatMap (·.findings d.entities)).filterMap junctionFix? =
        (relationships.filter (·.isManyToMany)).map Relationship.junction := by
    induction relationships with
    | nil => rfl
    | cons q rest ih =>
      rw [List.flatMap_cons, List.filterMap_append, ih, filterMap_junctionFix?_findings]
      cases hmany : q.isManyToMany <;> simp [hmany]
  rw [findings, List.filterMap_append, List.filterMap_append, List.filterMap_append, hstructure,
    hnaming, hplatform, hlinks, List.append_nil, List.nil_append, List.nil_append]

/-- A relationship is replaced when the first junction with the name it asks for has its sides. -/
theorem isReplaced_iff_firstJoined (hmany : q.isManyToMany = true) :
    isReplaced d.plan.junctions q = true ↔
      ∃ p, (Report.ofDiagram d).firstJoined? q.junctionName = some p ∧
        p.fromEntity = q.fromEntity ∧ p.toEntity = q.toEntity := by
  have hplan : d.plan.junctions = firstSeen (·.junctionEntity)
      ((d.relationships.filter (·.isManyToMany)).map Relationship.junction) := by
    rw [← junctionFixes_eq]
    rfl
  have hfirst : q.junction ∈ d.plan.junctions ↔
      ((Report.ofDiagram d).firstJoined? q.junctionName).map Relationship.junction =
        some q.junction := by
    rw [hplan, mem_firstSeen_iff, List.find?_map, List.find?_filter]
    simp [Report.firstJoined?, Report.ofDiagram]
  simp only [isReplaced_iff, hmany, true_and, hfirst, Option.map_eq_some_iff,
    Relationship.junction_eq_iff]

/-- Some relationship comes first among those whose junctions have the name of a given one. -/
theorem exists_firstJoined (hq : q ∈ d.relationships) (hmany : q.isManyToMany = true) :
    ∃ p ∈ d.relationships, (Report.ofDiagram d).firstJoined? q.junctionName = some p ∧
      p.isManyToMany = true ∧ p.junctionName = q.junctionName := by
  have hfound : ((Report.ofDiagram d).firstJoined? q.junctionName).isSome = true :=
    List.find?_isSome.mpr ⟨q, hq, by simp [hmany]⟩
  obtain ⟨p, hp⟩ := Option.isSome_iff_exists.mp hfound
  have hfacts := List.find?_some hp
  simp only [Bool.and_eq_true, decide_eq_true_eq] at hfacts
  exact ⟨p, List.mem_of_find?_eq_some hp, hp, hfacts⟩

theorem isCrowdedOut_iff (hq : q ∈ d.relationships) (hmany : q.isManyToMany = true) :
    (Report.ofDiagram d).isCrowdedOut q = true ↔ isReplaced d.plan.junctions q = false := by
  obtain ⟨p, -, hp, -⟩ := exists_firstJoined hq hmany
  rw [← Bool.not_eq_true, isReplaced_iff_firstJoined hmany, Report.isCrowdedOut, hp]
  simp [or_iff_not_imp_left]

theorem isReplaced_of_not_isCrowdedOut (hq : q ∈ d.relationships) (hmany : q.isManyToMany = true)
    (h : (Report.ofDiagram d).isCrowdedOut q = false) : isReplaced d.plan.junctions q = true := by
  rw [← Bool.not_eq_false, ← isCrowdedOut_iff hq hmany, h]
  exact Bool.false_ne_true

/-- The many-to-many relationships of a repaired diagram are those that a repair keeps. -/
theorem filter_isManyToMany_repaired (d : Diagram) :
    d.repaired.relationships.filter (·.isManyToMany) =
      d.relationships.filter fun q => q.isManyToMany && (Report.ofDiagram d).isCrowdedOut q := by
  have hlinks : (d.plan.junctions.flatMap fun fix =>
      [link fix fix.fromEntity, link fix fix.toEntity]).filter (·.isManyToMany) = [] := by
    rw [List.filter_eq_nil_iff]
    intro q hq
    obtain ⟨fix, -, hq⟩ := List.mem_flatMap.mp hq
    simp only [List.mem_cons, List.not_mem_nil, or_false] at hq
    rcases hq with rfl | rfl <;> simp [isManyToMany_link]
  rw [repaired, List.filter_append, hlinks, List.append_nil, kept, List.filter_filter]
  refine List.filter_congr fun q hq => ?_
  cases hmany : q.isManyToMany with
  | false => rfl
  | true =>
    rw [Bool.true_and, Bool.true_and, Bool.eq_iff_iff, isCrowdedOut_iff hq hmany,
      Bool.not_eq_true']

/-- A diagram has a finding about a many-to-many relationship exactly when it has one. -/
theorem exists_rule_manyToMany_iff :
    (∃ f ∈ d.findings, f.rule = .manyToMany) ↔ ∃ q ∈ d.relationships, q.isManyToMany = true := by
  rw [exists_rule_iff]
  constructor
  · rintro ⟨entity, detail, hraises, hrule⟩
    exact hraises.exists_isManyToMany hrule
  · rintro ⟨q, hq, hmany⟩
    exact ⟨_, _, .manyToMany hq hmany, rfl⟩

/-- Nothing is crowded out exactly when the names of junctions tell them apart. -/
theorem forall_not_isCrowdedOut_iff :
    (∀ q ∈ d.relationships, q.isManyToMany = true →
        (Report.ofDiagram d).isCrowdedOut q = false) ↔
      (Report.ofDiagram d).JunctionNamesApart := by
  constructor
  · intro h q hq q' hq' hmany hmany' hname
    -- both have the sides of the first relationship with their name
    have hsides (p : Relationship) (hp : p ∈ d.relationships) (hmany : p.isManyToMany = true) :
        ∃ first, (Report.ofDiagram d).firstJoined? p.junctionName = some first ∧
          first.fromEntity = p.fromEntity ∧ first.toEntity = p.toEntity := by
      rw [← isReplaced_iff_firstJoined hmany]
      exact isReplaced_of_not_isCrowdedOut hp hmany (h p hp hmany)
    obtain ⟨first, hfirst, hfrom, hto⟩ := hsides q hq hmany
    obtain ⟨first', hfirst', hfrom', hto'⟩ := hsides q' hq' hmany'
    have hjunction : q.junctionName = q'.junctionName := hname
    rw [hjunction, hfirst'] at hfirst
    obtain rfl := Option.some.inj hfirst
    exact ⟨hfrom.symm.trans hfrom', hto.symm.trans hto'⟩
  · intro h q hq hmany
    rw [← Bool.not_eq_true, isCrowdedOut_iff hq hmany, Bool.not_eq_false,
      isReplaced_iff_firstJoined hmany]
    obtain ⟨p, hmem, hp, hmany', hname⟩ := exists_firstJoined hq hmany
    exact ⟨p, hp, h p hmem q hq hmany' hmany hname⟩

/-- No many-to-many relationship is left exactly when the names of junctions tell them apart. -/
theorem forall_isManyToMany_repaired_iff :
    (∀ q ∈ d.repaired.relationships, q.isManyToMany = false) ↔
      (Report.ofDiagram d).JunctionNamesApart := by
  have hnone : (∀ q ∈ d.repaired.relationships, q.isManyToMany = false) ↔
      d.repaired.relationships.filter (·.isManyToMany) = [] := by
    simp [List.filter_eq_nil_iff]
  rw [hnone, filter_isManyToMany_repaired, List.filter_eq_nil_iff, ← forall_not_isCrowdedOut_iff]
  simp

end Diagram

/-- The many-to-many relationships that a repair leaves, on every text, are those for which an
earlier one between other entities asks for a junction with the same name. So the repaired text has
no many-to-many relationship, and no finding about one, exactly when the name of a junction tells
which entities it joins. -/
theorem correct_leaves_crowded_out (text : String) :
    (Report.ofText text).corrected.relationships.filter (·.isManyToMany) =
        (Report.ofText text).relationships.filter
          (fun q => q.isManyToMany && (Report.ofText text).isCrowdedOut q) ∧
      ((∀ q ∈ (Report.ofText text).corrected.relationships, q.isManyToMany = false) ↔
        (Report.ofText text).JunctionNamesApart) ∧
      ((∀ f ∈ (Report.ofText text).corrected.findings, f.rule ≠ .manyToMany) ↔
        (Report.ofText text).JunctionNamesApart) := by
  have hnone := @Diagram.forall_isManyToMany_repaired_iff (Diagram.ofText text)
  have hfindings := @Diagram.exists_rule_manyToMany_iff (Diagram.ofText text).repaired.readable
  rw [Report.corrected_relationships, Report.corrected_findings]
  refine ⟨Diagram.filter_isManyToMany_repaired _, hnone, Iff.trans ?_ hnone⟩
  simpa using not_congr hfindings

/-- Two many-to-many relationships between different entities whose junctions have one name. -/
def crowdedText : String :=
  "A \x7b\n int id PK\n\x7d\nBC \x7b\n int id PK\n\x7d\nAB \x7b\n int id PK\n\x7d\n"
    ++ "C \x7b\n int id PK\n\x7d\nA \x7do--o\x7b BC\nAB \x7do--o\x7b C"

theorem correct_keeps_second_manyToMany :
    (∃ q ∈ (Report.ofText crowdedText).corrected.relationships,
        q.fromEntity = "AB" ∧ q.toEntity = "C" ∧ q.isManyToMany = true) ∧
      ∃ f ∈ (Report.ofText crowdedText).corrected.findings, f.rule = .manyToMany := by
  have hcrowded : ∃ q ∈ (Diagram.ofText crowdedText).relationships.filter
      (fun q => q.isManyToMany && (Report.ofText crowdedText).isCrowdedOut q),
        q.fromEntity = "AB" ∧ q.toEntity = "C" := by decide +kernel
  obtain ⟨q, hq, hfrom, hto⟩ := hcrowded
  rw [Report.ofText, ← Diagram.filter_isManyToMany_repaired] at hq
  obtain ⟨hmem, hmany⟩ := List.mem_filter.mp hq
  rw [Report.corrected_relationships, Report.corrected_findings]
  refine ⟨⟨q, hmem, hfrom, hto, hmany⟩, Diagram.exists_rule_manyToMany_iff.mpr ?_⟩
  rw [Diagram.readable_relationships]
  exact ⟨q, hmem, hmany⟩

end EntityDiagram
