import EntityDiagram.Proofs.Finding.Raises

/-!
Categories of findings. Every finding has the severity and the category of its rule. Findings about
the structure and the names of entities, about relationships and about the platform have a category
each, so those about the platform are told from all others by their rule, by their category and by
their severity, and there are as many of them as entities that the platform offers.
-/
namespace EntityDiagram

/-- Only the rule about the platform informs, and only it has that category. -/
theorem Rule.severity_eq_info_iff {rule : Rule} :
    rule.severity = .info ↔ rule.category = .platform := by
  cases rule <;> decide

theorem Rule.category_eq_platform_iff {rule : Rule} :
    rule.category = .platform ↔ rule = .platformEntity := by
  cases rule <;> decide

namespace Finding

structure BelongsTo (f : Finding) (category : Category) : Prop where
  severity : f.severity = f.rule.severity
  rule_category : f.rule.category = f.category
  category : f.category = category

variable {f : Finding} {category : Category} {detail : Detail} {entity relationship : Option String}
  {message suggestion : String}

theorem belongsTo_of_mem (h : f ∈ [ofDetail detail entity relationship message suggestion]) :
    f.BelongsTo detail.rule.category := by
  obtain rfl := List.mem_singleton.mp h
  exact ⟨rfl, rfl, rfl⟩

theorem BelongsTo.severity_eq_info_iff (h : f.BelongsTo category) :
    f.severity = .info ↔ category = .platform := by
  rw [h.severity, Rule.severity_eq_info_iff, h.rule_category, h.category]

theorem BelongsTo.rule_eq_platformEntity_iff (h : f.BelongsTo category) :
    f.rule = .platformEntity ↔ category = .platform := by
  rw [← Rule.category_eq_platform_iff, h.rule_category, h.category]

end Finding

open Finding

theorem Entity.belongsTo_structureFindings {e : Entity} {f : Finding}
    (h : f ∈ e.structureFindings) : f.BelongsTo .structural := by
  simp only [structureFindings, List.mem_append] at h
  rcases h with (h | h) | h
  · unfold keyFindings at h
    split at h
    · exact belongsTo_of_mem h
    · cases h
    · exact belongsTo_of_mem h
  · simp only [duplicateFindings] at h
    split at h
    · cases h
    · exact belongsTo_of_mem h
  · simp only [emptyFindings] at h
    split at h
    · exact belongsTo_of_mem h
    · cases h

theorem Entity.belongsTo_namingFindings {e : Entity} {f : Finding} (h : f ∈ e.namingFindings) :
    f.BelongsTo .naming := by
  rcases List.mem_append.mp h with h | h
  · simp only [nameFindings] at h
    split at h
    · cases h
    · exact belongsTo_of_mem h
  · simp only [systemFindings] at h
    split at h
    · cases h
    · exact belongsTo_of_mem h

theorem Relationship.belongsTo_sideFindings {q : Relationship} {side : String}
    {entity : Option Entity} {f : Finding} (h : f ∈ q.sideFindings side entity) :
    f.BelongsTo .relationships := by
  unfold sideFindings at h
  split at h
  · cases h
  · exact belongsTo_of_mem h

theorem Relationship.belongsTo_foreignKeyFindings {q : Relationship}
    {source target : Option Entity} {f : Finding} (h : f ∈ q.foreignKeyFindings source target) :
    f.BelongsTo .relationships := by
  simp only [foreignKeyFindings] at h
  split at h
  · split at h
    · cases h
    · exact belongsTo_of_mem h
  · cases h

theorem Relationship.belongsTo_findings {q : Relationship} {entities : List Entity} {f : Finding}
    (h : f ∈ q.findings entities) : f.BelongsTo .relationships := by
  simp only [findings, List.mem_append] at h
  rcases h with (((h | h) | h) | h) | h
  · exact belongsTo_sideFindings h
  · exact belongsTo_sideFindings h
  · simp only [manyToManyFindings] at h
    split at h
    · exact belongsTo_of_mem h
    · cases h
  · simp only [selfFindings] at h
    split at h
    · exact belongsTo_of_mem h
    · cases h
  · exact belongsTo_foreignKeyFindings h

theorem Platform.Match.belongsTo_finding (m : Match) : m.finding.BelongsTo .platform :=
  ⟨rfl, rfl, rfl⟩

namespace Diagram

variable {d : Diagram} {f : Finding}

def modelFindings (d : Diagram) : List Finding :=
  d.entities.flatMap Entity.structureFindings
    ++ d.entities.flatMap Entity.namingFindings
    ++ d.relationships.flatMap (·.findings d.entities)

theorem findings_eq (d : Diagram) :
    d.findings = d.modelFindings ++ (Platform.detect d.entities).found.map Platform.Match.finding :=
  rfl

theorem exists_category_of_mem_modelFindings (h : f ∈ d.modelFindings) :
    ∃ category ≠ .platform, f.BelongsTo category := by
  simp only [modelFindings, List.mem_append, List.mem_flatMap] at h
  rcases h with (⟨e, -, h⟩ | ⟨e, -, h⟩) | ⟨q, -, h⟩
  · exact ⟨.structural, by decide, Entity.belongsTo_structureFindings h⟩
  · exact ⟨.naming, by decide, Entity.belongsTo_namingFindings h⟩
  · exact ⟨.relationships, by decide, Relationship.belongsTo_findings h⟩

/-- Every finding has the severity and the category of its rule. -/
theorem exists_category_of_mem_findings (h : f ∈ d.findings) :
    ∃ category, f.BelongsTo category := by
  rw [findings_eq, List.mem_append] at h
  rcases h with h | h
  · obtain ⟨category, -, hf⟩ := exists_category_of_mem_modelFindings h
    exact ⟨category, hf⟩
  · obtain ⟨m, -, rfl⟩ := List.mem_map.mp h
    exact ⟨.platform, m.belongsTo_finding⟩

/-- The findings about the platform are those of the entities that match. -/
theorem filter_platformEntity (d : Diagram) :
    d.findings.filter (·.rule = .platformEntity) =
      (Platform.detect d.entities).found.map Platform.Match.finding := by
  have hmodel : d.modelFindings.filter (·.rule = .platformEntity) = [] := by
    rw [List.filter_eq_nil_iff]
    intro f hf
    obtain ⟨category, hother, hbelongs⟩ := exists_category_of_mem_modelFindings hf
    simpa using mt hbelongs.rule_eq_platformEntity_iff.mp hother
  have hplatform : ∀ f ∈ (Platform.detect d.entities).found.map Platform.Match.finding,
      decide (f.rule = .platformEntity) = true := by
    intro f hf
    obtain ⟨m, -, rfl⟩ := List.mem_map.mp hf
    rfl
  rw [findings_eq, List.filter_append, hmodel, List.nil_append, List.filter_eq_self.mpr hplatform]

/-- Severity and category tell the findings about the platform from all others. -/
theorem countP_eq_length_found {p : Finding → Bool}
    (h : ∀ f category, f.BelongsTo category → (p f = true ↔ category = .platform)) :
    d.findings.countP p = (Platform.detect d.entities).found.length := by
  have hcount : d.findings.countP p = d.findings.countP (·.rule = .platformEntity) := by
    apply List.countP_congr
    intro f hf
    obtain ⟨category, hbelongs⟩ := exists_category_of_mem_findings hf
    rw [h f category hbelongs, decide_eq_true_eq, hbelongs.rule_eq_platformEntity_iff]
  rw [hcount, List.countP_eq_length_filter, filter_platformEntity, List.length_map]

/-- The findings that inform, and those of the platform's category, are about the matches. -/
theorem count_platform (d : Diagram) :
    countSeverity .info d.findings = (Platform.detect d.entities).found.length ∧
      d.findings.countP (·.category = .platform) = (Platform.detect d.entities).found.length := by
  constructor
  · exact countP_eq_length_found fun f category h => by
      rw [decide_eq_true_eq, h.severity_eq_info_iff]
  · exact countP_eq_length_found fun f category h => by
      rw [decide_eq_true_eq, h.category]

end Diagram

end EntityDiagram
