import EntityDiagram.Finding.Rules
import EntityDiagram.Finding.Summary
import EntityDiagram.Proofs.FirstSeen

/-!
When a rule is broken. `Diagram.Raises` says for each rule, without regard to the order of findings
and to their texts, which part of a diagram breaks it, which entity the finding names and what it
carries. A diagram has a finding exactly when a rule is broken, with the severity of the rule, so a
diagram is valid exactly when no rule of severity error is broken.
-/
namespace EntityDiagram

namespace Entity

theorem named?_eq_none_iff {name : String} {entities : List Entity} :
    named? name entities = none ↔ name ∉ entities.map (·.name) := by
  induction entities with
  | nil => simp [named?]
  | cons e rest ih =>
    simp only [named?, Option.or_eq_none_iff, ih, List.map_cons, List.mem_cons, not_or]
    constructor
    · rintro ⟨hrest, hif⟩
      exact ⟨fun heq => by simp [heq] at hif, hrest⟩
    · rintro ⟨hne, hrest⟩
      exact ⟨hrest, by simp [Ne.symm hne]⟩

theorem mem_of_named? {name : String} {entities : List Entity} {e : Entity}
    (h : named? name entities = some e) : e ∈ entities ∧ e.name = name := by
  induction entities with
  | nil => cases h
  | cons f rest ih =>
    rw [named?, Option.or_eq_some_iff] at h
    rcases h with h | ⟨-, h⟩
    · exact ⟨List.mem_cons_of_mem _ (ih h).1, (ih h).2⟩
    · split at h
      · next hname =>
        obtain rfl := Option.some.inj h
        exact ⟨List.mem_cons_self, hname⟩
      · cases h

theorem isSome_named?_iff {name : String} {entities : List Entity} :
    (named? name entities).isSome = true ↔ name ∈ entities.map (·.name) := by
  rw [← not_iff_not, ← named?_eq_none_iff]
  simp

/-- Among entities with distinct names each is found by its name. -/
theorem named?_of_mem {entities : List Entity} (hnodup : (entities.map (·.name)).Nodup)
    {e : Entity} (he : e ∈ entities) : named? e.name entities = some e := by
  induction entities with
  | nil => cases he
  | cons f rest ih =>
    obtain ⟨hf, hrest⟩ := List.nodup_cons.mp hnodup
    rcases List.mem_cons.mp he with rfl | he
    · simp [named?, named?_eq_none_iff.mpr hf]
    · simp [named?, ih hrest he]

end Entity

def Finding.subject (f : Finding) : Option String × Detail := (f.entity, f.detail)

@[simp]
theorem Finding.subject_ofDetail (detail : Detail) (entity relationship : Option String)
    (message suggestion : String) :
    (ofDetail detail entity relationship message suggestion).subject = (entity, detail) := rfl

namespace Diagram

def names (d : Diagram) : List String := d.entities.map (·.name)

/-- A rule is broken; the entity that the finding names, and what it carries. -/
inductive Raises (d : Diagram) : Option String → Detail → Prop
  | missingPrimaryKey {e : Entity} (he : e ∈ d.entities) (h : e.primaryKeys = []) :
      Raises d e.name .missingPrimaryKey
  | multiplePrimaryKeys {e : Entity} (he : e ∈ d.entities) (h : 1 < e.primaryKeys.length) :
      Raises d e.name (.multiplePrimaryKeys (e.primaryKeys.map (·.name)))
  | duplicateColumns {e : Entity} (he : e ∈ d.entities)
      (h : ¬ (e.attributes.map fun a => Text.lower a.name).Nodup) :
      Raises d e.name (.duplicateColumns e.duplicates)
  | emptyEntity {e : Entity} (he : e ∈ d.entities) (h : e.attributes = []) :
      Raises d e.name .emptyEntity
  | namingConflict {e : Entity} (he : e ∈ d.entities) (h : e.nameConflicts ≠ []) :
      Raises d e.name (.namingConflict e.nameConflicts)
  | systemColumnConflict {e : Entity} (he : e ∈ d.entities) (h : e.systemConflicts ≠ []) :
      Raises d e.name (.systemColumnConflict e.systemConflicts)
  | missingSource {q : Relationship} (hq : q ∈ d.relationships) (h : q.fromEntity ∉ d.names) :
      Raises d none (.missingEntity q.fromEntity)
  | missingTarget {q : Relationship} (hq : q ∈ d.relationships) (h : q.toEntity ∉ d.names) :
      Raises d none (.missingEntity q.toEntity)
  | manyToMany {q : Relationship} (hq : q ∈ d.relationships) (h : q.isManyToMany = true) :
      Raises d none (.manyToMany ⟨q.junctionName, q.fromEntity, q.toEntity⟩)
  | selfReference {q : Relationship} (hq : q ∈ d.relationships) (h : q.fromEntity = q.toEntity) :
      Raises d none .selfReference
  | missingForeignKey {q : Relationship} {target : Entity} (hq : q ∈ d.relationships)
      (hmany : q.isManyToMany = false) (hsource : q.fromEntity ∈ d.names)
      (htarget : Entity.named? q.toEntity d.entities = some target)
      (h : q.hasForeignKey target = false) :
      Raises d target.name (.missingForeignKey ⟨target.name, q.expectedForeignKey, q.fromEntity⟩)
  | platformEntity {e : Entity} {m : Platform.Match} (he : e ∈ d.entities)
      (h : Platform.match? e = some m) : Raises d m.entity (.platformEntity m.logicalName)

def Justifies (d : Diagram) (f : Finding) : Prop :=
  d.Raises f.entity f.detail ∧ f.severity = f.rule.severity

variable {d : Diagram} {f : Finding}

theorem justifies_ofDetail {entity : Option String} {detail : Detail}
    (h : d.Raises entity detail) (relationship : Option String) (message suggestion : String) :
    d.Justifies (.ofDetail detail entity relationship message suggestion) :=
  ⟨h, rfl⟩

theorem justifies_structure {e : Entity} (he : e ∈ d.entities) (hf : f ∈ e.structureFindings) :
    d.Justifies f := by
  simp only [Entity.structureFindings, List.mem_append] at hf
  rcases hf with (hf | hf) | hf
  · unfold Entity.keyFindings at hf
    split at hf
    · next hkeys =>
      obtain rfl := List.mem_singleton.mp hf
      exact justifies_ofDetail (.missingPrimaryKey he hkeys) _ _ _
    · cases hf
    · next hnone hone =>
      obtain rfl := List.mem_singleton.mp hf
      refine justifies_ofDetail (.multiplePrimaryKeys he ?_) _ _ _
      match hkeys : e.primaryKeys with
      | [] => exact absurd hkeys hnone
      | [key] => exact absurd hkeys (hone key)
      | _ :: _ :: _ => simp
  · unfold Entity.duplicateFindings at hf
    simp only [List.isEmpty_iff] at hf
    split at hf
    · cases hf
    · next hne =>
      obtain rfl := List.mem_singleton.mp hf
      exact justifies_ofDetail
        (.duplicateColumns he fun hnodup => hne (repeated_eq_nil_iff.mpr hnodup)) _ _ _
  · unfold Entity.emptyFindings at hf
    split at hf
    · next hempty =>
      obtain rfl := List.mem_singleton.mp hf
      exact justifies_ofDetail (.emptyEntity he (List.isEmpty_iff.mp hempty)) _ _ _
    · cases hf

theorem justifies_naming {e : Entity} (he : e ∈ d.entities) (hf : f ∈ e.namingFindings) :
    d.Justifies f := by
  rcases List.mem_append.mp hf with hf | hf
  · unfold Entity.nameFindings at hf
    simp only [List.isEmpty_iff] at hf
    split at hf
    · cases hf
    · next hne =>
      obtain rfl := List.mem_singleton.mp hf
      exact justifies_ofDetail (.namingConflict he hne) _ _ _
  · unfold Entity.systemFindings at hf
    simp only [List.isEmpty_iff] at hf
    split at hf
    · cases hf
    · next hne =>
      obtain rfl := List.mem_singleton.mp hf
      exact justifies_ofDetail (.systemColumnConflict he hne) _ _ _

theorem justifies_relationship {q : Relationship} (hq : q ∈ d.relationships)
    (hf : f ∈ q.findings d.entities) : d.Justifies f := by
  simp only [Relationship.findings, List.mem_append] at hf
  rcases hf with (((hf | hf) | hf) | hf) | hf
  · unfold Relationship.sideFindings at hf
    split at hf
    · cases hf
    · next hnone =>
      obtain rfl := List.mem_singleton.mp hf
      exact justifies_ofDetail (.missingSource hq (Entity.named?_eq_none_iff.mp hnone)) _ _ _
  · unfold Relationship.sideFindings at hf
    split at hf
    · cases hf
    · next hnone =>
      obtain rfl := List.mem_singleton.mp hf
      exact justifies_ofDetail (.missingTarget hq (Entity.named?_eq_none_iff.mp hnone)) _ _ _
  · unfold Relationship.manyToManyFindings at hf
    split at hf
    · next hmany =>
      obtain rfl := List.mem_singleton.mp hf
      exact justifies_ofDetail (.manyToMany hq hmany) _ _ _
    · cases hf
  · unfold Relationship.selfFindings at hf
    split at hf
    · next hself =>
      obtain rfl := List.mem_singleton.mp hf
      exact justifies_ofDetail (.selfReference hq hself) _ _ _
    · cases hf
  · unfold Relationship.foreignKeyFindings at hf
    split at hf
    · next source target hsource htarget =>
      split at hf
      · cases hf
      · next hcond =>
        obtain rfl := List.mem_singleton.mp hf
        rw [Bool.or_eq_true, not_or, Bool.not_eq_true, Bool.not_eq_true] at hcond
        have hdeclared : q.fromEntity ∈ d.names :=
          Entity.isSome_named?_iff.mp (by rw [hsource]; rfl)
        exact justifies_ofDetail
          (.missingForeignKey hq hcond.1 hdeclared htarget hcond.2) _ _ _
    · cases hf

/-- Every finding about a diagram is about a broken rule. -/
theorem justifies_of_mem_findings (hf : f ∈ d.findings) : d.Justifies f := by
  simp only [findings, List.mem_append] at hf
  rcases hf with ((hf | hf) | hf) | hf
  · obtain ⟨e, he, hf⟩ := List.mem_flatMap.mp hf
    exact justifies_structure he hf
  · obtain ⟨e, he, hf⟩ := List.mem_flatMap.mp hf
    exact justifies_naming he hf
  · obtain ⟨q, hq, hf⟩ := List.mem_flatMap.mp hf
    exact justifies_relationship hq hf
  · obtain ⟨m, hm, rfl⟩ := List.mem_map.mp hf
    obtain ⟨e, he, hmatch⟩ := List.mem_filterMap.mp hm
    exact justifies_ofDetail (.platformEntity he hmatch) _ _ _

variable {subject : Option String × Detail}

theorem mem_subjects_of_structure {e : Entity} (he : e ∈ d.entities)
    (h : subject ∈ e.keyFindings.map Finding.subject ∨
      subject ∈ e.duplicateFindings.map Finding.subject ∨
      subject ∈ e.emptyFindings.map Finding.subject) :
    subject ∈ d.findings.map Finding.subject := by
  have hmem : subject ∈ (d.entities.flatMap Entity.structureFindings).map Finding.subject := by
    rw [List.map_flatMap, List.mem_flatMap]
    exact ⟨e, he, by simpa only [Entity.structureFindings, List.map_append, List.mem_append,
      or_assoc] using h⟩
  simp only [findings, List.map_append, List.mem_append]
  exact Or.inl (Or.inl (Or.inl hmem))

theorem mem_subjects_of_naming {e : Entity} (he : e ∈ d.entities)
    (h : subject ∈ e.nameFindings.map Finding.subject ∨
      subject ∈ e.systemFindings.map Finding.subject) :
    subject ∈ d.findings.map Finding.subject := by
  have hmem : subject ∈ (d.entities.flatMap Entity.namingFindings).map Finding.subject := by
    rw [List.map_flatMap, List.mem_flatMap]
    exact ⟨e, he, by simpa only [Entity.namingFindings, List.map_append, List.mem_append] using h⟩
  simp only [findings, List.map_append, List.mem_append]
  exact Or.inl (Or.inl (Or.inr hmem))

theorem mem_subjects_of_relationship {q : Relationship} (hq : q ∈ d.relationships)
    (h : subject ∈ (q.findings d.entities).map Finding.subject) :
    subject ∈ d.findings.map Finding.subject := by
  have hmem : subject ∈ (d.relationships.flatMap (·.findings d.entities)).map Finding.subject := by
    rw [List.map_flatMap, List.mem_flatMap]
    exact ⟨q, hq, h⟩
  simp only [findings, List.map_append, List.mem_append]
  exact Or.inl (Or.inr hmem)

/-- Every broken rule gives a finding. -/
theorem mem_subjects_of_raises {entity : Option String} {detail : Detail}
    (h : d.Raises entity detail) : (entity, detail) ∈ d.findings.map Finding.subject := by
  cases h with
  | @missingPrimaryKey e he h =>
    apply mem_subjects_of_structure he
    exact Or.inl (by simp [Entity.keyFindings, h])
  | @multiplePrimaryKeys e he h =>
    apply mem_subjects_of_structure he
    refine Or.inl ?_
    match hkeys : e.primaryKeys with
    | [] => simp [hkeys] at h
    | [key] => simp [hkeys] at h
    | _ :: _ :: _ => simp [Entity.keyFindings, hkeys]
  | @duplicateColumns e he h =>
    have hne : e.duplicates ≠ [] := fun hnil => h (repeated_eq_nil_iff.mp hnil)
    apply mem_subjects_of_structure he
    exact Or.inr (Or.inl (by simp [Entity.duplicateFindings, hne]))
  | @emptyEntity e he h =>
    apply mem_subjects_of_structure he
    exact Or.inr (Or.inr (by simp [Entity.emptyFindings, h]))
  | @namingConflict e he h =>
    apply mem_subjects_of_naming he
    exact Or.inl (by simp [Entity.nameFindings, h])
  | @systemColumnConflict e he h =>
    apply mem_subjects_of_naming he
    exact Or.inr (by simp [Entity.systemFindings, h])
  | @missingSource q hq h =>
    apply mem_subjects_of_relationship hq
    simp only [Relationship.findings, List.map_append, List.mem_append]
    refine Or.inl (Or.inl (Or.inl (Or.inl ?_)))
    simp [Relationship.sideFindings, Entity.named?_eq_none_iff.mpr h]
  | @missingTarget q hq h =>
    apply mem_subjects_of_relationship hq
    simp only [Relationship.findings, List.map_append, List.mem_append]
    refine Or.inl (Or.inl (Or.inl (Or.inr ?_)))
    simp [Relationship.sideFindings, Entity.named?_eq_none_iff.mpr h]
  | @manyToMany q hq h =>
    apply mem_subjects_of_relationship hq
    simp only [Relationship.findings, List.map_append, List.mem_append]
    exact Or.inl (Or.inl (Or.inr (by simp [Relationship.manyToManyFindings, h])))
  | @selfReference q hq h =>
    apply mem_subjects_of_relationship hq
    simp only [Relationship.findings, List.map_append, List.mem_append]
    exact Or.inl (Or.inr (by simp [Relationship.selfFindings, h]))
  | @missingForeignKey q target hq hmany hsource htarget h =>
    obtain ⟨source, hsource⟩ := Option.isSome_iff_exists.mp (Entity.isSome_named?_iff.mpr hsource)
    apply mem_subjects_of_relationship hq
    simp only [Relationship.findings, List.map_append, List.mem_append]
    refine Or.inr ?_
    simp [Relationship.foreignKeyFindings, hsource, htarget, hmany, h]
  | @platformEntity e m he h =>
    simp only [findings, List.map_append, List.mem_append]
    refine Or.inr ?_
    rw [List.map_map]
    exact List.mem_map.mpr ⟨m, List.mem_filterMap.mpr ⟨e, he, h⟩, rfl⟩

/-- The findings about a diagram carry what the broken rules ask for. -/
theorem exists_detail_iff {detail : Detail} :
    (∃ f ∈ d.findings, f.detail = detail) ↔ ∃ entity, d.Raises entity detail := by
  constructor
  · rintro ⟨f, hf, rfl⟩
    exact ⟨f.entity, (justifies_of_mem_findings hf).1⟩
  · rintro ⟨entity, hraises⟩
    obtain ⟨f, hf, hsubject⟩ := List.mem_map.mp (mem_subjects_of_raises hraises)
    exact ⟨f, hf, (Prod.mk.inj hsubject).2⟩

/-- The rules of the findings about a diagram are the broken ones. -/
theorem exists_rule_iff {rule : Rule} :
    (∃ f ∈ d.findings, f.rule = rule) ↔
      ∃ entity detail, d.Raises entity detail ∧ detail.rule = rule := by
  constructor
  · rintro ⟨f, hf, rfl⟩
    exact ⟨f.entity, f.detail, (justifies_of_mem_findings hf).1, rfl⟩
  · rintro ⟨entity, detail, hraises, rfl⟩
    obtain ⟨f, hf, rfl⟩ := exists_detail_iff.mpr ⟨entity, hraises⟩
    exact ⟨f, hf, rfl⟩

/-- A diagram is valid exactly when no rule of severity error is broken. -/
theorem isValid_iff :
    (Summary.ofFindings d.findings).isValid = true ↔
      ∀ entity detail, d.Raises entity detail → detail.rule.severity ≠ .error := by
  have hcount : (Summary.ofFindings d.findings).isValid = true ↔
      ∀ f ∈ d.findings, f.severity ≠ .error := by
    simp [Summary.ofFindings, countSeverity, List.countP_eq_zero]
  rw [hcount]
  constructor
  · intro h entity detail hraises
    obtain ⟨f, hf, hsubject⟩ := List.mem_map.mp (mem_subjects_of_raises hraises)
    obtain ⟨rfl, rfl⟩ := Prod.mk.inj hsubject
    have hseverity := (justifies_of_mem_findings hf).2
    rw [Finding.rule] at hseverity
    exact hseverity ▸ h f hf
  · intro h f hf
    obtain ⟨hraises, hseverity⟩ := justifies_of_mem_findings hf
    rw [hseverity]
    exact h f.entity f.detail hraises

end Diagram

end EntityDiagram
