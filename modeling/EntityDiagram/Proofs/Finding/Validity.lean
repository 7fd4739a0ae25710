import EntityDiagram.Proofs.Finding.Raises

/-!
Valid diagrams. The rules of severity error are the invariants of a data model: every entity has one
primary key and columns with distinct names, every side of a relationship is declared, and no
relationship is many-to-many. A diagram is valid exactly when they hold. The other rules say nothing
about validity, and entities may share a name.
-/
namespace EntityDiagram

open Text

namespace Diagram

variable {d : Diagram}

/-- No rule of severity error is broken, many-to-many relationships apart. -/
structure Sound (d : Diagram) : Prop where
  keys : ∀ e ∈ d.entities, e.primaryKeys.length = 1
  columns : ∀ e ∈ d.entities, (e.attributes.map fun a => lower a.name).Nodup
  sides : ∀ q ∈ d.relationships, q.fromEntity ∈ d.names ∧ q.toEntity ∈ d.names

theorem Sound.rule_eq (h : d.Sound) {entity : Option String} {detail : Detail}
    (hraises : d.Raises entity detail) (hseverity : detail.rule.severity = .error) :
    detail.rule = .manyToMany := by
  cases hraises with
  | missingPrimaryKey he hnone => simpa [hnone] using h.keys _ he
  | multiplePrimaryKeys he hmany =>
    rw [h.keys _ he] at hmany
    exact absurd hmany (Nat.lt_irrefl 1)
  | duplicateColumns he hdup => exact absurd (h.columns _ he) hdup
  | missingSource hq hmissing => exact absurd (h.sides _ hq).1 hmissing
  | missingTarget hq hmissing => exact absurd (h.sides _ hq).2 hmissing
  | manyToMany _ _ => rfl
  | _ => cases hseverity

theorem Sound.errors (h : d.Sound) :
    ∀ f ∈ d.findings, f.severity = .error → f.rule = .manyToMany := by
  intro f hf hseverity
  obtain ⟨hraises, hrule⟩ := justifies_of_mem_findings hf
  exact h.rule_eq hraises (hrule.symm.trans hseverity)

theorem sound_of_findings
    (h : ∀ f ∈ d.findings, f.severity = .error → f.rule = .manyToMany) : d.Sound := by
  have hraises : ∀ entity detail, d.Raises entity detail → detail.rule.severity = .error →
      detail.rule = .manyToMany := by
    intro entity detail hraises hseverity
    obtain ⟨f, hf, hsubject⟩ := List.mem_map.mp (mem_subjects_of_raises hraises)
    obtain ⟨rfl, rfl⟩ := Prod.mk.inj hsubject
    exact h f hf ((justifies_of_mem_findings hf).2.trans hseverity)
  refine ⟨fun e he => ?_, fun e he => ?_, fun q hq => ⟨?_, ?_⟩⟩
  · by_contra hlength
    rcases Nat.lt_or_gt_of_ne hlength with hnone | hmany
    · have hnil : e.primaryKeys = [] := List.length_eq_zero_iff.mp (by omega)
      cases hraises _ _ (.missingPrimaryKey he hnil) rfl
    · cases hraises _ _ (.multiplePrimaryKeys he hmany) rfl
  · by_contra hdup
    cases hraises _ _ (.duplicateColumns he hdup) rfl
  · by_contra hmissing
    cases hraises _ _ (.missingSource hq hmissing) rfl
  · by_contra hmissing
    cases hraises _ _ (.missingTarget hq hmissing) rfl

/-- A finding about a many-to-many relationship is about one of the diagram. -/
theorem Raises.exists_isManyToMany {entity : Option String} {detail : Detail}
    (h : d.Raises entity detail) (hrule : detail.rule = .manyToMany) :
    ∃ q ∈ d.relationships, q.isManyToMany = true := by
  cases h with
  | manyToMany hq hmany => exact ⟨_, hq, hmany⟩
  | _ => cases hrule

/-- A diagram is valid exactly when it is sound and no relationship is many-to-many. -/
theorem isValid_iff_sound :
    (Summary.ofFindings d.findings).isValid = true ↔
      d.Sound ∧ ∀ q ∈ d.relationships, q.isManyToMany = false := by
  rw [isValid_iff]
  constructor
  · intro h
    refine ⟨sound_of_findings fun f hf hseverity => ?_, fun q hq => ?_⟩
    · obtain ⟨hraises, hrule⟩ := justifies_of_mem_findings hf
      exact absurd (hrule.symm.trans hseverity) (h _ _ hraises)
    · by_contra hmany
      exact h _ _ (.manyToMany hq (by simpa using hmany)) rfl
  · rintro ⟨hsound, hone⟩ entity detail hraises hseverity
    obtain ⟨q, hq, hmany⟩ :=
      hraises.exists_isManyToMany (hsound.rule_eq hraises hseverity)
    rw [hone q hq] at hmany
    cases hmany

end Diagram

/-- The summary of the findings about entities and relationships is valid exactly when every entity
has one primary key and columns whose names differ without regard to case, every side of a
relationship is the name of an entity, and no relationship is many-to-many. -/
theorem isValid_iff_invariants (entities : List Entity) (relationships : List Relationship) :
    (Summary.ofFindings (Diagram.findings ⟨entities, relationships⟩)).isValid = true ↔
      (∀ e ∈ entities, e.attributes.countP (·.isPrimaryKey) = 1) ∧
      (∀ e ∈ entities, e.attributes.Pairwise fun a b => lower a.name ≠ lower b.name) ∧
      (∀ q ∈ relationships, (∃ e ∈ entities, e.name = q.fromEntity) ∧
        ∃ e ∈ entities, e.name = q.toEntity) ∧
      ∀ q ∈ relationships, q.cardinality.kind ≠ .manyToMany := by
  have hkeys (e : Entity) : e.primaryKeys.length = e.attributes.countP (·.isPrimaryKey) :=
    List.countP_eq_length_filter.symm
  have hcolumns (e : Entity) : (e.attributes.map fun a => lower a.name).Nodup ↔
      e.attributes.Pairwise fun a b => lower a.name ≠ lower b.name := List.pairwise_map
  have hdeclared (name : String) : name ∈ Diagram.names ⟨entities, relationships⟩ ↔
      ∃ e ∈ entities, e.name = name := List.mem_map
  rw [Diagram.isValid_iff_sound]
  constructor
  · rintro ⟨hsound, hone⟩
    refine ⟨fun e he => hkeys e ▸ hsound.keys e he,
      fun e he => (hcolumns e).mp (hsound.columns e he), fun q hq => ?_,
      fun q hq => of_decide_eq_false (hone q hq)⟩
    obtain ⟨hfrom, hto⟩ := hsound.sides q hq
    exact ⟨(hdeclared _).mp hfrom, (hdeclared _).mp hto⟩
  · rintro ⟨hone, hdistinct, hsides, hkinds⟩
    refine ⟨⟨fun e he => (hkeys e).trans (hone e he), fun e he => (hcolumns e).mpr (hdistinct e he),
      fun q hq => ?_⟩, fun q hq => decide_eq_false (hkinds q hq)⟩
    obtain ⟨hfrom, hto⟩ := hsides q hq
    exact ⟨(hdeclared _).mpr hfrom, (hdeclared _).mpr hto⟩

end EntityDiagram
