import EntityDiagram.Proofs.Repair.Distinct
import EntityDiagram.Proofs.Repair.ManyToMany

/-!
Repair is complete. When many-to-many relationships are the only errors of a diagram, and their
junction entities can be told apart from each other, from the declared entities and by the two
columns they get, the repaired diagram is valid and has none of the findings that repair is for.
-/
namespace EntityDiagram

open Text Repair

namespace Diagram

variable {d : Diagram}

structure JunctionsApart (d : Diagram) : Prop where
  same : ∀ q ∈ d.relationships, ∀ q' ∈ d.relationships, q.isManyToMany = true →
    q'.isManyToMany = true → q.junctionName = q'.junctionName →
    q.fromEntity = q'.fromEntity ∧ q.toEntity = q'.toEntity
  undeclared : ∀ q ∈ d.relationships, q.isManyToMany = true → q.junctionName ∉ d.names
  columns : ∀ q ∈ d.relationships, q.isManyToMany = true →
    q.fromEntity = q.toEntity ∨ lower q.fromEntity ≠ lower q.toEntity

theorem Sound.repaired (h : d.Written) (hsound : d.Sound) (hapart : d.JunctionsApart) :
    d.repaired.Sound := by
  have hmade : ∀ fix ∈ d.created, IsWord fix.fromEntity.toList ∧ IsWord fix.toEntity.toList ∧
      (fix.fromEntity = fix.toEntity ∨ lower fix.fromEntity ≠ lower fix.toEntity) := by
    intro fix hfix
    have hmem := (List.mem_filter.mp hfix).1
    obtain ⟨q, hq, hmany, rfl⟩ := exists_of_mem_junctions hmem
    have hfaithful := (h.relationships q hq).faithful
    exact ⟨hfaithful.fromEntity, hfaithful.toEntity, hapart.columns q hq hmany⟩
  refine ⟨fun e he => ?_, fun e he => ?_, fun q hq => ?_⟩
  · rcases List.mem_append.mp he with he | he
    · obtain ⟨f, hf, rfl⟩ := List.mem_map.mp he
      exact (length_primaryKeys_repaired (h.fits hf) (h.entities f hf).faithful).trans
        (hsound.keys f hf)
    · obtain ⟨fix, -, rfl⟩ := List.mem_map.mp he
      exact length_primaryKeys_madeEntity fix
  · rcases List.mem_append.mp he with he | he
    · obtain ⟨f, hf, rfl⟩ := List.mem_map.mp he
      exact nodup_repairedAttributes (h.fits hf) (h.entities f hf).faithful
        (nameFree_of_length (hsound.keys f hf)) (hsound.columns f hf)
    · obtain ⟨fix, hfix, rfl⟩ := List.mem_map.mp he
      obtain ⟨hfrom, hto, hcolumns⟩ := hmade fix hfix
      exact nodup_madeEntity hfrom hto hcolumns
  · rcases mem_relationships_repaired hq with ⟨hq, -⟩ | ⟨fix, hfix, side, hside, rfl⟩
    · obtain ⟨hfrom, hto⟩ := hsound.sides q hq
      exact ⟨mem_names_repaired hfrom, mem_names_repaired hto⟩
    · obtain ⟨q', hq', -, rfl⟩ := exists_of_mem_junctions hfix
      obtain ⟨hfrom, hto⟩ := hsound.sides q' hq'
      have hjunction := junctionEntity_mem_names hfix
      rw [link_fromEntity, link_toEntity]
      rcases hside with rfl | rfl
      · exact ⟨mem_names_repaired hfrom, hjunction⟩
      · exact ⟨mem_names_repaired hto, hjunction⟩

/-- No many-to-many relationship is left: each is the one that its junction entity replaces. -/
theorem isManyToMany_repaired (hapart : d.JunctionsApart) {q : Relationship}
    (hq : q ∈ d.repaired.relationships) : q.isManyToMany = false :=
  forall_isManyToMany_repaired_iff.mpr hapart.same q hq

theorem created_of_junctionsApart (hapart : d.JunctionsApart) {fix : JunctionFix}
    (h : fix ∈ d.plan.junctions) : fix ∈ d.created := by
  obtain ⟨q, hq, hmany, rfl⟩ := exists_of_mem_junctions h
  exact List.mem_filter.mpr ⟨h, by simpa using hapart.undeclared q hq hmany⟩

theorem named?_madeEntity (h : d.Written) {fix : JunctionFix} (hfix : fix ∈ d.created) :
    Entity.named? fix.junctionEntity d.repaired.entities = some (madeEntity fix) := by
  have hmem : madeEntity fix ∈ d.repaired.entities :=
    List.mem_append_right _ (List.mem_map_of_mem hfix)
  exact Entity.named?_of_mem h.repaired.nodup hmem

/-- No foreign key is missing in the repaired diagram. -/
theorem hasForeignKeys_repaired (h : d.Written) (hsound : d.Sound) (hapart : d.JunctionsApart)
    {entity : Option String} {detail : Detail} (hraises : d.repaired.Raises entity detail) :
    detail.rule ≠ .missingForeignKey := by
  intro hrule
  cases hraises <;> try cases hrule
  case missingForeignKey q target hq hmany hsource htarget hmissing =>
    rcases mem_relationships_repaired hq with ⟨hq', -⟩ | ⟨fix, hfix, side, hside, rfl⟩
    · obtain ⟨hfrom, hto⟩ := hsound.sides q hq'
      exact not_raises_missingForeignKey h hq' hmany hfrom hto
        (Entity.mem_of_named? htarget).2 rfl
        (Raises.missingForeignKey hq hmany hsource htarget hmissing)
    · have hcreated := created_of_junctionsApart hapart hfix
      obtain ⟨-, hfrom, hto⟩ := h.faithful.junction_words hfix
      rw [link_toEntity, named?_madeEntity h hcreated] at htarget
      obtain rfl := Option.some.inj htarget
      have hhas := hasForeignKey_madeEntity hfrom hto hside
      rw [← expectedForeignKey_link fix, ← Relationship.hasForeignKey_iff, hmissing] at hhas
      cases hhas

/-- A repaired diagram is valid and has none of the findings that repair is for. -/
theorem Sound.resolved (h : d.Written) (hsound : d.Sound) (hapart : d.JunctionsApart) :
    (Summary.ofFindings d.repaired.findings).isValid = true ∧
      ∀ f ∈ d.repaired.findings, f.rule ≠ .namingConflict ∧ f.rule ≠ .missingForeignKey ∧
        f.rule ≠ .manyToMany := by
  have hmany : ∀ entity detail, d.repaired.Raises entity detail → detail.rule ≠ .manyToMany := by
    intro entity detail hraises hrule
    obtain ⟨q, hq, hmany⟩ := hraises.exists_isManyToMany hrule
    rw [isManyToMany_repaired hapart hq] at hmany
    cases hmany
  constructor
  · rw [isValid_iff]
    intro entity detail hraises hseverity
    exact hmany entity detail hraises ((hsound.repaired h hapart).rule_eq hraises hseverity)
  · intro f hf
    have hraises := (justifies_of_mem_findings hf).1
    exact ⟨not_raises_namingConflict h hraises, hasForeignKeys_repaired h hsound hapart hraises,
      hmany _ _ hraises⟩

end Diagram

/-- Repair can do everything that a report asks for: many-to-many relationships are the only
errors, and the names of their junction entities and of the two columns in these do not collide. -/
structure Report.Repairable (r : Report) : Prop where
  errors : ∀ f ∈ r.findings, f.severity = .error → f.rule = .manyToMany
  same : ∀ q ∈ r.relationships, ∀ q' ∈ r.relationships, q.isManyToMany = true →
    q'.isManyToMany = true → q.fromEntity ++ q.toEntity = q'.fromEntity ++ q'.toEntity →
    q.fromEntity = q'.fromEntity ∧ q.toEntity = q'.toEntity
  undeclared : ∀ q ∈ r.relationships, q.isManyToMany = true →
    q.fromEntity ++ q.toEntity ∉ r.entities.map (·.name)
  columns : ∀ q ∈ r.relationships, q.isManyToMany = true →
    q.fromEntity = q.toEntity ∨ lower q.fromEntity ≠ lower q.toEntity

theorem Report.repairable_of_sound {d : Diagram} (h : d.Sound) (hapart : d.JunctionsApart) :
    (Report.ofDiagram d).Repairable :=
  ⟨h.errors, hapart.same, hapart.undeclared, hapart.columns⟩

/-- A valid report asks for nothing that repair cannot do. -/
theorem Report.repairable_of_isValid {d : Diagram}
    (h : (Report.ofDiagram d).summary.isValid = true) : (Report.ofDiagram d).Repairable := by
  have hraises := Diagram.isValid_iff.mp h
  have hmany : ∀ q ∈ d.relationships, ¬ q.isManyToMany = true := fun q hq hmany =>
    hraises _ _ (Diagram.Raises.manyToMany hq hmany) rfl
  refine ⟨fun f hf hseverity => ?_, fun q hq _ _ h => absurd h (hmany q hq),
    fun q hq h => absurd h (hmany q hq), fun q hq h => absurd h (hmany q hq)⟩
  obtain ⟨hraised, hrule⟩ := Diagram.justifies_of_mem_findings hf
  exact absurd (hrule.symm.trans hseverity) (hraises _ _ hraised)

/-- Repair is complete: the report on the repaired text is valid and has no name conflict, no
missing foreign key and no many-to-many relationship. In particular a valid diagram stays valid. -/
theorem correct_is_complete {text : String} (h : '\u0130' ∉ text.toList) :
    ((Report.ofText text).Repairable →
      (Report.ofText text).corrected.summary.isValid = true ∧
        ∀ f ∈ (Report.ofText text).corrected.findings,
          f.rule ≠ .namingConflict ∧ f.rule ≠ .missingForeignKey ∧ f.rule ≠ .manyToMany) ∧
      ((Report.ofText text).summary.isValid = true →
        (Report.ofText text).corrected.summary.isValid = true) := by
  have hcomplete : (Report.ofText text).Repairable →
      (Report.ofText text).corrected.summary.isValid = true ∧
        ∀ f ∈ (Report.ofText text).corrected.findings,
          f.rule ≠ .namingConflict ∧ f.rule ≠ .missingForeignKey ∧ f.rule ≠ .manyToMany := by
    rintro ⟨herrors, hsame, hundeclared, hcolumns⟩
    rw [Report.corrected_ofText h]
    exact (Diagram.sound_of_findings herrors).resolved (Diagram.written_ofText h)
      ⟨hsame, hundeclared, hcolumns⟩
  exact ⟨hcomplete, fun hvalid => (hcomplete (Report.repairable_of_isValid hvalid)).1⟩

def tagsText : String :=
  "POST \x7b\n int id PK\n int name\n\x7d\nTAG \x7b\n int id PK\n\x7d\n"
    ++ "POST \x7do--o\x7b TAG\nTAG \x7do--o\x7b TAG\nPOST ||--o\x7b TAG"

theorem correct_is_complete_tags : '\u0130' ∉ tagsText.toList ∧
    (Report.ofText tagsText).Repairable ∧
    (Report.ofText tagsText).corrected.summary.isValid = true ∧
      ∀ f ∈ (Report.ofText tagsText).corrected.findings,
        f.rule ≠ .namingConflict ∧ f.rule ≠ .missingForeignKey ∧ f.rule ≠ .manyToMany := by
  have hdot : '\u0130' ∉ tagsText.toList := by decide +kernel
  have hfacts :
      (∀ e ∈ (Diagram.ofText tagsText).entities,
        e.primaryKeys.length = 1 ∧ (e.attributes.map fun a => lower a.name).Nodup) ∧
      (∀ q ∈ (Diagram.ofText tagsText).relationships,
        q.fromEntity ∈ (Diagram.ofText tagsText).names ∧
        q.toEntity ∈ (Diagram.ofText tagsText).names ∧
        (q.isManyToMany = true → q.junctionName ∉ (Diagram.ofText tagsText).names ∧
          (q.fromEntity = q.toEntity ∨ lower q.fromEntity ≠ lower q.toEntity) ∧
          ∀ q' ∈ (Diagram.ofText tagsText).relationships, q'.isManyToMany = true →
            q.junctionName = q'.junctionName →
            q.fromEntity = q'.fromEntity ∧ q.toEntity = q'.toEntity)) := by
    decide +kernel
  obtain ⟨hentities, hlinks⟩ := hfacts
  have hsound : (Diagram.ofText tagsText).Sound :=
    ⟨fun e he => (hentities e he).1, fun e he => (hentities e he).2,
      fun q hq => ⟨(hlinks q hq).1, (hlinks q hq).2.1⟩⟩
  have hapart : (Diagram.ofText tagsText).JunctionsApart :=
    ⟨fun q hq q' hq' hmany hmany' => ((hlinks q hq).2.2 hmany).2.2 q' hq' hmany',
      fun q hq hmany => ((hlinks q hq).2.2 hmany).1,
      fun q hq hmany => ((hlinks q hq).2.2 hmany).2.1⟩
  have hrepairable : (Report.ofText tagsText).Repairable :=
    Report.repairable_of_sound hsound hapart
  exact ⟨hdot, hrepairable, (correct_is_complete hdot).1 hrepairable⟩

end EntityDiagram
