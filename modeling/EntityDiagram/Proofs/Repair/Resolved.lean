import EntityDiagram.Proofs.Repair.Diagrams

/-!
Findings that a repair resolves. In a repaired diagram no column but a primary key is called like
the generated name column, and every relationship between declared entities that is not
many-to-many has its foreign key: on a column that had it, on the first column with its name, or on
a column of its own.
-/
namespace EntityDiagram

open Text Repair

namespace Report

def corrected (r : Report) : Report := Report.ofText r.correct.text

def plan (r : Report) : Plan := Plan.ofFindings r.findings

/-- The report on a repaired text is the report on what can be read of the repaired diagram. -/
theorem corrected_ofText_readable (text : String) :
    (Report.ofText text).corrected = Report.ofDiagram (Diagram.ofText text).repaired.readable := by
  rw [corrected, Report.ofText, Diagram.ofText_correct_readable]

theorem corrected_relationships (text : String) :
    (Report.ofText text).corrected.relationships =
      (Diagram.ofText text).repaired.relationships := by
  rw [corrected_ofText_readable]
  rfl

theorem corrected_findings (text : String) :
    (Report.ofText text).corrected.findings =
      (Diagram.ofText text).repaired.readable.findings := by
  rw [corrected_ofText_readable]
  rfl

/-- The report on a repaired text is the report on the repaired diagram. -/
theorem corrected_ofText {text : String} (h : '\u0130' ∉ text.toList) :
    (Report.ofText text).corrected = Report.ofDiagram (Diagram.ofText text).repaired := by
  rw [corrected, Report.ofText, Diagram.ofText_correct (Diagram.written_ofText h)]

end Report

theorem Relationship.hasForeignKey_iff {q : Relationship} {target : Entity} :
    q.hasForeignKey target = true ↔ HasForeignKey target.attributes q.expectedForeignKey := by
  simp [Relationship.hasForeignKey, HasForeignKey]

theorem Entity.nameConflicts_eq_nil_iff {e : Entity} :
    e.nameConflicts = [] ↔ ∀ a ∈ e.attributes, isNameConflict a = false := by
  simp only [nameConflicts, isNameConflict, List.map_eq_nil_iff, List.filter_eq_nil_iff,
    Bool.not_eq_true, Bool.and_comm]

namespace Repair

theorem isNameConflict_madeEntity {fix : JunctionFix} (hfrom : IsWord fix.fromEntity.toList)
    (hto : IsWord fix.toEntity.toList) :
    ∀ a ∈ (madeEntity fix).attributes, isNameConflict a = false := by
  obtain ⟨hfirst, hsecond⟩ := derivedFrom_junctionColumns hfrom hto
  intro a ha
  simp only [madeEntity, List.mem_cons, List.not_mem_nil, or_false] at ha
  rcases ha with rfl | rfl | rfl
  · decide
  · simp [isNameConflict, referenceAttribute_name, hfirst.lower_eq, hfirst.ne_nameColumn]
  · simp [isNameConflict, referenceAttribute_name, hsecond.lower_eq, hsecond.ne_nameColumn]

end Repair

namespace Diagram

variable {d : Diagram}

/-- No name conflicts are left. -/
theorem nameConflicts_repaired (h : d.Faithful) {e : Entity} (he : e ∈ d.repaired.entities) :
    e.nameConflicts = [] := by
  rw [Entity.nameConflicts_eq_nil_iff]
  rcases List.mem_append.mp he with he | he
  · obtain ⟨f, hf, rfl⟩ := List.mem_map.mp he
    exact isNameConflict_repairedAttributes (h.fits hf) (h.entities f hf)
  · obtain ⟨fix, hfix, rfl⟩ := List.mem_map.mp he
    obtain ⟨-, hfrom, hto⟩ := h.junction_words (List.mem_filter.mp hfix).1
    exact isNameConflict_madeEntity hfrom hto

theorem not_raises_namingConflict (h : d.Written) {entity : Option String} {detail : Detail}
    (hraises : d.repaired.Raises entity detail) : detail.rule ≠ .namingConflict := by
  intro hrule
  cases hraises <;> try cases hrule
  case namingConflict e he hne => exact hne (nameConflicts_repaired h.faithful he)

/-- The foreign key that a relationship misses in a declared entity is to be added. -/
theorem exists_mem_foreignKeysOf (h : d.Faithful) {q : Relationship} (hq : q ∈ d.relationships)
    (hmany : q.isManyToMany = false) (hfrom : q.fromEntity ∈ d.names) {e : Entity}
    (he : e ∈ d.entities) (hto : e.name = q.toEntity)
    (hmissing : ¬ HasForeignKey e.attributes q.expectedForeignKey) :
    ∃ fix ∈ d.plan.foreignKeysOf e.name, fixColumn fix = q.expectedForeignKey := by
  have htarget : Entity.named? q.toEntity d.entities = some e :=
    hto ▸ Entity.named?_of_mem h.nodup he
  rw [← Relationship.hasForeignKey_iff, Bool.not_eq_true] at hmissing
  have hasked := mem_foreignKeys_iff.mpr
    ⟨_, Raises.missingForeignKey hq hmany hfrom htarget hmissing⟩
  obtain ⟨fix, hfix, hcolumn⟩ : ∃ fix ∈ d.plan.foreignKeysOf e.name,
      fixColumn fix = fixColumn ⟨e.name, q.expectedForeignKey, q.fromEntity⟩ :=
    exists_mem_firstSeen (List.mem_filter.mpr ⟨hasked, by simp⟩)
  have hderived := derivedFrom_expectedForeignKey (h.relationships q hq).fromEntity
  exact ⟨fix, hfix, hcolumn.trans hderived.lower_eq⟩

/-- The foreign key that a relationship asks of a declared entity is in its repaired form. -/
theorem hasForeignKey_repairedEntity (h : d.Faithful) {q : Relationship} (hq : q ∈ d.relationships)
    (hmany : q.isManyToMany = false) (hfrom : q.fromEntity ∈ d.names) {e : Entity}
    (he : e ∈ d.entities) (hto : e.name = q.toEntity) :
    HasForeignKey (repairedEntity d.plan e).attributes q.expectedForeignKey := by
  have hderived := derivedFrom_expectedForeignKey (h.relationships q hq).fromEntity
  have hfits := h.fits he
  have hfaithful := h.entities e he
  by_cases hhas : HasForeignKey e.attributes q.expectedForeignKey
  · exact (hasForeignKey_of_mem hfits hfaithful hderived.ne_nameColumn hhas).of_filter
  · obtain ⟨fix, hfix, hcolumn⟩ := exists_mem_foreignKeysOf h hq hmany hfrom he hto hhas
    exact hcolumn ▸ hasForeignKey_of_fix hfits hfaithful hfix

theorem named?_repaired (h : d.Faithful) {e : Entity} (he : e ∈ d.entities) :
    Entity.named? e.name d.repaired.entities = some (repairedEntity d.plan e) :=
  Entity.named?_of_mem (nodup_names_repaired h) (List.mem_append_left _ (List.mem_map_of_mem he))

/-- The foreign key of a relationship between declared entities is not missing any more. -/
theorem not_raises_missingForeignKey (h : d.Written) {q : Relationship}
    (hq : q ∈ d.relationships) (hmany : q.isManyToMany = false) (hfrom : q.fromEntity ∈ d.names)
    (hto : q.toEntity ∈ d.names) {entity : Option String} {fix : ForeignKeyFix}
    (hentity : fix.entityName = q.toEntity) (hcolumn : fix.columnName = q.expectedForeignKey) :
    ¬ d.repaired.Raises entity (.missingForeignKey fix) := by
  intro hraises
  obtain ⟨e, he, hname⟩ := List.mem_map.mp hto
  cases hraises with
  | @missingForeignKey q' target hq' hmany' hsource htarget hmissing =>
    dsimp only at hentity hcolumn
    have htargetName := (Entity.mem_of_named? htarget).2
    rw [← htargetName, hentity, ← hname, named?_repaired h.faithful he] at htarget
    obtain rfl := Option.some.inj htarget
    have hhas := hasForeignKey_repairedEntity h.faithful hq hmany hfrom he hname
    rw [← hcolumn, ← Relationship.hasForeignKey_iff, hmissing] at hhas
    cases hhas

end Diagram

/-- Repair resolves name conflicts and missing foreign keys. The report on the repaired text has no
name conflict, and none of its missing foreign keys is one that a relationship of the first report
asks for, unless the relationship is many-to-many or has a side that is not declared. -/
theorem correct_resolves_findings {text : String} (h : '\u0130' ∉ text.toList) :
    (∀ f ∈ (Report.ofText text).corrected.findings, f.rule ≠ .namingConflict) ∧
      ∀ q ∈ (Report.ofText text).relationships, q.isManyToMany = false →
        q.fromEntity ∈ (Report.ofText text).entities.map (·.name) →
        q.toEntity ∈ (Report.ofText text).entities.map (·.name) →
        ∀ f ∈ (Report.ofText text).corrected.findings, ∀ fix, f.detail = .missingForeignKey fix →
          ¬ (fix.entityName = q.toEntity ∧ fix.columnName = lower q.fromEntity ++ "_id") := by
  have hwritten := Diagram.written_ofText h
  rw [Report.corrected_ofText h]
  constructor
  · intro f hf
    exact Diagram.not_raises_namingConflict hwritten (Diagram.justifies_of_mem_findings hf).1
  · rintro q hq hmany hfrom hto f hf fix hdetail ⟨hentity, hcolumn⟩
    have hraises := (Diagram.justifies_of_mem_findings hf).1
    rw [hdetail] at hraises
    exact Diagram.not_raises_missingForeignKey hwritten hq hmany hfrom hto hentity hcolumn hraises

def ordersText : String :=
  "USER \x7b\n int id PK\n int NAME\n int name\n\x7d\n"
    ++ "ORDER \x7b\n int user_id PK\n int User_ID\n\x7d\nUSER ||--o\x7b ORDER"

theorem correct_resolves_findings_orders : '\u0130' ∉ ordersText.toList ∧
    (∀ f ∈ (Report.ofText ordersText).corrected.findings, f.rule ≠ .namingConflict) ∧
      ∀ f ∈ (Report.ofText ordersText).corrected.findings, ∀ fix,
        f.detail = .missingForeignKey fix →
          ¬ (fix.entityName = "ORDER" ∧ fix.columnName = "user_id") := by
  have hdot : '\u0130' ∉ ordersText.toList := by decide +kernel
  have hlink : ∃ q ∈ (Report.ofText ordersText).relationships, q.isManyToMany = false ∧
      q.fromEntity = "USER" ∧ q.toEntity = "ORDER" ∧
      q.fromEntity ∈ (Report.ofText ordersText).entities.map (·.name) ∧
      q.toEntity ∈ (Report.ofText ordersText).entities.map (·.name) := by decide +kernel
  obtain ⟨q, hq, hmany, hfrom, hto, hsource, htarget⟩ := hlink
  have hresolved := correct_resolves_findings hdot
  have hforeign := hresolved.2 q hq hmany hsource htarget
  have hcolumn : lower "USER" ++ "_id" = "user_id" := by decide +kernel
  rw [hfrom, hto, hcolumn] at hforeign
  exact ⟨hdot, hresolved.1, hforeign⟩

end EntityDiagram
