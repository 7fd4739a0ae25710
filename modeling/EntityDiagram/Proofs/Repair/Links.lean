import EntityDiagram.Proofs.Repair.Distinct
import EntityDiagram.Proofs.Repair.ManyToMany

/-!
Foreign keys of links. A many-to-many relationship that is replaced gives way to two links, which
ask the junction entity for a foreign key to either side. A junction entity that a repair makes has
them, up to names with a dotted capital I, whose columns cannot be read. A declared entity with the
name of the junction is not made anew and gets no columns for the links: it carries a key that it
had, and one that another relationship asks it for.
-/
namespace EntityDiagram

open Text Repair

namespace Report

instance (attributes : List Attribute) (column : String) :
    Decidable (HasForeignKey attributes column) :=
  inferInstanceAs (Decidable (∃ a ∈ attributes, a.isForeignKey = true ∧ lower a.name = column))

def AsksFor (r : Report) (entity side : String) : Prop :=
  ∃ p ∈ r.relationships, p.isManyToMany = false ∧ p.fromEntity ∈ r.entities.map (·.name) ∧
    p.toEntity = entity ∧ lower p.fromEntity = lower side

instance (r : Report) (entity side : String) : Decidable (r.AsksFor entity side) :=
  inferInstanceAs (Decidable (∃ p ∈ r.relationships, p.isManyToMany = false ∧
    p.fromEntity ∈ r.entities.map (·.name) ∧ p.toEntity = entity ∧
    lower p.fromEntity = lower side))

/-- After a repair the entity with the name of a junction has the foreign key to a side: it is made
with it, it had it, or a relationship asks for it. A column that is made can be read when the side
has no dotted capital I. -/
def CarriesKey (r : Report) (junction side : String) : Prop :=
  (junction ∉ r.entities.map (·.name) ∧ '\u0130' ∉ side.toList) ∨
    ∃ e ∈ r.entities, e.name = junction ∧
      (HasForeignKey e.attributes (lower side ++ "_id") ∨
        r.AsksFor junction side ∧
          ('\u0130' ∉ side.toList ∨ ∃ a ∈ e.attributes, lower a.name = lower side ++ "_id"))

instance (r : Report) (junction side : String) : Decidable (r.CarriesKey junction side) :=
  inferInstanceAs (Decidable (
    (junction ∉ r.entities.map (·.name) ∧ '\u0130' ∉ side.toList) ∨
      ∃ e ∈ r.entities, e.name = junction ∧
        (HasForeignKey e.attributes (lower side ++ "_id") ∨
          r.AsksFor junction side ∧
            ('\u0130' ∉ side.toList ∨ ∃ a ∈ e.attributes, lower a.name = lower side ++ "_id"))))

end Report

namespace Repair

variable {e : Entity} {conflicting : List String} {fixes : List ForeignKeyFix}

/-- A repaired entity has a foreign key when it had it, or when it was asked for and its column can
be read. -/
theorem hasForeignKey_readable_iff (hfit : Fits conflicting fixes e) (hfaithful : e.Faithful)
    {side : String} (hside : IsWord side.toList) :
    HasForeignKey ((repairedAttributes e conflicting fixes).filter Attribute.isReadable)
        (lower side ++ "_id") ↔
      HasForeignKey e.attributes (lower side ++ "_id") ∨
        (∃ fix ∈ fixes, fixColumn fix = lower side ++ "_id") ∧
          ('\u0130' ∉ side.toList ∨ ∃ a ∈ e.attributes, lower a.name = lower side ++ "_id") := by
  have hkey := derivedFrom_key hside
  constructor
  · rintro ⟨a', ha', hforeign, hcolumn⟩
    obtain ⟨hmem, hreadable⟩ := List.mem_filter.mp ha'
    rcases mem_repairedAttributes hfit hmem with
      ⟨i, a, name, constraints, hi, hname, hconstraints, rfl⟩ | ⟨fix, hfix, -, rfl⟩
    · have ha : a ∈ e.attributes := List.mem_of_getElem? hi
      rw [Attribute.rewritten_name] at hcolumn
      cases hname with
      | key _ =>
        rw [lower_nameColumn] at hcolumn
        exact absurd hcolumn.symm hkey.ne_nameColumn
      | conflict _ hfree =>
        have hderived := derivedFrom_of_mem_freeNames hfaithful.name hfree
        rw [hderived.lower_eq] at hcolumn
        exact absurd hcolumn (ne_key_of_mem_nameCandidates (mem_freeNames hfree).1 _)
      | kept _ _ =>
        have hmarked := (isForeignKey_rewritten_iff _ (hfaithful.attributes a ha) hconstraints).mp
          hforeign
        rcases hmarked with hold | hfor
        · exact Or.inl ⟨a, ha, hold, hcolumn⟩
        · obtain ⟨fix, hfix, heq⟩ := hfor.missing
          exact Or.inr ⟨⟨fix, hfix, heq.trans hcolumn⟩, Or.inr ⟨a, ha, hcolumn⟩⟩
    · have hderived := hfit.derived fix hfix
      rw [addedAttribute_name] at hcolumn
      rw [addedAttribute, isReadable_referenceAttribute, hderived.all_isWordChar_iff,
        ← hderived.lower_eq, hcolumn, hkey.isWord_iff] at hreadable
      exact Or.inr ⟨⟨fix, hfix, hcolumn⟩, Or.inl hreadable⟩
  · rintro (hhas | ⟨⟨fix, hfix, hcolumn⟩, hread⟩)
    · exact hasForeignKey_of_mem hfit hfaithful hkey.ne_nameColumn hhas
    rw [← hcolumn] at hread ⊢
    by_cases hsome : ∃ a ∈ e.attributes, lower a.name = fixColumn fix
    · exact hasForeignKey_of_column hfit hfaithful hfix hsome
    -- the column is added, and its name is a word
    have hnone : ∀ a ∈ e.attributes, lower a.name ≠ fixColumn fix := by simpa using hsome
    have hderived := hfit.derived fix hfix
    have hreadable : (addedAttribute fix).isReadable = true := by
      rw [addedAttribute, isReadable_referenceAttribute, hderived.all_isWordChar_iff,
        ← hfit.fixColumn_eq hfix, hcolumn, hkey.isWord_iff]
      exact hread.resolve_right hsome
    refine ⟨addedAttribute fix, List.mem_filter.mpr ⟨addedAttribute_mem hfix hnone, hreadable⟩,
      referenceAttribute_isForeignKey _ _, ?_⟩
    rw [addedAttribute_name]
    rfl

/-- The names of the columns of a junction entity are in lower case. -/
theorem lower_name_madeEntity {fix : JunctionFix} (hfrom : IsWord fix.fromEntity.toList)
    (hto : IsWord fix.toEntity.toList) :
    ∀ a ∈ (madeEntity fix).attributes, lower a.name = a.name := by
  obtain ⟨hfirst, hsecond⟩ := derivedFrom_junctionColumns hfrom hto
  intro a ha
  simp only [madeEntity, List.mem_cons, List.not_mem_nil, or_false] at ha
  rcases ha with rfl | rfl | rfl
  · decide
  · rw [referenceAttribute_name, hfirst.lower_eq]
  · rw [referenceAttribute_name, hsecond.lower_eq]

/-- A junction entity that is made has the foreign key to a side without a dotted capital I. -/
theorem hasForeignKey_readable_madeEntity_iff {fix : JunctionFix}
    (hfrom : IsWord fix.fromEntity.toList) (hto : IsWord fix.toEntity.toList) {side : String}
    (h : side = fix.fromEntity ∨ side = fix.toEntity) :
    HasForeignKey (madeEntity fix).readable.attributes (lower side ++ "_id") ↔
      '\u0130' ∉ side.toList := by
  have hside : IsWord side.toList := by
    rcases h with rfl | rfl
    · exact hfrom
    · exact hto
  have hkey := derivedFrom_key hside
  have hread : ∀ a ∈ (madeEntity fix).attributes, lower a.name = lower side ++ "_id" →
      (a.isReadable = true ↔ '\u0130' ∉ side.toList) := by
    intro a ha hcolumn
    rw [lower_name_madeEntity hfrom hto a ha] at hcolumn
    rw [Attribute.isReadable, hcolumn, hkey.all_isWordChar_iff, hkey.isWord_iff]
  constructor
  · rintro ⟨a, ha, -, hcolumn⟩
    obtain ⟨hmem, hreadable⟩ := List.mem_filter.mp ha
    exact (hread a hmem hcolumn).mp hreadable
  · intro hundotted
    obtain ⟨a, ha, hforeign, hcolumn⟩ := hasForeignKey_madeEntity hfrom hto h
    exact ⟨a, List.mem_filter.mpr ⟨ha, (hread a ha hcolumn).mpr hundotted⟩, hforeign, hcolumn⟩

end Repair

namespace Diagram

variable {d : Diagram}

/-- The foreign key of a relationship is missing exactly when its second entity does not have it. -/
theorem raises_missingForeignKey_iff {p : Relationship} (hp : p ∈ d.relationships)
    (hone : p.isManyToMany = false) (hsource : p.fromEntity ∈ d.names) {target : Entity}
    (htarget : Entity.named? p.toEntity d.entities = some target) :
    (∃ entity, d.Raises entity
        (.missingForeignKey ⟨p.toEntity, p.expectedForeignKey, p.fromEntity⟩)) ↔
      ¬ HasForeignKey target.attributes p.expectedForeignKey := by
  constructor
  · rintro ⟨entity, hraises⟩ hhas
    generalize hfix : (⟨p.toEntity, p.expectedForeignKey, p.fromEntity⟩ : ForeignKeyFix) = fix
      at hraises
    cases hraises with
    | @missingForeignKey q target' _ _ _ htarget' hmissing =>
      obtain ⟨hto, hcolumn, -⟩ := ForeignKeyFix.mk.inj hfix
      rw [← (Entity.mem_of_named? htarget').2, ← hto, htarget] at htarget'
      obtain rfl := Option.some.inj htarget'
      rw [hcolumn, ← Relationship.hasForeignKey_iff, hmissing] at hhas
      cases hhas
  · intro hmissing
    rw [← Relationship.hasForeignKey_iff, Bool.not_eq_true] at hmissing
    have hraises := Raises.missingForeignKey hp hone hsource htarget hmissing
    rw [(Entity.mem_of_named? htarget).2] at hraises
    exact ⟨_, hraises⟩

theorem link_mem_repaired {fix : JunctionFix} (h : fix ∈ d.plan.junctions) {side : String}
    (hside : side = fix.fromEntity ∨ side = fix.toEntity) :
    link fix side ∈ d.repaired.relationships := by
  refine List.mem_append_right _ (List.mem_flatMap.mpr ⟨fix, h, ?_⟩)
  rcases hside with rfl | rfl
  · exact List.mem_cons_self
  · exact List.mem_cons_of_mem _ List.mem_cons_self

/-- A foreign key is to be added to an entity that lacks it exactly when a relationship asks for
it. -/
theorem exists_fix_iff_asksFor (h : d.Faithful) {e : Entity} (he : e ∈ d.entities) {side : String}
    (hmissing : ¬ HasForeignKey e.attributes (lower side ++ "_id")) :
    (∃ fix ∈ d.plan.foreignKeysOf e.name, fixColumn fix = lower side ++ "_id") ↔
      (Report.ofDiagram d).AsksFor e.name side := by
  have hexpected (p : Relationship) : p.expectedForeignKey = lower side ++ "_id" ↔
      lower p.fromEntity = lower side := by
    simp only [Relationship.expectedForeignKey, toString_text, String.append_left_inj]
  constructor
  · rintro ⟨fix, hfix, hcolumn⟩
    have hfixed := (h.fits he).fixColumn_eq hfix
    obtain ⟨p, hp, hmany, hfrom, hto, rfl⟩ := exists_of_mem_foreignKeysOf hfix
    exact ⟨p, hp, hmany, hfrom, hto, (hexpected p).mp (hfixed.symm.trans hcolumn)⟩
  · rintro ⟨p, hp, hmany, hfrom, hto, hlower⟩
    have hcolumn := (hexpected p).mpr hlower
    rw [← hcolumn] at hmissing ⊢
    exact exists_mem_foreignKeysOf h hp hmany hfrom he hto.symm hmissing

/-- A declared entity carries the keys that it had or is asked for. -/
theorem carriesKey_iff_of_mem (h : d.Faithful) {e : Entity} (he : e ∈ d.entities)
    {side : String} :
    (Report.ofDiagram d).CarriesKey e.name side ↔
      HasForeignKey e.attributes (lower side ++ "_id") ∨
        (∃ fix ∈ d.plan.foreignKeysOf e.name, fixColumn fix = lower side ++ "_id") ∧
          ('\u0130' ∉ side.toList ∨ ∃ a ∈ e.attributes, lower a.name = lower side ++ "_id") := by
  have hdeclared : e.name ∈ (Report.ofDiagram d).entities.map (·.name) := List.mem_map_of_mem he
  have hentity (P : Entity → Prop) :
      (∃ f ∈ (Report.ofDiagram d).entities, f.name = e.name ∧ P f) ↔ P e := by
    constructor
    · rintro ⟨f, hf, hname, hP⟩
      exact h.entity_unique hf he hname ▸ hP
    · exact fun hP => ⟨e, he, rfl, hP⟩
  rw [Report.CarriesKey, hentity, or_iff_right (fun hnew => hnew.1 hdeclared)]
  by_cases hhas : HasForeignKey e.attributes (lower side ++ "_id")
  · exact ⟨fun _ => Or.inl hhas, fun _ => Or.inl hhas⟩
  · rw [exists_fix_iff_asksFor h he hhas]

/-- A junction entity that is made carries its keys, up to names with a dotted capital I. -/
theorem carriesKey_iff_of_not_mem {junction side : String} (h : junction ∉ d.names) :
    (Report.ofDiagram d).CarriesKey junction side ↔ '\u0130' ∉ side.toList := by
  constructor
  · rintro (⟨-, hside⟩ | ⟨e, he, rfl, -⟩)
    · exact hside
    · exact absurd (List.mem_map_of_mem he) h
  · exact fun hside => Or.inl ⟨h, hside⟩

/-- The foreign key of a link is missing after a repair exactly when the junction entity does not
carry it. -/
theorem raises_link_iff (h : d.Faithful) {q : Relationship}
    (hreplaced : isReplaced d.plan.junctions q = true) {side : String}
    (hside : side = q.fromEntity ∨ side = q.toEntity) (hdeclared : side ∈ d.names) :
    (∃ entity, d.repaired.readable.Raises entity
        (.missingForeignKey ⟨q.junctionName, lower side ++ "_id", side⟩)) ↔
      ¬ (Report.ofDiagram d).CarriesKey q.junctionName side := by
  obtain ⟨-, hjunction⟩ := isReplaced_iff.mp hreplaced
  obtain ⟨-, hfrom, hto⟩ := h.junction_words hjunction
  have hword : IsWord side.toList := by
    rcases hside with rfl | rfl
    · exact hfrom
    · exact hto
  have hlink : link q.junction side ∈ d.repaired.readable.relationships :=
    link_mem_repaired hjunction hside
  have hsource : (link q.junction side).fromEntity ∈ d.repaired.readable.names := by
    rw [link_fromEntity, names_readable]
    exact mem_names_repaired hdeclared
  have hmissing {target : Entity}
      (htarget : Entity.named? q.junctionName d.repaired.readable.entities = some target) :
      (∃ entity, d.repaired.readable.Raises entity
          (.missingForeignKey ⟨q.junctionName, lower side ++ "_id", side⟩)) ↔
        ¬ HasForeignKey target.attributes (lower side ++ "_id") := by
    rw [← q.junction_junctionEntity, ← link_toEntity q.junction side] at htarget
    have hiff := raises_missingForeignKey_iff hlink (isManyToMany_link _ _) hsource htarget
    rwa [expectedForeignKey_link, link_fromEntity, link_toEntity] at hiff
  by_cases hknown : q.junctionName ∈ d.names
  · obtain ⟨e, he, hname⟩ := List.mem_map.mp hknown
    have hmem : repairedEntity d.plan e ∈ d.repaired.entities :=
      List.mem_append_left _ (List.mem_map_of_mem he)
    have htarget := named?_readable_repaired h hmem
    rw [hmissing (hname ▸ htarget), ← hname, carriesKey_iff_of_mem h he]
    exact (hasForeignKey_readable_iff (h.fits he) (h.entities e he) hword).not
  · have hcreated : q.junction ∈ d.created :=
      List.mem_filter.mpr ⟨hjunction, by simpa using hknown⟩
    have hmem : madeEntity q.junction ∈ d.repaired.entities :=
      List.mem_append_right _ (List.mem_map_of_mem hcreated)
    have htarget := named?_readable_repaired h hmem
    rw [hmissing htarget, carriesKey_iff_of_not_mem hknown]
    exact (hasForeignKey_readable_madeEntity_iff hfrom hto hside).not

end Diagram

theorem Report.missing_link_iff {text : String} {q : Relationship} {side : String}
    (hreplaced : isReplaced (Report.ofText text).plan.junctions q = true)
    (hside : side = q.fromEntity ∨ side = q.toEntity)
    (hdeclared : side ∈ (Report.ofText text).entities.map (·.name)) :
    (∃ f ∈ (Report.ofText text).corrected.findings,
        f.detail = .missingForeignKey ⟨q.junctionName, lower side ++ "_id", side⟩) ↔
      ¬ (Report.ofText text).CarriesKey q.junctionName side := by
  rw [Report.corrected_findings, Diagram.exists_detail_iff]
  exact Diagram.raises_link_iff (Diagram.faithful_ofText text) hreplaced hside hdeclared

/-- The links that replace a many-to-many relationship are there, and the foreign key that a link
from a declared side asks for is missing exactly when the junction entity does not carry it. A
junction entity that the repair makes carries both, up to names with a dotted capital I; a declared
one need not. -/
theorem correct_links_missing_iff {text : String} {q : Relationship} {side : String}
    (hreplaced : isReplaced (Report.ofText text).plan.junctions q = true)
    (hside : side = q.fromEntity ∨ side = q.toEntity)
    (hdeclared : side ∈ (Report.ofText text).entities.map (·.name)) :
    (∃ p ∈ (Report.ofText text).corrected.relationships,
        p.fromEntity = side ∧ p.symbols = "||--o\x7b" ∧ p.toEntity = q.fromEntity ++ q.toEntity) ∧
      ((∃ f ∈ (Report.ofText text).corrected.findings, f.detail =
          .missingForeignKey ⟨q.fromEntity ++ q.toEntity, lower side ++ "_id", side⟩) ↔
        ¬ (Report.ofText text).CarriesKey (q.fromEntity ++ q.toEntity) side) := by
  have hjunction := (Diagram.isReplaced_iff.mp hreplaced).2
  rw [Report.corrected_relationships]
  exact ⟨⟨link q.junction side, Diagram.link_mem_repaired hjunction hside, link_fromEntity _ _,
    link_symbols _ _, link_toEntity _ _⟩, Report.missing_link_iff hreplaced hside hdeclared⟩

def joinedText : String :=
  "A \x7b\n int id PK\n\x7d\nB \x7b\n int id PK\n\x7d\n"
    ++ "AB \x7b\n int id PK\n int A_id FK\n\x7d\nA \x7do--o\x7b B"

theorem correct_links_missing_iff_joined :
    (¬ ∃ f ∈ (Report.ofText joinedText).corrected.findings,
        f.detail = .missingForeignKey ⟨"AB", "a_id", "A"⟩) ∧
      ∃ f ∈ (Report.ofText joinedText).corrected.findings,
        f.detail = .missingForeignKey ⟨"AB", "b_id", "B"⟩ := by
  have hfacts : ∃ q ∈ (Diagram.ofText joinedText).relationships, q.isManyToMany = true ∧
      (Report.ofText joinedText).isCrowdedOut q = false ∧ q.fromEntity = "A" ∧
      q.toEntity = "B" := by decide +kernel
  have hnames : (Report.ofText joinedText).entities.map (·.name) = ["A", "B", "AB"] := by
    decide +kernel
  have hcarries : (Report.ofText joinedText).CarriesKey "AB" "A" ∧
      ¬ (Report.ofText joinedText).CarriesKey "AB" "B" := by
    decide +kernel
  have hcolumns : lower "A" ++ "_id" = "a_id" ∧ lower "B" ++ "_id" = "b_id" := by decide +kernel
  obtain ⟨q, hq, hmany, hcrowded, hfrom, hto⟩ := hfacts
  have hreplaced := Diagram.isReplaced_of_not_isCrowdedOut hq hmany hcrowded
  have hfirst := (correct_links_missing_iff hreplaced (Or.inl rfl) (by simp [hnames, hfrom])).2
  have hsecond := (correct_links_missing_iff hreplaced (Or.inr rfl) (by simp [hnames, hto])).2
  simp only [hfrom, hto, hcolumns.1, hcolumns.2] at hfirst hsecond
  exact ⟨hfirst.not.mpr (not_not.mpr hcarries.1), hsecond.mpr hcarries.2⟩

def takenText : String :=
  "A \x7b\n int id PK\n\x7d\nB \x7b\n int id PK\n\x7d\nAB \x7b\n int id PK\n\x7d\n"
    ++ "A \x7do--o\x7b B"

theorem correct_misses_links_of_declared_junction :
    ∃ q ∈ (Report.ofText takenText).relationships, q.isManyToMany = true ∧
      q.fromEntity ∈ (Report.ofText takenText).entities.map (·.name) ∧
      q.toEntity ∈ (Report.ofText takenText).entities.map (·.name) ∧
      isReplaced (Report.ofText takenText).plan.junctions q = true ∧
      ∃ f ∈ (Report.ofText takenText).corrected.findings, f.detail =
        .missingForeignKey
          ⟨q.fromEntity ++ q.toEntity, lower q.fromEntity ++ "_id", q.fromEntity⟩ := by
  have hfacts : ∃ q ∈ (Diagram.ofText takenText).relationships, q.isManyToMany = true ∧
      (Report.ofText takenText).isCrowdedOut q = false ∧
      q.fromEntity ∈ (Report.ofText takenText).entities.map (·.name) ∧
      q.toEntity ∈ (Report.ofText takenText).entities.map (·.name) ∧
      ¬ (Report.ofText takenText).CarriesKey q.junctionName q.fromEntity := by decide +kernel
  obtain ⟨q, hq, hmany, hcrowded, hfrom, hto, hcarries⟩ := hfacts
  have hreplaced := Diagram.isReplaced_of_not_isCrowdedOut hq hmany hcrowded
  exact ⟨q, hq, hmany, hfrom, hto, hreplaced,
    (Report.missing_link_iff hreplaced (Or.inl rfl) hfrom).mpr hcarries⟩

end EntityDiagram
