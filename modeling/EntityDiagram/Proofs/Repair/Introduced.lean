import EntityDiagram.Proofs.Repair.Distinct
import EntityDiagram.Proofs.Repair.ManyToMany

/-!
Findings that a repair brings about. Most of what a repair writes breaks no rule that was kept
before: primary keys stay, new names have an underscore, and links join entities that the replaced
relationship joined. There are four exceptions. The first primary key may be renamed to the name
that another one has; a junction entity gets the same column twice when its sides differ in case
only; a junction entity may be called like one that the platform offers; and an entity is left
without columns when no line of its repaired block can be read.
-/
namespace EntityDiagram

open Text Repair

def Repair.targets : List Rule := [.namingConflict, .missingForeignKey, .manyToMany]

namespace Report

def rules (r : Report) : List Rule := r.findings.map (·.rule)

inductive Introduces (r : Report) : Rule → Prop
  | renamedKey {e : Entity} {a : Attribute} (he : e ∈ r.entities)
      (hrenames : renamesKey e (r.plan.foreignKeysOf e.name) = true)
      (ha : a ∈ e.primaryKeys.tail) (hname : lower a.name = Entity.nameColumn) :
      Introduces r .duplicateColumns
  | madeColumns {fix : JunctionFix} (hfix : fix ∈ r.createdJunctions r.plan)
      (hsides : fix.fromEntity ≠ fix.toEntity)
      (hlower : lower fix.fromEntity = lower fix.toEntity)
      (hread : '\u0130' ∉ fix.fromEntity.toList) : Introduces r .duplicateColumns
  | madeName {fix : JunctionFix} (hfix : fix ∈ r.createdJunctions r.plan)
      (hcommon : (Platform.commonEntity? fix.junctionEntity).isSome = true) :
      Introduces r .platformEntity
  | unread {e : Entity} (he : e ∈ r.entities) (hdot : '\u0130' ∈ e.name.toList)
      (hcolumns : ∀ a ∈ e.attributes, isNameConflict a = true)
      (hfixes : ∀ fix ∈ r.plan.foreignKeysOf e.name, '\u0130' ∈ fix.referencedEntity.toList) :
      Introduces r .emptyEntity

end Report

theorem Entity.primaryKeys_readable {e : Entity}
    (h : ∀ a ∈ e.attributes, a.isPrimaryKey = true → a.isReadable = true) :
    e.readable.primaryKeys = e.primaryKeys := by
  rw [primaryKeys, primaryKeys, readable, List.filter_filter]
  refine List.filter_congr fun a ha => ?_
  cases hkey : a.isPrimaryKey with
  | false => rfl
  | true => rw [h a ha hkey, Bool.and_self]

namespace Repair

variable {e : Entity} {conflicting : List String} {fixes : List ForeignKeyFix}

section Columns

variable {before : List Attribute} {a : Attribute} {name : String}

theorem RenamedTo.eq_nameColumn (h : RenamedTo e fixes before a name)
    (hchosen : IsChosenKey e fixes before a) : name = Entity.nameColumn := by
  cases h with
  | key _ => rfl
  | conflict hconflict _ => simp [isNameConflict, hchosen.isPrimaryKey] at hconflict
  | kept hother _ => exact absurd hchosen hother

theorem RenamedTo.eq_name_of_isPrimaryKey (h : RenamedTo e fixes before a name)
    (hkey : a.isPrimaryKey = true) (hother : ¬ IsChosenKey e fixes before a) : name = a.name := by
  cases h with
  | key hchosen => exact absurd hchosen hother
  | conflict hconflict _ => simp [isNameConflict, hkey] at hconflict
  | kept _ _ => rfl

end Columns

/-- Primary keys of a repaired entity can be read. -/
theorem isReadable_of_isPrimaryKey (hfit : Fits conflicting fixes e) (hfaithful : e.Faithful) :
    ∀ a ∈ repairedAttributes e conflicting fixes, a.isPrimaryKey = true → a.isReadable = true := by
  intro a' ha' hkey
  rcases mem_repairedAttributes hfit ha' with
    ⟨i, a, name, constraints, hi, hname, hconstraints, rfl⟩ | ⟨fix, hfix, -, rfl⟩
  · have ha : a.Written := hfaithful.attributes a (List.mem_of_getElem? hi)
    rw [(flags_rewritten name ha hconstraints).1] at hkey
    apply (hname.isReadable_iff hfaithful.name ha constraints).mpr
    intro hconflict
    simp [isNameConflict, hkey] at hconflict
  · rw [addedAttribute, referenceAttribute_isPrimaryKey] at hkey
    cases hkey

/-- Two columns with one name that can be read make a column occur twice. -/
theorem not_nodup_of_getElem? {attributes : List Attribute} {i j : Nat} {a b : Attribute}
    (hlt : i < j) (hi : attributes[i]? = some a) (hj : attributes[j]? = some b)
    (ha : a.isReadable = true) (hb : b.isReadable = true) (hsame : lower a.name = lower b.name) :
    ¬ ((attributes.filter Attribute.isReadable).map fun a => lower a.name).Nodup := by
  intro hnodup
  rw [List.Nodup, List.pairwise_map, List.pairwise_filter, List.pairwise_iff_getElem] at hnodup
  obtain ⟨hilt, rfl⟩ := List.getElem?_eq_some_iff.mp hi
  obtain ⟨hjlt, rfl⟩ := List.getElem?_eq_some_iff.mp hj
  exact hnodup i j hilt hjlt hlt ha hb hsame

/-- A repaired entity has a column twice when its first primary key gets the name of another. -/
theorem not_nodup_readable (hfit : Fits conflicting fixes e) (hfaithful : e.Faithful)
    (hrenames : renamesKey e fixes = true) {b : Attribute} (hb : b ∈ e.primaryKeys.tail)
    (hlower : lower b.name = Entity.nameColumn) :
    ¬ (((repairedAttributes e conflicting fixes).filter Attribute.isReadable).map
      fun a => lower a.name).Nodup := by
  have hreadable := isReadable_of_isPrimaryKey hfit hfaithful
  obtain ⟨key, others, hkeys⟩ : ∃ key others, e.primaryKeys = key :: others :=
    List.exists_cons_of_ne_nil fun hnil => by simp [hnil] at hb
  rw [hkeys, List.tail_cons] at hb
  obtain ⟨before, after, hsplit, hbefore, hkey, hafter⟩ := List.filter_eq_cons_iff.mp hkeys
  rw [← hafter] at hb
  obtain ⟨hmem, hbkey⟩ := List.mem_filter.mp hb
  obtain ⟨between, rest, hrest⟩ := List.append_of_mem hmem
  have hchosen : IsChosenKey e fixes before key := ⟨hrenames, hkey, by simpa using hbefore⟩
  have hother : ¬ IsChosenKey e fixes (before ++ key :: between) b := by
    intro hchosen'
    have hfirst := hchosen'.first key (by simp)
    rw [hkey] at hfirst
    cases hfirst
  have hsplit' : e.attributes = (before ++ key :: between) ++ b :: rest := by
    rw [hsplit, hrest, List.append_assoc, List.cons_append]
  obtain ⟨x, c, hx, hc, hgetx⟩ := getElem?_repairedAttributes hfit hsplit
  obtain ⟨y, c', hy, hc', hgety⟩ := getElem?_repairedAttributes hfit hsplit'
  obtain rfl := hx.eq_nameColumn hchosen
  obtain rfl := hy.eq_name_of_isPrimaryKey hbkey hother
  have hkeyWritten : key.Written := hfaithful.attributes key (by simp [hsplit])
  have hbWritten : b.Written := hfaithful.attributes b (by simp [hsplit'])
  have hlength : before.length < (before ++ key :: between).length := by
    rw [List.length_append, List.length_cons]
    omega
  refine not_nodup_of_getElem? hlength hgetx hgety ?_ ?_ ?_
  · apply hreadable _ (List.mem_of_getElem? hgetx)
    rw [(flags_rewritten _ hkeyWritten hc).1, hkey]
  · apply hreadable _ (List.mem_of_getElem? hgety)
    rw [(flags_rewritten _ hbWritten hc').1, hbkey]
  · rw [Attribute.rewritten_name, Attribute.rewritten_name, lower_nameColumn, hlower]

/-- A name that a repair makes is no column of the platform. -/
theorem DerivedFrom.not_mem_systemColumns {stem name : String} (h : DerivedFrom stem name) :
    name ∉ Platform.systemColumns := by
  have hplain : ∀ column ∈ Platform.systemColumns, '_' ∉ column.toList := by decide
  exact fun hmem => hplain name hmem h.underscore

/-- A column of a repaired entity that is called like one of the platform was there before. -/
theorem exists_systemColumn (hfit : Fits conflicting fixes e) (hfaithful : e.Faithful)
    {a' : Attribute} (ha' : a' ∈ repairedAttributes e conflicting fixes)
    (hsystem : lower a'.name ∈ Platform.systemColumns) :
    ∃ a ∈ e.attributes, lower a.name ∈ Platform.systemColumns := by
  rcases mem_repairedAttributes hfit ha' with
    ⟨i, a, name, constraints, hi, hname, -, rfl⟩ | ⟨fix, hfix, -, rfl⟩
  · rw [Attribute.rewritten_name] at hsystem
    cases hname with
    | key _ =>
      rw [lower_nameColumn] at hsystem
      exact absurd hsystem (by decide)
    | conflict _ hfree =>
      have hderived := derivedFrom_of_mem_freeNames hfaithful.name hfree
      rw [hderived.lower_eq] at hsystem
      exact absurd hsystem hderived.not_mem_systemColumns
    | kept _ _ => exact ⟨a, List.mem_of_getElem? hi, hsystem⟩
  · have hderived := hfit.derived fix hfix
    rw [addedAttribute_name, hderived.lower_eq] at hsystem
    exact absurd hsystem hderived.not_mem_systemColumns

/-- No line of a repaired block can be read exactly when all columns get names of the entity, which
has a dotted capital I, and all added ones refer to entities with one. -/
theorem filter_isReadable_eq_nil_iff (hfit : Fits conflicting fixes e) (hfaithful : e.Faithful)
    (hne : e.attributes ≠ []) :
    (repairedAttributes e conflicting fixes).filter Attribute.isReadable = [] ↔
      '\u0130' ∈ e.name.toList ∧ (∀ a ∈ e.attributes, isNameConflict a = true) ∧
        ∀ fix ∈ fixes, '\u0130' ∈ fix.referencedEntity.toList := by
  rw [List.filter_eq_nil_iff]
  have hadded (fix : ForeignKeyFix) (hfix : fix ∈ fixes) :
      ¬ (addedAttribute fix).isReadable = true ↔ '\u0130' ∈ fix.referencedEntity.toList := by
    have hderived := hfit.derived fix hfix
    rw [addedAttribute, isReadable_referenceAttribute, hderived.all_isWordChar_iff,
      hderived.isWord_iff, not_not]
  constructor
  · intro hunread
    have hcolumns : ∀ a ∈ e.attributes, isNameConflict a = true ∧ '\u0130' ∈ e.name.toList := by
      intro a ha
      obtain ⟨before, after, hsplit⟩ := List.append_of_mem ha
      obtain ⟨name, constraints, hname, -, hget⟩ := getElem?_repairedAttributes hfit hsplit
      have hnot := hunread _ (List.mem_of_getElem? hget)
      rw [hname.isReadable_iff hfaithful.name (hfaithful.attributes a ha)] at hnot
      simpa using hnot
    obtain ⟨first, others, hfirst⟩ := List.exists_cons_of_ne_nil hne
    refine ⟨(hcolumns first (by simp [hfirst])).2, fun a ha => (hcolumns a ha).1, ?_⟩
    intro fix hfix
    apply (hadded fix hfix).mp
    apply hunread
    apply addedAttribute_mem hfix
    intro a ha hcolumn
    have hconflict := (hcolumns a ha).1
    simp only [isNameConflict, Bool.and_eq_true, decide_eq_true_eq] at hconflict
    exact (hfit.derivedFrom_fixColumn hfix).ne_nameColumn (hcolumn.symm.trans hconflict.2)
  · rintro ⟨hdot, hcolumns, hfixes⟩ a' ha'
    rcases mem_repairedAttributes hfit ha' with
      ⟨i, a, name, constraints, hi, hname, -, rfl⟩ | ⟨fix, hfix, -, rfl⟩
    · have ha := List.mem_of_getElem? hi
      rw [hname.isReadable_iff hfaithful.name (hfaithful.attributes a ha)]
      exact fun hread => hread (hcolumns a ha) hdot
    · exact (hadded fix hfix).mpr (hfixes fix hfix)

/-- A junction entity has a column twice exactly when its sides differ in case only and can be
read. -/
theorem not_nodup_madeEntity_iff {fix : JunctionFix} (hfrom : IsWord fix.fromEntity.toList)
    (hto : IsWord fix.toEntity.toList) :
    ¬ ((madeEntity fix).readable.attributes.map fun a => lower a.name).Nodup ↔
      fix.fromEntity ≠ fix.toEntity ∧ lower fix.fromEntity = lower fix.toEntity ∧
        '\u0130' ∉ fix.fromEntity.toList := by
  have hfirst := (derivedFrom_junctionColumns hfrom hto).1
  by_cases hapart : fix.fromEntity = fix.toEntity ∨ lower fix.fromEntity ≠ lower fix.toEntity
  · have hnodup : ((madeEntity fix).readable.attributes.map fun a => lower a.name).Nodup :=
      (nodup_madeEntity hfrom hto hapart).sublist (List.filter_sublist.map _)
    constructor
    · exact fun hnot => absurd hnodup hnot
    · rintro ⟨hsides, hlower, -⟩
      exact (hapart.elim hsides fun hne => hne hlower).elim
  · obtain ⟨hsides, hlower⟩ := not_or.mp hapart
    rw [not_not] at hlower
    have hcolumns : (junctionColumns fix).2 = (junctionColumns fix).1 := by
      simp [junctionColumns, hsides, hlower]
    have hread := hfirst.all_isWordChar_iff.trans hfirst.isWord_iff
    by_cases hdot : '\u0130' ∈ fix.fromEntity.toList
    · -- neither column can be read
      have hunread : (junctionColumns fix).1.toList.all isWordChar = false := by
        rw [Bool.eq_false_iff, Ne, hread]
        exact not_not.mpr hdot
      have hkey : (madeEntity fix).readable.attributes = [keyAttribute] := by
        simp [madeEntity, Entity.readable, written_keyAttribute.isReadable, hcolumns, hunread]
      rw [hkey, List.map_singleton]
      constructor
      · exact fun hnot => absurd (List.nodup_singleton _) hnot
      · exact fun hfree => absurd hdot hfree.2.2
    · refine ⟨fun _ => ⟨hsides, hlower, hdot⟩, fun _ => ?_⟩
      apply not_nodup_of_getElem? (i := 1) (j := 2) (by omega) rfl rfl
      · rw [isReadable_referenceAttribute, hread]
        exact hdot
      · rw [isReadable_referenceAttribute, hcolumns, hread]
        exact hdot
      · rw [referenceAttribute_name, referenceAttribute_name, hcolumns]

theorem keyAttribute_mem_readable (fix : JunctionFix) :
    keyAttribute ∈ (madeEntity fix).readable.attributes :=
  List.mem_filter.mpr ⟨List.mem_cons_self, written_keyAttribute.isReadable⟩

theorem length_primaryKeys_readable_madeEntity (fix : JunctionFix) :
    (madeEntity fix).readable.primaryKeys.length = 1 := by
  rw [Entity.primaryKeys_readable, length_primaryKeys_madeEntity]
  intro a ha hkey
  simp only [madeEntity, List.mem_cons, List.not_mem_nil, or_false] at ha
  rcases ha with rfl | rfl | rfl
  · exact written_keyAttribute.isReadable
  · rw [referenceAttribute_isPrimaryKey] at hkey
    cases hkey
  · rw [referenceAttribute_isPrimaryKey] at hkey
    cases hkey

theorem not_mem_systemColumns_madeEntity {fix : JunctionFix} (hfrom : IsWord fix.fromEntity.toList)
    (hto : IsWord fix.toEntity.toList) :
    ∀ a ∈ (madeEntity fix).attributes, lower a.name ∉ Platform.systemColumns := by
  obtain ⟨hfirst, hsecond⟩ := derivedFrom_junctionColumns hfrom hto
  intro a ha
  simp only [madeEntity, List.mem_cons, List.not_mem_nil, or_false] at ha
  rcases ha with rfl | rfl | rfl
  · decide
  · rw [referenceAttribute_name, hfirst.lower_eq]
    exact hfirst.not_mem_systemColumns
  · rw [referenceAttribute_name, hsecond.lower_eq]
    exact hsecond.not_mem_systemColumns

end Repair

namespace Diagram

variable {d : Diagram} {e : Entity}

/-- A repaired entity that is read again has as many primary keys as before. -/
theorem length_primaryKeys_readable (h : d.Faithful) (he : e ∈ d.entities) :
    (repairedEntity d.plan e).readable.primaryKeys.length = e.primaryKeys.length := by
  rw [Entity.primaryKeys_readable (isReadable_of_isPrimaryKey (h.fits he) (h.entities e he))]
  exact length_primaryKeys_repaired (h.fits he) (h.entities e he)

/-- An entity that is read again is a declared one, repaired, or a junction that was made. -/
theorem mem_entities_readable_repaired {e' : Entity} (h : e' ∈ d.repaired.readable.entities) :
    (∃ e ∈ d.entities, e' = (repairedEntity d.plan e).readable) ∨
      ∃ fix ∈ d.created, e' = (madeEntity fix).readable := by
  obtain ⟨f, hf, rfl⟩ := List.mem_map.mp h
  rcases List.mem_append.mp hf with hf | hf
  · obtain ⟨e, he, rfl⟩ := List.mem_map.mp hf
    exact Or.inl ⟨e, he, rfl⟩
  · obtain ⟨fix, hfix, rfl⟩ := List.mem_map.mp hf
    exact Or.inr ⟨fix, hfix, rfl⟩

theorem mem_readable_repaired_of_mem (he : e ∈ d.entities) :
    (repairedEntity d.plan e).readable ∈ d.repaired.readable.entities :=
  List.mem_map_of_mem (List.mem_append_left _ (List.mem_map_of_mem he))

theorem mem_readable_repaired_of_created {fix : JunctionFix} (hfix : fix ∈ d.created) :
    (madeEntity fix).readable ∈ d.repaired.readable.entities :=
  List.mem_map_of_mem (List.mem_append_right _ (List.mem_map_of_mem hfix))

theorem Faithful.created_words (h : d.Faithful) {fix : JunctionFix} (hfix : fix ∈ d.created) :
    IsWord fix.fromEntity.toList ∧ IsWord fix.toEntity.toList :=
  (h.junction_words (List.mem_filter.mp hfix).1).2

def Breaks (d : Diagram) (rule : Rule) : Prop :=
  ∃ entity detail, d.Raises entity detail ∧ detail.rule = rule

theorem Raises.breaks {entity : Option String} {detail : Detail} (h : d.Raises entity detail) :
    d.Breaks detail.rule :=
  ⟨entity, detail, h, rfl⟩

theorem mem_rules_iff {rule : Rule} : rule ∈ (Report.ofDiagram d).rules ↔ d.Breaks rule := by
  rw [Breaks, ← exists_rule_iff, Report.rules, List.mem_map]
  rfl

section Repaired

variable {e' : Entity} (he' : e' ∈ d.repaired.readable.entities)
include he'

theorem platformEntity_cases {m : Platform.Match} (hmatch : Platform.match? e' = some m) :
    d.Breaks .platformEntity ∨ (Report.ofDiagram d).Introduces .platformEntity := by
  rcases mem_entities_readable_repaired he' with ⟨e, he, rfl⟩ | ⟨fix, hfix, rfl⟩
  · exact Or.inl (Raises.platformEntity he hmatch).breaks
  · rw [← createdJunctions_ofDiagram] at hfix
    refine Or.inr (.madeName hfix ?_)
    obtain ⟨common, hcommon, -⟩ := Option.map_eq_some_iff.mp hmatch
    exact Option.isSome_of_eq_some hcommon

variable (h : d.Faithful)
include h

/-- The number of primary keys is one, or that of a declared entity. -/
theorem length_primaryKeys_cases :
    e'.primaryKeys.length = 1 ∨ ∃ e ∈ d.entities, e.primaryKeys.length = e'.primaryKeys.length := by
  rcases mem_entities_readable_repaired he' with ⟨e, he, rfl⟩ | ⟨fix, -, rfl⟩
  · exact Or.inr ⟨e, he, (length_primaryKeys_readable h he).symm⟩
  · exact Or.inl (length_primaryKeys_readable_madeEntity fix)

theorem breaks_of_systemConflicts (hsystem : e'.systemConflicts ≠ []) :
    d.Breaks .systemColumnConflict := by
  have hiff (f : Entity) : f.systemConflicts ≠ [] ↔
      ∃ a ∈ f.attributes, lower a.name ∈ Platform.systemColumns := by
    simp [Entity.systemConflicts]
  obtain ⟨a, ha, hcolumn⟩ := (hiff e').mp hsystem
  rcases mem_entities_readable_repaired he' with ⟨e, he, rfl⟩ | ⟨fix, hfix, rfl⟩
  · have hold := exists_systemColumn (h.fits he) (h.entities e he) (List.mem_filter.mp ha).1 hcolumn
    exact (Raises.systemColumnConflict he ((hiff e).mpr hold)).breaks
  · obtain ⟨hfrom, hto⟩ := h.created_words hfix
    have hmem := (List.mem_filter.mp ha).1
    exact absurd hcolumn (not_mem_systemColumns_madeEntity hfrom hto a hmem)

theorem duplicateColumns_cases
    (hdup : ¬ (e'.attributes.map fun a => lower a.name).Nodup) :
    d.Breaks .duplicateColumns ∨ (Report.ofDiagram d).Introduces .duplicateColumns := by
  rcases mem_entities_readable_repaired he' with ⟨e, he, rfl⟩ | ⟨fix, hfix, rfl⟩
  · by_cases hnodup : (e.attributes.map fun a => lower a.name).Nodup
    · have hfree : ¬ NameFree e (d.plan.foreignKeysOf e.name) := by
        intro hfree
        have hrepaired := nodup_repairedAttributes (h.fits he) (h.entities e he) hfree hnodup
        exact hdup (hrepaired.sublist (List.filter_sublist.map _))
      simp only [NameFree, not_forall, not_not] at hfree
      obtain ⟨hrenames, a, ha, hname⟩ := hfree
      exact Or.inr (.renamedKey he hrenames ha hname)
    · exact Or.inl (Raises.duplicateColumns he hnodup).breaks
  · obtain ⟨hfrom, hto⟩ := h.created_words hfix
    obtain ⟨hsides, hlower, hread⟩ := (not_nodup_madeEntity_iff hfrom hto).mp hdup
    rw [← createdJunctions_ofDiagram] at hfix
    exact Or.inr (.madeColumns hfix hsides hlower hread)

theorem emptyEntity_cases (hempty : e'.attributes = []) :
    d.Breaks .emptyEntity ∨ (Report.ofDiagram d).Introduces .emptyEntity := by
  rcases mem_entities_readable_repaired he' with ⟨e, he, rfl⟩ | ⟨fix, -, rfl⟩
  · by_cases hnone : e.attributes = []
    · exact Or.inl (Raises.emptyEntity he hnone).breaks
    · obtain ⟨hdot, hcolumns, hfixes⟩ :=
        (filter_isReadable_eq_nil_iff (h.fits he) (h.entities e he) hnone).mp hempty
      exact Or.inr (.unread he hdot hcolumns hfixes)
  · exact absurd (keyAttribute_mem_readable fix) (by simp [hempty])

end Repaired

/-- A side of a relationship that is not declared after a repair is one of a relationship that was
there before. -/
theorem breaks_of_missingSide {q : Relationship} (hq : q ∈ d.repaired.relationships) {name : String}
    (hside : name = q.fromEntity ∨ name = q.toEntity) (hmissing : name ∉ d.repaired.names) :
    d.Breaks .missingEntity := by
  have hnew : name ∉ d.names := fun hmem => hmissing (mem_names_repaired hmem)
  have hbreaks (p : Relationship) (hp : p ∈ d.relationships)
      (hside : name = p.fromEntity ∨ name = p.toEntity) : d.Breaks .missingEntity := by
    rcases hside with rfl | rfl
    · exact (Raises.missingSource hp hnew).breaks
    · exact (Raises.missingTarget hp hnew).breaks
  rcases mem_relationships_repaired hq with ⟨hold, -⟩ | ⟨fix, hfix, side, hlink, rfl⟩
  · exact hbreaks q hold hside
  · obtain ⟨p, hp, -, rfl⟩ := exists_of_mem_junctions hfix
    rw [link_fromEntity, link_toEntity] at hside
    rcases hside with rfl | rfl
    · exact hbreaks p hp hlink
    · exact absurd (junctionEntity_mem_names hfix) hmissing

/-- A link joins two entities. -/
theorem ne_junctionEntity (h : d.Faithful) {fix : JunctionFix} (hfix : fix ∈ d.plan.junctions)
    {side : String} (hside : side = fix.fromEntity ∨ side = fix.toEntity) :
    side ≠ fix.junctionEntity := by
  obtain ⟨-, hfrom, hto⟩ := h.junction_words hfix
  obtain ⟨p, -, -, rfl⟩ := exists_of_mem_junctions hfix
  have hfromLength := List.length_pos_of_ne_nil hfrom.ne_nil
  have htoLength := List.length_pos_of_ne_nil hto.ne_nil
  intro heq
  have hlength := congrArg (fun name => name.toList.length) heq
  simp only [Relationship.junction_junctionEntity, Relationship.junctionName,
    String.toList_append, List.length_append] at hlength
  rcases hside with rfl | rfl
  · simp only [Relationship.junction_fromEntity, Relationship.junction_toEntity] at *
    omega
  · simp only [Relationship.junction_fromEntity, Relationship.junction_toEntity] at *
    omega

theorem breaks_of_selfReference (h : d.Faithful) {q : Relationship}
    (hq : q ∈ d.repaired.relationships) (hself : q.fromEntity = q.toEntity) :
    d.Breaks .selfReference := by
  rcases mem_relationships_repaired hq with ⟨hold, -⟩ | ⟨fix, hfix, side, hlink, rfl⟩
  · exact (Raises.selfReference hold hself).breaks
  · rw [link_fromEntity, link_toEntity] at hself
    exact absurd hself (ne_junctionEntity h hfix hlink)

/-- A rule that is broken after a repair was broken before, is one that the repair is for, or is
broken by the repair. -/
theorem breaks_cases (h : d.Faithful) {entity : Option String} {detail : Detail}
    (hraises : d.repaired.readable.Raises entity detail) (htarget : detail.rule ∉ targets) :
    d.Breaks detail.rule ∨ (Report.ofDiagram d).Introduces detail.rule := by
  cases hraises with
  | missingPrimaryKey he hnone =>
    left
    rcases length_primaryKeys_cases he h with hone | ⟨e, hold, hlength⟩
    · simp [hnone] at hone
    · rw [hnone, List.length_nil, List.length_eq_zero_iff] at hlength
      exact (Raises.missingPrimaryKey hold hlength).breaks
  | multiplePrimaryKeys he hmany =>
    left
    rcases length_primaryKeys_cases he h with hone | ⟨e, hold, hlength⟩
    · omega
    · rw [← hlength] at hmany
      exact (Raises.multiplePrimaryKeys hold hmany).breaks
  | duplicateColumns he hdup => exact duplicateColumns_cases he h hdup
  | emptyEntity he hempty => exact emptyEntity_cases he h hempty
  | systemColumnConflict he hsystem => exact Or.inl (breaks_of_systemConflicts he h hsystem)
  | missingSource hq hmissing =>
    rw [names_readable] at hmissing
    exact Or.inl (breaks_of_missingSide hq (Or.inl rfl) hmissing)
  | missingTarget hq hmissing =>
    rw [names_readable] at hmissing
    exact Or.inl (breaks_of_missingSide hq (Or.inr rfl) hmissing)
  | selfReference hq hself => exact Or.inl (breaks_of_selfReference h hq hself)
  | platformEntity he hmatch => exact platformEntity_cases he hmatch
  | namingConflict _ _ => simp [targets, Detail.rule] at htarget
  | manyToMany _ _ => simp [targets, Detail.rule] at htarget
  | missingForeignKey _ _ _ _ _ => simp [targets, Detail.rule] at htarget

/-- What a repair breaks is broken. -/
theorem breaks_of_introduces (h : d.Faithful) {rule : Rule} (hnew : ¬ d.Breaks rule)
    (hrule : (Report.ofDiagram d).Introduces rule) : d.repaired.readable.Breaks rule := by
  cases hrule with
  | @renamedKey e a he hrenames ha hname =>
    exact (Raises.duplicateColumns (mem_readable_repaired_of_mem he)
      (not_nodup_readable (h.fits he) (h.entities e he) hrenames ha hname)).breaks
  | madeColumns hfix hsides hlower hread =>
    have hfix : _ ∈ d.created := createdJunctions_ofDiagram d ▸ hfix
    obtain ⟨hfrom, hto⟩ := h.created_words hfix
    exact (Raises.duplicateColumns (mem_readable_repaired_of_created hfix)
      ((not_nodup_madeEntity_iff hfrom hto).mpr ⟨hsides, hlower, hread⟩)).breaks
  | madeName hfix hcommon =>
    have hfix : _ ∈ d.created := createdJunctions_ofDiagram d ▸ hfix
    obtain ⟨common, hcommon⟩ := Option.isSome_iff_exists.mp hcommon
    exact (Raises.platformEntity (mem_readable_repaired_of_created hfix)
      (Option.map_eq_some_iff.mpr ⟨common, hcommon, rfl⟩)).breaks
  | @unread e he hdot hcolumns hfixes =>
    have hne : e.attributes ≠ [] := fun hnil => hnew (Raises.emptyEntity he hnil).breaks
    exact (Raises.emptyEntity (mem_readable_repaired_of_mem he)
      ((filter_isReadable_eq_nil_iff (h.fits he) (h.entities e he) hne).mpr
        ⟨hdot, hcolumns, hfixes⟩)).breaks

theorem not_breaks_duplicateColumns
    (h : ∀ e ∈ d.entities, (e.attributes.map fun a => lower a.name).Nodup) :
    ¬ d.Breaks .duplicateColumns := by
  rintro ⟨entity, detail, hraises, hrule⟩
  cases hraises with
  | duplicateColumns he hdup => exact hdup (h _ he)
  | _ => cases hrule

end Diagram

/-- A rule that repair is not for and that no finding was about has a finding after the repair
exactly when the repair introduces it, on every text: by a renamed key, by the columns or the name
of a junction entity, or by columns that cannot be read. -/
theorem correct_introduces_iff {text : String} {rule : Rule} (htarget : rule ∉ targets)
    (hnew : rule ∉ (Report.ofText text).rules) :
    rule ∈ (Report.ofText text).corrected.rules ↔ (Report.ofText text).Introduces rule := by
  have hfaithful := Diagram.faithful_ofText text
  rw [Report.ofText, Diagram.mem_rules_iff] at hnew
  rw [Report.corrected_ofText_readable, Diagram.mem_rules_iff]
  constructor
  · rintro ⟨entity, detail, hraises, rfl⟩
    exact (Diagram.breaks_cases hfaithful hraises htarget).resolve_left hnew
  · exact Diagram.breaks_of_introduces hfaithful hnew

/-- The second primary key has the name that the first one gets. -/
def tagText : String := "TAG \x7b\n int id PK\n int name PK\n\x7d"

theorem correct_introduces_iff_tag :
    Rule.duplicateColumns ∉ targets ∧ Rule.duplicateColumns ∉ (Report.ofText tagText).rules ∧
      Rule.duplicateColumns ∈ (Report.ofText tagText).corrected.rules := by
  have htarget : Rule.duplicateColumns ∉ targets := by decide
  have hfacts : ∃ e ∈ (Diagram.ofText tagText).entities, renamesKey e [] = true ∧
      ∃ a ∈ e.primaryKeys.tail, lower a.name = Entity.nameColumn := by decide +kernel
  have hdistinct : ∀ e ∈ (Diagram.ofText tagText).entities,
      (e.attributes.map fun a => lower a.name).Nodup := by decide +kernel
  have hnone : (Diagram.ofText tagText).relationships = [] := by decide +kernel
  have hnew : Rule.duplicateColumns ∉ (Report.ofText tagText).rules :=
    Diagram.mem_rules_iff.not.mpr (Diagram.not_breaks_duplicateColumns hdistinct)
  obtain ⟨e, he, hrenames, a, ha, hname⟩ := hfacts
  have hfixes : (Diagram.ofText tagText).plan.foreignKeysOf e.name = [] := by
    rw [List.eq_nil_iff_forall_not_mem]
    intro fix hfix
    obtain ⟨q, hq, -⟩ := Diagram.exists_of_mem_foreignKeysOf hfix
    rw [hnone] at hq
    cases hq
  have hintroduces : (Report.ofText tagText).Introduces .duplicateColumns :=
    .renamedKey he (hfixes ▸ hrenames) ha hname
  exact ⟨htarget, hnew, (correct_introduces_iff htarget hnew).mpr hintroduces⟩

/-- The two sides of a many-to-many relationship differ in case only. -/
def nodesText : String :=
  "Node \x7b\n int id PK\n\x7d\nnode \x7b\n int id PK\n\x7d\nNode \x7do--o\x7b node"

theorem correct_raises_new_duplicate :
    Rule.duplicateColumns ∉ targets ∧ Rule.duplicateColumns ∉ (Report.ofText nodesText).rules ∧
      Rule.duplicateColumns ∈ (Report.ofText nodesText).corrected.rules := by
  have hfacts : ∃ q ∈ (Diagram.ofText nodesText).relationships, q.isManyToMany = true ∧
      (Report.ofText nodesText).isCrowdedOut q = false ∧
      q.junctionName ∉ (Diagram.ofText nodesText).names ∧ q.fromEntity ≠ q.toEntity ∧
      lower q.fromEntity = lower q.toEntity ∧ '\u0130' ∉ q.fromEntity.toList := by decide +kernel
  have hdistinct : ∀ e ∈ (Diagram.ofText nodesText).entities,
      (e.attributes.map fun a => lower a.name).Nodup := by decide +kernel
  have hnew := Diagram.not_breaks_duplicateColumns hdistinct
  obtain ⟨q, hq, hmany, hcrowded, hundeclared, hsides, hlower, hread⟩ := hfacts
  have hreplaced := Diagram.isReplaced_of_not_isCrowdedOut hq hmany hcrowded
  have hcreated : q.junction ∈ (Diagram.ofText nodesText).created :=
    List.mem_filter.mpr ⟨(Diagram.isReplaced_iff.mp hreplaced).2, by simpa using hundeclared⟩
  rw [← createdJunctions_ofDiagram] at hcreated
  refine ⟨by decide, Diagram.mem_rules_iff.not.mpr hnew, ?_⟩
  rw [Report.corrected_ofText_readable, Diagram.mem_rules_iff]
  exact Diagram.breaks_of_introduces (Diagram.faithful_ofText nodesText) hnew
    (.madeColumns hcreated hsides hlower hread)

end EntityDiagram
