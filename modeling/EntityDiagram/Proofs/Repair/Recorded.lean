import EntityDiagram.Proofs.Repair.Convergence

/-!
Recorded changes. A repair records every column that gets another name, becomes a foreign key or is
added, and every junction entity that it makes. So nothing is recorded exactly when the entities are
as they were. The relationships need not be: no change is recorded for a many-to-many relationship
that gives way to links, and when its junction entity is declared nothing else is either.
-/
namespace EntityDiagram

open Text Repair

namespace Repair

variable {e : Entity} {conflicting : List String}

/-- The mark of a foreign key changes the constraints of a column that is none. -/
theorem withMark_ne {a : Attribute} (ha : a.Written) (h : a.isForeignKey = false) :
    Attribute.withMark a.constraints ≠ a.constraints := by
  intro hsame
  obtain ⟨-, -, -, hmark⟩ := Attribute.flags_withMark ha.parts.trimmed
  rw [hsame, ← ha.hasFlagsOf.isForeignKey, h] at hmark
  cases hmark

/-- No change is recorded for a column exactly when it is as it was. -/
theorem columnChanges_eq_nil_iff {state : State} {a : Attribute} (ha : a.Written) :
    columnChanges e conflicting state a = [] ↔
      (repairColumn e conflicting state a).attribute = a := by
  have hchanges : columnChanges e conflicting state a = [] ↔
      repairedName conflicting state a = a.name ∧ isMarked state a = false := by
    rw [columnChanges, List.append_eq_nil_iff]
    simp
  rw [hchanges]
  constructor
  · rintro ⟨hname, hmarked⟩
    have hconstraints : repairedConstraints state a = a.constraints := by
      simp [repairedConstraints, hmarked]
    rw [repairColumn, Column.attribute, hname, hconstraints]
    exact ha.rewritten_self
  · intro hsame
    refine ⟨?_, ?_⟩
    · rw [← Attribute.rewritten_name a (repairedName conflicting state a)
        (repairedConstraints state a)]
      exact congrArg Attribute.name hsame
    · by_contra hmarked
      rw [Bool.not_eq_false] at hmarked
      have hforeign : a.isForeignKey = false := by
        simp only [isMarked, Bool.and_eq_true, Bool.not_eq_true'] at hmarked
        exact hmarked.2
      have hkept := congrArg Attribute.constraints hsame
      rw [repairColumn, Column.attribute, Attribute.rewritten_constraints, repairedConstraints,
        if_pos hmarked] at hkept
      exact withMark_ne ha hforeign hkept

/-- No change is recorded for columns exactly when they are as they were. -/
theorem changes_repairColumns_eq_nil_iff (e : Entity) (conflicting : List String) (state : State)
    {columns : List Attribute} (hwritten : ∀ a ∈ columns, a.Written) :
    (repairColumns e conflicting state columns).1.flatMap (·.changes) = [] ↔
      (repairColumns e conflicting state columns).1.map Column.attribute = columns := by
  induction columns generalizing state with
  | nil => exact iff_of_true rfl rfl
  | cons a rest ih =>
    have ha := hwritten a List.mem_cons_self
    have hrest := ih (advance conflicting state a)
      fun b hb => hwritten b (List.mem_cons_of_mem _ hb)
    rw [repairColumns, List.flatMap_cons, List.append_eq_nil_iff, hrest, List.map_cons,
      List.cons.injEq, ← columnChanges_eq_nil_iff ha]
    rfl

/-- No change is recorded for an entity exactly when it is as it was. -/
theorem changes_entityBlock_eq_nil_iff {plan : Plan} (hfaithful : e.Faithful) :
    (entityBlock plan e).changes = [] ↔ repairedEntity plan e = e := by
  have hcolumns := changes_repairColumns_eq_nil_iff e (plan.conflictsOf e.name)
    (start e (plan.foreignKeysOf e.name)) hfaithful.attributes
  have hentity : repairedEntity plan e = e ↔
      repairedAttributes e (plan.conflictsOf e.name) (plan.foreignKeysOf e.name) =
        e.attributes :=
    ⟨fun h => congrArg Entity.attributes h, fun h => by rw [repairedEntity, h]⟩
  have hlength := length_repairColumns e (plan.conflictsOf e.name)
    (start e (plan.foreignKeysOf e.name)) e.attributes
  rw [hentity, entityBlock, List.append_eq_nil_iff, entityColumns, hcolumns, List.map_eq_nil_iff,
    repairedAttributes]
  constructor
  · rintro ⟨hsame, hpending⟩
    rw [hsame, hpending, List.map_nil, List.append_nil]
  · intro hsame
    have hpending : ((repairColumns e (plan.conflictsOf e.name)
        (start e (plan.foreignKeysOf e.name)) e.attributes).2.pending.map addedAttribute).length =
          0 := by
      have hall := congrArg List.length hsame
      rw [List.length_append, List.length_map, hlength] at hall
      omega
    have hnone := List.eq_nil_of_length_eq_zero hpending
    rw [hnone, List.append_nil] at hsame
    exact ⟨hsame, List.map_eq_nil_iff.mp hnone⟩

end Repair

namespace Diagram

variable {d : Diagram}

/-- The recorded changes are those of the entities, in their order, and the junctions that are
made. -/
theorem changes_correct (d : Diagram) :
    (Report.ofDiagram d).correct.changes =
      (d.entities.flatMap fun e => (entityBlock d.plan e).changes) ++
        d.created.map Change.junction := by
  rw [← createdJunctions_ofDiagram, ← List.flatMap_map]
  rfl

/-- Nothing is recorded exactly when the entities are as they were. -/
theorem changes_correct_eq_nil_iff (h : d.Faithful) :
    (Report.ofDiagram d).correct.changes = [] ↔ d.repaired.entities = d.entities := by
  have hentities : (∀ e ∈ d.entities, (entityBlock d.plan e).changes = []) ↔
      d.entities.map (repairedEntity d.plan) = d.entities := by
    have hself : d.entities.map (repairedEntity d.plan) = d.entities.map id ↔
        ∀ e ∈ d.entities, repairedEntity d.plan e = e := List.map_inj_left
    rw [List.map_id] at hself
    rw [hself]
    exact forall₂_congr fun e he => changes_entityBlock_eq_nil_iff (h.entities e he)
  rw [changes_correct, List.append_eq_nil_iff, List.flatMap_eq_nil_iff, List.map_eq_nil_iff,
    hentities, repaired]
  constructor
  · rintro ⟨hsame, hcreated⟩
    rw [hsame, hcreated, List.map_nil, List.append_nil]
  · intro hsame
    have hcreated : d.created = [] := by
      have hlength := congrArg List.length hsame
      rw [List.length_append, List.length_map, List.length_map] at hlength
      exact List.eq_nil_of_length_eq_zero (by omega)
    rw [hcreated, List.map_nil, List.append_nil] at hsame
    exact ⟨hsame, hcreated⟩

/-- The relationships stay as they are exactly when none is many-to-many. -/
theorem relationships_repaired_eq_iff :
    d.repaired.relationships = d.relationships ↔
      ∀ q ∈ d.relationships, q.isManyToMany = false := by
  constructor
  · intro hsame
    have hcount := manyToManyCount_repaired_le d
    rw [manyToManyCount, hsame, ← manyToManyCount] at hcount
    have hnone : d.manyToManyCount = 0 := by omega
    rw [manyToManyCount, List.countP_eq_zero] at hnone
    simpa using hnone
  · intro hmany
    rw [repaired_eq hmany]

structure Complete (d : Diagram) : Prop where
  keys : ∀ e ∈ d.entities, ∀ a ∈ e.attributes, a.isPrimaryKey = true → a.name = Entity.nameColumn
  conflicts : ∀ e ∈ d.entities, ∀ a ∈ e.attributes, isNameConflict a = false
  foreignKeys : ∀ q ∈ d.relationships, q.isManyToMany = false →
    ∀ e ∈ d.entities, e.name = q.toEntity → q.hasForeignKey e = true
  junctions : ∀ q ∈ d.relationships, q.isManyToMany = true → q.junctionName ∈ d.names

instance (d : Diagram) : Decidable d.Complete :=
  decidable_of_iff
    ((∀ e ∈ d.entities, ∀ a ∈ e.attributes,
        (a.isPrimaryKey = true → a.name = Entity.nameColumn) ∧ isNameConflict a = false) ∧
      ∀ q ∈ d.relationships,
        (q.isManyToMany = false →
          ∀ e ∈ d.entities, e.name = q.toEntity → q.hasForeignKey e = true) ∧
        (q.isManyToMany = true → q.junctionName ∈ d.names))
    ⟨fun h => ⟨fun e he a ha => (h.1 e he a ha).1, fun e he a ha => (h.1 e he a ha).2,
        fun q hq => (h.2 q hq).1, fun q hq => (h.2 q hq).2⟩,
      fun h => ⟨fun e he a ha => ⟨h.keys e he a ha, h.conflicts e he a ha⟩,
        fun q hq => ⟨h.foreignKeys q hq, h.junctions q hq⟩⟩⟩

/-- A complete diagram keeps its entities. -/
theorem Complete.entities_repaired (hcomplete : d.Complete) (h : d.Written) :
    d.repaired.entities = d.entities := by
  have hsettled : ∀ e ∈ d.entities, KeySettled e := fun e he i a hi hchosen =>
    hcomplete.keys e he a (List.mem_of_getElem? hi) hchosen.isPrimaryKey
  have hfixes (e : Entity) : d.plan.foreignKeysOf e.name = [] := by
    rw [List.eq_nil_iff_forall_not_mem]
    intro fix hfix
    obtain ⟨entity, hraises⟩ :=
      mem_foreignKeys_iff.mp (List.mem_filter.mp (mem_of_mem_firstSeen hfix)).1
    cases hraises with
    | missingForeignKey hq hmany _ htarget hmissing =>
      obtain ⟨hmem, hname⟩ := Entity.mem_of_named? htarget
      rw [hcomplete.foreignKeys _ hq hmany _ hmem hname] at hmissing
      cases hmissing
  have hentities : d.entities.map (repairedEntity d.plan) = d.entities := by
    refine (List.map_congr_left fun e he => ?_).trans (List.map_id _)
    have hfits := h.fits he
    rw [hfixes] at hfits
    rw [repairedEntity, hfixes, repairedAttributes_eq_self hfits (h.entities e he)
      (hcomplete.conflicts e he) (hsettled e he)]
    rfl
  have hcreated : d.created = [] := by
    rw [created, List.filter_eq_nil_iff]
    intro fix hfix
    obtain ⟨q, hq, hmany, rfl⟩ := exists_of_mem_junctions hfix
    simpa using hcomplete.junctions q hq hmany
  rw [repaired, hentities, hcreated, List.map_nil, List.append_nil]

/-- Nothing is recorded for a text whose diagram is complete. -/
theorem Complete.changes_correct_eq_nil {text : String} (hcomplete : (ofText text).Complete)
    (hdot : '\u0130' ∉ text.toList) : (Report.ofText text).correct.changes = [] := by
  have hwritten := written_ofText hdot
  exact (changes_correct_eq_nil_iff hwritten.faithful).mpr (hcomplete.entities_repaired hwritten)

end Diagram

/-- When a repair records no change, the diagram of the repaired text has the same entities, and its
relationships are those that are not replaced and the links of the junctions. So it is the same
diagram exactly when there is no many-to-many relationship. -/
theorem unrecorded_repair_keeps_iff {text : String}
    (h : (Report.ofText text).correct.changes = []) :
    (Diagram.ofText (Report.ofText text).correct.text).entities = (Diagram.ofText text).entities ∧
      (Diagram.ofText (Report.ofText text).correct.text).relationships =
        ((Diagram.ofText text).relationships.filter fun q =>
            !isReplaced (Report.ofText text).plan.junctions q) ++
          ((Report.ofText text).plan.junctions.flatMap fun fix =>
            [link fix fix.fromEntity, link fix fix.toEntity]) ∧
      (Diagram.ofText (Report.ofText text).correct.text = Diagram.ofText text ↔
        ∀ q ∈ (Diagram.ofText text).relationships, q.isManyToMany = false) := by
  have hfaithful := Diagram.faithful_ofText text
  have hsame := (Diagram.changes_correct_eq_nil_iff hfaithful).mp h
  have hentities : (Diagram.ofText text).repaired.readable.entities =
      (Diagram.ofText text).entities := by
    have hread := congrArg Diagram.entities hfaithful.readable_eq
    rw [Diagram.readable] at hread ⊢
    rw [hsame]
    exact hread
  have hplan : (Report.ofText text).plan = (Diagram.ofText text).plan := rfl
  rw [Diagram.ofText_correct_readable, hplan]
  generalize Diagram.ofText text = d at hentities ⊢
  refine ⟨hentities, rfl, ?_⟩
  rw [← Diagram.relationships_repaired_eq_iff]
  constructor
  · intro heq
    rw [← Diagram.readable_relationships, heq]
  · intro hrelationships
    exact congrArg₂ Diagram.mk hentities hrelationships

def settledText : String :=
  "A \x7b\n int name PK\n\x7d\nB \x7b\n int name PK\n int a_id FK\n\x7d\nA ||--o\x7b B"

theorem unrecorded_repair_keeps_iff_settled :
    (Report.ofText settledText).correct.changes = [] ∧
      Diagram.ofText (Report.ofText settledText).correct.text = Diagram.ofText settledText := by
  have hdot : '\u0130' ∉ settledText.toList := by decide +kernel
  obtain ⟨hcomplete, hmany⟩ : (Diagram.ofText settledText).Complete ∧
      ∀ q ∈ (Diagram.ofText settledText).relationships, q.isManyToMany = false := by
    decide +kernel
  have hchanges := hcomplete.changes_correct_eq_nil hdot
  exact ⟨hchanges, (unrecorded_repair_keeps_iff hchanges).2.2.mpr hmany⟩

/-- The junction entity of the relationship is declared, and all keys are settled. -/
def declaredJunctionText : String :=
  "A \x7b\n int name PK\n\x7d\nB \x7b\n int name PK\n\x7d\nAB \x7b\n int name PK\n\x7d\n"
    ++ "A \x7do--o\x7b B"

theorem declared_junction_is_not_recorded :
    (Report.ofText declaredJunctionText).correct.changes = [] ∧
      Diagram.ofText (Report.ofText declaredJunctionText).correct.text ≠
        Diagram.ofText declaredJunctionText := by
  have hdot : '\u0130' ∉ declaredJunctionText.toList := by decide +kernel
  obtain ⟨hcomplete, hmany⟩ : (Diagram.ofText declaredJunctionText).Complete ∧
      ¬ ∀ q ∈ (Diagram.ofText declaredJunctionText).relationships, q.isManyToMany = false := by
    decide +kernel
  refine ⟨hcomplete.changes_correct_eq_nil hdot, fun hsame => hmany ?_⟩
  rw [Diagram.ofText_correct_readable] at hsame
  rw [← Diagram.relationships_repaired_eq_iff, ← Diagram.readable_relationships, hsame]

end EntityDiagram
