import EntityDiagram.Proofs.Repair.Resolved

/-!
Structure of repaired entities. A repaired entity has as many primary keys as before. Distinct
column names stay distinct: a renamed key takes the generated name, which no other column has any
more unless it is a primary key itself; free names are not taken; and added columns have names that
no column had. A junction entity has one primary key and distinct columns too, with a foreign key
for each of its links, when its sides differ also without regard to case or are the same entity.
-/
namespace EntityDiagram

open Text Repair

namespace Repair

variable {e : Entity} {conflicting : List String} {fixes : List ForeignKeyFix}

/-- Rewriting keeps the number of primary keys. -/
theorem length_primaryKeys_repaired (hfit : Fits conflicting fixes e) (hfaithful : e.Faithful) :
    ((repairedAttributes e conflicting fixes).filter (·.isPrimaryKey)).length =
      e.primaryKeys.length := by
  have hkept : ((repairedAttributes e conflicting fixes).take e.attributes.length).map
      (·.isPrimaryKey) = e.attributes.map (·.isPrimaryKey) := by
    apply map_take_repairedAttributes hfit
    intro i a name constraints hi hname hconstraints
    exact (flags_rewritten name (hfaithful.attributes a (List.mem_of_getElem? hi)) hconstraints).1
  have hadded : ((repairedAttributes e conflicting fixes).drop e.attributes.length).countP
      (·.isPrimaryKey) = 0 := by
    rw [drop_repairedAttributes, List.countP_eq_zero]
    intro a ha
    obtain ⟨fix, -, rfl⟩ := List.mem_map.mp ha
    simp [addedAttribute, referenceAttribute_isPrimaryKey]
  have hcount : ((repairedAttributes e conflicting fixes).take e.attributes.length).countP
      (·.isPrimaryKey) = e.attributes.countP (·.isPrimaryKey) := by
    have hsame := congrArg (List.countP id) hkept
    rwa [List.countP_map, List.countP_map] at hsame
  rw [Entity.primaryKeys, ← List.countP_eq_length_filter, ← List.countP_eq_length_filter,
    ← List.take_append_drop e.attributes.length (repairedAttributes e conflicting fixes),
    List.countP_append, hadded, hcount, Nat.add_zero]

/-- No primary key but the first is called like the generated name column, if the first gets that
name. -/
def NameFree (e : Entity) (fixes : List ForeignKeyFix) : Prop :=
  renamesKey e fixes = true → ∀ a ∈ e.primaryKeys.tail, lower a.name ≠ Entity.nameColumn

theorem nameFree_of_length (h : e.primaryKeys.length = 1) : NameFree e fixes := by
  intro _ a ha
  obtain ⟨key, hkey⟩ := List.length_eq_one_iff.mp h
  rw [hkey] at ha
  cases ha

/-- A primary key after another one is not the first. -/
theorem mem_tail_primaryKeys {i j : Nat} {a b : Attribute} (hlt : i < j)
    (hi : e.attributes[i]? = some a) (hj : e.attributes[j]? = some b)
    (ha : a.isPrimaryKey = true) (hb : b.isPrimaryKey = true) : b ∈ e.primaryKeys.tail := by
  have hmem : a ∈ (e.attributes.take j).filter (·.isPrimaryKey) := by
    refine List.mem_filter.mpr ⟨?_, ha⟩
    exact List.mem_of_getElem? (List.getElem?_take_of_lt hlt ▸ hi)
  rw [Entity.primaryKeys, attributes_eq_of_getElem? hj, List.filter_append,
    List.filter_cons_of_pos hb, List.tail_append_of_ne_nil (List.ne_nil_of_mem hmem)]
  exact List.mem_append_right _ List.mem_cons_self

theorem lower_ne_of_nodup (h : (e.attributes.map fun a => lower a.name).Nodup) {i j : Nat}
    {a b : Attribute} (hlt : i < j) (hi : e.attributes[i]? = some a)
    (hj : e.attributes[j]? = some b) : lower a.name ≠ lower b.name := by
  have hjlt : j < (e.attributes.map fun a => lower a.name).length := by
    rw [List.length_map]
    exact (List.getElem?_eq_some_iff.mp hj).1
  have hne := List.nodup_iff_getElem?_ne_getElem?.mp h i j hlt hjlt
  rw [List.getElem?_map, List.getElem?_map, hi, hj] at hne
  exact fun heq => hne (congrArg some heq)

theorem lower_free (hname : IsWord e.name.toList) {name : String}
    (h : name ∈ freeNames (lower e.name) (takenNames e fixes) e.attributes.length) :
    lower name = name ∧ name ≠ Entity.nameColumn ∧
      (∀ a ∈ e.attributes, lower a.name ≠ name) ∧ ∀ fix ∈ fixes, fixColumn fix ≠ name := by
  have hderived := derivedFrom_of_mem_freeNames hname h
  have hfree := (mem_freeNames h).2
  rw [takenNames, List.mem_append, not_or] at hfree
  exact ⟨hderived.lower_eq, hderived.ne_nameColumn,
    fun a ha heq => hfree.1 (List.mem_map.mpr ⟨a, ha, heq⟩),
    fun fix hfix heq => hfree.2 (List.mem_map.mpr ⟨fix, hfix, heq⟩)⟩

theorem lower_nameColumn : lower Entity.nameColumn = Entity.nameColumn := by decide

theorem lower_ne_of_not_isNameConflict {a : Attribute} (h : isNameConflict a = false)
    (hkey : a.isPrimaryKey = false) : lower a.name ≠ Entity.nameColumn := by
  intro hname
  simp [isNameConflict, hkey, hname] at h

/-- Two columns have different names after the repair. -/
theorem lower_ne_of_renamedTo (hname : IsWord e.name.toList) (hkeys : NameFree e fixes)
    (hnodup : (e.attributes.map fun a => lower a.name).Nodup) {i j : Nat} {a b : Attribute}
    (hlt : i < j) (hi : e.attributes[i]? = some a) (hj : e.attributes[j]? = some b)
    {x y : String} (hx : RenamedTo e fixes (e.attributes.take i) a x)
    (hy : RenamedTo e fixes (e.attributes.take j) b y) : lower x ≠ lower y := by
  have ha : a ∈ e.attributes := List.mem_of_getElem? hi
  have hb : b ∈ e.attributes := List.mem_of_getElem? hj
  have hbefore : a ∈ e.attributes.take j :=
    List.mem_of_getElem? (List.getElem?_take_of_lt hlt ▸ hi)
  cases hx with
  | key hchosen =>
    rw [lower_nameColumn]
    cases hy with
    | key hchosen' =>
      have hnot := hchosen'.first a hbefore
      rw [hchosen.isPrimaryKey] at hnot
      cases hnot
    | conflict _ hfree =>
      obtain ⟨hlower, hne, -⟩ := lower_free hname hfree
      rw [hlower]
      exact hne.symm
    | kept _ hconflict =>
      cases hkey : b.isPrimaryKey with
      | false => exact (lower_ne_of_not_isNameConflict hconflict hkey).symm
      | true =>
        have hlater := mem_tail_primaryKeys hlt hi hj hchosen.isPrimaryKey hkey
        exact (hkeys hchosen.renames b hlater).symm
  | conflict hconflict hfree =>
    obtain ⟨hlower, hne, hold, -⟩ := lower_free hname hfree
    rw [hlower]
    cases hy with
    | key _ =>
      rw [lower_nameColumn]
      exact hne
    | conflict hconflict' _ =>
      -- both would be called like the name column
      simp only [isNameConflict, Bool.and_eq_true, decide_eq_true_eq] at hconflict hconflict'
      exact absurd (hconflict.2.trans hconflict'.2.symm) (lower_ne_of_nodup hnodup hlt hi hj)
    | kept _ _ => exact (hold b hb).symm
  | kept _ hconflict =>
    cases hy with
    | key hchosen =>
      rw [lower_nameColumn]
      exact lower_ne_of_not_isNameConflict hconflict (hchosen.first a hbefore)
    | conflict _ hfree =>
      obtain ⟨hlower, -, hold, -⟩ := lower_free hname hfree
      rw [hlower]
      exact hold a ha
    | kept _ _ => exact lower_ne_of_nodup hnodup hlt hi hj

/-- A column does not get the name of an added one. -/
theorem lower_ne_fixColumn (hfit : Fits conflicting fixes e) (hname : IsWord e.name.toList)
    {before : List Attribute} {a : Attribute} (ha : a ∈ e.attributes) {x : String}
    (hx : RenamedTo e fixes before a x) {fix : ForeignKeyFix} (hfix : fix ∈ fixes)
    (hnone : ∀ b ∈ e.attributes, lower b.name ≠ fixColumn fix) : lower x ≠ fixColumn fix := by
  cases hx with
  | key _ =>
    rw [lower_nameColumn]
    exact (hfit.derivedFrom_fixColumn hfix).ne_nameColumn.symm
  | conflict _ hfree =>
    obtain ⟨hlower, -, -, htaken⟩ := lower_free hname hfree
    rw [hlower]
    exact (htaken fix hfix).symm
  | kept _ _ => exact hnone a ha

/-- The columns of a repaired entity have distinct names when the entity had distinct columns and
the name of a renamed key is free. -/
theorem nodup_repairedAttributes (hfit : Fits conflicting fixes e) (hfaithful : e.Faithful)
    (hkeys : NameFree e fixes)
    (hnodup : (e.attributes.map fun a => lower a.name).Nodup) :
    ((repairedAttributes e conflicting fixes).map fun a => lower a.name).Nodup := by
  rw [← List.take_append_drop e.attributes.length (repairedAttributes e conflicting fixes),
    List.map_append, List.nodup_append]
  refine ⟨?_, ?_, ?_⟩
  · rw [List.nodup_iff_getElem?_ne_getElem?]
    intro i j hlt hj
    rw [List.length_map, List.length_take] at hj
    have hjlt : j < e.attributes.length := by omega
    have hilt : i < e.attributes.length := by omega
    obtain ⟨x, _, hx, -, hgeti⟩ :=
      getElem?_repairedAttributes_index hfit (List.getElem?_eq_getElem hilt)
    obtain ⟨y, _, hy, -, hgetj⟩ :=
      getElem?_repairedAttributes_index hfit (List.getElem?_eq_getElem hjlt)
    have hne := lower_ne_of_renamedTo hfaithful.name hkeys hnodup hlt
      (List.getElem?_eq_getElem hilt) (List.getElem?_eq_getElem hjlt) hx hy
    rw [List.getElem?_map, List.getElem?_map, List.getElem?_take_of_lt hilt,
      List.getElem?_take_of_lt hjlt, hgeti, hgetj]
    intro heq
    exact hne (by simpa using heq)
  · rw [drop_repairedAttributes, List.map_map]
    have hcolumns : (fun a : Attribute => lower a.name) ∘ addedAttribute = fixColumn := by
      funext fix
      simp [addedAttribute, referenceAttribute_name, fixColumn]
    rw [hcolumns]
    exact hfit.nodup.sublist (List.filter_sublist.map _)
  · rintro column hcolumn _ hadded rfl
    obtain ⟨a', ha', rfl⟩ := List.mem_map.mp hcolumn
    rw [drop_repairedAttributes, List.map_map] at hadded
    obtain ⟨fix, hfix, heq⟩ := List.mem_map.mp hadded
    simp only [List.mem_filter, concerns, List.all_eq_true, Bool.not_eq_true',
      decide_eq_false_iff_not] at hfix
    obtain ⟨i, hi⟩ := List.mem_iff_getElem?.mp ha'
    have hlt : i < e.attributes.length := by
      have hbound := (List.getElem?_eq_some_iff.mp hi).1
      rw [List.length_take] at hbound
      omega
    rw [List.getElem?_take_of_lt hlt] at hi
    obtain ⟨x, _, hx, -, hget⟩ :=
      getElem?_repairedAttributes_index hfit (List.getElem?_eq_getElem hlt)
    have hne := lower_ne_fixColumn hfit hfaithful.name (List.getElem_mem hlt) hx hfix.1
      fun a ha heq => hfix.2 a ha heq.symm
    obtain rfl := Option.some.inj (hi.symm.trans hget)
    rw [Attribute.rewritten_name] at heq
    exact hne (heq.symm.trans (by simp [addedAttribute, referenceAttribute_name, fixColumn]))

theorem length_primaryKeys_madeEntity (fix : JunctionFix) :
    (madeEntity fix).primaryKeys.length = 1 := by
  have hkey : keyAttribute.isPrimaryKey = true := by decide
  simp [madeEntity, Entity.primaryKeys, hkey, referenceAttribute_isPrimaryKey]

/-- The two columns of a junction entity differ. -/
theorem junctionColumns_ne {fix : JunctionFix}
    (h : fix.fromEntity = fix.toEntity ∨ lower fix.fromEntity ≠ lower fix.toEntity) :
    (junctionColumns fix).1 ≠ (junctionColumns fix).2 := by
  intro heq
  have hchars := congrArg String.toList heq
  unfold junctionColumns at hchars
  by_cases hsame : fix.fromEntity = fix.toEntity
  · have hlength := congrArg List.length hchars
    simp [hsame] at hlength
  · simp only [hsame, if_false, toString_text, String.toList_append, List.append_cancel_right_eq,
      String.toList_inj] at hchars
    exact h.elim hsame fun hlower => hlower hchars

/-- The columns of a junction entity in lower case. -/
theorem map_lower_madeEntity {fix : JunctionFix}
    (hfrom : IsWord fix.fromEntity.toList) (hto : IsWord fix.toEntity.toList) :
    ((madeEntity fix).attributes.map fun a => lower a.name) =
      ["id", (junctionColumns fix).1, (junctionColumns fix).2] := by
  obtain ⟨hfirst, hsecond⟩ := derivedFrom_junctionColumns hfrom hto
  have hkey : lower keyAttribute.name = "id" := by decide
  simp only [madeEntity, List.map_cons, List.map_nil, hkey, referenceAttribute_name,
    hfirst.lower_eq, hsecond.lower_eq]

theorem nodup_madeEntity {fix : JunctionFix} (hfrom : IsWord fix.fromEntity.toList)
    (hto : IsWord fix.toEntity.toList)
    (h : fix.fromEntity = fix.toEntity ∨ lower fix.fromEntity ≠ lower fix.toEntity) :
    ((madeEntity fix).attributes.map fun a => lower a.name).Nodup := by
  obtain ⟨hfirst, hsecond⟩ := derivedFrom_junctionColumns hfrom hto
  rw [map_lower_madeEntity hfrom hto]
  simp [hfirst.ne_id.symm, hsecond.ne_id.symm, junctionColumns_ne h]

/-- A junction entity has the foreign keys that its two links ask for. -/
theorem hasForeignKey_madeEntity {fix : JunctionFix} (hfrom : IsWord fix.fromEntity.toList)
    (hto : IsWord fix.toEntity.toList) {side : String}
    (h : side = fix.fromEntity ∨ side = fix.toEntity) :
    HasForeignKey (madeEntity fix).attributes (lower side ++ "_id") := by
  obtain ⟨hfirst, hsecond⟩ := derivedFrom_junctionColumns hfrom hto
  have hhasFirst : HasForeignKey (madeEntity fix).attributes (lower fix.fromEntity ++ "_id") :=
    ⟨referenceAttribute (junctionColumns fix).1 fix.fromEntity, by simp [madeEntity],
      referenceAttribute_isForeignKey _ _, by rw [referenceAttribute_name, hfirst.lower_eq]; rfl⟩
  rcases h with rfl | rfl
  · exact hhasFirst
  by_cases hsame : fix.fromEntity = fix.toEntity
  · exact hsame ▸ hhasFirst
  · refine ⟨referenceAttribute (junctionColumns fix).2 fix.toEntity, by simp [madeEntity],
      referenceAttribute_isForeignKey _ _, ?_⟩
    rw [referenceAttribute_name, hsecond.lower_eq]
    simp [junctionColumns, hsame]

end Repair

end EntityDiagram
