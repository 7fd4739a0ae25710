import EntityDiagram.Proofs.Attribute.Rewritten
import EntityDiagram.Proofs.Repair.Names
import EntityDiagram.Repair

/-!
Columns of a repaired entity. The repair passes over the columns with a state; what the state is
before a column follows from the columns before it. So each column is rewritten by a rule that only
looks at those: `RenamedTo` gives its name and `MarkedAs` its constraints. The foreign keys that no
column has come after them.
-/
namespace EntityDiagram.Repair

open Text

section Pass

variable (e : Entity) (conflicting : List String)

theorem repairColumns_append (state : State) (xs ys : List Attribute) :
    repairColumns e conflicting state (xs ++ ys) =
      ((repairColumns e conflicting state xs).1 ++
          (repairColumns e conflicting (xs.foldl (advance conflicting) state) ys).1,
        (repairColumns e conflicting (xs.foldl (advance conflicting) state) ys).2) := by
  induction xs generalizing state with
  | nil => rfl
  | cons a rest ih => simp [repairColumns, ih]

theorem length_repairColumns (state : State) (columns : List Attribute) :
    (repairColumns e conflicting state columns).1.length = columns.length := by
  induction columns generalizing state with
  | nil => rfl
  | cons a rest ih => simp [repairColumns, ih]

theorem state_repairColumns (state : State) (columns : List Attribute) :
    (repairColumns e conflicting state columns).2 = columns.foldl (advance conflicting) state := by
  induction columns generalizing state with
  | nil => rfl
  | cons a rest ih => simp [repairColumns, ih]

/-- What is left to do after some columns. -/
theorem foldl_advance (state : State) (columns : List Attribute) :
    columns.foldl (advance conflicting) state =
      { renamesKey := state.renamesKey && columns.all fun a => !a.isPrimaryKey
        pending := state.pending.filter fun fix => columns.all fun a => !concerns a fix
        free := state.free.drop (columns.countP (isConflicting conflicting)) } := by
  induction columns generalizing state with
  | nil => simp
  | cons a rest ih =>
    rw [List.foldl_cons, ih]
    by_cases ha : isConflicting conflicting a = true
    · simp [advance, ha, Bool.and_assoc, List.filter_filter, Bool.and_comm, Nat.add_comm]
    · simp [advance, ha, Bool.and_assoc, List.filter_filter, Bool.and_comm]

end Pass

def Column.attribute (c : Column) : Attribute := c.source.rewritten c.name c.constraints

def referenceAttribute (column entity : String) : Attribute :=
  Attribute.ofParts
    ⟨"string".toList, column.toList, "FK".toList, some (s!"Foreign key to {entity}").toList⟩

def addedAttribute (fix : ForeignKeyFix) : Attribute :=
  referenceAttribute fix.columnName (capitalize fix.referencedEntity)

def repairedAttributes (e : Entity) (conflicting : List String) (fixes : List ForeignKeyFix) :
    List Attribute :=
  let repaired := repairColumns e conflicting (start e fixes) e.attributes
  repaired.1.map Column.attribute ++ repaired.2.pending.map addedAttribute

def isNameConflict (a : Attribute) : Bool := !a.isPrimaryKey && lower a.name = Entity.nameColumn

/-- What is to be repaired in an entity is what the findings about it say. -/
structure Fits (conflicting : List String) (fixes : List ForeignKeyFix) (e : Entity) : Prop where
  conflicting : ∀ a ∈ e.attributes, isConflicting conflicting a = isNameConflict a
  derived : ∀ fix ∈ fixes, DerivedFrom fix.referencedEntity fix.columnName
  referenced : ∀ fix ∈ fixes, IsWord fix.referencedEntity.toList
  nodup : (fixes.map fixColumn).Nodup

structure IsChosenKey (e : Entity) (fixes : List ForeignKeyFix) (before : List Attribute)
    (a : Attribute) : Prop where
  renames : renamesKey e fixes = true
  isPrimaryKey : a.isPrimaryKey = true
  first : ∀ b ∈ before, b.isPrimaryKey = false

/-- The column is the first one with the name of a foreign key to add, and is none yet. -/
structure IsMarkedFor (fixes : List ForeignKeyFix) (before : List Attribute) (a : Attribute) :
    Prop where
  isForeignKey : a.isForeignKey = false
  first : ∀ b ∈ before, lower b.name ≠ lower a.name
  missing : ∃ fix ∈ fixes, fixColumn fix = lower a.name

inductive RenamedTo (e : Entity) (fixes : List ForeignKeyFix) (before : List Attribute)
    (a : Attribute) : String → Prop
  | key (h : IsChosenKey e fixes before a) : RenamedTo e fixes before a Entity.nameColumn
  | conflict {name : String} (h : isNameConflict a = true)
      (hfree : name ∈ freeNames (lower e.name) (takenNames e fixes) e.attributes.length) :
      RenamedTo e fixes before a name
  | kept (hkey : ¬ IsChosenKey e fixes before a) (hconflict : isNameConflict a = false) :
      RenamedTo e fixes before a a.name

inductive MarkedAs (fixes : List ForeignKeyFix) (before : List Attribute) (a : Attribute) :
    String → Prop
  | marked (h : IsMarkedFor fixes before a) :
      MarkedAs fixes before a (Attribute.withMark a.constraints)
  | kept (h : ¬ IsMarkedFor fixes before a) : MarkedAs fixes before a a.constraints

variable {e : Entity} {conflicting : List String} {fixes : List ForeignKeyFix}

def stateAfter (e : Entity) (conflicting : List String) (fixes : List ForeignKeyFix)
    (before : List Attribute) : State :=
  before.foldl (advance conflicting) (start e fixes)

theorem stateAfter_eq (before : List Attribute) :
    stateAfter e conflicting fixes before =
      { renamesKey := renamesKey e fixes && before.all fun a => !a.isPrimaryKey
        pending := fixes.filter fun fix => before.all fun a => !concerns a fix
        free := (freeNames (lower e.name) (takenNames e fixes) e.attributes.length).drop
          (before.countP (isConflicting conflicting)) } :=
  foldl_advance conflicting (start e fixes) before

/-- There is still a free name when the repair reaches a column. -/
theorem headD_free_mem {before after : List Attribute} {a : Attribute}
    (h : e.attributes = before ++ a :: after) :
    (stateAfter e conflicting fixes before).free.headD "" ∈
      freeNames (lower e.name) (takenNames e fixes) e.attributes.length := by
  have hcount : before.countP (isConflicting conflicting) <
      (freeNames (lower e.name) (takenNames e fixes) e.attributes.length).length := by
    have hle : before.countP (isConflicting conflicting) ≤ before.length := List.countP_le_length
    rw [length_freeNames, h, List.length_append, List.length_cons]
    omega
  rw [stateAfter_eq]
  simp only [List.drop_eq_getElem_cons hcount, List.headD_cons]
  exact List.getElem_mem hcount

theorem isChosenKey_iff {before : List Attribute} {a : Attribute} :
    ((stateAfter e conflicting fixes before).renamesKey && a.isPrimaryKey) = true ↔
      IsChosenKey e fixes before a := by
  rw [stateAfter_eq]
  simp only [Bool.and_eq_true, List.all_eq_true, Bool.not_eq_true']
  exact ⟨fun ⟨⟨hrenames, hfirst⟩, hkey⟩ => ⟨hrenames, hkey, hfirst⟩,
    fun hkey => ⟨⟨hkey.renames, hkey.first⟩, hkey.isPrimaryKey⟩⟩

theorem isMarkedFor_iff {before : List Attribute} {a : Attribute} :
    isMarked (stateAfter e conflicting fixes before) a = true ↔ IsMarkedFor fixes before a := by
  rw [stateAfter_eq]
  simp only [isMarked, concerns, Bool.and_eq_true, List.any_eq_true, List.mem_filter,
    List.all_eq_true, Bool.not_eq_true', decide_eq_true_eq, decide_eq_false_iff_not]
  constructor
  · rintro ⟨⟨fix, ⟨hmem, hfirst⟩, hfix⟩, hkey⟩
    exact ⟨hkey, fun b hb heq => hfirst b hb (hfix.trans heq.symm), fix, hmem, hfix⟩
  · rintro ⟨hkey, hfirst, fix, hmem, hfix⟩
    exact ⟨⟨fix, ⟨hmem, fun b hb heq => hfirst b hb (heq.symm.trans hfix)⟩, hfix⟩, hkey⟩

theorem renamedTo_repairedName (hfit : Fits conflicting fixes e) {before after : List Attribute}
    {a : Attribute} (h : e.attributes = before ++ a :: after) :
    RenamedTo e fixes before a
      (repairedName conflicting (stateAfter e conflicting fixes before) a) := by
  have ha : isConflicting conflicting a = isNameConflict a := hfit.conflicting a (by simp [h])
  unfold repairedName
  rw [ha]
  split
  · next hkey => exact .key (isChosenKey_iff.mp hkey)
  · next hkey =>
    have hother : ¬ IsChosenKey e fixes before a :=
      fun hchosen => hkey (isChosenKey_iff.mpr hchosen)
    split
    · next hconflict => exact .conflict hconflict (headD_free_mem h)
    · next hconflict => exact .kept hother (by simpa using hconflict)

theorem markedAs_repairedConstraints (e : Entity) (conflicting : List String)
    (before : List Attribute) (a : Attribute) :
    MarkedAs fixes before a
      (repairedConstraints (stateAfter e conflicting fixes before) a) := by
  unfold repairedConstraints
  split
  · next hmarked => exact .marked (isMarkedFor_iff.mp hmarked)
  · next hmarked => exact .kept fun hfor => hmarked (isMarkedFor_iff.mpr hfor)

/-- The columns of a repaired entity around a column. -/
theorem repairedAttributes_append (conflicting : List String) (fixes : List ForeignKeyFix)
    {before after : List Attribute} {a : Attribute} (h : e.attributes = before ++ a :: after) :
    ∃ others, repairedAttributes e conflicting fixes =
      (repairColumns e conflicting (start e fixes) before).1.map Column.attribute ++
        (a.rewritten (repairedName conflicting (stateAfter e conflicting fixes before) a)
          (repairedConstraints (stateAfter e conflicting fixes before) a)) :: others := by
  unfold repairedAttributes
  simp only [h, repairColumns_append, repairColumns, List.map_append, List.map_cons,
    List.append_assoc, List.cons_append]
  exact ⟨_, rfl⟩

/-- Each column keeps its place and is rewritten by the two rules. -/
theorem getElem?_repairedAttributes (hfit : Fits conflicting fixes e)
    {before after : List Attribute} {a : Attribute} (h : e.attributes = before ++ a :: after) :
    ∃ name constraints, RenamedTo e fixes before a name ∧ MarkedAs fixes before a constraints ∧
      (repairedAttributes e conflicting fixes)[before.length]? =
        some (a.rewritten name constraints) := by
  obtain ⟨others, heq⟩ := repairedAttributes_append conflicting fixes h
  refine ⟨_, _, renamedTo_repairedName hfit h,
    markedAs_repairedConstraints e conflicting before a, ?_⟩
  rw [heq, List.getElem?_append_right (by simp [length_repairColumns])]
  simp [length_repairColumns]

/-- After the columns come the foreign keys that none of them has. -/
theorem drop_repairedAttributes :
    (repairedAttributes e conflicting fixes).drop e.attributes.length =
      (fixes.filter fun fix => e.attributes.all fun a => !concerns a fix).map addedAttribute := by
  have hstate : (repairColumns e conflicting (start e fixes) e.attributes).2 =
      stateAfter e conflicting fixes e.attributes := state_repairColumns _ _ _ _
  unfold repairedAttributes
  rw [List.drop_append_of_le_length (by simp [length_repairColumns]), hstate, stateAfter_eq,
    List.drop_of_length_le (by simp [length_repairColumns]), List.nil_append]

/-- A column with the columns before it and after it. -/
theorem attributes_eq_of_getElem? {i : Nat} {a : Attribute} (h : e.attributes[i]? = some a) :
    e.attributes = e.attributes.take i ++ a :: e.attributes.drop (i + 1) := by
  obtain ⟨hlt, rfl⟩ := List.getElem?_eq_some_iff.mp h
  rw [← List.drop_eq_getElem_cons hlt, List.take_append_drop]

theorem getElem?_repairedAttributes_index (hfit : Fits conflicting fixes e) {i : Nat}
    {a : Attribute} (h : e.attributes[i]? = some a) :
    ∃ name constraints, RenamedTo e fixes (e.attributes.take i) a name ∧
      MarkedAs fixes (e.attributes.take i) a constraints ∧
      (repairedAttributes e conflicting fixes)[i]? = some (a.rewritten name constraints) := by
  have hlt := (List.getElem?_eq_some_iff.mp h).1
  have hcolumn := getElem?_repairedAttributes hfit (attributes_eq_of_getElem? h)
  rwa [List.length_take_of_le (Nat.le_of_lt hlt)] at hcolumn

/-- What rewriting keeps of each column is the same for all columns together. -/
theorem map_take_repairedAttributes (hfit : Fits conflicting fixes e) {β : Type}
    {view view' : Attribute → β}
    (h : ∀ i a name constraints, e.attributes[i]? = some a →
      RenamedTo e fixes (e.attributes.take i) a name →
      MarkedAs fixes (e.attributes.take i) a constraints →
      view' (a.rewritten name constraints) = view a) :
    ((repairedAttributes e conflicting fixes).take e.attributes.length).map view' =
      e.attributes.map view := by
  apply List.ext_getElem?
  intro i
  rw [List.getElem?_map, List.getElem?_map]
  cases hi : e.attributes[i]? with
  | none =>
    have hle := List.getElem?_eq_none_iff.mp hi
    rw [List.getElem?_take_eq_none hle]
    rfl
  | some a =>
    have hlt := (List.getElem?_eq_some_iff.mp hi).1
    obtain ⟨name, constraints, hname, hconstraints, hget⟩ :=
      getElem?_repairedAttributes_index hfit hi
    rw [List.getElem?_take_of_lt hlt, hget, Option.map_some, Option.map_some,
      h i a name constraints hi hname hconstraints]

/-- A column of a repaired entity is a rewritten one or an added one. -/
theorem mem_repairedAttributes (hfit : Fits conflicting fixes e) {a' : Attribute}
    (h : a' ∈ repairedAttributes e conflicting fixes) :
    (∃ i a name constraints, e.attributes[i]? = some a ∧
        RenamedTo e fixes (e.attributes.take i) a name ∧
        MarkedAs fixes (e.attributes.take i) a constraints ∧ a' = a.rewritten name constraints) ∨
      ∃ fix ∈ fixes, (∀ a ∈ e.attributes, lower a.name ≠ fixColumn fix) ∧
        a' = addedAttribute fix := by
  obtain ⟨i, hi⟩ := List.mem_iff_getElem?.mp h
  cases hget : e.attributes[i]? with
  | some a =>
    obtain ⟨name, constraints, hname, hconstraints, hnew⟩ :=
      getElem?_repairedAttributes_index hfit hget
    rw [hi] at hnew
    exact Or.inl ⟨i, a, name, constraints, hget, hname, hconstraints, Option.some.inj hnew⟩
  | none =>
    have hle := List.getElem?_eq_none_iff.mp hget
    have hmem : a' ∈ (repairedAttributes e conflicting fixes).drop e.attributes.length := by
      apply List.mem_iff_getElem?.mpr
      refine ⟨i - e.attributes.length, ?_⟩
      rw [List.getElem?_drop, Nat.add_sub_cancel' hle, hi]
    rw [drop_repairedAttributes] at hmem
    obtain ⟨fix, hfix, rfl⟩ := List.mem_map.mp hmem
    simp only [List.mem_filter, concerns, List.all_eq_true, Bool.not_eq_true',
      decide_eq_false_iff_not] at hfix
    exact Or.inr ⟨fix, hfix.1, fun a ha heq => hfix.2 a ha heq.symm, rfl⟩

end EntityDiagram.Repair
