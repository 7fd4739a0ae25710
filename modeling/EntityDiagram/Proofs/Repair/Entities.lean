import EntityDiagram.Proofs.Diagram.Printing
import EntityDiagram.Proofs.Repair.Columns

/-!
Repaired entities. The lines of a repaired entity keep their places, and the entity is what its
block says when no dotted capital I goes into the names that the repair makes. The rewriting of its
columns keeps primary keys and uniqueness, leaves no column that is called like the generated name
column, and gives every foreign key that was asked for; a foreign key that was there stays.
-/
namespace EntityDiagram.Repair

open Text

variable {e : Entity} {conflicting : List String} {fixes : List ForeignKeyFix}

theorem Fits.fixColumn_eq (hfit : Fits conflicting fixes e) {fix : ForeignKeyFix}
    (h : fix ∈ fixes) : fixColumn fix = fix.columnName :=
  (hfit.derived fix h).lower_eq

theorem Fits.derivedFrom_fixColumn (hfit : Fits conflicting fixes e) {fix : ForeignKeyFix}
    (h : fix ∈ fixes) : DerivedFrom fix.referencedEntity (fixColumn fix) := by
  rw [hfit.fixColumn_eq h]
  exact hfit.derived fix h

/-- The first primary key is renamed when the entity is no junction table and the key is neither a
foreign key nor about to become one. -/
theorem renamesKey_iff : renamesKey e fixes = true ↔
    ∃ key ∈ e.primaryKeys.head?, e.isJunctionTable = false ∧ key.isForeignKey = false ∧
      ∀ fix ∈ fixes, fixColumn fix ≠ lower key.name := by
  unfold renamesKey
  cases e.primaryKeys with
  | nil => simp
  | cons key others => simp [and_assoc]

theorem IsChosenKey.head?_primaryKeys {before after : List Attribute} {a : Attribute}
    (h : e.attributes = before ++ a :: after) (hkey : a.isPrimaryKey = true)
    (hfirst : ∀ b ∈ before, b.isPrimaryKey = false) : e.primaryKeys.head? = some a := by
  have hnone : before.filter (·.isPrimaryKey) = [] := by
    apply List.filter_eq_nil_iff.mpr
    intro b hb
    simp [hfirst b hb]
  simp [Entity.primaryKeys, h, hnone, hkey]

/-- A key that is renamed is no foreign key, and none is to be added for it. -/
theorem IsChosenKey.facts {before after : List Attribute} {a : Attribute}
    (h : e.attributes = before ++ a :: after) (hchosen : IsChosenKey e fixes before a) :
    a.isForeignKey = false ∧ ∀ fix ∈ fixes, fixColumn fix ≠ lower a.name := by
  obtain ⟨key, hkey, -, hforeign, hfixes⟩ := renamesKey_iff.mp hchosen.renames
  rw [head?_primaryKeys h hchosen.isPrimaryKey hchosen.first] at hkey
  obtain rfl : a = key := Option.some.inj hkey
  exact ⟨hforeign, hfixes⟩

theorem derivedFrom_of_mem_freeNames (hname : IsWord e.name.toList) {taken : List String}
    {count : Nat} {name : String} (h : name ∈ freeNames (lower e.name) taken count) :
    DerivedFrom e.name name :=
  derivedFrom_of_mem_nameCandidates hname (mem_freeNames h).1

/-- A name whose lower case has an underscore holds a character that is no symbol. -/
theorem exists_not_isSymbol_of_lower {name : String} (h : '_' ∈ (lower name).toList) :
    ∃ c ∈ name.toList, Relationship.isSymbol c = false := by
  by_contra hnone
  have hall : ∀ c ∈ name.toList, Relationship.isSymbol c = true := by simpa using hnone
  have hfixed : ∀ c ∈ name.toList, lowerChar c = [c] := by
    intro c hc
    have hsymbol := hall c hc
    simp only [Relationship.isSymbol, Bool.or_eq_true, decide_eq_true_eq] at hsymbol
    rcases hsymbol with (((rfl | rfl) | rfl) | rfl) | rfl <;> decide
  rw [lower, String.toList_ofList, lowerChars, lowerFrom_eq_self hfixed] at h
  exact absurd (hall '_' h) (by decide)

theorem isWord_nameColumn : IsWord Entity.nameColumn.toList :=
  ⟨by decide, forall_mem_of_all (by decide)⟩

/-- A new name holds a character that is no symbol. -/
theorem RenamedTo.exists_not_isSymbol (hname : IsWord e.name.toList) {before : List Attribute}
    {a : Attribute} {name : String} (h : RenamedTo e fixes before a name) :
    name = a.name ∨ ∃ c ∈ name.toList, Relationship.isSymbol c = false := by
  cases h with
  | key _ => exact Or.inr ⟨'n', by decide, by decide⟩
  | conflict _ hfree => exact Or.inr (derivedFrom_of_mem_freeNames hname hfree).exists_not_isSymbol
  | kept _ _ => exact Or.inl rfl

/-- A rewritten column can be read unless its name comes from an entity with a dotted capital I. -/
theorem RenamedTo.isReadable_iff (hname : IsWord e.name.toList) {before : List Attribute}
    {a : Attribute} (ha : a.Written) {name : String} (h : RenamedTo e fixes before a name)
    (constraints : String) :
    (a.rewritten name constraints).isReadable = true ↔
      (isNameConflict a = true → '\u0130' ∉ e.name.toList) := by
  rw [Attribute.isReadable_rewritten]
  cases h with
  | key hchosen =>
    simp [List.all_eq_true.mpr isWord_nameColumn.chars, isNameConflict, hchosen.isPrimaryKey]
  | conflict hconflict hfree =>
    have hderived := derivedFrom_of_mem_freeNames hname hfree
    simp [hderived.all_isWordChar_iff, hderived.isWord_iff, hconflict]
  | kept _ hconflict =>
    have hword : a.name.toList.all isWordChar = true := ha.isReadable
    simp [hword, hconflict]

/-- A column with a new name keeps its constraints. -/
theorem MarkedAs.eq_constraints_of_isNameConflict (hfit : Fits conflicting fixes e)
    {before : List Attribute} {a : Attribute} {constraints : String}
    (h : MarkedAs fixes before a constraints) (hconflict : isNameConflict a = true) :
    constraints = a.constraints := by
  cases h with
  | kept _ => rfl
  | marked hfor =>
    obtain ⟨fix, hfix, hcolumn⟩ := hfor.missing
    simp only [isNameConflict, Bool.and_eq_true, decide_eq_true_eq] at hconflict
    exact absurd (hcolumn.trans hconflict.2) (hfit.derivedFrom_fixColumn hfix).ne_nameColumn

theorem written_rewritten (hfit : Fits conflicting fixes e) (hname : IsWord e.name.toList)
    {before : List Attribute} {a : Attribute} (ha : a.Written) {name constraints : String}
    (hrenamed : RenamedTo e fixes before a name) (hmarked : MarkedAs fixes before a constraints)
    (hreadable : (a.rewritten name constraints).isReadable = true) :
    (a.rewritten name constraints).Written := by
  rw [Attribute.isReadable_rewritten, List.all_eq_true] at hreadable
  have hwritable := hrenamed.exists_not_isSymbol hname
  have hnew : name = a.name ∨
      IsWord name.toList ∧ ∃ c ∈ name.toList, Relationship.isSymbol c = false := by
    refine hwritable.imp_right fun hother => ⟨⟨?_, hreadable⟩, hother⟩
    obtain ⟨c, hc, -⟩ := hother
    exact List.ne_nil_of_mem hc
  apply ha.rewritten hnew
  cases hmarked with
  | kept _ => exact Or.inl rfl
  | marked h =>
    refine Or.inr ⟨rfl, ?_⟩
    rcases hwritable with rfl | hother
    · obtain ⟨fix, hfix, hcolumn⟩ := h.missing
      have hderived := hfit.derivedFrom_fixColumn hfix
      rw [hcolumn] at hderived
      exact exists_not_isSymbol_of_lower hderived.underscore
    · exact hother

/-- The line of a rewritten column keeps its place. -/
theorem printable_rewritten (hfit : Fits conflicting fixes e) (hname : IsWord e.name.toList)
    {before : List Attribute} {a : Attribute} (ha : a.Written) {name constraints : String}
    (hrenamed : RenamedTo e fixes before a name) (hmarked : MarkedAs fixes before a constraints) :
    (a.rewritten name constraints).Printable := by
  cases hreadable : (a.rewritten name constraints).isReadable with
  | true => exact (written_rewritten hfit hname ha hrenamed hmarked hreadable).printable
  | false =>
    rw [Attribute.isReadable_rewritten] at hreadable
    cases hrenamed with
    | key _ =>
      rw [List.all_eq_true.mpr isWord_nameColumn.chars] at hreadable
      cases hreadable
    | conflict hconflict hfree =>
      have hderived := derivedFrom_of_mem_freeNames hname hfree
      rw [hmarked.eq_constraints_of_isNameConflict hfit hconflict]
      exact ha.printable_renamed hderived.head hderived.isBlank hreadable
    | kept _ _ =>
      have hword : a.name.toList.all isWordChar = true := ha.isReadable
      rw [hword] at hreadable
      cases hreadable

section Reference

variable (column entity : String)

theorem referenceAttribute_name : (referenceAttribute column entity).name = column := by
  simp [referenceAttribute, Attribute.ofParts]

theorem referenceAttribute_isForeignKey :
    (referenceAttribute column entity).isForeignKey = true := by
  simp only [referenceAttribute, Attribute.ofParts]
  decide

theorem referenceAttribute_isPrimaryKey :
    (referenceAttribute column entity).isPrimaryKey = false := by
  simp only [referenceAttribute, Attribute.ofParts]
  decide

theorem line_referenceAttribute : (referenceAttribute column entity).line =
    Attribute.lineText "string" column "FK" (some s!"Foreign key to {entity}") := by
  simp only [referenceAttribute, Attribute.ofParts, Attribute.line, Option.map_some,
    String.ofList_toList]

variable {column entity}

theorem written_referenceAttribute (hword : IsWord column.toList)
    (hother : ∃ c ∈ column.toList, Relationship.isSymbol c = false)
    (hentity : ∀ c ∈ entity.toList, isDelimiter c = false) :
    (referenceAttribute column entity).Written := by
  have hfixed : ∀ c ∈ "Foreign key to ".toList, isDelimiter c = false :=
    forall_mem_of_all (by decide)
  apply Attribute.written_ofParts
  apply Attribute.Parts.Written.plain
  · exact ⟨by decide, forall_mem_of_all (by decide)⟩
  · exact hword
  · exact hother
  · exact ⟨by decide, forall_mem_of_all (by decide)⟩
  · intro c hc
    have hmem : c ∈ "Foreign key to ".toList ++ entity.toList := by simpa using hc
    exact (List.mem_append.mp hmem).elim (hfixed c) (hentity c)

@[simp]
theorem isReadable_referenceAttribute :
    (referenceAttribute column entity).isReadable = column.toList.all isWordChar := by
  rw [Attribute.isReadable, referenceAttribute_name]

/-- The line of a column that refers to an entity keeps its place. -/
theorem printable_referenceAttribute {stem : String} (hcolumn : DerivedFrom stem column)
    (hentity : ∀ c ∈ entity.toList, isDelimiter c = false) :
    (referenceAttribute column entity).Printable := by
  by_cases hword : IsWord column.toList
  · exact (written_referenceAttribute hword hcolumn.exists_not_isSymbol hentity).printable
  · have hplain : (referenceAttribute Entity.nameColumn entity).Written :=
      written_referenceAttribute isWord_nameColumn ⟨'n', by decide, by decide⟩ hentity
    have hparts := hplain.parts.printable_rename hcolumn.head hcolumn.isBlank
    rw [referenceAttribute, Attribute.parts_ofParts] at hparts
    apply Attribute.printable_of_not_isReadable
    · rwa [referenceAttribute, Attribute.parts_ofParts]
    · rw [isReadable_referenceAttribute, Bool.eq_false_iff]
      exact hcolumn.all_isWordChar_iff.not.mpr hword

end Reference

theorem Fits.isDelimiter_referenced (hfit : Fits conflicting fixes e) {fix : ForeignKeyFix}
    (h : fix ∈ fixes) : ∀ c ∈ (capitalize fix.referencedEntity).toList, isDelimiter c = false :=
  isDelimiter_of_mem_capitalize fun c hc =>
    isDelimiter_of_isWordChar ((hfit.referenced fix h).chars c hc)

/-- The lines of a repaired entity keep their places. -/
theorem printable_repairedAttributes (hfit : Fits conflicting fixes e) (hfaithful : e.Faithful) :
    ∀ a ∈ repairedAttributes e conflicting fixes, a.Printable := by
  intro a' ha'
  rcases mem_repairedAttributes hfit ha' with
    ⟨i, a, name, constraints, hi, hname, hconstraints, rfl⟩ | ⟨fix, hfix, -, rfl⟩
  · have ha : a.Written := hfaithful.attributes a (List.mem_of_getElem? hi)
    exact printable_rewritten hfit hfaithful.name ha hname hconstraints
  · exact printable_referenceAttribute (hfit.derived fix hfix) (hfit.isDelimiter_referenced hfix)

/-- A repaired entity is what its block says when the names behind it have no dotted capital I. -/
theorem written_repairedAttributes (hfit : Fits conflicting fixes e) (hwritten : e.Written)
    (hfixes : ∀ fix ∈ fixes, IsName fix.referencedEntity.toList) :
    ∀ a ∈ repairedAttributes e conflicting fixes, a.Written := by
  intro a' ha'
  rcases mem_repairedAttributes hfit ha' with
    ⟨i, a, name, constraints, hi, hname, hconstraints, rfl⟩ | ⟨fix, hfix, -, rfl⟩
  · have ha : a.Written := hwritten.attributes a (List.mem_of_getElem? hi)
    have hreadable := (hname.isReadable_iff hwritten.faithful.name ha constraints).mpr
      fun _ => hwritten.name.undotted
    exact written_rewritten hfit hwritten.faithful.name ha hname hconstraints hreadable
  · have hderived := hfit.derived fix hfix
    exact written_referenceAttribute (hderived.isWord (hfixes fix hfix))
      hderived.exists_not_isSymbol (hfit.isDelimiter_referenced hfix)

section Flags

variable {before : List Attribute} {a : Attribute} (name : String) {constraints : String}

/-- Rewriting keeps what the constraints say, apart from the mark of a foreign key. -/
theorem flags_rewritten (ha : a.Written) (h : MarkedAs fixes before a constraints) :
    (a.rewritten name constraints).isPrimaryKey = a.isPrimaryKey ∧
      (a.rewritten name constraints).isUnique = a.isUnique ∧
      (a.rewritten name constraints).isRequired = a.isRequired := by
  apply ha.flags_rewritten
  cases h with
  | kept _ => exact Or.inl rfl
  | marked _ => exact Or.inr rfl

theorem isForeignKey_rewritten_iff (ha : a.Written) (h : MarkedAs fixes before a constraints) :
    (a.rewritten name constraints).isForeignKey = true ↔
      a.isForeignKey = true ∨ IsMarkedFor fixes before a := by
  have hold := ha.hasFlagsOf
  have hnew := a.hasFlagsOf_rewritten name constraints
  cases h with
  | kept hnot => rw [hnew.isForeignKey, hold.isForeignKey, or_iff_left hnot]
  | marked hfor =>
    obtain ⟨-, -, -, hmark⟩ := Attribute.flags_withMark ha.parts.trimmed
    rw [hnew.isForeignKey, hmark]
    exact ⟨fun _ => Or.inr hfor, fun _ => rfl⟩

end Flags

/-- No column of a repaired entity is called like the generated name column, unless it is a primary
key. -/
theorem isNameConflict_repairedAttributes (hfit : Fits conflicting fixes e)
    (hfaithful : e.Faithful) :
    ∀ a ∈ repairedAttributes e conflicting fixes, isNameConflict a = false := by
  intro a' ha'
  rcases mem_repairedAttributes hfit ha' with
    ⟨i, a, name, constraints, hi, hname, hconstraints, rfl⟩ | ⟨fix, hfix, -, rfl⟩
  · have ha : a.Written := hfaithful.attributes a (List.mem_of_getElem? hi)
    have hflag := (flags_rewritten name ha hconstraints).1
    unfold isNameConflict
    rw [hflag, Attribute.rewritten_name]
    cases hname with
    | key hchosen => simp [hchosen.isPrimaryKey]
    | conflict _ hfree =>
      have hderived := derivedFrom_of_mem_freeNames hfaithful.name hfree
      simp [hderived.lower_eq, hderived.ne_nameColumn]
    | kept _ hconflict => exact hconflict
  · have hderived := hfit.derived fix hfix
    simp [isNameConflict, addedAttribute, referenceAttribute_name, hderived.lower_eq,
      hderived.ne_nameColumn]

def HasForeignKey (attributes : List Attribute) (column : String) : Prop :=
  ∃ a ∈ attributes, a.isForeignKey = true ∧ lower a.name = column

/-- A column that is no chosen key and not called like the generated name column keeps its name. -/
theorem RenamedTo.eq_name {before : List Attribute} {a : Attribute} {name : String}
    (h : RenamedTo e fixes before a name) (hother : ¬ IsChosenKey e fixes before a)
    (hcolumn : lower a.name ≠ Entity.nameColumn) : name = a.name := by
  cases h with
  | key hchosen => exact absurd hchosen hother
  | conflict hconflict _ =>
    simp only [isNameConflict, Bool.and_eq_true, decide_eq_true_eq] at hconflict
    exact absurd hconflict.2 hcolumn
  | kept _ _ => rfl

theorem HasForeignKey.of_filter {attributes : List Attribute} {keep : Attribute → Bool}
    {column : String} (h : HasForeignKey (attributes.filter keep) column) :
    HasForeignKey attributes column := by
  obtain ⟨a, ha, hforeign, hcolumn⟩ := h
  exact ⟨a, (List.mem_filter.mp ha).1, hforeign, hcolumn⟩

/-- A column that keeps its name and becomes or stays a foreign key can be read as one. -/
theorem hasForeignKey_of_kept (hfit : Fits conflicting fixes e) (hfaithful : e.Faithful)
    {before after : List Attribute} {a : Attribute} (hsplit : e.attributes = before ++ a :: after)
    (hother : ¬ IsChosenKey e fixes before a) (hcolumn : lower a.name ≠ Entity.nameColumn)
    (hforeign : a.isForeignKey = true ∨ IsMarkedFor fixes before a) :
    HasForeignKey ((repairedAttributes e conflicting fixes).filter Attribute.isReadable)
      (lower a.name) := by
  have ha : a.Written := hfaithful.attributes a (by simp [hsplit])
  obtain ⟨name, constraints, hname, hconstraints, hget⟩ := getElem?_repairedAttributes hfit hsplit
  obtain rfl := hname.eq_name hother hcolumn
  refine ⟨_, List.mem_filter.mpr ⟨List.mem_of_getElem? hget, ?_⟩,
    (isForeignKey_rewritten_iff _ ha hconstraints).mpr hforeign, by rw [Attribute.rewritten_name]⟩
  apply Attribute.isReadable_of_isWord
  rw [Attribute.rewritten_name]
  exact ha.parts.name

/-- A foreign key with a derived name keeps its name and stays a foreign key. -/
theorem hasForeignKey_of_mem (hfit : Fits conflicting fixes e) (hfaithful : e.Faithful)
    {column : String} (hcolumn : column ≠ Entity.nameColumn)
    (h : HasForeignKey e.attributes column) :
    HasForeignKey ((repairedAttributes e conflicting fixes).filter Attribute.isReadable)
      column := by
  obtain ⟨a, ha, hforeign, rfl⟩ := h
  obtain ⟨before, after, hsplit⟩ := List.append_of_mem ha
  have hother : ¬ IsChosenKey e fixes before a := by
    intro hchosen
    rw [(hchosen.facts hsplit).1] at hforeign
    cases hforeign
  exact hasForeignKey_of_kept hfit hfaithful hsplit hother hcolumn (Or.inl hforeign)

/-- A foreign key that is asked for is marked on the first column with its name. -/
theorem hasForeignKey_of_column (hfit : Fits conflicting fixes e) (hfaithful : e.Faithful)
    {fix : ForeignKeyFix} (hfix : fix ∈ fixes)
    (hsome : ∃ a ∈ e.attributes, lower a.name = fixColumn fix) :
    HasForeignKey ((repairedAttributes e conflicting fixes).filter Attribute.isReadable)
      (fixColumn fix) := by
  have hne := (hfit.derivedFrom_fixColumn hfix).ne_nameColumn
  by_cases hforeign : HasForeignKey e.attributes (fixColumn fix)
  · exact hasForeignKey_of_mem hfit hfaithful hne hforeign
  have hfound : (e.attributes.find? (fun a => lower a.name = fixColumn fix)).isSome = true := by
    simpa using hsome
  obtain ⟨a, hfind⟩ := Option.isSome_iff_exists.mp hfound
  obtain ⟨hcolumn, before, after, hsplit, hbefore⟩ := List.find?_eq_some_iff_append.mp hfind
  have hcolumn : lower a.name = fixColumn fix := by simpa using hcolumn
  have hfirst : ∀ b ∈ before, lower b.name ≠ fixColumn fix := by simpa using hbefore
  have hmarked : IsMarkedFor fixes before a := by
    refine ⟨?_, fun b hb => hcolumn.symm ▸ hfirst b hb, fix, hfix, hcolumn.symm⟩
    by_contra hkey
    exact hforeign ⟨a, by simp [hsplit], by simpa using hkey, hcolumn⟩
  have hother : ¬ IsChosenKey e fixes before a :=
    fun hchosen => (hchosen.facts hsplit).2 fix hfix hcolumn.symm
  rw [← hcolumn] at hne ⊢
  exact hasForeignKey_of_kept hfit hfaithful hsplit hother hne (Or.inr hmarked)

/-- A foreign key that is asked for is added when no column has its name. -/
theorem addedAttribute_mem {fix : ForeignKeyFix} (hfix : fix ∈ fixes)
    (hnone : ∀ a ∈ e.attributes, lower a.name ≠ fixColumn fix) :
    addedAttribute fix ∈ repairedAttributes e conflicting fixes := by
  apply List.mem_of_mem_drop (i := e.attributes.length)
  rw [drop_repairedAttributes]
  refine List.mem_map_of_mem (List.mem_filter.mpr ⟨hfix, ?_⟩)
  simp only [concerns, List.all_eq_true, Bool.not_eq_true', decide_eq_false_iff_not]
  exact fun a ha heq => hnone a ha heq.symm

theorem addedAttribute_name (fix : ForeignKeyFix) : (addedAttribute fix).name = fix.columnName :=
  referenceAttribute_name _ _

/-- Every foreign key that is asked for is there: on the first column with its name, or added. -/
theorem hasForeignKey_of_fix (hfit : Fits conflicting fixes e) (hfaithful : e.Faithful)
    {fix : ForeignKeyFix} (hfix : fix ∈ fixes) :
    HasForeignKey (repairedAttributes e conflicting fixes) (fixColumn fix) := by
  by_cases hsome : ∃ a ∈ e.attributes, lower a.name = fixColumn fix
  · exact (hasForeignKey_of_column hfit hfaithful hfix hsome).of_filter
  · have hnone : ∀ a ∈ e.attributes, lower a.name ≠ fixColumn fix := by simpa using hsome
    refine ⟨addedAttribute fix, addedAttribute_mem hfix hnone,
      referenceAttribute_isForeignKey _ _, ?_⟩
    rw [addedAttribute_name]
    rfl

end EntityDiagram.Repair
