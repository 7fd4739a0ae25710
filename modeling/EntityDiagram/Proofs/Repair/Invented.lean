import EntityDiagram.Proofs.Repair.Resolved

/-!
Invented columns. A repair makes up names for columns: the foreign key of an added column, the
columns of a junction entity and the new name of a column that is called like the generated name
column. Each of them comes from the name of an entity in lower case, and the lower case of the
dotted capital I has a combining dot, which is no word character. So an invented name is a word
exactly when the entity has no such letter. The line is written in any case, but it is read as a
column only when the name is a word.
-/
namespace EntityDiagram

open Text Repair

def inventedNames (entity : String) (count : Nat) : List String :=
  s!"{lower entity}_id" :: s!"related_{lower entity}_id" :: nameCandidates (lower entity) count

/-- A repair of the report writes a column with an invented name: the entity that the name comes
from, the entity that gets the column, its name and its line. -/
inductive Report.Invents (r : Report) : String → String → String → String → Prop
  /-- A column that gets a free name; a key gets the generated one. -/
  | renamed {e : Entity} {c : Column} (he : e ∈ r.entities) (hc : c ∈ (entityColumns r.plan e).1)
      (hname : c.name ≠ c.source.name) (hkey : c.name ≠ Entity.nameColumn) :
      r.Invents e.name e.name c.name c.line
  | added {e : Entity} {fix : ForeignKeyFix} (he : e ∈ r.entities)
      (hfix : fix ∈ (entityColumns r.plan e).2.pending) :
      r.Invents fix.referencedEntity e.name fix.columnName (addedLine fix)
  | joined {fix : JunctionFix} {side column : String} (hfix : fix ∈ r.createdJunctions r.plan)
      (hside : (side, column) ∈
        [(fix.fromEntity, (junctionColumns fix).1), (fix.toEntity, (junctionColumns fix).2)]) :
      r.Invents side fix.junctionEntity column
        (Attribute.lineText "string" column "FK" (some s!"Foreign key to {side}"))

theorem derivedFrom_of_mem_inventedNames {entity column : String} {count : Nat}
    (hword : IsWord entity.toList) (h : column ∈ inventedNames entity count) :
    DerivedFrom entity column := by
  rw [inventedNames, List.mem_cons, List.mem_cons] at h
  rcases h with rfl | rfl | h
  · exact derivedFrom_key hword
  · exact derivedFrom_related hword
  · exact derivedFrom_of_mem_nameCandidates hword h

namespace Repair

variable {e : Entity} {conflicting : List String} {fixes : List ForeignKeyFix}

/-- A repaired column is that of a column in its place. -/
theorem exists_of_mem_repairColumns {columns : List Attribute} {state : State} {c : Column}
    (h : c ∈ (repairColumns e conflicting state columns).1) :
    ∃ before a after, columns = before ++ a :: after ∧
      c = repairColumn e conflicting (before.foldl (advance conflicting) state) a := by
  induction columns generalizing state with
  | nil => cases h
  | cons a rest ih =>
    rw [repairColumns, List.mem_cons] at h
    rcases h with rfl | h
    · exact ⟨[], a, rest, rfl, rfl⟩
    · obtain ⟨before, b, after, rfl, rfl⟩ := ih h
      exact ⟨a :: before, b, after, rfl, rfl⟩

/-- A new name that is not the generated one is a free name. -/
theorem mem_freeNames_of_renamed (hfit : Fits conflicting fixes e) {c : Column}
    (hc : c ∈ (repairColumns e conflicting (start e fixes) e.attributes).1)
    (hname : c.name ≠ c.source.name) (hkey : c.name ≠ Entity.nameColumn) :
    c.name ∈ freeNames (lower e.name) (takenNames e fixes) e.attributes.length := by
  obtain ⟨before, a, after, hsplit, rfl⟩ := exists_of_mem_repairColumns hc
  have hrenamed : RenamedTo e fixes before a
      (repairColumn e conflicting (before.foldl (advance conflicting) (start e fixes)) a).name :=
    renamedTo_repairedName hfit hsplit
  generalize (repairColumn e conflicting (before.foldl (advance conflicting) (start e fixes))
    a).name = name at hrenamed hname hkey ⊢
  cases hrenamed with
  | key _ => exact absurd rfl hkey
  | conflict _ hfree => exact hfree
  | kept _ _ => exact absurd rfl hname

/-- A foreign key is left over when no column has its name. -/
theorem mem_pending_iff {plan : Plan} {fix : ForeignKeyFix} :
    fix ∈ (entityColumns plan e).2.pending ↔
      fix ∈ plan.foreignKeysOf e.name ∧ ∀ a ∈ e.attributes, lower a.name ≠ fixColumn fix := by
  rw [entityColumns, state_repairColumns, foldl_advance, List.mem_filter]
  simp only [start, concerns, List.all_eq_true, Bool.not_eq_true', decide_eq_false_iff_not,
    ne_comm, ne_eq]

end Repair

namespace Diagram

variable {d : Diagram} {stem entity column line : String}

/-- An invented name is one of those that come from its entity. -/
theorem mem_inventedNames (h : d.Faithful)
    (hinvents : (Report.ofDiagram d).Invents stem entity column line) :
    IsWord stem.toList ∧ ∃ count, column ∈ inventedNames stem count := by
  cases hinvents with
  | @renamed e c he hc hname hkey =>
    have hfree := mem_freeNames_of_renamed (h.fits he) hc hname hkey
    exact ⟨(h.entities e he).name, _,
      List.mem_cons_of_mem _ (List.mem_cons_of_mem _ (mem_freeNames hfree).1)⟩
  | @added e fix he hfix =>
    obtain ⟨q, hq, -, -, -, rfl⟩ := exists_of_mem_foreignKeysOf (mem_pending_iff.mp hfix).1
    exact ⟨(h.relationships q hq).fromEntity, 0, List.mem_cons_self⟩
  | @joined fix _ _ hfix hside =>
    have hfix : fix ∈ d.created := createdJunctions_ofDiagram d ▸ hfix
    obtain ⟨-, hfrom, hto⟩ := h.junction_words (List.mem_filter.mp hfix).1
    simp only [List.mem_cons, Prod.mk.injEq, List.not_mem_nil, or_false] at hside
    rcases hside with ⟨rfl, rfl⟩ | ⟨rfl, rfl⟩
    · exact ⟨hfrom, 0, List.mem_cons_self⟩
    · refine ⟨hto, 0, ?_⟩
      rw [inventedNames, List.mem_cons, List.mem_cons, junctionColumns]
      dsimp only
      split
      · exact Or.inr (Or.inl rfl)
      · exact Or.inl rfl

/-- The line of an invented column is that of a column of the repaired diagram. -/
theorem exists_attribute_of_invents
    (hinvents : (Report.ofDiagram d).Invents stem entity column line) :
    ∃ f ∈ d.repaired.entities, f.name = entity ∧
      ∃ b ∈ f.attributes, b.name = column ∧ b.line = line := by
  cases hinvents with
  | @renamed e c he hc hname hkey =>
    exact ⟨repairedEntity d.plan e, List.mem_append_left _ (List.mem_map_of_mem he), rfl,
      c.attribute, List.mem_append_left _ (List.mem_map_of_mem hc),
      Attribute.rewritten_name _ _ _, line_attribute c⟩
  | @added e fix he hfix =>
    exact ⟨repairedEntity d.plan e, List.mem_append_left _ (List.mem_map_of_mem he), rfl,
      addedAttribute fix, List.mem_append_right _ (List.mem_map_of_mem hfix),
      addedAttribute_name fix, line_referenceAttribute _ _⟩
  | @joined fix _ _ hfix hside =>
    have hfix : fix ∈ d.created := createdJunctions_ofDiagram d ▸ hfix
    refine ⟨madeEntity fix, List.mem_append_right _ (List.mem_map_of_mem hfix), rfl,
      referenceAttribute column stem, ?_, referenceAttribute_name _ _, line_referenceAttribute _ _⟩
    simp only [List.mem_cons, Prod.mk.injEq, List.not_mem_nil, or_false] at hside
    rcases hside with ⟨rfl, rfl⟩ | ⟨rfl, rfl⟩ <;> simp [madeEntity]

/-- A column of a repaired diagram is found again exactly when its name is a word. -/
theorem exists_column_readable_iff {f : Entity} (hf : f ∈ d.repaired.entities)
    {b : Attribute} (hb : b ∈ f.attributes) :
    (∃ f' ∈ d.repaired.readable.entities, f'.name = f.name ∧ ∃ b' ∈ f'.attributes,
      b'.name = b.name) ↔ b.isReadable = true := by
  constructor
  · rintro ⟨f', hf', -, b', hb', hname⟩
    obtain ⟨g, -, rfl⟩ := List.mem_map.mp hf'
    have hreadable := (List.mem_filter.mp hb').2
    rwa [Attribute.isReadable, hname] at hreadable
  · intro hreadable
    exact ⟨f.readable, List.mem_map_of_mem hf, rfl, b, List.mem_filter.mpr ⟨hb, hreadable⟩, rfl⟩

/-- A column is invented for the foreign key of a relationship when no column has its name. The name
comes from the first side of this relationship, or of another one with the same foreign key; here
all have the same first side. -/
theorem exists_invents_of_missing (h : d.Faithful)
    (hmissing : ∃ q ∈ d.relationships, q.isManyToMany = false ∧ q.fromEntity ∈ d.names ∧
      q.expectedForeignKey = column ∧ ∃ e ∈ d.entities, e.name = q.toEntity ∧ e.name = entity ∧
        ∀ a ∈ e.attributes, lower a.name ≠ column)
    (hsource : ∀ q ∈ d.relationships, q.fromEntity = stem) :
    ∃ line, (Report.ofDiagram d).Invents stem entity column line := by
  obtain ⟨q, hq, hmany, hfrom, rfl, e, he, hto, rfl, hnone⟩ := hmissing
  have hwithout : ¬ HasForeignKey e.attributes q.expectedForeignKey := by
    rintro ⟨a, ha, -, hcolumn⟩
    exact hnone a ha hcolumn
  obtain ⟨fix, hfix, hcolumn⟩ := exists_mem_foreignKeysOf h hq hmany hfrom he hto hwithout
  have hpending : fix ∈ (entityColumns d.plan e).2.pending :=
    mem_pending_iff.mpr ⟨hfix, hcolumn ▸ hnone⟩
  rw [(h.fits he).fixColumn_eq hfix] at hcolumn
  have hinvents : (Report.ofDiagram d).Invents fix.referencedEntity e.name fix.columnName
      (addedLine fix) := .added he hpending
  obtain ⟨p, hp, -, -, -, rfl⟩ := exists_of_mem_foreignKeysOf hfix
  rw [← hcolumn, ← hsource p hp]
  exact ⟨_, hinvents⟩

/-- The line of a column of a printable diagram is one of the lines of its text. -/
theorem line_mem_significantLines (h : d.Printable) {f : Entity} (hf : f ∈ d.entities)
    {b : Attribute} (hb : b ∈ f.attributes) : b.line ∈ significantLines d.text := by
  rw [significantLines_text h, List.mem_append, List.mem_flatMap]
  refine Or.inl ⟨f, hf, ?_⟩
  rw [Entity.contentLines, List.mem_append, List.mem_cons]
  exact Or.inl (Or.inr (List.mem_map_of_mem hb))

end Diagram

namespace Report

structure ReadsBack (r : Report) (stem entity column line : String) : Prop where
  stem_isWord : IsWord stem.toList
  invented : ∃ count, column ∈ inventedNames stem count
  written : line ∈ significantLines r.correct.text
  read : (Attribute.ofLine? line).map (·.name) =
    if '\u0130' ∈ stem.toList then none else some column
  kept : (∃ f ∈ r.corrected.entities, f.name = entity ∧ ∃ b ∈ f.attributes, b.name = column) ↔
    '\u0130' ∉ stem.toList

theorem entities_ofDiagram (d : Diagram) : (ofDiagram d).entities = d.entities := rfl

theorem corrected_entities (text : String) : (Report.ofText text).corrected.entities =
    (Diagram.ofText text).repaired.readable.entities := by
  rw [corrected_ofText_readable, entities_ofDiagram]

theorem Invents.readsBack {text stem entity column line : String}
    (h : (Report.ofText text).Invents stem entity column line) :
    (Report.ofText text).ReadsBack stem entity column line := by
  have hfaithful := Diagram.faithful_ofText text
  have hprintable := hfaithful.printable_repaired
  obtain ⟨hword, count, hcount⟩ := Diagram.mem_inventedNames hfaithful h
  obtain ⟨f, hf, hentity, b, hb, hcolumn, hline⟩ := Diagram.exists_attribute_of_invents h
  have hreadable : b.isReadable = true ↔ '\u0130' ∉ stem.toList := by
    have hderived := derivedFrom_of_mem_inventedNames hword hcount
    rw [Attribute.isReadable, hcolumn, hderived.all_isWordChar_iff, hderived.isWord_iff]
  have hmem := Diagram.line_mem_significantLines hprintable hf hb
  have hread := ((hprintable.entities f hf).attributes b hb).read
  have hkept := Diagram.exists_column_readable_iff hf hb
  rw [hline] at hmem hread
  rw [hentity, hcolumn, hreadable] at hkept
  refine ⟨hword, ⟨count, hcount⟩, ?_, ?_, ?_⟩
  · rw [Report.ofText, correct_text]
    exact hmem
  · by_cases hdot : '\u0130' ∈ stem.toList
    · rw [hread, if_neg (hreadable.not.mpr (not_not.mpr hdot)), if_pos hdot]
      rfl
    · rw [hread, if_pos (hreadable.mpr hdot), if_neg hdot, Option.map_some, hcolumn]
  · rw [corrected_entities]
    exact hkept

end Report

/-- The names that a repair can make from the name of an entity are words exactly when that name has
no dotted capital I. Whatever a repair invents from the name, in any text, is one of these names. It
is written in a line of the repaired text, and if the name of the entity has no dotted capital I the
line is read as a column with the invented name, which is kept. Otherwise the line is no column and
none with that name is kept. -/
theorem invented_columns_read_back_iff {header stem : String}
    (hheader : headerName? header = some stem) :
    (∀ count, ∀ column ∈ inventedNames stem count,
      (IsWord column.toList ↔ '\u0130' ∉ stem.toList)) ∧
    ∀ text entity column line, (Report.ofText text).Invents stem entity column line →
      (Report.ofText text).ReadsBack stem entity column line := by
  have hword := (isWord_of_headerName? hheader).1
  refine ⟨fun count column hcolumn => ?_, fun _ _ _ _ hinvents => hinvents.readsBack⟩
  exact (derivedFrom_of_mem_inventedNames hword hcolumn).isWord_iff

def unlinkedText : String :=
  "A \x7b\n int id PK\n\x7d\nB \x7b\n int id PK\n\x7d\nA ||--o\x7b B"

theorem invented_columns_read_back_iff_unlinked :
    headerName? "A \x7b" = some "A" ∧
      ∃ line, (Report.ofText unlinkedText).Invents "A" "B" "a_id" line ∧
        (Attribute.ofLine? line).map (·.name) = some "a_id" ∧
        ∃ f ∈ (Report.ofText unlinkedText).corrected.entities,
          f.name = "B" ∧ ∃ b ∈ f.attributes, b.name = "a_id" := by
  have hheader : headerName? "A \x7b" = some "A" := by decide +kernel
  have hdot : '\u0130' ∉ "A".toList := by decide
  obtain ⟨line, hinvents⟩ : ∃ line, (Report.ofText unlinkedText).Invents "A" "B" "a_id" line :=
    Diagram.exists_invents_of_missing (Diagram.faithful_ofText unlinkedText) (by decide +kernel)
      (by decide +kernel)
  have hback := (invented_columns_read_back_iff hheader).2 _ _ _ _ hinvents
  have hread := hback.read
  rw [if_neg hdot] at hread
  exact ⟨hheader, line, hinvents, hread, hback.kept.mpr hdot⟩

def dottedText : String :=
  "\u0130 \x7b\n int id PK\n\x7d\nB \x7b\n int id PK\n\x7d\n\u0130 ||--o\x7b B"

theorem dotted_columns_are_lost :
    headerName? "\u0130 \x7b" = some "\u0130" ∧ "i\u0307_id" ∈ inventedNames "\u0130" 0 ∧
      ¬ IsWord "i\u0307_id".toList ∧
      ∃ line, (Report.ofText dottedText).Invents "\u0130" "B" "i\u0307_id" line ∧
        line ∈ significantLines (Report.ofText dottedText).correct.text ∧
        Attribute.ofLine? line = none ∧
        ¬ ∃ f ∈ (Report.ofText dottedText).corrected.entities,
          f.name = "B" ∧ ∃ b ∈ f.attributes, b.name = "i\u0307_id" := by
  have hheader : headerName? "\u0130 \x7b" = some "\u0130" := by decide +kernel
  have hcolumn : "i\u0307_id" ∈ inventedNames "\u0130" 0 := by decide +kernel
  have hdot : '\u0130' ∈ "\u0130".toList := by decide
  have hword : ¬ IsWord "i\u0307_id".toList := by
    have hderived := derivedFrom_of_mem_inventedNames (isWord_of_headerName? hheader).1 hcolumn
    exact hderived.isWord_iff.not.mpr (not_not.mpr hdot)
  obtain ⟨line, hinvents⟩ :
      ∃ line, (Report.ofText dottedText).Invents "\u0130" "B" "i\u0307_id" line :=
    Diagram.exists_invents_of_missing (Diagram.faithful_ofText dottedText) (by decide +kernel)
      (by decide +kernel)
  have hback := Report.Invents.readsBack hinvents
  have hread := hback.read
  rw [if_pos hdot, Option.map_eq_none_iff] at hread
  exact ⟨hheader, hcolumn, hword, line, hinvents, hback.written, hread,
    hback.kept.not.mpr (not_not.mpr hdot)⟩

end EntityDiagram
