import EntityDiagram.Proofs.Attribute.Written
import EntityDiagram.Repair

/-!
Rewritten attributes. A repair may give a column another name and mark it as a foreign key. Type and
description stay, and the mark changes none of the other properties that are read from the
constraints: they are looked for anywhere in the text, but none of their words reaches across the
mark. So the line that is written for a changed column is read as the column with this change, as
long as its name is more than the letter `o`, which is also a symbol of relationships.
-/
namespace EntityDiagram

open Text

namespace Attribute

def rewritten (a : Attribute) (name constraints : String) : Attribute :=
  ofParts ⟨a.typeToken.toList, name.toList, constraints.toList, a.description.map String.toList⟩

def withMark (constraints : String) : String := trim (constraints ++ " FK")

theorem toList_withMark (constraints : String) :
    (withMark constraints).toList = marked constraints.toList := by
  simp [withMark, trim, marked]

section

variable (a : Attribute) (name constraints : String)

@[simp]
theorem rewritten_name : (a.rewritten name constraints).name = name := by
  simp [rewritten, ofParts]

@[simp]
theorem rewritten_typeToken : (a.rewritten name constraints).typeToken = a.typeToken := by
  simp [rewritten, ofParts]

@[simp]
theorem rewritten_constraints : (a.rewritten name constraints).constraints = constraints := by
  simp [rewritten, ofParts]

@[simp]
theorem rewritten_description : (a.rewritten name constraints).description = a.description := by
  simp [rewritten, ofParts, Function.comp_def]

theorem line_rewritten : (a.rewritten name constraints).line =
    lineText a.typeToken name constraints a.description := by
  simp [line]

end

structure HasFlagsOf (a : Attribute) (constraints : String) : Prop where
  isPrimaryKey : a.isPrimaryKey = contains constraints "PK"
  isForeignKey : a.isForeignKey = contains constraints "FK"
  isUnique : a.isUnique = contains constraints "UK"
  isRequired : a.isRequired = (contains constraints "NOT NULL" || contains constraints "PK")

theorem hasFlagsOf_rewritten (a : Attribute) (name constraints : String) :
    (a.rewritten name constraints).HasFlagsOf constraints := by
  constructor <;> simp [rewritten, ofParts]

namespace Written

variable {a : Attribute}

theorem rewritten_self (h : a.Written) : a.rewritten a.name a.constraints = a :=
  h.ofParts_parts

theorem hasFlagsOf (h : a.Written) : a.HasFlagsOf a.constraints := by
  have hflags := hasFlagsOf_rewritten a a.name a.constraints
  rwa [h.rewritten_self] at hflags

/-- A rewritten attribute is what its line says, as long as a changed column has a name with a
character that is no symbol. -/
theorem rewritten (h : a.Written) {name constraints : String}
    (hname : name = a.name ∨
      IsWord name.toList ∧ ∃ c ∈ name.toList, Relationship.isSymbol c = false)
    (hconstraints : constraints = a.constraints ∨
      constraints = withMark a.constraints ∧
        ∃ c ∈ name.toList, Relationship.isSymbol c = false) :
    (a.rewritten name constraints).Written := by
  have hrenamed : Parts.Written { a.parts with name := name.toList } := by
    rcases hname with rfl | ⟨hword, hother⟩
    · exact h.parts
    · exact h.parts.rename hword hother
  apply written_ofParts
  rcases hconstraints with rfl | ⟨rfl, hother⟩
  · exact hrenamed
  · rw [toList_withMark]
    exact hrenamed.mark hother

end Written

/-- A pattern whose last character is not in the text after lies in the text before. -/
theorem infix_append_iff_of_last {pattern xs ys : List Char} {c : Char}
    (hlast : pattern.getLast? = some c) (hc : c ∉ ys) :
    pattern <:+: xs ++ ys ↔ pattern <:+: xs := by
  constructor
  · intro h
    rcases List.infix_append_iff.mp h with hxs | hys | ⟨left, right, rfl, hleft, hright⟩
    · exact hxs
    · exact absurd (hys.subset (List.mem_of_getLast? hlast)) hc
    · by_cases hnil : right = []
      · subst hnil
        simpa using hleft.isInfix
      · rw [List.getLast?_append_of_ne_nil _ hnil] at hlast
        exact absurd (hright.subset (List.mem_of_getLast? hlast)) hc
  · intro h
    exact List.infix_append_of_infix_left h

/-- What is looked for in marked constraints, other than the mark, was there before. -/
theorem infix_marked_iff {pattern constraints : List Char} (hne : pattern ≠ [])
    (hmark : ∀ xs : List Char, pattern <:+: xs ++ [' ', 'F', 'K'] ↔ pattern <:+: xs)
    (htrim : Trimmed constraints) : pattern <:+: marked constraints ↔ pattern <:+: constraints := by
  by_cases hnil : constraints = []
  · subst hnil
    have hword : ¬ pattern <:+: ['F', 'K'] := by
      intro hoccurs
      have hempty := (hmark []).mp (List.infix_cons hoccurs)
      exact hne (List.infix_nil.mp hempty)
    rw [marked_nil]
    exact ⟨fun h => absurd h hword, fun h => absurd (List.infix_nil.mp h) hne⟩
  · rw [marked_of_ne_nil hnil htrim]
    exact hmark constraints

theorem contains_withMark {constraints pattern : String} (hne : pattern.toList ≠ [])
    (hmark : ∀ xs : List Char, pattern.toList <:+: xs ++ [' ', 'F', 'K'] ↔ pattern.toList <:+: xs)
    (htrim : Trimmed constraints.toList) :
    contains (withMark constraints) pattern = contains constraints pattern := by
  rw [Bool.eq_iff_iff, contains, contains, occursIn_iff, occursIn_iff, toList_withMark]
  exact infix_marked_iff hne hmark htrim

theorem infix_mark_of_gap {pattern : List Char} (hne : pattern ≠ [])
    (hblank : ∀ c ∈ pattern, isBlank c = false) (hword : ¬ pattern <:+: ['F', 'K'])
    (xs : List Char) : pattern <:+: xs ++ [' ', 'F', 'K'] ↔ pattern <:+: xs := by
  have hgap := @infix_gap pattern xs [' '] ['F', 'K'] hne hblank isGap_space
  rw [or_iff_left hword] at hgap
  exact hgap

/-- The mark makes a foreign key and keeps the other properties. -/
theorem flags_withMark {constraints : String} (htrim : Trimmed constraints.toList) :
    contains (withMark constraints) "PK" = contains constraints "PK" ∧
      contains (withMark constraints) "UK" = contains constraints "UK" ∧
      contains (withMark constraints) "NOT NULL" = contains constraints "NOT NULL" ∧
      contains (withMark constraints) "FK" = true := by
  refine ⟨contains_withMark (by decide) ?_ htrim, contains_withMark (by decide) ?_ htrim,
    contains_withMark (by decide) ?_ htrim, ?_⟩
  · exact infix_mark_of_gap (by decide) (forall_mem_of_all (by decide)) (by decide)
  · exact infix_mark_of_gap (by decide) (forall_mem_of_all (by decide)) (by decide)
  · exact fun xs => infix_append_iff_of_last (c := 'L') (by decide) (by decide)
  · rw [contains, occursIn_iff, toList_withMark]
    by_cases hnil : constraints.toList = []
    · rw [hnil, marked_nil]
      exact List.infix_refl _
    · rw [marked_of_ne_nil hnil htrim]
      exact List.infix_append_of_infix_right (List.infix_cons (List.infix_refl _))

/-- Rewriting keeps what the constraints say, apart from the mark of a foreign key. -/
theorem Written.flags_rewritten {a : Attribute} (h : a.Written) (name : String)
    {constraints : String}
    (hconstraints : constraints = a.constraints ∨ constraints = withMark a.constraints) :
    (a.rewritten name constraints).isPrimaryKey = a.isPrimaryKey ∧
      (a.rewritten name constraints).isUnique = a.isUnique ∧
      (a.rewritten name constraints).isRequired = a.isRequired := by
  have hold := h.hasFlagsOf
  have hnew := a.hasFlagsOf_rewritten name constraints
  rcases hconstraints with rfl | rfl
  · exact ⟨hnew.isPrimaryKey.trans hold.isPrimaryKey.symm, hnew.isUnique.trans hold.isUnique.symm,
      hnew.isRequired.trans hold.isRequired.symm⟩
  · obtain ⟨hkey, hunique, hrequired, -⟩ := flags_withMark h.parts.trimmed
    refine ⟨?_, ?_, ?_⟩
    · rw [hnew.isPrimaryKey, hold.isPrimaryKey, hkey]
    · rw [hnew.isUnique, hold.isUnique, hunique]
    · rw [hnew.isRequired, hold.isRequired, hkey, hrequired]

/-- Of all word characters only one is a symbol of relationships. -/
theorem isSymbol_eq_false_of_isWordChar {c : Char} (h : isWordChar c = true) (hc : c ≠ 'o') :
    Relationship.isSymbol c = false := by
  by_contra hsymbol
  simp only [Relationship.isSymbol, Bool.not_eq_false, Bool.or_eq_true, decide_eq_true_eq]
    at hsymbol
  rcases hsymbol with (((rfl | rfl) | rfl) | rfl) | rfl
  · exact absurd h (by decide)
  · exact absurd h (by decide)
  · exact absurd h (by decide)
  · exact hc rfl
  · exact absurd h (by decide)

structure RewrittenAs (a b : Attribute) (name' constraints' : String) : Prop where
  name : b.name = name'
  typeToken : b.typeToken = a.typeToken
  description : b.description = a.description
  constraints : b.constraints = constraints'
  isPrimaryKey : b.isPrimaryKey = a.isPrimaryKey
  isUnique : b.isUnique = a.isUnique
  isRequired : b.isRequired = a.isRequired
  kept : constraints' = a.constraints → b.isForeignKey = a.isForeignKey
  marked : constraints' = trim (a.constraints ++ " FK") → b.isForeignKey = true
  unchanged : name' = a.name → constraints' = a.constraints → b = a

theorem Written.rewrittenAs {a : Attribute} (h : a.Written) (name : String) {constraints : String}
    (hconstraints : constraints = a.constraints ∨ constraints = withMark a.constraints) :
    a.RewrittenAs (a.rewritten name constraints) name constraints := by
  have hforeign := (a.hasFlagsOf_rewritten name constraints).isForeignKey
  obtain ⟨hkey, hunique, hrequired⟩ := h.flags_rewritten name hconstraints
  refine ⟨a.rewritten_name _ _, a.rewritten_typeToken _ _, a.rewritten_description _ _,
    a.rewritten_constraints _ _, hkey, hunique, hrequired, ?_, ?_, ?_⟩
  · rintro rfl
    exact hforeign.trans h.hasFlagsOf.isForeignKey.symm
  · rintro rfl
    exact hforeign.trans (flags_withMark h.parts.trimmed).2.2.2
  · rintro rfl rfl
    exact h.rewritten_self

end Attribute

/-- The line of an attribute that was read from a trimmed line, written with another name or with
the mark of a foreign key, is read as the attribute with this change. A changed column has a name
with a character other than `o`; a column that is not changed may be called anything. -/
theorem rewritten_column_reads_back {line : String} {a : Attribute} {name constraints : String}
    (hline : trim line = line) (hnewline : '\n' ∉ line.toList)
    (ha : Attribute.ofLine? line = some a)
    (hconstraints : constraints = a.constraints ∨ constraints = trim (a.constraints ++ " FK"))
    (hname : (name = a.name ∧ constraints = a.constraints) ∨
      (IsWord name.toList ∧ ∃ c ∈ name.toList, c ≠ 'o')) :
    ∃ b, Attribute.ofLine? (trim (Repair.attributeIndent
        (Attribute.lineText a.typeToken name constraints a.description))) = some b ∧
      a.RewrittenAs b name constraints := by
  have hold := Attribute.written_of_ofLine? ha (trimmed_of_trim_eq hline).last hnewline
  have hnew : (a.rewritten name constraints).Written := by
    rcases hname with ⟨rfl, rfl⟩ | ⟨hword, c, hc, hother⟩
    · exact hold.rewritten (Or.inl rfl) (Or.inl rfl)
    · have hsymbol : ∃ c ∈ name.toList, Relationship.isSymbol c = false :=
        ⟨c, hc, Attribute.isSymbol_eq_false_of_isWordChar (hword.chars c hc) hother⟩
      exact hold.rewritten (Or.inr ⟨hword, hsymbol⟩) (hconstraints.imp_right (⟨·, hsymbol⟩))
  have hindent : trim (Repair.attributeIndent (a.rewritten name constraints).line) =
      (a.rewritten name constraints).line :=
    (Attribute.isContent_line hnew.parts.printable).trim_indent (forall_mem_of_all (by decide))
  rw [← Attribute.line_rewritten, hindent]
  exact ⟨_, Attribute.ofLine?_line hnew, hold.rewrittenAs name hconstraints⟩

def totalLine : String := "decimal  o \t NOT NULL   \x22due: 'net'; PK\x22"

theorem rewritten_column_reads_back_total :
    trim totalLine = totalLine ∧ '\n' ∉ totalLine.toList ∧
      ∃ a b, Attribute.ofLine? totalLine = some a ∧
        Attribute.ofLine? (trim (Repair.attributeIndent (Attribute.lineText a.typeToken "total_id"
          (trim (a.constraints ++ " FK")) a.description))) = some b ∧
        a.RewrittenAs b "total_id" (trim (a.constraints ++ " FK")) := by
  have htrim : trim totalLine = totalLine := by decide
  have hnewline : '\n' ∉ totalLine.toList := by decide
  have hread : (Attribute.ofLine? totalLine).isSome = true := by decide
  obtain ⟨a, ha⟩ := Option.isSome_iff_exists.mp hread
  have hword : IsWord "total_id".toList := ⟨by decide, forall_mem_of_all (by decide)⟩
  obtain ⟨b, hb, hchange⟩ := rewritten_column_reads_back htrim hnewline ha (Or.inr rfl)
    (Or.inr ⟨hword, 't', by decide, by decide⟩)
  exact ⟨htrim, hnewline, a, b, ha, hb, hchange⟩

-- a column that is called `o` cannot be marked: the marked line reads as a relationship
example : (Attribute.ofLine? "int o").isSome = true ∧ Attribute.ofLine? "int o FK" = none := by
  decide

end EntityDiagram
