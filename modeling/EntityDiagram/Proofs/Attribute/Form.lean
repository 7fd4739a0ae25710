import EntityDiagram.Proofs.Attribute.Grammar

/-!
Forms of attribute lines. A form is a line taken apart: a type and a name with a gap between them,
then constraints and a description where the column has them, each with the gap before it. A trimmed
line is read as an attribute exactly when it has a form and does not look like a relationship. Two
forms never make the same line, so a line says in one way only what its parts are, whatever blanks,
quotes and parentheses it holds.
-/
namespace EntityDiagram

open Text

namespace Attribute

@[ext]
structure ConstraintsPart where
  gap : List Char
  text : List Char
  isGap : IsGap gap
  ne_nil : text ≠ []
  trimmed : Trimmed text
  unquoted : '\x22' ∉ text

@[ext]
structure DescriptionPart where
  gap : List Char
  text : List Char
  isGap : IsGap gap
  unquoted : '\x22' ∉ text

@[ext]
structure Form where
  type : List Char
  gap : List Char
  name : List Char
  constraints : Option ConstraintsPart
  description : Option DescriptionPart
  isType : TypeToken type
  isGap : IsGap gap
  isWord : IsWord name

def ConstraintsPart.chars (c : ConstraintsPart) : List Char := c.gap ++ c.text

def DescriptionPart.chars (d : DescriptionPart) : List Char := d.gap ++ quoted d.text

namespace Form

def constraintsText (f : Form) : List Char := f.constraints.elim [] (·.text)

def tail (f : Form) : List Char :=
  f.constraints.elim [] (·.chars) ++ f.description.elim [] (·.chars)

def line (f : Form) : List Char := f.type ++ (f.gap ++ (f.name ++ f.tail))

def parts (f : Form) : Parts :=
  ⟨f.type, f.name, f.constraintsText, f.description.map (·.text)⟩

theorem isTail (f : Form) : Tail f.tail f.constraintsText (f.description.map (·.text)) := by
  obtain ⟨type, gap, name, constraints, description, -, -, -⟩ := f
  cases constraints with
  | none =>
    cases description with
    | none => exact Tail.bare
    | some d => exact Tail.described d.isGap d.unquoted
  | some c =>
    cases description with
    | none =>
      have htail := Tail.constrained c.isGap c.ne_nil c.trimmed c.unquoted
      simpa [tail, constraintsText, ConstraintsPart.chars] using htail
    | some d =>
      have htail := Tail.full c.isGap c.ne_nil c.trimmed c.unquoted d.isGap d.unquoted
      simpa [tail, constraintsText, ConstraintsPart.chars, DescriptionPart.chars] using htail

theorem splits (f : Form) : Splits f.line f.parts f.gap f.tail where
  line_eq := rfl
  type := f.isType
  gap := f.isGap
  name := f.isWord
  tail := f.isTail

theorem scan?_line (f : Form) : scan? f.line = some f.parts := scan?_of_splits f.splits

end Form

/-- A tail is made of the two optional parts. -/
theorem Tail.exists_parts {cs constraints : List Char} {description : Option (List Char)}
    (h : Tail cs constraints description) :
    ∃ (c : Option ConstraintsPart) (d : Option DescriptionPart),
      cs = c.elim [] (·.chars) ++ d.elim [] (·.chars) ∧
        constraints = c.elim [] (·.text) ∧ description = d.map (·.text) := by
  cases h with
  | bare => exact ⟨none, none, rfl, rfl, rfl⟩
  | constrained hgap hne htrim hquote =>
    exact ⟨some ⟨_, _, hgap, hne, htrim, hquote⟩, none, by simp [ConstraintsPart.chars], rfl, rfl⟩
  | described hgap hquote => exact ⟨none, some ⟨_, _, hgap, hquote⟩, rfl, rfl, rfl⟩
  | full hgap hne htrim hquote hgap' hquote' =>
    exact ⟨some ⟨_, _, hgap, hne, htrim, hquote⟩, some ⟨_, _, hgap', hquote'⟩,
      by simp [ConstraintsPart.chars, DescriptionPart.chars], rfl, rfl⟩

theorem Splits.exists_form {line gap tail : List Char} {p : Parts} (h : Splits line p gap tail) :
    ∃ f : Form, f.line = line ∧ f.parts = p := by
  obtain ⟨type, name, constraints, description⟩ := p
  obtain ⟨hline, htype, hgap, hname, htail⟩ := h
  dsimp only at hline htype hname htail
  obtain ⟨c, d, rfl, rfl, rfl⟩ := htail.exists_parts
  exact ⟨⟨type, gap, name, c, d, htype, hgap, hname⟩, hline.symm, rfl⟩

/-- A description with its gap is fixed by its text. -/
theorem description_inj {d d' : Option DescriptionPart}
    (htext : d.map (·.text) = d'.map (·.text))
    (hchars : d.elim [] (·.chars) = d'.elim [] (·.chars)) : d = d' := by
  cases d with
  | none => exact (Option.map_eq_none_iff.mp htext.symm).symm
  | some part =>
    obtain ⟨part', rfl, hsame⟩ := Option.map_eq_some_iff.mp htext.symm
    simp only [Option.elim_some, DescriptionPart.chars, hsame] at hchars
    exact congrArg some (DescriptionPart.ext (List.append_cancel_right hchars) hsame.symm)

/-- The gaps of a tail are fixed by the texts after them. -/
theorem parts_inj {c c' : Option ConstraintsPart} {d d' : Option DescriptionPart}
    (htail : c.elim [] (·.chars) ++ d.elim [] (·.chars) =
      c'.elim [] (·.chars) ++ d'.elim [] (·.chars))
    (hconstraints : c.elim [] (·.text) = c'.elim [] (·.text))
    (hdescription : d.map (·.text) = d'.map (·.text)) : c = c' ∧ d = d' := by
  cases c with
  | none =>
    cases c' with
    | none => exact ⟨rfl, description_inj hdescription htail⟩
    | some part' => exact absurd hconstraints.symm part'.ne_nil
  | some part =>
    cases c' with
    | none => exact absurd hconstraints part.ne_nil
    | some part' =>
      have hhead : ∀ (part : ConstraintsPart) (rest : List Char),
          ∀ x ∈ (part.text ++ rest).head?, isBlank x = false := by
        intro part rest x hx
        rw [List.head?_append_of_ne_nil _ part.ne_nil] at hx
        exact part.trimmed.head x hx
      simp only [Option.elim_some, ConstraintsPart.chars, List.append_assoc] at htail hconstraints
      obtain ⟨hgap, hrest⟩ := append_inj_of_head part.isGap.chars part'.isGap.chars
        (hhead part _) (hhead part' _) htail
      rw [hconstraints] at hrest
      exact ⟨congrArg some (ConstraintsPart.ext hgap hconstraints),
        description_inj hdescription (List.append_cancel_left hrest)⟩

/-- Two forms never make the same line. -/
theorem Form.line_injective : Function.Injective Form.line := by
  intro f f' h
  -- reading finds the texts, and each gap ends where the text after it begins
  have hparts : f.parts = f'.parts := by
    have hscan := f.scan?_line
    rw [h, f'.scan?_line] at hscan
    exact (Option.some.inj hscan).symm
  obtain ⟨htype, hname, hconstraints, hdescription⟩ := Parts.mk.inj hparts
  have hhead : ∀ (f : Form) (rest : List Char), ∀ c ∈ (f.name ++ rest).head?, isBlank c = false :=
    fun f _ c hc => isBlank_of_isWordChar (f.isWord.chars c (head?_append_mem f.isWord.ne_nil hc))
  unfold line at h
  rw [htype] at h
  obtain ⟨hgap, hrest⟩ := append_inj_of_head f.isGap.chars f'.isGap.chars (hhead f _) (hhead f' _)
    (List.append_cancel_left h)
  rw [hname] at hrest
  obtain ⟨hc, hd⟩ := parts_inj (List.append_cancel_left hrest) hconstraints hdescription
  exact Form.ext htype hgap hname hc hd

/-- On a trimmed line reading finds the parts of the form. -/
theorem scan?_eq_some_iff_form {line : List Char} (h : Trimmed line) {p : Parts} :
    scan? line = some p ↔ ∃ f : Form, f.line = line ∧ f.parts = p := by
  constructor
  · intro hscan
    obtain ⟨gap, tail, hsplits⟩ := splits_of_scan? h.last hscan
    exact hsplits.exists_form
  · rintro ⟨f, rfl, rfl⟩
    exact f.scan?_line

structure Form.Describes (f : Form) (a : Attribute) : Prop where
  typeToken : a.typeToken = String.ofList f.type
  name : a.name = String.ofList f.name
  constraints : a.constraints = String.ofList f.constraintsText
  description : a.description = f.description.map fun d => String.ofList d.text
  isPrimaryKey : a.isPrimaryKey = true ↔ "PK".toList <:+: f.constraintsText
  isForeignKey : a.isForeignKey = true ↔ "FK".toList <:+: f.constraintsText
  isUnique : a.isUnique = true ↔ "UK".toList <:+: f.constraintsText
  isRequired : a.isRequired = true ↔
    "NOT NULL".toList <:+: f.constraintsText ∨ "PK".toList <:+: f.constraintsText

theorem Form.describes_ofParts (f : Form) : f.Describes (ofParts f.parts) := by
  have hcontains (word : String) : contains (String.ofList f.constraintsText) word = true ↔
      word.toList <:+: f.constraintsText := by
    rw [contains, String.toList_ofList, occursIn_iff]
  constructor
  · rfl
  · rfl
  · rfl
  · simp [ofParts, parts, Function.comp_def]
  · exact hcontains "PK"
  · exact hcontains "FK"
  · exact hcontains "UK"
  · exact Bool.or_eq_true _ _ ▸ or_congr (hcontains "NOT NULL") (hcontains "PK")

theorem ofLine?_eq_some_iff_form {line : String} (h : Trimmed line.toList) {a : Attribute} :
    ofLine? line = some a ↔ Relationship.isShaped line = false ∧
      ∃ f : Form, f.line = line.toList ∧ ofParts f.parts = a := by
  unfold ofLine?
  split
  · next hshaped => simp [hshaped]
  · next hshaped =>
    rw [Option.map_eq_some_iff, and_iff_right (by simpa using hshaped)]
    simp only [scan?_eq_some_iff_form h]
    constructor
    · rintro ⟨p, ⟨f, hline, rfl⟩, hparts⟩
      exact ⟨f, hline, hparts⟩
    · rintro ⟨f, hline, hparts⟩
      exact ⟨f.parts, ⟨f, hline, rfl⟩, hparts⟩

end Attribute

/-- A trimmed line is read as an attribute exactly when it does not look like a relationship and has
a form. It has at most one, and that form says what the attribute is. -/
theorem attribute_lines_have_one_form {line : String} (h : trim line = line) :
    ((Attribute.ofLine? line).isSome = true ↔
        Relationship.isShaped line = false ∧ ∃ f : Attribute.Form, f.line = line.toList) ∧
      (∀ f f' : Attribute.Form, f.line = line.toList → f'.line = line.toList → f = f') ∧
      ∀ (f : Attribute.Form) (a : Attribute), f.line = line.toList →
        Attribute.ofLine? line = some a → f.Describes a := by
  have htrimmed := trimmed_of_trim_eq h
  have hunique : ∀ f f' : Attribute.Form, f.line = line.toList → f'.line = line.toList → f = f' :=
    fun f f' hf hf' => Attribute.Form.line_injective (hf.trans hf'.symm)
  refine ⟨?_, hunique, ?_⟩
  · simp [Option.isSome_iff_exists, Attribute.ofLine?_eq_some_iff_form htrimmed]
  · intro f a hf ha
    obtain ⟨-, f', hf', rfl⟩ := (Attribute.ofLine?_eq_some_iff_form htrimmed).mp ha
    rw [hunique f f' hf hf']
    exact f'.describes_ofParts

def stateForm : Attribute.Form where
  type := "choice(New, \x22Sent\x22)".toList
  gap := "  ".toList
  name := "state".toList
  constraints := some
    ⟨" \t ".toList, "NOT NULL  PK".toList, ⟨by decide, forall_mem_of_all (by decide)⟩, by decide,
      trimmed_of_trim_eq (by decide), by decide⟩
  description := some
    ⟨"   ".toList, "Where: it is".toList, ⟨by decide, forall_mem_of_all (by decide)⟩, by decide⟩
  isType := @Attribute.TypeToken.call "choice".toList "New, \x22Sent\x22".toList (Or.inl rfl)
    (by decide) (by decide)
  isGap := ⟨by decide, forall_mem_of_all (by decide)⟩
  isWord := ⟨by decide, forall_mem_of_all (by decide)⟩

def stateLine : String :=
  "choice(New, \x22Sent\x22)  state \t NOT NULL  PK   \x22Where: it is\x22"

theorem attribute_lines_have_one_form_state :
    trim stateLine = stateLine ∧ stateForm.line = stateLine.toList ∧
      (∀ f : Attribute.Form, f.line = stateLine.toList → f = stateForm) ∧
      ∃ a, Attribute.ofLine? stateLine = some a ∧ stateForm.Describes a := by
  have htrim : trim stateLine = stateLine := by decide
  have hline : stateForm.line = stateLine.toList := by decide
  have hshaped : Relationship.isShaped stateLine = false := by decide
  obtain ⟨hiff, hunique, hsays⟩ := attribute_lines_have_one_form htrim
  obtain ⟨a, ha⟩ := Option.isSome_iff_exists.mp (hiff.mpr ⟨hshaped, stateForm, hline⟩)
  exact ⟨htrim, hline, fun f hf => hunique f stateForm hf hline, a, ha, hsays stateForm a hline ha⟩

end EntityDiagram
