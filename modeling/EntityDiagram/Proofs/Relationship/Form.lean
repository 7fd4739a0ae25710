import EntityDiagram.Proofs.Relationship.Grammar
import EntityDiagram.Repair

/-!
Forms of relationship lines. A form is a line taken apart: two words with symbols between them and,
where the relationship has one, a label after a colon. A trimmed line is read as a relationship
exactly when it has a form, and two forms never make the same line: the letter `o` is a symbol and a
word character, but the gaps around the symbols tell which one it is. A label loses at most one
quote at each end. Written anew, in quotes, it loses these and nothing else.
-/
namespace EntityDiagram

open Text

namespace Relationship

@[ext]
structure LabelPart where
  before : List Char
  after : List Char
  text : List Char
  before_blank : ∀ c ∈ before, isBlank c = true
  after_blank : ∀ c ∈ after, isBlank c = true
  ne_nil : text ≠ []
  head : ∀ c ∈ text.head?, isBlank c = false
  newline : '\n' ∉ text

@[ext]
structure Form where
  fromEntity : List Char
  gap : List Char
  symbols : List Char
  gap' : List Char
  toEntity : List Char
  label : Option LabelPart
  isFrom : IsWord fromEntity
  isGap : IsGap gap
  isSymbols : IsSymbols symbols
  isGap' : IsGap gap'
  isTo : IsWord toEntity

namespace LabelPart

def chars (l : LabelPart) : List Char := l.before ++ ':' :: (l.after ++ l.text)

theorem dropWhile_chars (l : LabelPart) : l.chars.dropWhile isBlank = ':' :: (l.after ++ l.text) :=
  dropWhile_append_of_head l.before_blank fun c hc => by
    obtain rfl : ':' = c := by simpa using hc
    decide

theorem labelChars?_eq (l : LabelPart) : labelChars? (l.after ++ l.text) = some l.text := by
  have hdrop := dropWhile_append_of_head l.after_blank l.head
  obtain ⟨c, rest, htext⟩ := List.exists_cons_of_ne_nil l.ne_nil
  have hnewline := l.newline
  rw [htext] at hdrop hnewline ⊢
  simp only [labelChars?, hdrop, dropFinalNewline_of_not_mem hnewline, List.contains_iff_mem,
    hnewline, if_false]

theorem tail?_chars (l : LabelPart) : tail? l.chars = some l.text := by
  have hend : atEnd l.chars = false := by
    unfold atEnd
    split
    · next heq => simp [chars] at heq
    · next heq =>
      have hmem : ':' ∈ l.chars := by simp [chars]
      rw [heq] at hmem
      exact absurd hmem (by decide)
    · rfl
  simp only [tail?, hend, Bool.false_eq_true, if_false, l.dropWhile_chars, l.labelChars?_eq]

end LabelPart

namespace Form

def tail (f : Form) : List Char := f.label.elim [] (·.chars)

def line (f : Form) : List Char :=
  f.fromEntity ++ (f.gap ++ (f.symbols ++ (f.gap' ++ (f.toEntity ++ f.tail))))

def parts (f : Form) : Parts :=
  ⟨f.fromEntity, f.symbols, f.toEntity, f.label.elim [] (·.text)⟩

/-- A word ends where the tail begins: with a blank or with the colon. -/
theorem head?_tail (f : Form) : ∀ c ∈ f.tail.head?, isWordChar c = false := by
  intro c hc
  unfold tail at hc
  cases hlabel : f.label with
  | none => simp [hlabel] at hc
  | some l =>
    rw [hlabel, Option.elim_some, LabelPart.chars] at hc
    cases hbefore : l.before with
    | nil =>
      obtain rfl : ':' = c := by simpa [hbefore] using hc
      decide
    | cons d rest =>
      obtain rfl : d = c := by simpa [hbefore] using hc
      exact isWordChar_of_isBlank (l.before_blank d (by simp [hbefore]))

theorem splits (f : Form) : Splits f.line f.parts f.gap f.gap' f.tail where
  line_eq := rfl
  fromEntity := f.isFrom
  gap := f.isGap
  symbols := f.isSymbols
  gap' := f.isGap'
  toEntity := f.isTo
  tail_head := f.head?_tail
  label := by
    unfold tail parts
    cases f.label with
    | none => rfl
    | some l => exact l.tail?_chars

theorem scan?_line (f : Form) : scan? f.line = some f.parts := scan?_of_splits f.splits

end Form

/-- A label that does not end with a blank is what follows the blanks after the colon. -/
theorem labelChars?_facts {cs label : List Char} (hlast : ∀ c ∈ cs.getLast?, isBlank c = false)
    (h : labelChars? cs = some label) :
    label = cs.dropWhile isBlank ∧ label ≠ [] ∧ '\n' ∉ label := by
  have hcs : cs ≠ [] := by
    rintro rfl
    cases h
  have hdrop := dropWhile_ne_nil_of_last hcs hlast
  have hsame : cs.getLast? = (cs.dropWhile isBlank).getLast? := by
    rw [← List.getLast?_append_of_ne_nil (cs.takeWhile isBlank) hdrop,
      List.takeWhile_append_dropWhile]
  unfold labelChars? at h
  split at h
  · next hnil => exact absurd hnil hdrop
  · next c rest hrest =>
    have hline : dropFinalNewline (c :: rest) = c :: rest := by
      rw [dropFinalNewline, if_neg]
      intro hnewline
      rw [← hrest, ← hsame] at hnewline
      exact absurd (hlast _ hnewline) (by decide)
    simp only [hline] at h
    split at h
    · cases h
    · next hnewline =>
      obtain rfl := Option.some.inj h
      exact ⟨hrest.symm, List.cons_ne_nil _ _, by simpa using hnewline⟩

/-- A tail that does not end with a blank is nothing or a label. -/
theorem exists_label_of_tail? {cs label : List Char}
    (hlast : ∀ c ∈ cs.getLast?, isBlank c = false) (h : tail? cs = some label) :
    ∃ l : Option LabelPart, cs = l.elim [] (·.chars) ∧ label = l.elim [] (·.text) := by
  unfold tail? at h
  split at h
  · next hend => exact ⟨none, eq_nil_of_atEnd hend hlast, (Option.some.inj h).symm⟩
  · split at h
    · next rest hdrop =>
      have hcs : cs = cs.takeWhile isBlank ++ ':' :: rest := by
        rw [← hdrop, List.takeWhile_append_dropWhile]
      have hrest : ∀ c ∈ rest.getLast?, isBlank c = false := by
        intro c hc
        apply hlast
        rw [hcs]
        simp [List.getLast?_append, List.getLast?_cons, Option.mem_def.mp hc]
      obtain ⟨rfl, hne, hnewline⟩ := labelChars?_facts hrest h
      refine ⟨some ⟨cs.takeWhile isBlank, rest.takeWhile isBlank, rest.dropWhile isBlank,
        fun c hc => List.mem_takeWhile_imp hc, fun c hc => List.mem_takeWhile_imp hc, hne,
        head?_dropWhile_false, hnewline⟩, ?_, rfl⟩
      simp only [Option.elim_some, LabelPart.chars, List.takeWhile_append_dropWhile]
      exact hcs
    · cases h

theorem Splits.exists_form {line gap gap' tail : List Char} {p : Parts}
    (h : Splits line p gap gap' tail) (hlast : ∀ c ∈ line.getLast?, isBlank c = false) :
    ∃ f : Form, f.line = line ∧ f.parts = p := by
  obtain ⟨source, symbols, target, label⟩ := p
  obtain ⟨rfl, hfrom, hgap, hsymbols, hgap', hto, -, hlabel⟩ := h
  dsimp only at hlast hfrom hsymbols hto hlabel
  have htail : ∀ c ∈ tail.getLast?, isBlank c = false := by
    intro c hc
    apply hlast
    simp [List.getLast?_append, Option.mem_def.mp hc]
  obtain ⟨l, rfl, rfl⟩ := exists_label_of_tail? htail hlabel
  exact ⟨⟨source, gap, symbols, gap', target, l, hfrom, hgap, hsymbols, hgap', hto⟩, rfl, rfl⟩

/-- A label is fixed by the tail that it makes. -/
theorem label_inj {l l' : Option LabelPart} (h : l.elim [] (·.chars) = l'.elim [] (·.chars)) :
    l = l' := by
  cases l with
  | none =>
    cases l' with
    | none => rfl
    | some part' => simp [LabelPart.chars] at h
  | some part =>
    cases l' with
    | none => simp [LabelPart.chars] at h
    | some part' =>
      have hcolon : ∀ rest : List Char, ∀ c ∈ (':' :: rest).head?, isBlank c = false := by
        intro rest c hc
        obtain rfl : ':' = c := by simpa using hc
        decide
      obtain ⟨hbefore, hrest⟩ := append_inj_of_head part.before_blank part'.before_blank
        (hcolon _) (hcolon _) h
      obtain ⟨hafter, htext⟩ := append_inj_of_head part.after_blank part'.after_blank part.head
        part'.head (List.cons.inj hrest).2
      exact congrArg some (LabelPart.ext hbefore hafter htext)

/-- Two forms never make the same line. -/
theorem Form.line_injective : Function.Injective Form.line := by
  intro f f' h
  have hgap : ∀ {gap : List Char}, IsGap gap → ∀ rest : List Char, ∀ c ∈ (gap ++ rest).head?,
      isBlank c = true := fun hgap _ c hc => hgap.chars c (head?_append_mem hgap.ne_nil hc)
  have hsymbols : ∀ (f : Form) (rest : List Char), ∀ c ∈ (f.symbols ++ rest).head?,
      isBlank c = false := fun f _ c hc =>
    isBlank_of_isSymbol (f.isSymbols.chars c (head?_append_mem f.isSymbols.ne_nil hc))
  have hto : ∀ (f : Form) (rest : List Char), ∀ c ∈ (f.toEntity ++ rest).head?,
      isBlank c = false := fun f _ c hc =>
    isBlank_of_isWordChar (f.isTo.chars c (head?_append_mem f.isTo.ne_nil hc))
  -- every part is a run of one class of characters that the next part ends
  obtain ⟨hfrom, h⟩ := append_inj_of_head f.isFrom.chars f'.isFrom.chars
    (fun c hc => isWordChar_of_isBlank (hgap f.isGap _ c hc))
    (fun c hc => isWordChar_of_isBlank (hgap f'.isGap _ c hc)) h
  obtain ⟨hfirst, h⟩ := append_inj_of_head f.isGap.chars f'.isGap.chars (hsymbols f _)
    (hsymbols f' _) h
  obtain ⟨hlink, h⟩ := append_inj_of_head f.isSymbols.chars f'.isSymbols.chars
    (fun c hc => isSymbol_of_isBlank (hgap f.isGap' _ c hc))
    (fun c hc => isSymbol_of_isBlank (hgap f'.isGap' _ c hc)) h
  obtain ⟨hsecond, h⟩ := append_inj_of_head f.isGap'.chars f'.isGap'.chars (hto f _) (hto f' _) h
  obtain ⟨htarget, h⟩ := append_inj_of_head f.isTo.chars f'.isTo.chars f.head?_tail f'.head?_tail h
  exact Form.ext hfrom hfirst hlink hsecond htarget (label_inj h)

theorem ofLine?_eq_some_iff_form {line : String}
    (hlast : ∀ c ∈ line.toList.getLast?, isBlank c = false) {q : Relationship} :
    ofLine? line = some q ↔ ∃ f : Form, f.line = line.toList ∧ ofParts f.parts = q := by
  rw [ofLine?, Option.map_eq_some_iff]
  constructor
  · rintro ⟨p, hscan, rfl⟩
    obtain ⟨gap, gap', tail, hsplits⟩ := splits_of_scan? hscan
    obtain ⟨f, hline, rfl⟩ := hsplits.exists_form hlast
    exact ⟨f, hline, rfl⟩
  · rintro ⟨f, hline, rfl⟩
    exact ⟨f.parts, hline ▸ f.scan?_line, rfl⟩

/-- The text is its body with at most one quote at each end, and a quote at an end is taken for one
of these. -/
structure Unquotes (text opening body closing : List Char) : Prop where
  text_eq : text = opening ++ (body ++ closing)
  opening_le : opening.length ≤ 1
  opening_quote : ∀ c ∈ opening, isQuote c = true
  opening_nil : opening = [] → ∀ c ∈ text.head?, isQuote c = false
  closing_le : closing.length ≤ 1
  closing_quote : ∀ c ∈ closing, isQuote c = true
  closing_nil : closing = [] → ∀ c ∈ body.getLast?, isQuote c = false

def dropClosing (cs : List Char) : List Char :=
  match cs.getLast? with
  | some c => if isQuote c then cs.dropLast else cs
  | none => cs

theorem unquote_cons (c : Char) (rest : List Char) :
    unquote (c :: rest) = dropClosing (if isQuote c then rest else c :: rest) := rfl

theorem exists_closing (cs : List Char) :
    ∃ closing, cs = dropClosing cs ++ closing ∧ closing.length ≤ 1 ∧
      (∀ c ∈ closing, isQuote c = true) ∧
      (closing = [] → ∀ c ∈ (dropClosing cs).getLast?, isQuote c = false) := by
  rcases List.eq_nil_or_concat cs with rfl | ⟨init, last, rfl⟩
  · exact ⟨[], rfl, by simp, by simp, by simp [dropClosing]⟩
  · by_cases hlast : isQuote last = true
    · exact ⟨[last], by simp [dropClosing, hlast], by simp, by simpa using hlast, by simp⟩
    · exact ⟨[], by simp [dropClosing, hlast], by simp, by simp, by simp [dropClosing, hlast]⟩

theorem unquotes_unquote (text : List Char) :
    ∃ opening closing, Unquotes text opening (unquote text) closing := by
  cases text with
  | nil => exact ⟨[], [], by constructor <;> simp [unquote]⟩
  | cons c rest =>
    rw [unquote_cons]
    by_cases hc : isQuote c = true
    · obtain ⟨closing, hsplit, hle, hquote, hnil⟩ := exists_closing rest
      rw [if_pos hc]
      refine ⟨[c], closing, ⟨?_, by simp, by simpa using hc, by simp, hle, hquote, hnil⟩⟩
      rw [← hsplit]
      rfl
    · obtain ⟨closing, hsplit, hle, hquote, hnil⟩ := exists_closing (c :: rest)
      rw [if_neg hc]
      exact ⟨[], closing, ⟨hsplit, by simp, by simp, by simpa using hc, hle, hquote, hnil⟩⟩

structure Form.Describes (f : Form) (q : Relationship) : Prop where
  fromEntity : q.fromEntity = String.ofList f.fromEntity
  symbols : q.symbols = String.ofList f.symbols
  toEntity : q.toEntity = String.ofList f.toEntity
  unlabelled : f.label = none → q.label = none
  labelled : ∀ l ∈ f.label, ∃ opening body closing, Unquotes l.text opening body closing ∧
    q.label = if body = [] then none else some (String.ofList body)

theorem Form.describes_ofParts {f : Form} (hlast : ∀ c ∈ f.line.getLast?, isBlank c = false) :
    f.Describes (ofParts f.parts) where
  fromEntity := rfl
  symbols := rfl
  toEntity := rfl
  unlabelled h := by
    rw [label_ofParts, parts, h]
    rfl
  labelled l hl := by
    have htrim : Trimmed l.text := by
      refine ⟨l.head, fun c hc => hlast c ?_⟩
      simp [line, tail, Option.mem_def.mp hl, LabelPart.chars, List.getLast?_append,
        List.getLast?_cons, Option.mem_def.mp hc]
    obtain ⟨opening, closing, hunquotes⟩ := unquotes_unquote l.text
    refine ⟨opening, unquote l.text, closing, hunquotes, ?_⟩
    rw [label_ofParts, parts, Option.mem_def.mp hl, Option.elim_some, trimChars_of_trimmed htrim]

/-- Without its indentation the line of a relationship is the line that is written for it. -/
theorem Faithful.trim_relationshipLine {q : Relationship} (h : q.Faithful) :
    trim (Repair.relationshipLine q) = q.line :=
  (isContent_line h).trim_indent (forall_mem_of_all (by decide))

theorem Faithful.significantLines_relationshipLine {q : Relationship} (h : q.Faithful) :
    significantLines (Repair.relationshipLine q) = [q.line] := by
  have hcontent := isContent_line h
  have hnewline : '\n' ∉ (Repair.relationshipLine q).toList := by
    simpa [Repair.relationshipLine, Repair.entityIndent, line] using hcontent.newline
  have hlines := significantLines_intercalate (List.cons_ne_nil (Repair.relationshipLine q) [])
    (by simpa using hnewline)
  rw [String.intercalate_singleton] at hlines
  rw [hlines, List.map_cons, List.map_nil, h.trim_relationshipLine,
    List.filter_cons_of_pos hcontent.isSignificant, List.filter_nil]

end Relationship

/-- A trimmed line is read as a relationship exactly when it has a form. It has at most one, and
that form says what the relationship is. The line that is written for the relationship is read as
the relationship again: it is a significant line that neither opens nor closes a block. -/
theorem relationship_lines_have_one_form {line : String} (h : trim line = line) :
    ((Relationship.ofLine? line).isSome = true ↔
        ∃ f : Relationship.Form, f.line = line.toList) ∧
      (∀ f f' : Relationship.Form, f.line = line.toList → f'.line = line.toList → f = f') ∧
      (∀ (f : Relationship.Form) (q : Relationship), f.line = line.toList →
        Relationship.ofLine? line = some q → f.Describes q) ∧
      ∀ q, Relationship.ofLine? line = some q →
        Relationship.ofLine? (trim (Repair.relationshipLine q)) = some q ∧
          headerName? (trim (Repair.relationshipLine q)) = none ∧
          trim (Repair.relationshipLine q) ≠ Line.closingText ∧
          significantLines (Repair.relationshipLine q) = [trim (Repair.relationshipLine q)] := by
  have hlast := (trimmed_of_trim_eq h).last
  have hunique : ∀ f f' : Relationship.Form, f.line = line.toList → f'.line = line.toList →
      f = f' := fun f f' hf hf' => Relationship.Form.line_injective (hf.trans hf'.symm)
  refine ⟨?_, hunique, ?_, ?_⟩
  · simp [Option.isSome_iff_exists, Relationship.ofLine?_eq_some_iff_form hlast]
  · intro f q hf hq
    obtain ⟨f', hf', rfl⟩ := (Relationship.ofLine?_eq_some_iff_form hlast).mp hq
    rw [hunique f f' hf hf']
    exact Relationship.Form.describes_ofParts (hf' ▸ hlast)
  · intro q hq
    have hfaithful := (Relationship.faithful_of_ofLine? hq).1
    rw [hfaithful.trim_relationshipLine]
    exact ⟨Relationship.ofLine?_line hfaithful, Relationship.headerName?_line hfaithful,
      (Relationship.isContent_line hfaithful).ne_closing,
      hfaithful.significantLines_relationshipLine⟩

/-- A word, symbols and a word of the same letter, and a label with a brace, a colon and two
different quotes. -/
def tangledForm : Relationship.Form where
  fromEntity := "o".toList
  gap := " \t".toList
  symbols := "o".toList
  gap' := "\t ".toList
  toEntity := "o".toList
  label := some ⟨[], " ".toList, "'a: \x7b\x22".toList, forall_mem_of_all (by decide),
    forall_mem_of_all (by decide), by decide, (trimmed_of_trim_eq (by decide)).head, by decide⟩
  isFrom := ⟨by decide, forall_mem_of_all (by decide)⟩
  isGap := ⟨by decide, forall_mem_of_all (by decide)⟩
  isSymbols := ⟨by decide, forall_mem_of_all (by decide)⟩
  isGap' := ⟨by decide, forall_mem_of_all (by decide)⟩
  isTo := ⟨by decide, forall_mem_of_all (by decide)⟩

def tangledLine : String := "o \to\t o: 'a: \x7b\x22"

theorem relationship_lines_have_one_form_tangled :
    trim tangledLine = tangledLine ∧ tangledForm.line = tangledLine.toList ∧
      (∀ f : Relationship.Form, f.line = tangledLine.toList → f = tangledForm) ∧
      ∃ q, Relationship.ofLine? tangledLine = some q ∧ tangledForm.Describes q ∧
        Relationship.ofLine? (trim (Repair.relationshipLine q)) = some q ∧
        headerName? (trim (Repair.relationshipLine q)) = none := by
  have htrim : trim tangledLine = tangledLine := by decide
  have hline : tangledForm.line = tangledLine.toList := by decide
  obtain ⟨hiff, hunique, hsays, hwritten⟩ := relationship_lines_have_one_form htrim
  obtain ⟨q, hq⟩ := Option.isSome_iff_exists.mp (hiff.mpr ⟨tangledForm, hline⟩)
  obtain ⟨hread, hheader, -, -⟩ := hwritten q hq
  exact ⟨htrim, hline, fun f hf => hunique f tangledForm hf hline, q, hq,
    hsays tangledForm q hline hq, hread, hheader⟩

end EntityDiagram
