import EntityDiagram.Proofs.Attribute.Written
import EntityDiagram.Proofs.Line.Blocks
import EntityDiagram.Proofs.Relationship.Form

/-!
Readings of a line. A line may be read as the header of a block, as a relationship or as an
attribute, and a line that is an attribute is nothing else. A header begins with a word and a brace
and ends with a brace, with anything between them. So does a relationship whose symbols begin with a
brace and whose label ends with one. These are the only lines with two readings. The block machine
looks for headers first, so it takes them for the opening of a block.
-/
namespace EntityDiagram

open Text

def readings (line : String) : Nat :=
  [(headerName? line).isSome, (Relationship.ofLine? line).isSome,
    (Attribute.ofLine? line).isSome].count true

theorem isBlank_getLast_of_brace {cs : List Char} (h : cs.getLast? = some '\x7b') :
    ∀ c ∈ cs.getLast?, isBlank c = false := by
  intro c hc
  obtain rfl : '\x7b' = c := by simpa [h] using hc
  decide

namespace Relationship

namespace Form

variable (f : Form)

def endsBraced : Bool := f.label.any fun l => l.text.getLast? = some '\x7b'

def isBraced : Bool := f.symbols.head? = some '\x7b' && f.endsBraced

theorem getLast?_line_iff : f.line.getLast? = some '\x7b' ↔ f.endsBraced = true := by
  unfold endsBraced
  cases hlabel : f.label with
  | none =>
    have hline : f.line = f.fromEntity ++ f.gap ++ f.symbols ++ f.gap' ++ f.toEntity := by
      simp [line, tail, hlabel]
    rw [hline, List.getLast?_append_of_ne_nil _ f.isTo.ne_nil]
    simp only [Option.any_none, Bool.false_eq_true, iff_false]
    intro hlast
    exact absurd (f.isTo.chars _ (List.mem_of_getLast? hlast)) (by decide)
  | some l =>
    have hline : f.line = f.fromEntity ++ f.gap ++ f.symbols ++ f.gap' ++ f.toEntity ++ l.before ++
        ':' :: l.after ++ l.text := by
      simp [line, tail, hlabel, LabelPart.chars]
    rw [hline, List.getLast?_append_of_ne_nil _ l.ne_nil]
    simp

/-- A relationship line opens a block when it begins and ends like a header. -/
theorem headerChars?_line :
    headerChars? f.line = if f.isBraced then some f.fromEntity else none := by
  have hrun := run?_append f.isFrom.ne_nil f.isFrom.chars
    (f.gap ++ (f.symbols ++ (f.gap' ++ (f.toEntity ++ f.tail))))
    fun c hc => isWordChar_of_isBlank (f.isGap.chars c (head?_append_mem f.isGap.ne_nil hc))
  have hdrop : (f.gap ++ (f.symbols ++ (f.gap' ++ (f.toEntity ++ f.tail)))).dropWhile isBlank =
      f.symbols ++ (f.gap' ++ (f.toEntity ++ f.tail)) :=
    dropWhile_append_of_head f.isGap.chars fun c hc =>
      isBlank_of_isSymbol (f.isSymbols.chars c (head?_append_mem f.isSymbols.ne_nil hc))
  obtain ⟨c, rest, hsymbols⟩ := List.exists_cons_of_ne_nil f.isSymbols.ne_nil
  by_cases hend : f.endsBraced = true
  · rw [headerChars?, if_pos (f.getLast?_line_iff.mpr hend), line, hrun]
    simp only [hdrop]
    simp only [isBraced, hend, hsymbols, List.cons_append, List.head?_cons, Bool.and_true,
      decide_eq_true_eq, Option.some.injEq]
    split
    · next hcons => rw [if_pos (List.cons.inj hcons).1]
    · next hother => rw [if_neg fun hbrace => hother _ (by rw [hbrace])]
  · rw [headerChars?, if_neg (mt f.getLast?_line_iff.mp hend)]
    simp [isBraced, hend]

end Form

theorem Form.ne_closing {f : Form} {line : String} (h : f.line = line.toList) :
    line ≠ Line.closingText := by
  rintro rfl
  obtain ⟨c, hc, hword⟩ := f.isFrom.head
  have hhead : c ∈ f.line.head? := by simp [line, Option.mem_def.mp hc]
  rw [h] at hhead
  obtain rfl : '\x7d' = c := by simpa [Line.closingText] using hhead
  exact absurd hword (by decide)

/-- A relationship line opens a block of its first entity, or it leaves the block machine as it
is. -/
theorem Form.step_line {f : Form} {line : String} (h : f.line = line.toList)
    (current : Option String) :
    (f.isBraced = true → Line.step current line =
        (.opening line (String.ofList f.fromEntity), some (String.ofList f.fromEntity))) ∧
      (f.isBraced = false → (Line.step current line).1.isBoundary = false ∧
        (Line.step current line).2 = current) := by
  have hheader : headerName? line =
      if f.isBraced then some (String.ofList f.fromEntity) else none := by
    rw [headerName?, ← h, f.headerChars?_line]
    cases f.isBraced <;> rfl
  constructor
  · intro hbraced
    simp only [Line.step, hheader, hbraced, if_true]
  · intro hbraced
    simp only [Line.step, hheader, hbraced, Bool.false_eq_true, if_false, f.ne_closing h]
    cases current <;> exact ⟨rfl, rfl⟩

/-- A line is a header and a relationship when it has a form that begins and ends like a header. -/
theorem isSome_headerName?_and_iff {line : String} :
    (headerName? line).isSome = true ∧ (ofLine? line).isSome = true ↔
      ∃ f : Form, f.line = line.toList ∧ f.isBraced = true := by
  constructor
  · rintro ⟨hheader, hlink⟩
    obtain ⟨q, hq⟩ := Option.isSome_iff_exists.mp hlink
    have hlast : line.toList.getLast? = some '\x7b' := by
      by_contra hlast
      rw [headerName?_of_last hlast] at hheader
      cases hheader
    obtain ⟨f, hline, -⟩ := (ofLine?_eq_some_iff_form (isBlank_getLast_of_brace hlast)).mp hq
    refine ⟨f, hline, ?_⟩
    by_contra hbraced
    rw [headerName?, ← hline, f.headerChars?_line, if_neg hbraced] at hheader
    cases hheader
  · rintro ⟨f, hline, hbraced⟩
    rw [headerName?, ofLine?, ← hline, f.headerChars?_line, f.scan?_line, if_pos hbraced]
    exact ⟨rfl, rfl⟩

end Relationship

namespace Attribute

/-- An attribute line opens no block, also when a brace ends it. -/
theorem headerName?_of_ofLine? {line : String} {a : Attribute} (h : ofLine? line = some a) :
    headerName? line = none := by
  by_cases hlast : line.toList.getLast? = some '\x7b'
  · unfold ofLine? at h
    split at h
    · cases h
    · obtain ⟨p, hscan, -⟩ := Option.map_eq_some_iff.mp h
      obtain ⟨gap, tail, hsplits⟩ := splits_of_scan? (isBlank_getLast_of_brace hlast) hscan
      have hname : ∀ c ∈ (p.name ++ tail).head?, isWordChar c = true :=
        fun c hc => hsplits.name.chars c (head?_append_mem hsplits.name.ne_nil hc)
      rw [headerName?, hsplits.line_eq, headerChars?_of_type hsplits.type hsplits.gap hname]
      rfl
  · exact headerName?_of_last hlast

/-- An attribute line is no relationship. -/
theorem relationship_eq_none_of_ofLine? {line : String} {a : Attribute}
    (h : ofLine? line = some a) : Relationship.ofLine? line = none := by
  unfold ofLine? at h
  split at h
  · cases h
  · next hshaped =>
    rw [Relationship.ofLine?, Option.map_eq_none_iff, ← Option.not_isSome_iff_eq_none]
    intro hscan
    exact hshaped (by simp [Relationship.isShaped, Relationship.shape?, hscan])

end Attribute

/-- A line that is an attribute is neither a header nor a relationship. A line has more than one
reading exactly when it is a relationship whose symbols begin and whose label ends with a brace:
then it opens a block of its first entity, in every state of the block machine. Every other
relationship line leaves the state as it is. -/
theorem line_readings_overlap (line : String) :
    ((Attribute.ofLine? line).isSome = true →
        headerName? line = none ∧ Relationship.ofLine? line = none) ∧
      (readings line ≤ 1 ↔
        ∀ f : Relationship.Form, f.line = line.toList → f.isBraced = false) ∧
      ∀ (f : Relationship.Form) (current : Option String), f.line = line.toList →
        (f.isBraced = true → Line.step current line =
            (.opening line (String.ofList f.fromEntity), some (String.ofList f.fromEntity))) ∧
          (f.isBraced = false → (Line.step current line).1.isBoundary = false ∧
            (Line.step current line).2 = current) := by
  have hattribute : (Attribute.ofLine? line).isSome = true →
      headerName? line = none ∧ Relationship.ofLine? line = none := by
    intro hsome
    obtain ⟨a, ha⟩ := Option.isSome_iff_exists.mp hsome
    exact ⟨Attribute.headerName?_of_ofLine? ha, Attribute.relationship_eq_none_of_ofLine? ha⟩
  refine ⟨hattribute, ?_, fun f current hline => f.step_line hline current⟩
  have hcount : readings line ≤ 1 ↔
      ¬ ((headerName? line).isSome = true ∧ (Relationship.ofLine? line).isSome = true) := by
    unfold readings
    cases hcolumn : (Attribute.ofLine? line).isSome with
    | true =>
      obtain ⟨hheader, hlink⟩ := hattribute hcolumn
      simp [hheader, hlink]
    | false =>
      cases (headerName? line).isSome <;> cases (Relationship.ofLine? line).isSome <;> decide
  rw [hcount, Relationship.isSome_headerName?_and_iff]
  simp

def bracedLine : String := "A \x7b--|| B : \x7b"

/-- The relationship opens a block, which takes in the lines after it. -/
theorem relationship_line_opens_block :
    trim bracedLine = bracedLine ∧ '\n' ∉ bracedLine.toList ∧
      (Relationship.ofLine? bracedLine).isSome = true ∧ headerName? bracedLine = some "A" ∧
      (Document.ofText (bracedLine ++ "\nB ||--|| C")).lines =
        [.opening bracedLine "A", .body "B ||--|| C" "A"] := by
  decide

end EntityDiagram
