import EntityDiagram.Proofs.Line.Significant
import EntityDiagram.Repair

/-!
Layout of a text. Lines without content may be put in anywhere, and blanks at either end of any line.
Neither changes the significant lines, which are all that a report and its repair are made from. The
significant lines of a text are a text with no layout left: they are its own significant lines.
-/
namespace EntityDiagram

open Text

/-- The line has nothing but blanks, is a comment or names the kind of diagram. -/
def IsFiller (line : String) : Prop :=
  trim line = "" ∨ "%%".toList <+: (trim line).toList ∨ trim line = diagramHeader

/-- The second lines are the first with fillers put in and blanks added at the ends of lines. The
lines of a text hold no newline, so neither do the blanks. -/
inductive Relaid : List String → List String → Prop
  | nil : Relaid [] []
  | filler {line : String} {lines lines' : List String} (hline : IsFiller line)
      (h : Relaid lines lines') : Relaid lines (line :: lines')
  | padded {before line after : String} {lines lines' : List String}
      (hbefore : ∀ c ∈ before.toList, isBlank c = true)
      (hafter : ∀ c ∈ after.toList, isBlank c = true) (h : Relaid lines lines') :
      Relaid (line :: lines) ((before ++ line ++ after) :: lines')

theorem isSignificant_eq_false_iff {line : String} :
    isSignificant (trim line) = false ↔ IsFiller line := by
  rw [isSignificant, Bool.not_eq_false', Bool.or_eq_true, Bool.or_eq_true, decide_eq_true_iff,
    decide_eq_true_iff, List.isPrefixOf_iff_prefix, or_assoc]
  rfl

/-- Blanks at the ends of a line are trimmed away. -/
theorem trim_padded {before after : String} (hbefore : ∀ c ∈ before.toList, isBlank c = true)
    (hafter : ∀ c ∈ after.toList, isBlank c = true) (line : String) :
    trim (before ++ line ++ after) = trim line := by
  simp only [trim, String.toList_append, trimChars_blanks_append hbefore hafter]

theorem Relaid.significant_eq {lines lines' : List String} (h : Relaid lines lines') :
    (lines'.map trim).filter isSignificant = (lines.map trim).filter isSignificant := by
  induction h with
  | nil => rfl
  | @filler line lines lines' hline _ ih =>
    have hfalse : ¬ isSignificant (trim line) = true := by
      simpa using isSignificant_eq_false_iff.mpr hline
    rw [List.map_cons, List.filter_cons_of_neg hfalse, ih]
  | padded hbefore hafter _ ih =>
    rw [List.map_cons, List.map_cons, trim_padded hbefore hafter, List.filter_cons,
      List.filter_cons, ih]

/-- The significant lines of a text are a text with the same significant lines. -/
theorem significantLines_intercalate_significantLines (text : String) :
    significantLines (String.intercalate "\n" (significantLines text)) = significantLines text := by
  by_cases hnil : significantLines text = []
  · rw [hnil]
    decide
  · have hnewline : ∀ line ∈ significantLines text, '\n' ∉ line.toList :=
      fun line hline hmem => ((mem_significantLines hline).2 _ hmem).2 rfl
    have htrim : (significantLines text).map trim = significantLines text := by
      refine (List.map_congr_left fun line hline => ?_).trans (List.map_id _)
      rw [trim, trimChars_of_trimmed (mem_significantLines hline).1, String.ofList_toList]
      rfl
    have hsignificant : (significantLines text).filter isSignificant = significantLines text := by
      rw [significantLines_eq, List.filter_filter]
      simp only [Bool.and_self]
    rw [significantLines_intercalate hnil hnewline, htrim, hsignificant]

/-- Layout does not matter: texts that differ in fillers and in blanks at the ends of lines have the
same report and the same repair. -/
theorem layout_does_not_matter :
    (∀ text text', Relaid (split '\n' text) (split '\n' text') →
      Report.ofText text' = Report.ofText text ∧
        (Report.ofText text').correct = (Report.ofText text).correct) ∧
      ∀ text, significantLines (String.intercalate "\n" (significantLines text)) =
        significantLines text := by
  refine ⟨fun text text' h => ?_, significantLines_intercalate_significantLines⟩
  have hlines : significantLines text' = significantLines text := h.significant_eq
  have hdocument : Document.ofText text' = Document.ofText text := by
    rw [Document.ofText, Document.ofText, hlines]
  have hreport : Report.ofText text' = Report.ofText text := by
    rw [Report.ofText, Report.ofText, Diagram.ofText, Diagram.ofText, hdocument]
  exact ⟨hreport, congrArg Report.correct hreport⟩

def plainText : String := "A \x7b\nint id PK\n\x7d"

def relaidText : String :=
  "erDiagram\r\n\tA \x7b\r\n\n %% key\n\u2003int id PK \u001f\n erDiagram \n\x7d\u00a0\r"

theorem layout_does_not_matter_relaid :
    Relaid (split '\n' plainText) (split '\n' relaidText) ∧
      Report.ofText relaidText = Report.ofText plainText ∧
      (Report.ofText relaidText).correct = (Report.ofText plainText).correct := by
  have hplain : split '\n' plainText = ["A \x7b", "int id PK", "\x7d"] := by decide
  have hrelaid : split '\n' relaidText =
      ["erDiagram\r", "\t" ++ "A \x7b" ++ "\r", "", " %% key", "\u2003" ++ "int id PK" ++ " \u001f",
        " erDiagram ", "" ++ "\x7d" ++ "\u00a0\r"] := by decide
  have hlines : Relaid (split '\n' plainText) (split '\n' relaidText) := by
    rw [hplain, hrelaid]
    refine .filler (isSignificant_eq_false_iff.mp (by decide)) ?_
    refine .padded (forall_mem_of_all (by decide)) (forall_mem_of_all (by decide)) ?_
    refine .filler (isSignificant_eq_false_iff.mp (by decide)) ?_
    refine .filler (isSignificant_eq_false_iff.mp (by decide)) ?_
    refine .padded (forall_mem_of_all (by decide)) (forall_mem_of_all (by decide)) ?_
    refine .filler (isSignificant_eq_false_iff.mp (by decide)) ?_
    exact .padded (forall_mem_of_all (by decide)) (forall_mem_of_all (by decide)) .nil
  obtain ⟨hsame, -⟩ := layout_does_not_matter
  exact ⟨hlines, hsame _ _ hlines⟩

end EntityDiagram
