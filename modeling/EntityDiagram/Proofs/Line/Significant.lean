import EntityDiagram.Line
import EntityDiagram.Proofs.Text.Pieces

/-!
Significant lines and the block machine on written text. Blanks at the end of a text carry no
content. Lines that begin with a word character and hold a space survive the reading of a text
unchanged, whatever their indentation, and a written block of lines that neither open nor close a
block passes through the machine as one opening, its body and one closing.
-/
namespace EntityDiagram

open Text

def isSignificant (line : String) : Bool :=
  !(line = "" || "%%".toList.isPrefixOf line.toList || line = diagramHeader)

theorem significantLines_eq (text : String) :
    significantLines text = ((split '\n' text).map trim).filter isSignificant := rfl

/-- One more blank at the end of a text leaves its significant lines. -/
theorem significant_pieces_concat {b : Char} (hb : isBlank b = true) (cs : List Char) :
    ((splitChars '\n' (cs ++ [b])).map (trim ∘ String.ofList)).filter isSignificant =
      ((splitChars '\n' cs).map (trim ∘ String.ofList)).filter isSignificant := by
  by_cases hnewline : b = '\n'
  · rw [hnewline, splitChars_append_cons, List.map_append, List.filter_append]
    have hempty : ((splitChars '\n' []).map (trim ∘ String.ofList)).filter isSignificant = [] := by
      decide
    rw [hempty, List.append_nil]
  · obtain ⟨pieces, last, hsplit, hlonger⟩ := splitChars_concat hnewline cs
    have hlast : trim (String.ofList (last ++ [b])) = trim (String.ofList last) := by
      have hblanks : trimChars ([] ++ last ++ [b]) = trimChars last :=
        trimChars_blanks_append (List.forall_mem_nil _) (by simpa using hb) last
      rw [List.nil_append] at hblanks
      simp only [trim, String.toList_ofList, hblanks]
    simp only [hsplit, hlonger, List.map_append, List.map_cons, List.map_nil, Function.comp_apply,
      hlast]

theorem significant_pieces_append {blanks : List Char} (h : ∀ c ∈ blanks, isBlank c = true)
    (cs : List Char) :
    ((splitChars '\n' (cs ++ blanks)).map (trim ∘ String.ofList)).filter isSignificant =
      ((splitChars '\n' cs).map (trim ∘ String.ofList)).filter isSignificant := by
  induction blanks generalizing cs with
  | nil => rw [List.append_nil]
  | cons b rest ih =>
    have hrest := ih (fun c hc => h c (List.mem_cons_of_mem _ hc)) (cs ++ [b])
    rw [List.append_cons, hrest, significant_pieces_concat (h b List.mem_cons_self)]

/-- Blanks at the end of a text carry no content. -/
theorem significantLines_trimEnd (text : String) :
    significantLines (trimEnd text) = significantLines text := by
  have hparts : text.toList =
      trimEndChars text.toList ++ text.toList.rtakeWhile isBlank :=
    List.rdropWhile_append_rtakeWhile.symm
  have hblanks : ∀ c ∈ text.toList.rtakeWhile isBlank, isBlank c = true :=
    fun c hc => List.mem_rtakeWhile_imp hc
  have hpieces := significant_pieces_append hblanks (trimEndChars text.toList)
  rw [← hparts] at hpieces
  simpa only [significantLines_eq, split, trimEnd, String.toList_ofList, List.map_map]
    using hpieces.symm

/-- The significant lines of joined lines. -/
theorem significantLines_intercalate {lines : List String} (hne : lines ≠ [])
    (h : ∀ line ∈ lines, '\n' ∉ line.toList) :
    significantLines (String.intercalate "\n" lines) = (lines.map trim).filter isSignificant := by
  have hsplit : split '\n' (String.intercalate "\n" lines) = lines := by
    have hchars : splitChars '\n' (['\n'].intercalate (lines.map String.toList)) =
        lines.map String.toList :=
      splitChars_intercalate (by simpa using hne) (by simpa using h)
    unfold split
    rw [String.toList_intercalate]
    change (splitChars '\n' (['\n'].intercalate _)).map String.ofList = lines
    rw [hchars, List.map_map]
    simp [Function.comp_def]
  rw [significantLines_eq, hsplit]

theorem mem_significantLines {text line : String} (h : line ∈ significantLines text) :
    Trimmed line.toList ∧ ∀ c ∈ line.toList, c ∈ text.toList ∧ c ≠ '\n' := by
  rw [significantLines_eq] at h
  obtain ⟨piece, hpiece, rfl⟩ := List.mem_map.mp (List.mem_filter.mp h).1
  obtain ⟨chars, hchars, rfl⟩ := List.mem_map.mp hpiece
  simp only [trim, String.toList_ofList]
  refine ⟨trimmed_trimChars chars, ?_⟩
  intro c hc
  exact mem_of_mem_splitChars hchars c (mem_of_mem_trimChars hc)

/-- A line that begins with a word character and holds a space, without blanks at its ends. -/
structure IsContent (line : List Char) : Prop where
  head : ∃ c ∈ line.head?, isWordChar c = true
  space : ' ' ∈ line
  last : ∀ c ∈ line.getLast?, isBlank c = false
  newline : '\n' ∉ line

namespace IsContent

variable {line : String}

theorem trimmed (h : IsContent line.toList) : Trimmed line.toList where
  head c hc := by
    obtain ⟨d, hd, hword⟩ := h.head
    obtain rfl : c = d := Option.mem_unique hc hd
    exact isBlank_of_isWordChar hword
  last := h.last

theorem isSignificant (h : IsContent line.toList) : isSignificant line = true := by
  obtain ⟨c, hc, hword⟩ := h.head
  have hempty : line ≠ "" := by
    rintro rfl
    simp at hc
  have hcomment : "%%".toList.isPrefixOf line.toList = false := by
    rw [Bool.eq_false_iff]
    intro hprefix
    obtain ⟨rest, hrest⟩ := List.isPrefixOf_iff_prefix.mp hprefix
    rw [← hrest] at hc
    obtain rfl : '%' = c := by simpa using hc
    exact absurd hword (by decide)
  have hheader : line ≠ diagramHeader := by
    rintro rfl
    exact absurd h.space (by decide)
  simp only [EntityDiagram.isSignificant, hempty, hcomment, hheader]
  rfl

theorem ne_closing (h : IsContent line.toList) : line ≠ Line.closingText := by
  rintro rfl
  exact absurd h.space (by decide)

/-- Indentation is trimmed away. -/
theorem trim_indent (h : IsContent line.toList) {indent : String}
    (hindent : ∀ c ∈ indent.toList, isBlank c = true) : trim (indent ++ line) = line := by
  have htrim := trimChars_blanks hindent h.trimmed
  rw [trim, String.toList_append, htrim, String.ofList_toList]

end IsContent

/-- A name and a brace open the block of the entity with that name. -/
theorem headerName?_written {name : String} (h : IsWord name.toList) :
    headerName? (name ++ " \x7b") = some name := by
  have hchars : (name ++ " \x7b").toList = name.toList ++ [' ', '\x7b'] := by simp
  have hrun := run?_append h.ne_nil h.chars [' ', '\x7b'] fun c hc => by
    obtain rfl : ' ' = c := by simpa using hc
    decide
  have hdrop : [' ', '\x7b'].dropWhile isBlank = ['\x7b'] := by decide
  simp [headerName?, headerChars?, hchars, hrun, hdrop]

theorem isContent_header {name : String} (h : IsWord name.toList) :
    IsContent (name ++ " \x7b").toList where
  head := by
    obtain ⟨c, hc, hword⟩ := h.head
    exact ⟨c, by simp [Option.mem_def.mp hc], hword⟩
  space := by simp
  last c hc := by
    obtain rfl : '\x7b' = c := by simpa using hc
    decide
  newline := by simpa using h.not_mem (by decide)

/-- No brace at its end: the line opens no block. -/
theorem headerName?_of_last {line : String} (h : line.toList.getLast? ≠ some '\x7b') :
    headerName? line = none := by
  simp [headerName?, headerChars?, h]

namespace Line

/-- The machine reads two texts one after the other. -/
theorem run_append (current : Option String) (xs ys : List String) :
    run current (xs ++ ys) =
      ((run current xs).1 ++ (run (run current xs).2 ys).1, (run (run current xs).2 ys).2) := by
  induction xs generalizing current with
  | nil => rfl
  | cons text rest ih => simp [run, ih]

/-- Lines that neither open nor close a block belong to the open entity. -/
theorem run_body (owner : String) {texts : List String}
    (h : ∀ text ∈ texts, headerName? text = none ∧ text ≠ closingText) :
    run (some owner) texts = (texts.map (body · owner), some owner) := by
  induction texts with
  | nil => rfl
  | cons text rest ih =>
    obtain ⟨hheader, hclosing⟩ := h text List.mem_cons_self
    have hrest := ih fun line hline => h line (List.mem_cons_of_mem _ hline)
    simp [run, step, hheader, hclosing, hrest]

theorem run_topLevel {texts : List String}
    (h : ∀ text ∈ texts, headerName? text = none ∧ text ≠ closingText) :
    run none texts = (texts.map topLevel, none) := by
  induction texts with
  | nil => rfl
  | cons text rest ih =>
    obtain ⟨hheader, hclosing⟩ := h text List.mem_cons_self
    have hrest := ih fun line hline => h line (List.mem_cons_of_mem _ hline)
    simp [run, step, hheader, hclosing, hrest]

/-- A written block is one opening, its body and one closing, and leaves no block open. -/
theorem run_block (current : Option String) {name : String} (hname : IsWord name.toList)
    {texts : List String} (h : ∀ text ∈ texts, headerName? text = none ∧ text ≠ closingText) :
    run current ((name ++ " \x7b") :: texts ++ [closingText]) =
      (opening (name ++ " \x7b") name :: texts.map (body · name) ++ [closing], none) := by
  have hclosing : headerName? closingText = none := headerName?_of_last (by decide)
  simp [run, step, headerName?_written hname, run_append, run_body name h, hclosing]

end Line

end EntityDiagram
