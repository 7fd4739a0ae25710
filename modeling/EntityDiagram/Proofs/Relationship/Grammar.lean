import EntityDiagram.Proofs.Line.Significant
import EntityDiagram.Relationship

/-!
The grammar of relationship lines. A line is accepted exactly when it splits into two words with
symbols between them and a tail that is empty or a colon with a label. The line that is written for
a relationship is one of these, and reading it gives the relationship back: the quotes put around a
label are those that reading takes away.
-/
namespace EntityDiagram.Relationship

open Text

theorem isBlank_of_isSymbol {c : Char} (h : isSymbol c = true) : isBlank c = false := by
  simp only [isSymbol, Bool.or_eq_true, decide_eq_true_eq] at h
  rcases h with (((rfl | rfl) | rfl) | rfl) | rfl <;> decide

theorem isSymbol_of_isBlank {c : Char} (h : isBlank c = true) : isSymbol c = false := by
  by_contra hsymbol
  rw [isBlank_of_isSymbol (by simpa using hsymbol)] at h
  cases h

structure IsSymbols (cs : List Char) : Prop where
  ne_nil : cs ≠ []
  chars : ∀ c ∈ cs, isSymbol c = true

structure Splits (line : List Char) (parts : Parts) (gap gap' tail : List Char) : Prop where
  line_eq :
    line = parts.fromEntity ++ (gap ++ (parts.symbols ++ (gap' ++ (parts.toEntity ++ tail))))
  fromEntity : IsWord parts.fromEntity
  gap : IsGap gap
  symbols : IsSymbols parts.symbols
  gap' : IsGap gap'
  toEntity : IsWord parts.toEntity
  tail_head : ∀ c ∈ tail.head?, isWordChar c = false
  label : tail? tail = some parts.label

theorem scan?_of_splits {line gap gap' tail : List Char} {parts : Parts}
    (h : Splits line parts gap gap' tail) : scan? line = some parts := by
  have hfrom := run?_append h.fromEntity.ne_nil h.fromEntity.chars
    (gap ++ (parts.symbols ++ (gap' ++ (parts.toEntity ++ tail))))
    fun c hc => isWordChar_of_isBlank (h.gap.chars c (head?_append_mem h.gap.ne_nil hc))
  have hgap := run?_append h.gap.ne_nil h.gap.chars
    (parts.symbols ++ (gap' ++ (parts.toEntity ++ tail)))
    fun c hc => isBlank_of_isSymbol (h.symbols.chars c (head?_append_mem h.symbols.ne_nil hc))
  have hsymbols := run?_append h.symbols.ne_nil h.symbols.chars
    (gap' ++ (parts.toEntity ++ tail))
    fun c hc => isSymbol_of_isBlank (h.gap'.chars c (head?_append_mem h.gap'.ne_nil hc))
  have hgap' := run?_append h.gap'.ne_nil h.gap'.chars (parts.toEntity ++ tail)
    fun c hc => isBlank_of_isWordChar (h.toEntity.chars c (head?_append_mem h.toEntity.ne_nil hc))
  have hto := run?_append h.toEntity.ne_nil h.toEntity.chars tail h.tail_head
  simp [scan?, h.line_eq, hfrom, hgap, hsymbols, hgap', hto, h.label]

theorem splits_of_scan? {line : List Char} {parts : Parts} (h : scan? line = some parts) :
    ∃ gap gap' tail, Splits line parts gap gap' tail := by
  simp only [scan?, bind, Option.bind_eq_some_iff, pure, Option.some.injEq] at h
  obtain ⟨⟨source, rest₁⟩, hfrom, ⟨gap, rest₂⟩, hgap, ⟨symbols, rest₃⟩, hsymbols,
    ⟨gap', rest₄⟩, hgap', ⟨target, tail⟩, hto, label, hlabel, rfl⟩ := h
  dsimp only at hgap hsymbols hgap' hto hlabel
  obtain ⟨hfromNe, hfromAll, -, hline⟩ := run?_eq_some_iff.mp hfrom
  obtain ⟨hgapNe, hgapAll, -, hrest₁⟩ := run?_eq_some_iff.mp hgap
  obtain ⟨hsymbolsNe, hsymbolsAll, -, hrest₂⟩ := run?_eq_some_iff.mp hsymbols
  obtain ⟨hgapNe', hgapAll', -, hrest₃⟩ := run?_eq_some_iff.mp hgap'
  obtain ⟨htoNe, htoAll, htail, hrest₄⟩ := run?_eq_some_iff.mp hto
  refine ⟨gap, gap', tail, ⟨?_, ⟨hfromNe, hfromAll⟩, ⟨hgapNe, hgapAll⟩,
    ⟨hsymbolsNe, hsymbolsAll⟩, ⟨hgapNe', hgapAll'⟩, ⟨htoNe, htoAll⟩, htail, hlabel⟩⟩
  rw [hline, hrest₁, hrest₂, hrest₃, hrest₄]

theorem dropFinalNewline_of_not_mem {cs : List Char} (h : '\n' ∉ cs) :
    dropFinalNewline cs = cs := by
  unfold dropFinalNewline
  rw [if_neg]
  intro hlast
  exact h (List.mem_of_getLast? hlast)

theorem atEnd_of_not_mem {cs : List Char} (h : '\n' ∉ cs) : atEnd cs = cs.isEmpty := by
  cases cs with
  | nil => rfl
  | cons c rest =>
    unfold atEnd
    split
    · next heq => cases heq
    · next heq => exact absurd (by simp [heq]) h
    · rfl

/-- On one line every label with a character is accepted. -/
theorem labelChars?_of_not_mem {cs : List Char} (hne : cs ≠ []) (h : '\n' ∉ cs) :
    labelChars? cs = some (cs.dropWhile isBlank) := by
  have hdrop : ∀ c ∈ cs.dropWhile isBlank, c ∈ cs :=
    fun c hc => (List.dropWhile_suffix isBlank).subset hc
  unfold labelChars?
  cases hcs : cs.dropWhile isBlank with
  | nil =>
    rw [dropFinalNewline_of_not_mem h]
    cases hlast : cs.getLast? with
    | none => exact absurd (List.getLast?_eq_none_iff.mp hlast) hne
    | some c =>
      have hc : c ≠ '\n' := fun heq => h (heq ▸ List.mem_of_getLast? hlast)
      simp [hc]
  | cons c rest =>
    have hline : '\n' ∉ c :: rest := fun hmem => h (hdrop _ (hcs ▸ hmem))
    simp only [dropFinalNewline_of_not_mem hline, List.contains_iff_mem, hline]
    rfl

/-- On one line a tail is empty, or it has a colon with a character after it. -/
theorem tail?_isSome_iff {cs : List Char} (h : '\n' ∉ cs) :
    (tail? cs).isSome = true ↔
      cs = [] ∨ ∃ c rest, cs.dropWhile isBlank = ':' :: c :: rest := by
  have hdrop : '\n' ∉ cs.dropWhile isBlank :=
    fun hmem => h ((List.dropWhile_suffix isBlank).subset hmem)
  unfold tail?
  rw [atEnd_of_not_mem h]
  by_cases hcs : cs = []
  · simp [hcs]
  simp only [List.isEmpty_iff, hcs, if_false, false_or]
  split
  · next rest heq =>
    cases rest with
    | nil => simp [heq, labelChars?, dropFinalNewline]
    | cons c rest =>
      have hrest : '\n' ∉ c :: rest := fun hmem => hdrop (heq ▸ List.mem_cons_of_mem _ hmem)
      simp [heq, labelChars?_of_not_mem (List.cons_ne_nil c rest) hrest]
  · next hcolon =>
    simp only [Option.isSome_none, Bool.false_eq_true, false_iff]
    rintro ⟨c, rest, heq⟩
    exact hcolon _ heq

theorem not_mem_of_tail? {cs label : List Char} (h : tail? cs = some label) : '\n' ∉ label := by
  unfold tail? at h
  split at h
  · obtain rfl := Option.some.inj h
    simp
  · split at h
    · next rest _ =>
      unfold labelChars? at h
      split at h
      · split at h
        · split at h
          · cases h
          · obtain rfl := Option.some.inj h
            simp
        · cases h
      · simp only at h
        split at h
        · cases h
        · next hline =>
          obtain rfl := Option.some.inj h
          simpa using hline
    · cases h

theorem unquote_quoted (cs : List Char) : unquote ('\x22' :: cs ++ ['\x22']) = cs := by
  simp [unquote, isQuote]

theorem mem_of_mem_unquote {cs : List Char} {c : Char} (h : c ∈ unquote cs) : c ∈ cs := by
  cases cs with
  | nil => cases h
  | cons d rest =>
    have hbody : ∀ e ∈ (if isQuote d = true then rest else d :: rest), e ∈ d :: rest := by
      intro e he
      split at he
      · exact List.mem_cons_of_mem _ he
      · exact he
    apply hbody
    unfold unquote at h
    dsimp only at h
    generalize (if isQuote d = true then rest else d :: rest) = body at h ⊢
    split at h
    · split at h
      · exact (List.dropLast_sublist body).subset h
      · exact h
    · exact h

theorem trimmed_quoted (cs : List Char) : Trimmed ('\x22' :: cs ++ ['\x22']) where
  head c hc := by
    obtain rfl : '\x22' = c := by simpa using hc
    decide
  last c hc := by
    rw [List.getLast?_concat] at hc
    obtain rfl : '\x22' = c := by simpa using hc
    decide

def quotedLabel (q : Relationship) : List Char :=
  match q.label with
  | some text => '\x22' :: text.toList ++ ['\x22']
  | none => []

def parts (q : Relationship) : Parts :=
  ⟨q.fromEntity.toList, q.symbols.toList, q.toEntity.toList, q.quotedLabel⟩

def line (q : Relationship) : String := lineText q.fromEntity q.symbols q.toEntity q.label

structure Faithful (q : Relationship) : Prop where
  fromEntity : IsWord q.fromEntity.toList
  symbols : IsSymbols q.symbols.toList
  toEntity : IsWord q.toEntity.toList
  label : ∀ text ∈ q.label, text ≠ "" ∧ '\n' ∉ text.toList
  ofParts_parts : ofParts q.parts = q

structure Written (q : Relationship) : Prop where
  fromEntity : IsName q.fromEntity.toList
  symbols : IsSymbols q.symbols.toList
  toEntity : IsName q.toEntity.toList
  label : ∀ text ∈ q.label, text ≠ "" ∧ '\n' ∉ text.toList
  ofParts_parts : ofParts q.parts = q

theorem Written.faithful {q : Relationship} (h : q.Written) : q.Faithful :=
  ⟨h.fromEntity.toIsWord, h.symbols, h.toEntity.toIsWord, h.label, h.ofParts_parts⟩

theorem Faithful.written {q : Relationship} (h : q.Faithful)
    (hfrom : '\u0130' ∉ q.fromEntity.toList) (hto : '\u0130' ∉ q.toEntity.toList) : q.Written :=
  ⟨⟨h.fromEntity, hfrom⟩, h.symbols, ⟨h.toEntity, hto⟩, h.label, h.ofParts_parts⟩

def tailChars (q : Relationship) : List Char :=
  match q.label with
  | some _ => ' ' :: ':' :: ' ' :: q.quotedLabel
  | none => []

theorem toList_line {q : Relationship} (h : q.Faithful) :
    q.line.toList = q.fromEntity.toList ++ ([' '] ++ (q.symbols.toList ++
      ([' '] ++ (q.toEntity.toList ++ q.tailChars)))) := by
  cases hlabel : q.label with
  | none => simp [line, lineText, tailChars, hlabel]
  | some text =>
    have hne : text ≠ "" := (h.label text hlabel).1
    simp [line, lineText, tailChars, quotedLabel, hlabel, hne]

theorem newline_not_mem_tailChars {q : Relationship} (h : q.Faithful) : '\n' ∉ q.tailChars := by
  cases hlabel : q.label with
  | none => simp [tailChars, hlabel]
  | some text =>
    have htext : '\n' ∉ text.toList := (h.label text hlabel).2
    simp [tailChars, quotedLabel, hlabel, htext]

theorem tail?_tailChars {q : Relationship} (h : q.Faithful) :
    tail? q.tailChars = some q.quotedLabel := by
  have hnewline := newline_not_mem_tailChars h
  cases hlabel : q.label with
  | none => simp [tailChars, quotedLabel, hlabel, tail?, atEnd]
  | some text =>
    have hchars : q.tailChars = ' ' :: ':' :: ' ' :: q.quotedLabel := by simp [tailChars, hlabel]
    have hquoted : ∀ c ∈ q.quotedLabel.head?, isBlank c = false := by
      simpa [quotedLabel, hlabel] using (trimmed_quoted text.toList).head
    have hrest : '\n' ∉ ' ' :: q.quotedLabel := by
      rw [hchars] at hnewline
      exact fun hmem => hnewline (List.mem_cons_of_mem _ (List.mem_cons_of_mem _ hmem))
    have hdrop : (' ' :: q.quotedLabel).dropWhile isBlank = q.quotedLabel :=
      @dropWhile_append_of_head isBlank [' '] _ isGap_space.chars hquoted
    have hcolon : (' ' :: ':' :: ' ' :: q.quotedLabel).dropWhile isBlank =
        ':' :: ' ' :: q.quotedLabel :=
      @dropWhile_append_of_head isBlank [' '] _ isGap_space.chars fun c hc => by
        obtain rfl : ':' = c := by simpa using hc
        decide
    have hend : atEnd q.tailChars = false := by rw [atEnd_of_not_mem hnewline, hchars]; rfl
    unfold tail?
    simp only [hend, Bool.false_eq_true, if_false]
    rw [hchars, hcolon]
    simp only [labelChars?_of_not_mem (by simp) hrest, hdrop]

theorem splits_line {q : Relationship} (h : q.Faithful) :
    Splits q.line.toList q.parts [' '] [' '] q.tailChars where
  line_eq := toList_line h
  fromEntity := h.fromEntity
  gap := isGap_space
  symbols := h.symbols
  gap' := isGap_space
  toEntity := h.toEntity
  tail_head c hc := by
    cases hlabel : q.label with
    | none => simp [tailChars, hlabel] at hc
    | some text =>
      obtain rfl : ' ' = c := by simpa [tailChars, hlabel] using hc
      decide
  label := tail?_tailChars h

/-- The written line of a relationship is read as the relationship. -/
theorem ofLine?_line {q : Relationship} (h : q.Faithful) : ofLine? q.line = some q := by
  rw [ofLine?, scan?_of_splits (splits_line h), Option.map_some, h.ofParts_parts]

/-- A written line ends with the second entity or with the quote after the label. -/
theorem getLast?_line {q : Relationship} (h : q.Faithful) {c : Char}
    (hc : c ∈ q.line.toList.getLast?) : isWordChar c = true ∨ c = '\x22' := by
  cases hlabel : q.label with
  | none =>
    have heq : q.line.toList =
        q.fromEntity.toList ++ ' ' :: q.symbols.toList ++ [' '] ++ q.toEntity.toList := by
      simp [toList_line h, tailChars, hlabel]
    rw [heq, List.getLast?_append_of_ne_nil _ h.toEntity.ne_nil] at hc
    exact Or.inl (h.toEntity.chars c (List.mem_of_getLast? hc))
  | some text =>
    have heq : q.line.toList = q.fromEntity.toList ++ ' ' :: q.symbols.toList ++
        ' ' :: q.toEntity.toList ++ [' ', ':', ' '] ++ '\x22' :: text.toList ++ ['\x22'] := by
      simp [toList_line h, tailChars, quotedLabel, hlabel]
    rw [heq, List.getLast?_concat] at hc
    exact Or.inr (by simpa using hc.symm)

theorem isContent_line {q : Relationship} (h : q.Faithful) : IsContent q.line.toList where
  head := by
    obtain ⟨c, hc, hword⟩ := h.fromEntity.head
    exact ⟨c, by simp [toList_line h, Option.mem_def.mp hc], hword⟩
  space := by simp [toList_line h]
  last c hc := by
    rcases getLast?_line h hc with hword | rfl
    · exact isBlank_of_isWordChar hword
    · decide
  newline := by
    have hfrom := h.fromEntity.not_mem (c := '\n') (by decide)
    have hto := h.toEntity.not_mem (c := '\n') (by decide)
    have hsymbols : '\n' ∉ q.symbols.toList :=
      fun hmem => absurd (h.symbols.chars _ hmem) (by decide)
    have htail := newline_not_mem_tailChars h
    simp [toList_line h, hfrom, hto, hsymbols, htail]

/-- A written relationship opens no block. -/
theorem headerName?_line {q : Relationship} (h : q.Faithful) : headerName? q.line = none := by
  apply headerName?_of_last
  intro hlast
  rcases getLast?_line h hlast with hword | hquote
  · exact absurd hword (by decide)
  · exact absurd hquote (by decide)

/-- The label of a line with the given parts. -/
theorem label_ofParts (p : Parts) : (ofParts p).label =
    if unquote (trimChars p.label) = [] then none
    else some (String.ofList (unquote (trimChars p.label))) := by
  have hiff : String.ofList (unquote (trimChars p.label)) = "" ↔ unquote (trimChars p.label) = [] :=
    @String.ofList_inj _ []
  simp [ofParts, hiff]

/-- Quotes are put around what stays of a label without its own. -/
theorem unquote_quotedLabel_ofParts (p : Parts) :
    unquote (trimChars (ofParts p).quotedLabel) = unquote (trimChars p.label) := by
  have hlabel := label_ofParts p
  by_cases hempty : unquote (trimChars p.label) = []
  · rw [if_pos hempty] at hlabel
    simp only [quotedLabel, hlabel, hempty]
    rfl
  · rw [if_neg hempty] at hlabel
    simp only [quotedLabel, hlabel, String.toList_ofList]
    rw [trimChars_of_trimmed (trimmed_quoted _), unquote_quoted]

theorem parts_ofParts (p : Parts) :
    (ofParts p).parts = ⟨p.fromEntity, p.symbols, p.toEntity, (ofParts p).quotedLabel⟩ := by
  simp [parts, ofParts]

theorem ofParts_label_congr (source symbols target : List Char) {label label' : List Char}
    (h : unquote (trimChars label) = unquote (trimChars label')) :
    ofParts ⟨source, symbols, target, label⟩ = ofParts ⟨source, symbols, target, label'⟩ := by
  simp only [ofParts, h]

/-- The parts of a line make a relationship that is what its written line says. -/
theorem faithful_ofParts {p : Parts} (hfrom : IsWord p.fromEntity) (hsymbols : IsSymbols p.symbols)
    (hto : IsWord p.toEntity) (hlabel : '\n' ∉ p.label) : (ofParts p).Faithful := by
  have hfromChars : (ofParts p).fromEntity.toList = p.fromEntity := String.toList_ofList
  have hsymbolChars : (ofParts p).symbols.toList = p.symbols := String.toList_ofList
  have htoChars : (ofParts p).toEntity.toList = p.toEntity := String.toList_ofList
  refine ⟨hfromChars.symm ▸ hfrom, hsymbolChars.symm ▸ hsymbols, htoChars.symm ▸ hto, ?_, ?_⟩
  · intro text htext
    rw [label_ofParts] at htext
    split at htext
    · cases htext
    · next hne =>
      obtain rfl := Option.some.inj htext
      refine ⟨fun hempty => hne (String.ofList_inj.mp hempty), ?_⟩
      rw [String.toList_ofList]
      exact fun hmem => hlabel (mem_of_mem_trimChars (mem_of_mem_unquote hmem))
  · rw [parts_ofParts]
    exact ofParts_label_congr _ _ _ (unquote_quotedLabel_ofParts p)

/-- Every relationship that is read from a line is what its written line says, and its sides are
parts of the line. -/
theorem faithful_of_ofLine? {line : String} {q : Relationship} (h : ofLine? line = some q) :
    q.Faithful ∧ ∀ c, c ∈ q.fromEntity.toList ∨ c ∈ q.toEntity.toList → c ∈ line.toList := by
  obtain ⟨p, hscan, rfl⟩ := Option.map_eq_some_iff.mp h
  obtain ⟨gap, gap', tail, hsplit⟩ := splits_of_scan? hscan
  refine ⟨faithful_ofParts hsplit.fromEntity hsplit.symbols hsplit.toEntity
    (not_mem_of_tail? hsplit.label), fun c hc => ?_⟩
  simp only [ofParts, String.toList_ofList] at hc
  rw [hsplit.line_eq]
  rcases hc with hc | hc <;> simp [hc]

end EntityDiagram.Relationship
