import EntityDiagram.Proofs.Attribute.Grammar

/-!
The shapes of relationships on attribute lines. A line that looks like a relationship is no
attribute, so a change to an attribute line must not give it one of the three shapes. Each shape is
followed through the changes that a rewritten line can have: other gaps, another name, and a mark
added to the constraints. None of them makes a shape that was not there, as long as the name holds
a character that is no symbol.
-/
namespace EntityDiagram.Relationship

open Text

theorem isShaped_ofList_iff {cs : List Char} : isShaped (String.ofList cs) = true ↔
    (scan? cs).isSome = true ∨ (∃ mark ∈ markers, mark <:+: cs) ∨ hasQuotedLabel cs = true := by
  unfold isShaped shape?
  rw [String.toList_ofList]
  by_cases hscan : (scan? cs).isSome = true
  · simp [hscan]
  by_cases hmark : (markers.any fun mark => occursIn mark cs) = true
  · simp only [hscan, hmark, if_false, if_true, Option.isSome_some, Bool.false_eq_true, false_or]
    obtain ⟨mark, hmem, hoccurs⟩ := List.any_eq_true.mp hmark
    simp only [true_iff]
    exact Or.inl ⟨mark, hmem, occursIn_iff.mp hoccurs⟩
  · have hnone : ¬ ∃ mark ∈ markers, mark <:+: cs := by
      rintro ⟨mark, hmem, hoccurs⟩
      exact hmark (List.any_eq_true.mpr ⟨mark, hmem, occursIn_iff.mpr hoccurs⟩)
    simp only [hscan, hmark, if_false, hnone, Bool.false_eq_true, false_or]
    by_cases hlabel : hasQuotedLabel cs = true <;> simp [hlabel]

def closesQuote (cs : List Char) : Bool :=
  match cs.dropWhile fun c => !isQuote c with
  | _ :: after => atEnd after
  | [] => false

theorem closesQuote_cons (c : Char) (cs : List Char) :
    closesQuote (c :: cs) = if isQuote c then atEnd cs else closesQuote cs := by
  by_cases hc : isQuote c = true <;> simp [closesQuote, hc]

theorem isQuotedToEnd_cons (c : Char) (cs : List Char) :
    isQuotedToEnd (c :: cs) =
      if isBlank c then isQuotedToEnd cs else isQuote c && closesQuote cs := by
  by_cases hc : isBlank c = true
  · simp [isQuotedToEnd, hc]
  · simp only [isQuotedToEnd, List.dropWhile_cons, hc, Bool.false_eq_true, if_false]
    rfl

def Quiet (cs : List Char) : Prop := ∀ c ∈ cs, isDelimiter c = false

theorem quiet_of_isWord {cs : List Char} (h : IsWord cs) : Quiet cs :=
  fun c hc => isDelimiter_of_isWordChar (h.chars c hc)

theorem isDelimiter_of_isQuote {c : Char} (h : isQuote c = true) : isDelimiter c = true := by
  simp only [isQuote, Bool.or_eq_true, decide_eq_true_eq] at h
  rcases h with rfl | rfl <;> decide

theorem not_isQuote_of_quiet {c : Char} (h : isDelimiter c = false) : isQuote c = false := by
  by_contra hquote
  rw [isDelimiter_of_isQuote (by simpa using hquote)] at h
  cases h

theorem isDelimiter_of_isBlank {c : Char} (h : isBlank c = true) (hnewline : c ≠ '\n') :
    isDelimiter c = false := by
  by_contra hmark
  have hmem : c ∈ delimiters := List.contains_iff_mem.mp (Bool.not_eq_false _ ▸ hmark)
  simp only [delimiters, List.mem_cons, List.not_mem_nil, or_false] at hmem
  rcases hmem with rfl | rfl | rfl | rfl | rfl | rfl | rfl
  · exact hnewline rfl
  all_goals exact absurd h (by decide)

theorem quiet_of_isGap {gap : List Char} (h : IsGap gap) (hnewline : '\n' ∉ gap) : Quiet gap :=
  fun c hc => isDelimiter_of_isBlank (h.chars c hc) fun heq => hnewline (heq ▸ hc)

theorem closesQuote_quiet_append {segment : List Char} (h : Quiet segment) (cs : List Char) :
    closesQuote (segment ++ cs) = closesQuote cs := by
  induction segment with
  | nil => rfl
  | cons c rest ih =>
    have hc := not_isQuote_of_quiet (h c List.mem_cons_self)
    rw [List.cons_append, closesQuote_cons, hc, ih fun d hd => h d (List.mem_cons_of_mem _ hd)]
    simp

theorem hasQuotedLabel_quiet_append {segment : List Char} (h : Quiet segment) (cs : List Char) :
    hasQuotedLabel (segment ++ cs) = hasQuotedLabel cs := by
  induction segment with
  | nil => rfl
  | cons c rest ih =>
    have hc : c ≠ ':' := by
      rintro rfl
      exact absurd (h ':' List.mem_cons_self) (by decide)
    rw [List.cons_append, hasQuotedLabel, ih fun d hd => h d (List.mem_cons_of_mem _ hd)]
    simp [hc]

theorem atEnd_quiet_append {segment : List Char} (hne : segment ≠ []) (h : Quiet segment)
    (before after : List Char) : atEnd (before ++ (segment ++ after)) = false := by
  by_contra hend
  obtain ⟨c, rest, rfl⟩ := List.exists_cons_of_ne_nil hne
  have hc : c ≠ '\n' := by
    rintro rfl
    exact absurd (h '\n' List.mem_cons_self) (by decide)
  unfold atEnd at hend
  split at hend
  · next heq => simp at heq
  · next heq =>
    cases before with
    | nil => exact hc (List.cons.inj heq).1
    | cons d more => simp at heq
  · exact hend rfl

/-- A quote that a segment without quotes stands before is closed also without the segment. -/
theorem closesQuote_replace {segment segment' : List Char} (hne : segment ≠ [])
    (h : Quiet segment) (h' : Quiet segment') (before after : List Char)
    (hclose : closesQuote (before ++ (segment ++ after)) = true) :
    closesQuote (before ++ (segment' ++ after)) = true := by
  induction before with
  | nil =>
    rw [List.nil_append, closesQuote_quiet_append h] at hclose
    rwa [List.nil_append, closesQuote_quiet_append h']
  | cons c rest ih =>
    rw [List.cons_append, closesQuote_cons] at hclose ⊢
    split at hclose
    · rw [atEnd_quiet_append hne h] at hclose
      cases hclose
    · next hc =>
      rw [if_neg hc]
      exact ih hclose

theorem isQuotedToEnd_blanks_append {blanks : List Char} (h : ∀ c ∈ blanks, isBlank c = true)
    (cs : List Char) : isQuotedToEnd (blanks ++ cs) = isQuotedToEnd cs := by
  induction blanks with
  | nil => rfl
  | cons c rest ih =>
    rw [List.cons_append, isQuotedToEnd_cons, if_pos (h c List.mem_cons_self),
      ih fun d hd => h d (List.mem_cons_of_mem _ hd)]

/-- Blanks may stand before a quoted end, but no other segment without quotes. -/
theorem forall_isBlank_of_isQuotedToEnd {segment : List Char} (h : Quiet segment)
    (cs : List Char) (hend : isQuotedToEnd (segment ++ cs) = true) :
    ∀ c ∈ segment, isBlank c = true := by
  induction segment with
  | nil => simp
  | cons c rest ih =>
    rw [List.cons_append, isQuotedToEnd_cons, not_isQuote_of_quiet (h c List.mem_cons_self)] at hend
    split at hend
    · next hc =>
      have hrest := ih (fun d hd => h d (List.mem_cons_of_mem _ hd)) hend
      intro d hd
      rcases List.mem_cons.mp hd with rfl | hd
      · exact hc
      · exact hrest d hd
    · cases hend

theorem isQuotedToEnd_replace {segment segment' : List Char} (hne : segment ≠ [])
    (h : Quiet segment) (h' : Quiet segment')
    (hblank : (∀ c ∈ segment, isBlank c = true) → ∀ c ∈ segment', isBlank c = true)
    (before after : List Char)
    (hend : isQuotedToEnd (before ++ (segment ++ after)) = true) :
    isQuotedToEnd (before ++ (segment' ++ after)) = true := by
  induction before with
  | nil =>
    rw [List.nil_append] at hend ⊢
    have hall := forall_isBlank_of_isQuotedToEnd h after hend
    rw [isQuotedToEnd_blanks_append hall] at hend
    rwa [isQuotedToEnd_blanks_append (hblank hall)]
  | cons c rest ih =>
    rw [List.cons_append, isQuotedToEnd_cons] at hend ⊢
    split at hend
    · next hc =>
      rw [if_pos hc]
      exact ih hend
    · next hc =>
      rw [if_neg hc]
      rw [Bool.and_eq_true] at hend ⊢
      exact ⟨hend.1, closesQuote_replace hne h h' rest after hend.2⟩

/-- A segment without meaning may be replaced by another one: no quoted label comes of it, unless
the new segment holds more than blanks where the old one has blanks alone. -/
theorem hasQuotedLabel_replace {segment segment' : List Char} (hne : segment ≠ [])
    (h : Quiet segment) (h' : Quiet segment')
    (hblank : (∀ c ∈ segment, isBlank c = true) → ∀ c ∈ segment', isBlank c = true)
    (before after : List Char)
    (hlabel : hasQuotedLabel (before ++ (segment ++ after)) = true) :
    hasQuotedLabel (before ++ (segment' ++ after)) = true := by
  induction before with
  | nil =>
    rw [List.nil_append, hasQuotedLabel_quiet_append h] at hlabel
    rwa [List.nil_append, hasQuotedLabel_quiet_append h']
  | cons c rest ih =>
    simp only [List.cons_append, hasQuotedLabel, Bool.or_eq_true, Bool.and_eq_true,
      decide_eq_true_eq] at hlabel ⊢
    rcases hlabel with ⟨hcolon, hend⟩ | hlabel
    · exact Or.inl ⟨hcolon, isQuotedToEnd_replace hne h h' hblank rest after hend⟩
    · exact Or.inr (ih hlabel)

/-- A mark of cardinality has no blanks and at least one character with a meaning. -/
theorem marker_facts {mark : List Char} (h : mark ∈ markers) :
    mark ≠ [] ∧ (∀ c ∈ mark, isBlank c = false) ∧ ∃ c ∈ mark, isDelimiter c = true := by
  have hall : (markers.all fun mark =>
      mark ≠ [] && mark.all (fun c => !isBlank c) && mark.any isDelimiter) = true := by decide
  simpa [and_assoc] using List.all_eq_true.mp hall mark h

theorem not_infix_of_quiet {mark cs : List Char} (h : mark ∈ markers) (hcs : Quiet cs) :
    ¬ mark <:+: cs := by
  intro hoccurs
  obtain ⟨-, -, c, hc, hmark⟩ := marker_facts h
  rw [hcs c (hoccurs.subset hc)] at hmark
  cases hmark

/-- A mark in a segment without meaning and what follows after a blank is in what follows. -/
theorem infix_of_quiet_append {mark segment rest : List Char} (h : mark ∈ markers)
    (hsegment : Quiet segment) (hrest : ∀ c ∈ rest.head?, isBlank c = true)
    (hoccurs : mark <:+: segment ++ rest) : mark <:+: rest := by
  obtain ⟨-, hblank, -⟩ := marker_facts h
  cases rest with
  | nil =>
    rw [List.append_nil] at hoccurs
    exact absurd hoccurs (not_infix_of_quiet h hsegment)
  | cons c more =>
    have hc : c ∉ mark := fun hmem => by
      have hblank' := hrest c rfl
      rw [hblank c hmem] at hblank'
      cases hblank'
    rcases (infix_append_cons hc).mp hoccurs with hleft | hright
    · exact absurd hleft (not_infix_of_quiet h hsegment)
    · exact List.infix_cons hright

theorem hasQuotedLabel_of_not_mem {cs : List Char} (h : ':' ∉ cs) : hasQuotedLabel cs = false := by
  induction cs with
  | nil => rfl
  | cons c rest ih =>
    have hc : c ≠ ':' := fun heq => h (heq ▸ List.mem_cons_self)
    rw [hasQuotedLabel, ih fun hmem => h (List.mem_cons_of_mem _ hmem)]
    simp [hc]

/-- Without braces, bars and colons only the grammar can make a relationship of a line. -/
theorem unshaped_of_not_mem {cs : List Char} (hscan : (scan? cs).isSome = false)
    (hbrace : '\x7b' ∉ cs) (hbar : '|' ∉ cs) (hcolon : ':' ∉ cs) :
    isShaped (String.ofList cs) = false := by
  by_contra hshaped
  rw [Bool.not_eq_false, isShaped_ofList_iff, hscan, hasQuotedLabel_of_not_mem hcolon] at hshaped
  rcases hshaped with hfalse | ⟨mark, hmark, hoccurs⟩ | hfalse
  · cases hfalse
  · have hmem : '\x7b' ∈ mark ∨ '|' ∈ mark := by
      simp only [markers, List.mem_cons, List.not_mem_nil, or_false] at hmark
      rcases hmark with rfl | rfl | rfl | rfl <;> decide
    exact hmem.elim (fun hc => hbrace (hoccurs.subset hc)) (fun hc => hbar (hoccurs.subset hc))
  · cases hfalse

def endsLink (cs : List Char) : Bool :=
  match run? isWordChar cs with
  | some (_, rest) => (tail? rest).isSome
  | none => false

/-- A name with a character that is no symbol stops the reading of a relationship. -/
theorem run?_isBlank_of_name {name tail symbols rest : List Char} (hname : IsWord name)
    (hother : ∃ c ∈ name, isSymbol c = false)
    (h : run? isSymbol (name ++ tail) = some (symbols, rest)) : run? isBlank rest = none := by
  obtain ⟨-, hall, -, heq⟩ := run?_eq_some_iff.mp h
  apply run?_of_head
  rcases List.append_eq_append_iff.mp heq with ⟨more, rfl, -⟩ | ⟨more, rfl, rfl⟩
  · -- the symbols would reach beyond the name
    obtain ⟨c, hc, hsymbol⟩ := hother
    rw [hall c (List.mem_append_left _ hc)] at hsymbol
    cases hsymbol
  · intro c hc
    have hmore : more ≠ [] := by
      rintro rfl
      obtain ⟨d, hd, hsymbol⟩ := hother
      rw [List.append_nil] at hd
      rw [hall d hd] at hsymbol
      cases hsymbol
    exact isBlank_of_isWordChar
      (hname.chars c (List.mem_append_right _ (head?_append_mem hmore hc)))

/-- Two words are read as a relationship when the second one consists of symbols and what follows
ends a relationship. -/
theorem scan?_words {type gap name tail : List Char} (htype : IsWord type) (hgap : IsGap gap)
    (hname : IsWord name) (htail : ∀ c ∈ tail.head?, isBlank c = true) :
    (scan? (type ++ (gap ++ (name ++ tail)))).isSome = true ↔
      (∀ c ∈ name, isSymbol c = true) ∧ endsLink (tail.dropWhile isBlank) = true := by
  have hfrom := run?_append htype.ne_nil htype.chars (gap ++ (name ++ tail))
    fun c hc => isWordChar_of_isBlank (hgap.chars c (head?_append_mem hgap.ne_nil hc))
  have hblanks := run?_append hgap.ne_nil hgap.chars (name ++ tail)
    fun c hc => isBlank_of_isWordChar (hname.chars c (head?_append_mem hname.ne_nil hc))
  simp only [scan?, hfrom, hblanks, bind, Option.bind_some]
  by_cases hsymbols : ∀ c ∈ name, isSymbol c = true
  · have hrun := run?_append hname.ne_nil hsymbols tail
      fun c hc => isSymbol_of_isBlank (htail c hc)
    rw [and_iff_right hsymbols]
    simp only [hrun, Option.bind_some]
    cases tail with
    | nil => simp [run?, endsLink]
    | cons c more =>
      have hnext : run? isBlank (c :: more) =
          some ((c :: more).takeWhile isBlank, (c :: more).dropWhile isBlank) := by
        refine run?_eq_some_iff.mpr ⟨?_, fun d hd => List.mem_takeWhile_imp hd,
          head?_dropWhile_false, List.takeWhile_append_dropWhile.symm⟩
        simp [htail c rfl]
      simp only [hnext, Option.bind_some, endsLink]
      cases run? isWordChar ((c :: more).dropWhile isBlank) with
      | none => simp
      | some result =>
        obtain ⟨target, rest⟩ := result
        cases hlabel : tail? rest <;> simp [hlabel]
  · have hother : ∃ c ∈ name, isSymbol c = false := by simpa using hsymbols
    simp only [hsymbols, false_and, iff_false]
    cases hrun : run? isSymbol (name ++ tail) with
    | none => simp
    | some result => simp [run?_isBlank_of_name hname hother hrun]

/-- A type with an argument begins no relationship. -/
theorem scan?_call {keyword : List Char} (h : IsWord keyword) (rest : List Char) :
    scan? (keyword ++ '(' :: rest) = none := by
  have hfrom := run?_append h.ne_nil h.chars ('(' :: rest) fun c hc => by
    obtain rfl : '(' = c := by simpa using hc
    decide
  have hgap : run? isBlank ('(' :: rest) = none := run?_of_head fun c hc => by
    obtain rfl : '(' = c := by simpa using hc
    decide
  simp [scan?, hfrom, hgap]

/-- Before a description, a tail begins with its first character that is no blank. -/
theorem tail?_gap_iff {more gap quoted : List Char}
    (hlast : ∀ c ∈ more.getLast?, isBlank c = false) (hgap : IsGap gap)
    (hnewline : '\n' ∉ more ++ (gap ++ quoted))
    (hquoted : ∃ c ∈ quoted.head?, isBlank c = false ∧ c ≠ ':') :
    (tail? (more ++ (gap ++ quoted))).isSome = true ↔
      ∃ rest, more.dropWhile isBlank = ':' :: rest := by
  rw [tail?_isSome_iff hnewline, or_iff_right (by simp [hgap.ne_nil])]
  by_cases hnil : more = []
  · subst hnil
    obtain ⟨d, hd, hblank, hcolon⟩ := hquoted
    have hdrop : (gap ++ quoted).dropWhile isBlank = quoted :=
      dropWhile_append_of_head hgap.chars fun c hc => by
        obtain rfl : c = d := Option.mem_unique hc hd
        exact hblank
    rw [List.nil_append, hdrop]
    constructor
    · intro hsome
      obtain ⟨c, rest, heq⟩ := hsome
      rw [heq] at hd
      exact absurd (by simpa using hd.symm) hcolon
    · intro hsome
      obtain ⟨rest, heq⟩ := hsome
      cases heq
  · have hne := dropWhile_ne_nil_of_last hnil hlast
    rw [List.dropWhile_append, if_neg (by simpa using hne)]
    obtain ⟨c, rest, hdrop⟩ := List.exists_cons_of_ne_nil hne
    obtain ⟨g, gap', hg⟩ := List.exists_cons_of_ne_nil hgap.ne_nil
    rw [hdrop]
    constructor
    · intro hsome
      obtain ⟨c', rest', heq⟩ := hsome
      exact ⟨rest, by rw [(List.cons.inj heq).1]⟩
    · intro hsome
      obtain ⟨rest', heq⟩ := hsome
      obtain ⟨rfl, rfl⟩ := List.cons.inj heq
      cases rest with
      | nil => exact ⟨g, gap' ++ quoted, by simp [hg]⟩
      | cons r rest => exact ⟨r, rest ++ (gap ++ quoted), by simp⟩

/-- Blanks and a colon end a word. -/
theorem isWordChar_head_of_colon {more rest : List Char}
    (hdrop : more.dropWhile isBlank = ':' :: rest) (others : List Char) :
    ∀ c ∈ (more ++ others).head?, isWordChar c = false := by
  intro c hc
  cases more with
  | nil => cases hdrop
  | cons d rest' =>
    obtain rfl : d = c := by simpa using hc
    by_cases hblank : isBlank d = true
    · exact isWordChar_of_isBlank hblank
    · rw [List.dropWhile_cons_of_neg hblank] at hdrop
      rw [(List.cons.inj hdrop).1]
      decide

/-- A word does not reach into a gap. -/
theorem eq_nil_of_append_eq_gap {word gap quoted rest : List Char}
    (hword : ∀ c ∈ word, isWordChar c = true) (hgap : IsGap gap)
    (h : gap ++ quoted = word ++ rest) : word = [] := by
  cases word with
  | nil => rfl
  | cons c word' =>
    have hc : c ∈ (gap ++ quoted).head? := by
      rw [h]
      rfl
    have hblank := hgap.chars c (head?_append_mem hgap.ne_nil hc)
    rw [isBlank_of_isWordChar (hword c List.mem_cons_self)] at hblank
    cases hblank

/-- Before a description, what ends a relationship is decided by the text before the gap: it is a
word, blanks and a colon. -/
theorem endsLink_gap_iff {text gap quoted : List Char} (htext : Trimmed text) (hgap : IsGap gap)
    (hnewline : '\n' ∉ text ++ (gap ++ quoted))
    (hquoted : ∃ c ∈ quoted.head?, isBlank c = false ∧ c ≠ ':') :
    endsLink (text ++ (gap ++ quoted)) = true ↔
      ∃ word more rest, text = word ++ more ∧ IsWord word ∧
        more.dropWhile isBlank = ':' :: rest := by
  -- a split of the text fixes the tail, whose first character after blanks decides
  have htail : ∀ word more, text = word ++ more →
      ((tail? (more ++ (gap ++ quoted))).isSome = true ↔
        ∃ rest, more.dropWhile isBlank = ':' :: rest) := by
    intro word more hsplit
    subst hsplit
    have hlast : ∀ c ∈ more.getLast?, isBlank c = false := by
      intro c hc
      exact htext.last c (List.mem_getLast?_append_of_mem_getLast? hc)
    rw [List.append_assoc] at hnewline
    exact tail?_gap_iff hlast hgap (fun hmem => hnewline (List.mem_append_right _ hmem)) hquoted
  constructor
  · intro h
    unfold endsLink at h
    split at h
    · next word rest hrun =>
      obtain ⟨hne, hall, hrest, heq⟩ := run?_eq_some_iff.mp hrun
      rcases List.append_eq_append_iff.mp heq with ⟨more, rfl, hmore⟩ | ⟨more, rfl, rfl⟩
      · have hnil := eq_nil_of_append_eq_gap (fun c hc => hall c (by simp [hc])) hgap hmore
        rw [hnil, List.nil_append] at hmore
        rw [← hmore] at h
        obtain ⟨rest', hdrop⟩ := (htail text [] (by simp)).mp h
        cases hdrop
      · obtain ⟨rest', hdrop⟩ := (htail word more rfl).mp h
        exact ⟨word, more, rest', rfl, ⟨hne, hall⟩, hdrop⟩
    · cases h
  · intro hsplit
    obtain ⟨word, more, rest, rfl, hword, hdrop⟩ := hsplit
    have hrun := run?_append hword.ne_nil hword.chars _
      (isWordChar_head_of_colon hdrop (gap ++ quoted))
    rw [List.append_assoc]
    simp only [endsLink, hrun]
    exact (htail word more rfl).mpr ⟨rest, hdrop⟩

end EntityDiagram.Relationship
