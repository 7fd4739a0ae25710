import EntityDiagram.Proofs.Attribute.Shape

/-!
Written attributes. An attribute is written with single spaces between its parts. A line that is
read as an attribute may have wider gaps; written anew it is read as the same attribute. The
changes of a repair keep a written attribute written: a new name that holds a character other than
a symbol, and the mark of a foreign key after the constraints of such a column.
-/
namespace EntityDiagram.Attribute

open Text
open Relationship (isShaped isSymbol markers hasQuotedLabel Quiet)

def constraintsText (cs : List Char) : List Char := if cs = [] then [] else [' '] ++ cs

def descriptionText : Option (List Char) → List Char
  | some text => [' '] ++ quoted text
  | none => []

def tailText (constraints : List Char) (description : Option (List Char)) : List Char :=
  constraintsText constraints ++ descriptionText description

namespace Parts

def line (p : Parts) : List Char :=
  p.type ++ ([' '] ++ (p.name ++ tailText p.constraints p.description))

/-- The line that is written for the parts is one line without blanks at its ends. After its type
comes a text without blanks that begins with a word character. -/
structure Printable (p : Parts) : Prop where
  type : TypeToken p.type
  head : ∃ c ∈ p.name.head?, isWordChar c = true
  chars : ∀ c ∈ p.name, isBlank c = false
  trimmed : Trimmed p.constraints
  newline : '\n' ∉ p.line

/-- The parts can be told apart in the line that is written for them, which does not look like a
relationship. -/
structure Written (p : Parts) : Prop where
  type : TypeToken p.type
  name : IsWord p.name
  trimmed : Trimmed p.constraints
  unquoted : '\x22' ∉ p.constraints
  description : ∀ text ∈ p.description, '\x22' ∉ text
  newline : '\n' ∉ p.line
  unshaped : isShaped (String.ofList p.line) = false

theorem Written.printable {p : Parts} (h : p.Written) : p.Printable where
  type := h.type
  head := h.name.head
  chars c hc := isBlank_of_isWordChar (h.name.chars c hc)
  trimmed := h.trimmed
  newline := h.newline

theorem Printable.name_ne_nil {p : Parts} (h : p.Printable) : p.name ≠ [] := by
  intro hnil
  obtain ⟨c, hc, -⟩ := h.head
  simp [hnil] at hc

end Parts

theorem tailText_nil (description : Option (List Char)) :
    tailText [] description = descriptionText description := rfl

theorem tailText_none {constraints : List Char} (h : constraints ≠ []) :
    tailText constraints none = [' '] ++ constraints := by
  simp [tailText, constraintsText, descriptionText, h]

theorem tailText_some {constraints : List Char} (h : constraints ≠ []) (text : List Char) :
    tailText constraints (some text) = [' '] ++ (constraints ++ ([' '] ++ quoted text)) := by
  simp [tailText, constraintsText, descriptionText, h]

theorem tail_tailText {constraints : List Char} {description : Option (List Char)}
    (htrim : Trimmed constraints) (hquote : '\x22' ∉ constraints)
    (hdescription : ∀ text ∈ description, '\x22' ∉ text) :
    Tail (tailText constraints description) constraints description := by
  by_cases hne : constraints = []
  · subst hne
    cases description with
    | none => exact Tail.bare
    | some text => exact Tail.described isGap_space (hdescription text rfl)
  · cases description with
    | none =>
      rw [tailText_none hne]
      exact Tail.constrained isGap_space hne htrim hquote
    | some text =>
      rw [tailText_some hne]
      exact Tail.full isGap_space hne htrim hquote isGap_space (hdescription text rfl)

theorem Parts.Written.splits {p : Parts} (h : p.Written) :
    Splits p.line p [' '] (tailText p.constraints p.description) where
  line_eq := rfl
  type := h.type
  gap := isGap_space
  name := h.name
  tail := tail_tailText h.trimmed h.unquoted h.description

/-- The constraints and the description of a tail are fit to be written. -/
theorem Tail.facts {cs constraints : List Char} {description : Option (List Char)}
    (h : Tail cs constraints description) :
    Trimmed constraints ∧ '\x22' ∉ constraints ∧ ∀ text ∈ description, '\x22' ∉ text := by
  cases h with
  | bare => exact ⟨trimmed_nil, by simp, by simp⟩
  | constrained _ _ htrim hquote => exact ⟨htrim, hquote, by simp⟩
  | described _ htext => exact ⟨trimmed_nil, by simp, by simpa using htext⟩
  | full _ _ htrim hquote _ htext => exact ⟨htrim, hquote, by simpa using htext⟩

theorem TypeToken.head {type : List Char} (h : TypeToken type) :
    ∃ c ∈ type.head?, isWordChar c = true := by
  cases h with
  | word h => exact h.head
  | @call keyword argument hkeyword _ _ =>
    obtain ⟨c, hc, hword⟩ := (keyword_isWord hkeyword).head
    exact ⟨c, by simp [Option.mem_def.mp hc], hword⟩

/-- After its first word an attribute line goes on with a parenthesis or, after a gap, with the
name; so it opens no block. -/
theorem headerChars?_of_type {type gap rest : List Char} (htype : TypeToken type) (hgap : IsGap gap)
    (hrest : ∀ c ∈ rest.head?, isWordChar c = true) :
    headerChars? (type ++ (gap ++ rest)) = none := by
  have hnone : ∀ word after, run? isWordChar (type ++ (gap ++ rest)) = some (word, after) →
      ∀ more, after.dropWhile isBlank ≠ '\x7b' :: more := by
    intro word after hrun more hdrop
    cases htype with
    | word hword =>
      have hfound := run?_append hword.ne_nil hword.chars (gap ++ rest)
        fun c hc => isWordChar_of_isBlank (hgap.chars c (head?_append_mem hgap.ne_nil hc))
      obtain ⟨rfl, rfl⟩ := Prod.mk.inj (Option.some.inj (hrun.symm.trans hfound))
      have hblank : ∀ c ∈ rest.head?, isBlank c = false :=
        fun c hc => isBlank_of_isWordChar (hrest c hc)
      rw [dropWhile_append_of_head hgap.chars hblank] at hdrop
      have hmem : '\x7b' ∈ rest.head? := by rw [hdrop]; rfl
      exact absurd (hrest _ hmem) (by decide)
    | @call keyword argument hkeyword _ _ =>
      have hword := keyword_isWord hkeyword
      have hfound := run?_append hword.ne_nil hword.chars
        ('(' :: (argument ++ ')' :: (gap ++ rest))) fun c hc => by
          obtain rfl : '(' = c := by simpa using hc
          decide
      have heq : keyword ++ '(' :: argument ++ [')'] ++ (gap ++ rest) =
          keyword ++ '(' :: (argument ++ ')' :: (gap ++ rest)) := by simp
      rw [heq] at hrun
      obtain ⟨rfl, rfl⟩ := Prod.mk.inj (Option.some.inj (hrun.symm.trans hfound))
      have hopening : isBlank '(' = false := by decide
      rw [List.dropWhile_cons_of_neg (by simp [hopening])] at hdrop
      exact absurd (List.cons.inj hdrop).1 (by decide)
  unfold headerChars?
  split
  · split
    · next word after hrun =>
      split
      · next more hdrop => exact absurd hdrop (hnone word after hrun more)
      · rfl
    · rfl
  · rfl

/-- A mark of cardinality after the name is one in the constraints or in the description. -/
theorem infix_tail_iff {mark name cs constraints : List Char} {description : Option (List Char)}
    (h : Tail cs constraints description) (hmark : mark ∈ markers) :
    mark <:+: name ++ cs ↔
      mark <:+: name ∨ mark <:+: constraints ∨ ∃ text ∈ description, mark <:+: quoted text := by
  obtain ⟨hne, hblank, -⟩ := Relationship.marker_facts hmark
  have hnil : ¬ mark <:+: [] := fun hoccurs => hne (List.infix_nil.mp hoccurs)
  cases h with
  | bare => simp [hnil]
  | constrained hgap _ _ _ => simp [infix_gap hne hblank hgap]
  | described hgap _ => simp [infix_gap hne hblank hgap, hnil]
  | full hgap _ _ _ hgap' _ =>
    rw [infix_gap hne hblank hgap, infix_gap hne hblank hgap']
    simp

/-- Whether an attribute line could end like a relationship does not depend on its gaps. -/
theorem endsLink_tailText {cs constraints : List Char} {description : Option (List Char)}
    (h : Tail cs constraints description) (hnewline : '\n' ∉ cs)
    (hend : Relationship.endsLink ((tailText constraints description).dropWhile isBlank) = true) :
    Relationship.endsLink (cs.dropWhile isBlank) = true := by
  have hhead : ∀ text : List Char, ∀ c ∈ (quoted text).head?, isBlank c = false := by
    intro text c hc
    obtain rfl : '\x22' = c := by simpa [quoted] using hc
    decide
  cases h with
  | bare => exact hend
  | constrained hgap hne htrim _ =>
    rw [tailText_none hne, dropWhile_append_of_head isGap_space.chars htrim.head] at hend
    rwa [dropWhile_append_of_head hgap.chars htrim.head]
  | @described gap text hgap _ =>
    rw [tailText_nil, descriptionText, dropWhile_append_of_head isGap_space.chars (hhead text)]
      at hend
    rwa [dropWhile_append_of_head hgap.chars (hhead text)]
  | @full gap _ gap' text hgap hne htrim _ hgap' _ =>
    have hfirst : ∀ rest : List Char, ∀ c ∈ (constraints ++ rest).head?, isBlank c = false := by
      intro rest c hc
      obtain ⟨d, more, rfl⟩ := List.exists_cons_of_ne_nil hne
      exact htrim.head c (by simpa using hc)
    have hquote : ∃ c ∈ (quoted text).head?, isBlank c = false ∧ c ≠ ':' :=
      ⟨'\x22', rfl, by decide, by decide⟩
    have hchars : '\n' ∉ constraints ++ (gap' ++ quoted text) :=
      fun hmem => hnewline (List.mem_append_right _ hmem)
    have hspace : '\n' ∉ constraints ++ ([' '] ++ quoted text) := by
      intro hmem
      apply hchars
      simp only [List.mem_append, List.mem_singleton] at hmem ⊢
      rcases hmem with hmem | hmem | hmem
      · exact Or.inl hmem
      · cases hmem
      · exact Or.inr (Or.inr hmem)
    rw [tailText_some hne, dropWhile_append_of_head isGap_space.chars (hfirst _),
      Relationship.endsLink_gap_iff htrim isGap_space hspace hquote] at hend
    rw [dropWhile_append_of_head hgap.chars (hfirst _)]
    exact (Relationship.endsLink_gap_iff htrim hgap' hchars hquote).mpr hend

/-- A wider gap makes no quoted label go away. -/
theorem hasQuotedLabel_gap {before gap after : List Char} (hgap : IsGap gap)
    (hnewline : '\n' ∉ gap) (h : hasQuotedLabel (before ++ ([' '] ++ after)) = true) :
    hasQuotedLabel (before ++ (gap ++ after)) = true :=
  Relationship.hasQuotedLabel_replace (by simp)
    (Relationship.quiet_of_isGap isGap_space (by decide))
    (Relationship.quiet_of_isGap hgap hnewline) (fun _ => hgap.chars) before after h

theorem hasQuotedLabel_tailText {before cs constraints : List Char}
    {description : Option (List Char)} (h : Tail cs constraints description) (hnewline : '\n' ∉ cs)
    (hlabel : hasQuotedLabel (before ++ tailText constraints description) = true) :
    hasQuotedLabel (before ++ cs) = true := by
  cases h with
  | bare => exact hlabel
  | constrained hgap hne _ _ =>
    rw [tailText_none hne] at hlabel
    exact hasQuotedLabel_gap hgap (fun hmem => hnewline (by simp [hmem])) hlabel
  | described hgap _ =>
    exact hasQuotedLabel_gap hgap (fun hmem => hnewline (by simp [hmem])) hlabel
  | full hgap hne _ _ hgap' _ =>
    rw [tailText_some hne] at hlabel
    have hfirst := hasQuotedLabel_gap hgap (fun hmem => hnewline (by simp [hmem])) hlabel
    rw [← List.append_assoc, ← List.append_assoc] at hfirst ⊢
    exact hasQuotedLabel_gap hgap' (fun hmem => hnewline (by simp [hmem])) hfirst

theorem scan?_call_append {keyword : List Char}
    (h : keyword = "choice".toList ∨ keyword = "lookup".toList) (argument rest : List Char) :
    Relationship.scan? (keyword ++ '(' :: argument ++ [')'] ++ rest) = none := by
  have heq : keyword ++ '(' :: argument ++ [')'] ++ rest =
      keyword ++ '(' :: (argument ++ ')' :: rest) := by simp
  rw [heq, Relationship.scan?_call (keyword_isWord h)]

/-- A name with a character that is no symbol keeps a line from being a relationship. -/
theorem scan?_of_name {type gap name tail : List Char} (htype : TypeToken type) (hgap : IsGap gap)
    (hname : IsWord name) (hother : ∃ c ∈ name, isSymbol c = false)
    (htail : ∀ c ∈ tail.head?, isBlank c = true) :
    (Relationship.scan? (type ++ (gap ++ (name ++ tail)))).isSome = false := by
  cases htype with
  | word hword =>
    by_contra hscan
    rw [Bool.not_eq_false, Relationship.scan?_words hword hgap hname htail] at hscan
    obtain ⟨c, hc, hsymbol⟩ := hother
    rw [hscan.1 c hc] at hsymbol
    cases hsymbol
  | call hkeyword _ _ => rw [scan?_call_append hkeyword]; rfl

theorem scan?_line_of_splits {line gap tail : List Char} {p : Parts} (h : Splits line p gap tail)
    (hnewline : '\n' ∉ line) (hscan : (Relationship.scan? p.line).isSome = true) :
    (Relationship.scan? line).isSome = true := by
  obtain ⟨hline, htype, hgap, hname, htail⟩ := h
  obtain ⟨type, name, constraints, description⟩ := p
  dsimp only at hline htype hname htail
  obtain ⟨htrim, hquote, hdescription⟩ := htail.facts
  have hhead := (tail_tailText htrim hquote hdescription).head
  rw [hline] at hnewline ⊢
  unfold Parts.line at hscan
  cases htype with
  | word hword =>
    rw [Relationship.scan?_words hword isGap_space hname hhead] at hscan
    rw [Relationship.scan?_words hword hgap hname htail.head]
    exact ⟨hscan.1, endsLink_tailText htail (fun hmem => hnewline (by simp [hmem])) hscan.2⟩
  | call hkeyword _ _ =>
    rw [scan?_call_append hkeyword] at hscan
    cases hscan

/-- Written anew with single spaces, a line looks like a relationship only if it did before. -/
theorem isShaped_of_isShaped_line {line gap tail : List Char} {p : Parts}
    (h : Splits line p gap tail) (hnewline : '\n' ∉ line)
    (hshaped : isShaped (String.ofList p.line) = true) : isShaped (String.ofList line) = true := by
  obtain ⟨htrim, hquote, hdescription⟩ := h.tail.facts
  have hwritten := tail_tailText htrim hquote hdescription
  rw [Relationship.isShaped_ofList_iff] at hshaped ⊢
  rcases hshaped with hscan | ⟨mark, hmark, hoccurs⟩ | hlabel
  · exact Or.inl (scan?_line_of_splits h hnewline hscan)
  · obtain ⟨hne, hblank, -⟩ := Relationship.marker_facts hmark
    refine Or.inr (Or.inl ⟨mark, hmark, ?_⟩)
    rw [Parts.line, infix_gap hne hblank isGap_space, infix_tail_iff hwritten hmark] at hoccurs
    rw [h.line_eq, infix_gap hne hblank h.gap, infix_tail_iff h.tail hmark]
    exact hoccurs
  · rw [h.line_eq] at hnewline ⊢
    have hgap := hasQuotedLabel_gap h.gap (fun hmem => hnewline (by simp [hmem])) hlabel
    refine Or.inr (Or.inr ?_)
    rw [← List.append_assoc, ← List.append_assoc] at hgap ⊢
    exact hasQuotedLabel_tailText h.tail (fun hmem => hnewline (by simp [hmem])) hgap

theorem getLast?_line {p : Parts} (h : p.Printable) :
    ∀ c ∈ p.line.getLast?, isBlank c = false := by
  intro c hc
  have hquoted : ∀ (before text : List Char), c ∈ (before ++ quoted text).getLast? →
      isBlank c = false := by
    intro before text hlast
    have heq : before ++ quoted text = before ++ '\x22' :: text ++ ['\x22'] := by simp [quoted]
    rw [heq, List.getLast?_concat] at hlast
    obtain rfl : '\x22' = c := by simpa using hlast
    decide
  unfold Parts.line at hc
  by_cases hne : p.constraints = []
  · cases hdescription : p.description with
    | none =>
      rw [hne, hdescription, tailText_nil, descriptionText, List.append_nil, ← List.append_assoc,
        List.getLast?_append_of_ne_nil _ h.name_ne_nil] at hc
      exact h.chars c (List.mem_of_getLast? hc)
    | some text =>
      rw [hne, hdescription, tailText_nil, descriptionText] at hc
      simp only [← List.append_assoc] at hc
      exact hquoted _ _ hc
  · cases hdescription : p.description with
    | none =>
      rw [hdescription, tailText_none hne] at hc
      simp only [← List.append_assoc] at hc
      rw [List.getLast?_append_of_ne_nil _ hne] at hc
      exact h.trimmed.last c hc
    | some text =>
      rw [hdescription, tailText_some hne] at hc
      simp only [← List.append_assoc] at hc
      exact hquoted _ _ hc

theorem mem_of_mem_tailText {cs constraints : List Char} {description : Option (List Char)}
    (h : Tail cs constraints description) {c : Char}
    (hc : c ∈ tailText constraints description) : c = ' ' ∨ c ∈ cs := by
  cases h with
  | bare => cases hc
  | constrained _ hne _ _ =>
    rw [tailText_none hne] at hc
    simp only [List.mem_append, List.mem_singleton] at hc ⊢
    tauto
  | described _ _ =>
    rw [tailText_nil, descriptionText] at hc
    simp only [List.mem_append, List.mem_singleton] at hc ⊢
    tauto
  | full _ hne _ _ _ _ =>
    rw [tailText_some hne] at hc
    simp only [List.mem_append, List.mem_singleton] at hc ⊢
    tauto

theorem mem_of_mem_line {line gap tail : List Char} {p : Parts} (h : Splits line p gap tail)
    {c : Char} (hc : c ∈ p.line) : c = ' ' ∨ c ∈ line := by
  rw [h.line_eq]
  simp only [Parts.line, List.mem_append, List.mem_singleton] at hc ⊢
  rcases hc with hc | hc | hc | hc
  · exact Or.inr (Or.inl hc)
  · exact Or.inl hc
  · exact Or.inr (Or.inr (Or.inr (Or.inl hc)))
  · have htail := mem_of_mem_tailText h.tail hc
    tauto

/-- The parts of a line that does not look like a relationship can be written. -/
theorem written_of_splits {line gap tail : List Char} {p : Parts} (h : Splits line p gap tail)
    (hnewline : '\n' ∉ line) (hshaped : isShaped (String.ofList line) = false) :
    p.Written := by
  obtain ⟨htrim, hquote, hdescription⟩ := h.tail.facts
  refine ⟨h.type, h.name, htrim, hquote, hdescription, ?_, ?_⟩
  · intro hmem
    rcases mem_of_mem_line h hmem with hspace | hline
    · exact absurd hspace (by decide)
    · exact hnewline hline
  · by_contra hnew
    rw [isShaped_of_isShaped_line h hnewline (by simpa using hnew)] at hshaped
    cases hshaped

def marked (constraints : List Char) : List Char := trimChars (constraints ++ [' ', 'F', 'K'])

theorem trimmed_marked (constraints : List Char) : Trimmed (marked constraints) :=
  trimmed_trimChars _

theorem marked_nil : marked [] = ['F', 'K'] := by decide

theorem marked_of_ne_nil {constraints : List Char} (hne : constraints ≠ [])
    (h : Trimmed constraints) : marked constraints = constraints ++ [' ', 'F', 'K'] := by
  apply trimChars_of_trimmed
  constructor
  · obtain ⟨c, more, rfl⟩ := List.exists_cons_of_ne_nil hne
    intro d hd
    exact h.head d (by simpa using hd)
  · intro d hd
    rw [List.getLast?_append_of_ne_nil _ (by simp)] at hd
    obtain rfl : 'K' = d := by simpa using hd
    decide

theorem head?_descriptionText (description : Option (List Char)) :
    ∀ c ∈ (descriptionText description).head?, isBlank c = true := by
  intro c hc
  cases description with
  | none => cases hc
  | some text =>
    obtain rfl : ' ' = c := by simpa [descriptionText] using hc
    decide

namespace Parts

def lead (p : Parts) : List Char :=
  p.type ++ ([' '] ++ (p.name ++ constraintsText p.constraints))

theorem line_eq (p : Parts) : p.line = p.lead ++ descriptionText p.description := by
  simp [line, lead, tailText]

/-- The mark stands between the constraints and the description. -/
theorem line_marked {p : Parts} (h : Trimmed p.constraints) :
    line { p with constraints := marked p.constraints } =
      p.lead ++ ([' '] ++ (['F', 'K'] ++ descriptionText p.description)) := by
  by_cases hne : p.constraints = []
  · simp [line, lead, tailText, constraintsText, hne, marked_nil]
  · simp [line, lead, tailText, constraintsText, hne, marked_of_ne_nil hne h]

end Parts

/-- A line looks like no relationship when it is none and neither a mark nor a quoted label in it
is new. -/
theorem unshaped_of_imp {line line' : List Char} (h : isShaped (String.ofList line) = false)
    (hscan : (Relationship.scan? line').isSome = false)
    (hmark : ∀ mark ∈ markers, mark <:+: line' → mark <:+: line)
    (hlabel : hasQuotedLabel line' = true → hasQuotedLabel line = true) :
    isShaped (String.ofList line') = false := by
  by_contra hshaped
  rw [Bool.eq_false_iff, ne_eq, Relationship.isShaped_ofList_iff] at h
  rw [Bool.not_eq_false, Relationship.isShaped_ofList_iff] at hshaped
  rcases hshaped with hscan' | ⟨mark, hmem, hoccurs⟩ | hlabel'
  · rw [hscan] at hscan'
    cases hscan'
  · exact h (Or.inr (Or.inl ⟨mark, hmem, hmark mark hmem hoccurs⟩))
  · exact h (Or.inr (Or.inr (hlabel hlabel')))

namespace Parts.Written

variable {p : Parts}

/-- With another name that holds more than symbols the line still does not look like a
relationship. -/
theorem rename (h : p.Written) {name : List Char} (hname : IsWord name)
    (hother : ∃ c ∈ name, isSymbol c = false) : Written { p with name := name } where
  type := h.type
  name := hname
  trimmed := h.trimmed
  unquoted := h.unquoted
  description := h.description
  newline := by
    have hnewline := h.newline
    have hnew := hname.not_mem (c := '\n') (by decide)
    simp only [line, List.mem_append, not_or] at hnewline ⊢
    exact ⟨hnewline.1, hnewline.2.1, hnew, hnewline.2.2.2⟩
  unshaped := by
    have htail := h.splits.tail.head
    refine unshaped_of_imp h.unshaped (scan?_of_name h.type isGap_space hname hother htail) ?_ ?_
    · intro mark hmark hoccurs
      obtain ⟨hne, hblank, -⟩ := Relationship.marker_facts hmark
      rw [line, infix_gap hne hblank isGap_space] at hoccurs ⊢
      refine hoccurs.imp_right fun hright => ?_
      exact List.infix_append_of_infix_right (Relationship.infix_of_quiet_append hmark
        (Relationship.quiet_of_isWord hname) htail hright)
    · intro hlabel
      rw [line, ← List.append_assoc] at hlabel ⊢
      refine Relationship.hasQuotedLabel_replace hname.ne_nil (Relationship.quiet_of_isWord hname)
        (Relationship.quiet_of_isWord h.name) ?_ _ _ hlabel
      intro hblank
      obtain ⟨c, more, rfl⟩ := List.exists_cons_of_ne_nil hname.ne_nil
      have hword := isBlank_of_isWordChar (hname.chars c List.mem_cons_self)
      rw [hblank c List.mem_cons_self] at hword
      cases hword

/-- The mark of a foreign key after the constraints does not make the line look like a
relationship. -/
theorem mark (h : p.Written) (hother : ∃ c ∈ p.name, isSymbol c = false) :
    Written { p with constraints := marked p.constraints } := by
  have hquote : '\x22' ∉ marked p.constraints := by
    intro hmem
    have hmem := mem_of_mem_trimChars hmem
    simp [h.unquoted] at hmem
  have htail := (tail_tailText (trimmed_marked p.constraints) hquote h.description).head
  refine ⟨h.type, h.name, trimmed_marked p.constraints, hquote, h.description, ?_, ?_⟩
  · have hnewline := h.newline
    rw [line_eq, List.mem_append, not_or] at hnewline
    simp only [line_marked h.trimmed, List.mem_append, not_or]
    exact ⟨hnewline.1, by decide, by decide, hnewline.2⟩
  have hscan := scan?_of_name h.type isGap_space h.name hother htail
  refine unshaped_of_imp h.unshaped hscan ?_ ?_
  · intro mark hmark hoccurs
    obtain ⟨hne, hblank, -⟩ := Relationship.marker_facts hmark
    have hword : Quiet ['F', 'K'] := forall_mem_of_all (by decide)
    rw [line_marked h.trimmed] at hoccurs
    rw [line_eq]
    rcases (infix_gap hne hblank isGap_space).mp hoccurs with hlead | hright
    · exact List.infix_append_of_infix_left hlead
    · exact List.infix_append_of_infix_right (Relationship.infix_of_quiet_append hmark hword
        (head?_descriptionText p.description) hright)
  · intro hlabel
    have hsegment : Quiet [' ', 'F', 'K'] := forall_mem_of_all (by decide)
    rw [line_marked h.trimmed] at hlabel
    rw [line_eq]
    refine Relationship.hasQuotedLabel_replace (List.cons_ne_nil _ _) hsegment
      (List.forall_mem_nil _) ?_ _ _ hlabel
    intro hblank
    exact absurd (hblank 'F' (by simp)) (by decide)

/-- A line of words with a description without meaning does not look like a relationship. -/
theorem plain {type name constraints description : List Char} (htype : IsWord type)
    (hname : IsWord name) (hother : ∃ c ∈ name, isSymbol c = false)
    (hconstraints : IsWord constraints) (hdescription : Quiet description) :
    Written ⟨type, name, constraints, some description⟩ := by
  have hquote : '\x22' ∉ description := fun hmem => absurd (hdescription _ hmem) (by decide)
  have htrim : Trimmed constraints :=
    ⟨fun c hc => isBlank_of_isWordChar (hconstraints.chars c (List.mem_of_head? hc)),
      fun c hc => isBlank_of_isWordChar (hconstraints.chars c (List.mem_of_getLast? hc))⟩
  have hunquoted := hconstraints.not_mem (c := '\x22') (by decide)
  have htail :=
    @tail_tailText constraints (some description) htrim hunquoted (by simpa using hquote)
  have hchars : ∀ c ∈ line ⟨type, name, constraints, some description⟩,
      isDelimiter c = false ∨ c = '\x22' := by
    intro c hc
    rw [line, tailText_some hconstraints.ne_nil] at hc
    simp only [quoted, List.mem_append, List.mem_cons, List.not_mem_nil, or_false] at hc
    rcases hc with hc | rfl | hc | rfl | hc | rfl | (rfl | hc) | rfl
    · exact Or.inl (Relationship.quiet_of_isWord htype c hc)
    · exact Or.inl (by decide)
    · exact Or.inl (Relationship.quiet_of_isWord hname c hc)
    · exact Or.inl (by decide)
    · exact Or.inl (Relationship.quiet_of_isWord hconstraints c hc)
    · exact Or.inl (by decide)
    · exact Or.inr rfl
    · exact Or.inl (hdescription c hc)
    · exact Or.inr rfl
  have hmark : ∀ c, isDelimiter c = true → c ≠ '\x22' →
      c ∉ line ⟨type, name, constraints, some description⟩ := by
    intro c hc hne hmem
    rcases hchars c hmem with hquiet | rfl
    · rw [hc] at hquiet
      cases hquiet
    · exact hne rfl
  exact ⟨TypeToken.word htype, hname, htrim, hunquoted, by simpa using hquote,
    hmark '\n' (by decide) (by decide),
    Relationship.unshaped_of_not_mem
      (scan?_of_name (TypeToken.word htype) isGap_space hname hother htail.head)
      (hmark '\x7b' (by decide) (by decide)) (hmark '|' (by decide) (by decide))
      (hmark ':' (by decide) (by decide))⟩

end Parts.Written

def parts (a : Attribute) : Parts :=
  ⟨a.typeToken.toList, a.name.toList, a.constraints.toList, a.description.map String.toList⟩

def line (a : Attribute) : String := lineText a.typeToken a.name a.constraints a.description

structure Written (a : Attribute) : Prop where
  parts : a.parts.Written
  ofParts_parts : ofParts a.parts = a

@[simp]
theorem parts_ofParts (p : Parts) : (ofParts p).parts = p := by
  cases p
  simp [parts, ofParts, Function.comp_def]

theorem written_ofParts {p : Parts} (h : p.Written) : (ofParts p).Written :=
  ⟨by rwa [parts_ofParts], by rw [parts_ofParts]⟩

theorem line_eq (a : Attribute) : a.line = String.ofList a.parts.line := by
  apply String.toList_inj.mp
  rw [String.toList_ofList, Parts.line]
  by_cases hne : a.constraints = ""
  · cases hdescription : a.description <;>
      simp [line, lineText, parts, tailText, constraintsText, descriptionText, quoted, hne,
        hdescription]
  · cases hdescription : a.description <;>
      simp [line, lineText, parts, tailText, constraintsText, descriptionText, quoted, hne,
        hdescription]

/-- The written line of an attribute is read as the attribute. -/
theorem ofLine?_line {a : Attribute} (h : a.Written) : ofLine? a.line = some a := by
  rw [ofLine?, line_eq, h.parts.unshaped, String.toList_ofList, scan?_of_splits h.parts.splits]
  simp [h.ofParts_parts]

theorem isContent_line {a : Attribute} (h : a.parts.Printable) : IsContent a.line.toList where
  head := by
    obtain ⟨c, hc, hword⟩ := h.type.head
    exact ⟨c, by simp [line_eq, Parts.line, Option.mem_def.mp hc], hword⟩
  space := by simp [line_eq, Parts.line]
  last := by
    rw [line_eq, String.toList_ofList]
    exact getLast?_line h
  newline := by
    rw [line_eq, String.toList_ofList]
    exact h.newline

/-- The line of an attribute opens no block. -/
theorem headerName?_line {a : Attribute} (h : a.parts.Printable) : headerName? a.line = none := by
  have hhead : ∀ c ∈ (a.parts.name ++ tailText a.parts.constraints a.parts.description).head?,
      isWordChar c = true := by
    intro c hc
    rw [List.head?_append_of_ne_nil _ h.name_ne_nil] at hc
    obtain ⟨d, hd, hword⟩ := h.head
    obtain rfl : c = d := Option.mem_unique hc hd
    exact hword
  rw [headerName?, line_eq, String.toList_ofList, Parts.line,
    headerChars?_of_type h.type isGap_space hhead]
  rfl

/-- Every attribute that is read from a trimmed line is what its written line says. -/
theorem written_of_ofLine? {line : String} {a : Attribute} (h : ofLine? line = some a)
    (hlast : ∀ c ∈ line.toList.getLast?, isBlank c = false) (hnewline : '\n' ∉ line.toList) :
    a.Written := by
  unfold ofLine? at h
  split at h
  · cases h
  · next hshaped =>
    obtain ⟨p, hscan, rfl⟩ := Option.map_eq_some_iff.mp h
    obtain ⟨gap, tail, hsplit⟩ := splits_of_scan? hlast hscan
    apply written_ofParts
    apply written_of_splits hsplit hnewline
    rw [String.ofList_toList]
    simpa using hshaped

end EntityDiagram.Attribute
