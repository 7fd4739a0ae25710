import EntityDiagram.Attribute
import EntityDiagram.Proofs.Relationship.Grammar

/-!
The grammar of attribute lines. A line without blanks at its end is read as an attribute exactly
when it splits into a type, a name, and a tail of constraints and a quoted description, each after
a gap. Reading finds this split, however wide the gaps are.
-/
namespace EntityDiagram.Attribute

open Text

inductive TypeToken : List Char → Prop
  | word {cs : List Char} (h : IsWord cs) : TypeToken cs
  | call {keyword argument : List Char}
      (hkeyword : keyword = "choice".toList ∨ keyword = "lookup".toList)
      (hne : argument ≠ []) (h : ')' ∉ argument) : TypeToken (keyword ++ '(' :: argument ++ [')'])

def quoted (text : List Char) : List Char := '\x22' :: text ++ ['\x22']

/-- What follows the name of a column, with the constraints and the description it stands for. -/
inductive Tail : List Char → List Char → Option (List Char) → Prop
  | bare : Tail [] [] none
  | constrained {gap text : List Char} (hgap : IsGap gap) (hne : text ≠ []) (htrim : Trimmed text)
      (h : '\x22' ∉ text) : Tail (gap ++ text) text none
  | described {gap text : List Char} (hgap : IsGap gap) (h : '\x22' ∉ text) :
      Tail (gap ++ quoted text) [] (some text)
  | full {gap text gap' description : List Char} (hgap : IsGap gap) (hne : text ≠ [])
      (htrim : Trimmed text) (h : '\x22' ∉ text) (hgap' : IsGap gap') (h' : '\x22' ∉ description) :
      Tail (gap ++ (text ++ (gap' ++ quoted description))) text (some description)

structure Splits (line : List Char) (p : Parts) (gap tail : List Char) : Prop where
  line_eq : line = p.type ++ (gap ++ (p.name ++ tail))
  type : TypeToken p.type
  gap : IsGap gap
  name : IsWord p.name
  tail : Tail tail p.constraints p.description

theorem keyword_isWord {keyword : List Char}
    (h : keyword = "choice".toList ∨ keyword = "lookup".toList) : IsWord keyword := by
  rcases h with rfl | rfl
  · exact ⟨by decide, forall_mem_of_all (by decide)⟩
  · exact ⟨by decide, forall_mem_of_all (by decide)⟩

theorem scanType?_append {type : List Char} (h : TypeToken type) (rest : List Char)
    (hrest : ∀ c ∈ rest.head?, isBlank c = true) :
    scanType? (type ++ rest) = some (type, rest) := by
  cases h with
  | word h =>
    have hrun := run?_append h.ne_nil h.chars rest
      fun c hc => isWordChar_of_isBlank (hrest c hc)
    unfold scanType?
    simp only [hrun, bind, Option.bind_some]
    split
    · next inner =>
      exact absurd (hrest '(' rfl) (by decide)
    · rfl
  | @call keyword argument hkeyword hne harg =>
    have heq : keyword ++ '(' :: argument ++ [')'] ++ rest =
        keyword ++ '(' :: (argument ++ ')' :: rest) := by simp
    have hword := keyword_isWord hkeyword
    have hrun := run?_append hword.ne_nil hword.chars ('(' :: (argument ++ ')' :: rest))
      fun c hc => by
        obtain rfl : '(' = c := by simpa using hc
        decide
    have hargument := run?_append (p := (· ≠ ')')) hne
      (fun c hc => decide_eq_true fun heq => harg (heq ▸ hc)) (')' :: rest)
      fun c hc => by
        obtain rfl : ')' = c := by simpa using hc
        decide
    have hcond : (keyword = "choice".toList || keyword = "lookup".toList) = true := by
      rw [Bool.or_eq_true, decide_eq_true_eq, decide_eq_true_eq]
      exact hkeyword
    unfold scanType?
    rw [heq, hrun]
    simp only [bind, Option.bind_some, hargument, hcond, if_true]

theorem typeToken_of_scanType? {line type rest : List Char}
    (h : scanType? line = some (type, rest)) : line = type ++ rest ∧ TypeToken type := by
  obtain ⟨⟨word, after⟩, hrun, h⟩ := Option.bind_eq_some_iff.mp h
  obtain ⟨hne, hall, -, hline⟩ := run?_eq_some_iff.mp hrun
  dsimp only at h
  split at h
  · next inner =>
    split at h
    · next hkeyword =>
      split at h
      · next argument rest' harg =>
        obtain ⟨hargNe, hargAll, -, hinner⟩ := run?_eq_some_iff.mp harg
        obtain ⟨rfl, rfl⟩ := Prod.mk.inj (Option.some.inj h)
        rw [Bool.or_eq_true, decide_eq_true_eq, decide_eq_true_eq] at hkeyword
        have hclosing : ')' ∉ argument := fun hmem => by simpa using hargAll _ hmem
        exact ⟨by simp [hline, hinner], TypeToken.call hkeyword hargNe hclosing⟩
      · cases h
    · cases h
  · obtain ⟨rfl, rfl⟩ := Prod.mk.inj (Option.some.inj h)
    exact ⟨hline, TypeToken.word ⟨hne, hall⟩⟩

theorem takeWhile_quote {before : List Char} (h : '\x22' ∉ before) (rest : List Char) :
    (before ++ '\x22' :: rest).takeWhile (· ≠ '\x22') = before :=
  takeWhile_append_of_head (fun c hc => decide_eq_true fun heq => h (heq ▸ hc))
    fun c hc => by
      obtain rfl : '\x22' = c := by simpa using hc
      decide

theorem dropWhile_quote {before : List Char} (h : '\x22' ∉ before) (rest : List Char) :
    (before ++ '\x22' :: rest).dropWhile (· ≠ '\x22') = '\x22' :: rest :=
  dropWhile_append_of_head (fun c hc => decide_eq_true fun heq => h (heq ▸ hc))
    fun c hc => by
      obtain rfl : '\x22' = c := by simpa using hc
      decide

/-- A quoted description after text that begins and ends with a blank. -/
theorem scanTail?_quoted {before text : List Char} (h : '\x22' ∉ before) (h' : '\x22' ∉ text)
    (hstart : startsBlank before = true) (hend : endsBlank before = true) :
    scanTail? (before ++ quoted text) = some (trimChars before, some text) := by
  unfold scanTail? quoted
  simp only [List.cons_append, takeWhile_quote h, dropWhile_quote h, takeWhile_quote h',
    dropWhile_quote h', hstart, hend, atEnd, Bool.and_self, if_true]

/-- Constraints alone: there is no quote. -/
theorem scanTail?_of_not_mem {cs : List Char} (h : '\x22' ∉ cs) :
    scanTail? cs =
      if atEnd cs || (startsBlank cs && 2 ≤ cs.length) then some (trimChars cs, none)
      else none := by
  have hdrop : cs.dropWhile (· ≠ '\x22') = [] :=
    dropWhile_of_forall fun c hc => decide_eq_true fun heq => h (heq ▸ hc)
  simp only [scanTail?, hdrop]

theorem quote_not_mem_gap {gap : List Char} (h : IsGap gap) : '\x22' ∉ gap :=
  fun hmem => absurd (h.chars _ hmem) (by decide)

theorem startsBlank_gap {gap : List Char} (h : IsGap gap) (rest : List Char) :
    startsBlank (gap ++ rest) = true := by
  cases gap with
  | nil => exact absurd rfl h.ne_nil
  | cons c more => simp [startsBlank, h.chars c]

theorem endsBlank_gap {gap : List Char} (h : IsGap gap) (before : List Char) :
    endsBlank (before ++ gap) = true := by
  unfold endsBlank
  rw [List.getLast?_append_of_ne_nil _ h.ne_nil]
  cases hlast : gap.getLast? with
  | none => exact absurd (List.getLast?_eq_none_iff.mp hlast) h.ne_nil
  | some c => simp [h.chars c (List.mem_of_getLast? hlast)]

theorem scanTail?_of_tail {cs constraints : List Char} {description : Option (List Char)}
    (h : Tail cs constraints description) : scanTail? cs = some (constraints, description) := by
  cases h with
  | bare => rfl
  | @constrained gap _ hgap hne htrim h =>
    have hquote : '\x22' ∉ gap ++ constraints := by simp [quote_not_mem_gap hgap, h]
    have hlength : 2 ≤ (gap ++ constraints).length := by
      have hpos := List.length_pos_iff.mpr hgap.ne_nil
      have hpos' := List.length_pos_iff.mpr hne
      simp only [List.length_append]
      omega
    have htext := trimChars_blanks hgap.chars htrim
    rw [scanTail?_of_not_mem hquote]
    simp only [startsBlank_gap hgap, hlength, htext, decide_true, Bool.and_self, Bool.or_true,
      if_true]
  | @described gap text hgap h =>
    have hstart := startsBlank_gap hgap []
    rw [List.append_nil] at hstart
    have hblank : trimChars gap = [] := by
      simpa using trimChars_blanks hgap.chars trimmed_nil
    rw [scanTail?_quoted (quote_not_mem_gap hgap) h hstart (endsBlank_gap hgap []), hblank]
  | @full gap _ gap' text hgap hne htrim h hgap' h' =>
    have hquote : '\x22' ∉ gap ++ (constraints ++ gap') := by
      simp [quote_not_mem_gap hgap, quote_not_mem_gap hgap', h]
    have hend := endsBlank_gap hgap' (gap ++ constraints)
    rw [List.append_assoc] at hend
    have heq : gap ++ (constraints ++ (gap' ++ quoted text)) =
        gap ++ (constraints ++ gap') ++ quoted text := by simp only [List.append_assoc]
    have htext := trimChars_append hgap.chars htrim hgap'.chars
    rw [List.append_assoc] at htext
    rw [heq, scanTail?_quoted hquote h' (startsBlank_gap hgap _) hend, htext]

theorem isGap_of_startsBlank {cs : List Char} (h : startsBlank cs = true)
    (hall : ∀ c ∈ cs, isBlank c = true) : IsGap cs := by
  refine ⟨?_, hall⟩
  rintro rfl
  simp [startsBlank] at h

/-- Text that begins with a blank is a gap, or a gap with text after it. -/
theorem gap_cases_of_startsBlank {cs : List Char} (h : startsBlank cs = true) :
    (trimChars cs = [] ∧ IsGap cs) ∨
      ∃ gap post, IsGap gap ∧ (∀ c ∈ post, isBlank c = true) ∧ trimChars cs ≠ [] ∧
        cs = gap ++ (trimChars cs ++ post) := by
  obtain ⟨pre, post, hpre, hpost, heq⟩ := exists_trimChars cs
  rw [List.append_assoc] at heq
  by_cases htrim : trimChars cs = []
  · refine Or.inl ⟨htrim, isGap_of_startsBlank h ?_⟩
    intro c hc
    rw [heq, htrim, List.nil_append, List.mem_append] at hc
    exact hc.elim (hpre c) (hpost c)
  · refine Or.inr ⟨pre, post, ⟨?_, hpre⟩, hpost, htrim, heq⟩
    rintro rfl
    -- the first character would be one of the trimmed text
    obtain ⟨c, rest, hcs⟩ := List.exists_cons_of_ne_nil htrim
    have hhead := (trimmed_trimChars cs).head c (by simp [hcs])
    rw [heq, hcs] at h
    simp [startsBlank, hhead] at h

/-- Constraints alone, or nothing. -/
theorem tail_of_not_mem {cs : List Char} (hlast : ∀ c ∈ cs.getLast?, isBlank c = false)
    (hquote : '\x22' ∉ cs) (h : atEnd cs = true ∨ startsBlank cs = true) :
    Tail cs (trimChars cs) none := by
  rcases h with hend | hstart
  · obtain rfl := eq_nil_of_atEnd hend hlast
    exact Tail.bare
  rcases gap_cases_of_startsBlank hstart with ⟨-, hgap⟩ | ⟨gap, post, hgap, hpost, hne, heq⟩
  · obtain ⟨c, hc, hblank⟩ := isBlank_getLast_of_forall hgap.ne_nil hgap.chars
    rw [hlast c hc] at hblank
    cases hblank
  · have hnil : post = [] := by
      by_contra hpostNe
      obtain ⟨c, hc, hblank⟩ := isBlank_getLast_of_forall hpostNe hpost
      rw [heq, ← List.append_assoc, List.getLast?_append_of_ne_nil _ hpostNe] at hlast
      rw [hlast c hc] at hblank
      cases hblank
    rw [hnil, List.append_nil] at heq
    have htail := Tail.constrained hgap hne (trimmed_trimChars cs)
      fun hmem => hquote (mem_of_mem_trimChars hmem)
    rwa [← heq] at htail

/-- A description after text that begins and ends with a blank. -/
theorem tail_of_quoted {before text : List Char} (hquote : '\x22' ∉ before)
    (htext : '\x22' ∉ text) (hstart : startsBlank before = true) (hend : endsBlank before = true) :
    Tail (before ++ quoted text) (trimChars before) (some text) := by
  rcases gap_cases_of_startsBlank hstart with ⟨htrim, hgap⟩ | ⟨gap, post, hgap, hpost, hne, heq⟩
  · rw [htrim]
    exact Tail.described hgap htext
  · have hpostNe : post ≠ [] := by
      rintro rfl
      -- the last character would be one of the trimmed text
      rw [List.append_nil] at heq
      rw [heq, endsBlank, List.getLast?_append_of_ne_nil _ hne] at hend
      cases hlast : (trimChars before).getLast? with
      | none => exact hne (List.getLast?_eq_none_iff.mp hlast)
      | some c =>
        rw [hlast, Option.any_some, (trimmed_trimChars before).last c hlast] at hend
        cases hend
    have htail := Tail.full hgap hne (trimmed_trimChars before)
      (fun hmem => hquote (mem_of_mem_trimChars hmem)) ⟨hpostNe, hpost⟩ htext
    have hline : before ++ quoted text =
        gap ++ (trimChars before ++ (post ++ quoted text)) := by
      calc
        before ++ quoted text = gap ++ (trimChars before ++ post) ++ quoted text := by rw [← heq]
        _ = _ := by simp only [List.append_assoc]
    rwa [← hline] at htail

/-- A tail that reading accepts has one of the four forms. -/
theorem tail_of_scanTail? {cs constraints : List Char} {description : Option (List Char)}
    (hlast : ∀ c ∈ cs.getLast?, isBlank c = false)
    (h : scanTail? cs = some (constraints, description)) : Tail cs constraints description := by
  by_cases hquote : '\x22' ∈ cs
  · obtain ⟨before, rest, rfl, hbefore⟩ := List.eq_append_cons_of_mem hquote
    unfold scanTail? at h
    simp only [takeWhile_quote hbefore, dropWhile_quote hbefore] at h
    by_cases hrest : '\x22' ∈ rest
    · obtain ⟨text, after, rfl, htext⟩ := List.eq_append_cons_of_mem hrest
      simp only [takeWhile_quote htext, dropWhile_quote htext] at h
      split at h
      · next hcond =>
        obtain ⟨rfl, rfl⟩ := Prod.mk.inj (Option.some.inj h)
        simp only [Bool.and_eq_true] at hcond
        obtain ⟨⟨hstart, hend⟩, hafter⟩ := hcond
        have hnil : after = [] := eq_nil_of_atEnd hafter fun c hc => hlast c (by
          simp [List.getLast?_append, List.getLast?_cons, Option.mem_def.mp hc])
        rw [hnil]
        exact tail_of_quoted hbefore htext hstart hend
      · cases h
    · have hnone : rest.dropWhile (· ≠ '\x22') = [] :=
        dropWhile_of_forall fun c hc => decide_eq_true fun heq => hrest (heq ▸ hc)
      rw [hnone] at h
      cases h
  · rw [scanTail?_of_not_mem hquote] at h
    split at h
    · next hcond =>
      obtain ⟨rfl, rfl⟩ := Prod.mk.inj (Option.some.inj h)
      simp only [Bool.or_eq_true, Bool.and_eq_true] at hcond
      exact tail_of_not_mem hlast hquote (hcond.imp_right And.left)
    · cases h

theorem Tail.head {cs constraints : List Char} {description : Option (List Char)}
    (h : Tail cs constraints description) : ∀ c ∈ cs.head?, isBlank c = true := by
  intro c hc
  cases h with
  | bare => cases hc
  | constrained hgap _ _ _ => exact hgap.chars c (head?_append_mem hgap.ne_nil hc)
  | described hgap _ => exact hgap.chars c (head?_append_mem hgap.ne_nil hc)
  | full hgap _ _ _ _ _ => exact hgap.chars c (head?_append_mem hgap.ne_nil hc)

theorem scan?_of_splits {line gap tail : List Char} {p : Parts} (h : Splits line p gap tail) :
    scan? line = some p := by
  have htype := scanType?_append h.type (gap ++ (p.name ++ tail))
    fun c hc => h.gap.chars c (head?_append_mem h.gap.ne_nil hc)
  have hgap := run?_append h.gap.ne_nil h.gap.chars (p.name ++ tail)
    fun c hc => isBlank_of_isWordChar (h.name.chars c (head?_append_mem h.name.ne_nil hc))
  have hname := run?_append h.name.ne_nil h.name.chars tail
    fun c hc => isWordChar_of_isBlank (h.tail.head c hc)
  simp only [scan?, h.line_eq, htype, hgap, hname, scanTail?_of_tail h.tail, bind,
    Option.bind_some, pure]

theorem splits_of_scan? {line : List Char} {p : Parts}
    (hlast : ∀ c ∈ line.getLast?, isBlank c = false) (h : scan? line = some p) :
    ∃ gap tail, Splits line p gap tail := by
  obtain ⟨⟨type, rest₁⟩, htype, h⟩ := Option.bind_eq_some_iff.mp h
  obtain ⟨⟨gap, rest₂⟩, hgap, h⟩ := Option.bind_eq_some_iff.mp h
  obtain ⟨⟨name, tail⟩, hname, h⟩ := Option.bind_eq_some_iff.mp h
  obtain ⟨⟨constraints, description⟩, htail, h⟩ := Option.bind_eq_some_iff.mp h
  obtain rfl := Option.some.inj h
  obtain ⟨hline, htoken⟩ := typeToken_of_scanType? htype
  obtain ⟨hgapNe, hgapAll, -, hrest₁⟩ := run?_eq_some_iff.mp hgap
  obtain ⟨hnameNe, hnameAll, -, hrest₂⟩ := run?_eq_some_iff.mp hname
  have heq : line = type ++ (gap ++ (name ++ tail)) := by rw [hline, hrest₁, hrest₂]
  refine ⟨gap, tail, ⟨heq, htoken, ⟨hgapNe, hgapAll⟩, ⟨hnameNe, hnameAll⟩, ?_⟩⟩
  apply tail_of_scanTail? _ htail
  intro c hc
  apply hlast
  have hne : tail ≠ [] := by
    rintro rfl
    cases hc
  rw [heq, ← List.append_assoc, ← List.append_assoc, List.getLast?_append_of_ne_nil _ hne]
  exact hc

end EntityDiagram.Attribute
