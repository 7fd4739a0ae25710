import EntityDiagram.Proofs.Text.Classes
import EntityDiagram.Text.Scan
import Mathlib.Data.List.DropRight

/-!
Pieces of character lists. A maximal run at the start is a decomposition `cs = run ++ rest` whose
rest does not go on with the run. Lines without newlines are recovered from their joined text.
Trimming removes exactly the blanks at the ends, and a pattern that occurs across a separator
which it does not hold occurs on one side of it.
-/
namespace EntityDiagram.Text

structure IsGap (cs : List Char) : Prop where
  ne_nil : cs ≠ []
  chars : ∀ c ∈ cs, isBlank c = true

structure Trimmed (cs : List Char) : Prop where
  head : ∀ c ∈ cs.head?, isBlank c = false
  last : ∀ c ∈ cs.getLast?, isBlank c = false

@[simp]
theorem toString_text (text : String) : toString text = text := rfl

theorem head?_append_mem {xs ys : List Char} (hne : xs ≠ []) {c : Char}
    (h : c ∈ (xs ++ ys).head?) : c ∈ xs := by
  cases xs with
  | nil => exact absurd rfl hne
  | cons d rest =>
    obtain rfl : d = c := by simpa using h
    exact List.mem_cons_self

theorem isGap_space : IsGap [' '] := ⟨by simp, forall_mem_of_all (by decide)⟩

theorem trimmed_nil : Trimmed [] := ⟨by simp, by simp⟩

theorem dropWhile_of_head {p : Char → Bool} {cs : List Char}
    (h : ∀ c ∈ cs.head?, p c = false) : cs.dropWhile p = cs := by
  cases cs with
  | nil => rfl
  | cons c rest => simp [h c rfl]

theorem takeWhile_of_head {p : Char → Bool} {cs : List Char}
    (h : ∀ c ∈ cs.head?, p c = false) : cs.takeWhile p = [] := by
  cases cs with
  | nil => rfl
  | cons c rest => simp [h c rfl]

theorem dropWhile_append_of_head {p : Char → Bool} {xs rest : List Char}
    (hall : ∀ c ∈ xs, p c = true) (hrest : ∀ c ∈ rest.head?, p c = false) :
    (xs ++ rest).dropWhile p = rest := by
  rw [List.dropWhile_append_of_pos hall, dropWhile_of_head hrest]

theorem takeWhile_append_of_head {p : Char → Bool} {xs rest : List Char}
    (hall : ∀ c ∈ xs, p c = true) (hrest : ∀ c ∈ rest.head?, p c = false) :
    (xs ++ rest).takeWhile p = xs := by
  rw [List.takeWhile_append_of_pos hall, takeWhile_of_head hrest, List.append_nil]

/-- Where a run ends is fixed: two splits of a text into a run and what ends it are the same. -/
theorem append_inj_of_head {p : Char → Bool} {xs xs' rest rest' : List Char}
    (hall : ∀ c ∈ xs, p c = true) (hall' : ∀ c ∈ xs', p c = true)
    (hrest : ∀ c ∈ rest.head?, p c = false) (hrest' : ∀ c ∈ rest'.head?, p c = false)
    (h : xs ++ rest = xs' ++ rest') : xs = xs' ∧ rest = rest' := by
  constructor
  · rw [← takeWhile_append_of_head hall hrest, h, takeWhile_append_of_head hall' hrest']
  · rw [← dropWhile_append_of_head hall hrest, h, dropWhile_append_of_head hall' hrest']

theorem head?_dropWhile_false {p : Char → Bool} {cs : List Char} :
    ∀ c ∈ (cs.dropWhile p).head?, p c = false := by
  intro c hc
  have hhead := List.head?_dropWhile_not p cs
  rwa [hc] at hhead

/-- The run at the start and the rest make up the characters, and the rest ends the run. -/
theorem run?_eq_some_iff {p : Char → Bool} {cs run rest : List Char} :
    run? p cs = some (run, rest) ↔
      run ≠ [] ∧ (∀ c ∈ run, p c = true) ∧ (∀ c ∈ rest.head?, p c = false) ∧ cs = run ++ rest := by
  constructor
  · intro h
    unfold run? at h
    split at h
    · cases h
    · next c more htake =>
      obtain ⟨rfl, rfl⟩ := Prod.mk.inj (Option.some.inj h)
      refine ⟨by simp, ?_, head?_dropWhile_false, ?_⟩
      · intro d hd
        rw [← htake] at hd
        exact List.mem_takeWhile_imp hd
      · rw [← htake, List.takeWhile_append_dropWhile]
  · rintro ⟨hne, hall, hrest, rfl⟩
    unfold run?
    rw [takeWhile_append_of_head hall hrest, dropWhile_append_of_head hall hrest]
    cases run with
    | nil => exact absurd rfl hne
    | cons c more => rfl

/-- A run that stands at the start is the one found. -/
theorem run?_append {p : Char → Bool} {run : List Char} (hne : run ≠ [])
    (hall : ∀ c ∈ run, p c = true) (rest : List Char) (hrest : ∀ c ∈ rest.head?, p c = false) :
    run? p (run ++ rest) = some (run, rest) :=
  run?_eq_some_iff.mpr ⟨hne, hall, hrest, rfl⟩

theorem run?_of_head {p : Char → Bool} {cs : List Char} (h : ∀ c ∈ cs.head?, p c = false) :
    run? p cs = none := by
  unfold run?
  rw [takeWhile_of_head h]

theorem splitChars_ne_nil (separator : Char) (cs : List Char) : splitChars separator cs ≠ [] := by
  cases cs with
  | nil => simp [splitChars]
  | cons c rest =>
    rw [splitChars]
    split
    · simp
    · split <;> simp

theorem splitChars_of_not_mem {separator : Char} {cs : List Char} (h : separator ∉ cs) :
    splitChars separator cs = [cs] := by
  induction cs with
  | nil => rfl
  | cons c rest ih =>
    have hc : c ≠ separator := fun heq => h (heq ▸ List.mem_cons_self)
    have hrest : separator ∉ rest := fun hmem => h (List.mem_cons_of_mem _ hmem)
    simp [splitChars, hc, ih hrest]

/-- Pieces on both sides of a separator are found apart. -/
theorem splitChars_append_cons (separator : Char) (xs ys : List Char) :
    splitChars separator (xs ++ separator :: ys) =
      splitChars separator xs ++ splitChars separator ys := by
  induction xs with
  | nil => simp [splitChars]
  | cons c rest ih =>
    rw [List.cons_append, splitChars, splitChars]
    by_cases hc : c = separator
    · simp [hc, ih]
    · simp only [hc, if_false, ih]
      cases hsplit : splitChars separator rest with
      | nil => exact absurd hsplit (splitChars_ne_nil separator rest)
      | cons piece pieces => rfl

/-- One more character that is no separator makes the last piece longer. -/
theorem splitChars_concat {separator c : Char} (hc : c ≠ separator) (cs : List Char) :
    ∃ pieces last, splitChars separator cs = pieces ++ [last] ∧
      splitChars separator (cs ++ [c]) = pieces ++ [last ++ [c]] := by
  induction cs with
  | nil => exact ⟨[], [], rfl, by simp [splitChars, hc]⟩
  | cons d rest ih =>
    obtain ⟨pieces, last, hsplit, hlonger⟩ := ih
    by_cases hd : d = separator
    · exact ⟨[] :: pieces, last, by simp [splitChars, hd, hsplit],
        by simp [splitChars, hd, hlonger]⟩
    · cases pieces with
      | nil =>
        exact ⟨[], d :: last, by simp [splitChars, hd, hsplit],
          by simp [splitChars, hd, hlonger]⟩
      | cons piece pieces =>
        exact ⟨(d :: piece) :: pieces, last, by simp [splitChars, hd, hsplit],
          by simp [splitChars, hd, hlonger]⟩

theorem mem_of_mem_splitChars {separator : Char} {cs piece : List Char}
    (h : piece ∈ splitChars separator cs) : ∀ c ∈ piece, c ∈ cs ∧ c ≠ separator := by
  induction cs generalizing piece with
  | nil =>
    obtain rfl : piece = [] := by simpa [splitChars] using h
    simp
  | cons d rest ih =>
    by_cases hd : d = separator
    · rw [splitChars, if_pos hd, List.mem_cons] at h
      rcases h with rfl | h
      · simp
      · exact fun c hc => ⟨List.mem_cons_of_mem _ (ih h c hc).1, (ih h c hc).2⟩
    · cases hsplit : splitChars separator rest with
      | nil => exact absurd hsplit (splitChars_ne_nil separator rest)
      | cons first others =>
        rw [hsplit] at ih
        simp only [splitChars, hd, if_false, hsplit, List.mem_cons] at h
        intro c hc
        rcases h with rfl | h
        · rcases List.mem_cons.mp hc with rfl | hc
          · exact ⟨List.mem_cons_self, hd⟩
          · have hfirst := ih List.mem_cons_self c hc
            exact ⟨List.mem_cons_of_mem _ hfirst.1, hfirst.2⟩
        · have hother := ih (List.mem_cons_of_mem _ h) c hc
          exact ⟨List.mem_cons_of_mem _ hother.1, hother.2⟩

/-- Lines without a separator are recovered from the joined text. -/
theorem splitChars_intercalate {separator : Char} {lines : List (List Char)} (hne : lines ≠ [])
    (h : ∀ line ∈ lines, separator ∉ line) :
    splitChars separator ([separator].intercalate lines) = lines := by
  induction lines with
  | nil => exact absurd rfl hne
  | cons line rest ih =>
    have hline := splitChars_of_not_mem (h line List.mem_cons_self)
    cases rest with
    | nil => simpa using hline
    | cons next others =>
      have hrest := ih (by simp) fun l hl => h l (List.mem_cons_of_mem _ hl)
      have hjoin : [separator].intercalate (line :: next :: others) =
          line ++ separator :: [separator].intercalate (next :: others) := by
        simp [List.intercalate, List.intersperse]
      rw [hjoin, splitChars_append_cons, hline, hrest]
      rfl

theorem dropWhile_of_forall {p : Char → Bool} {cs : List Char} (h : ∀ c ∈ cs, p c = true) :
    cs.dropWhile p = [] :=
  List.dropWhile_eq_nil_iff.mpr h

theorem trimEndChars_append {cs blanks : List Char} (hlast : ∀ c ∈ cs.getLast?, isBlank c = false)
    (h : ∀ c ∈ blanks, isBlank c = true) : trimEndChars (cs ++ blanks) = cs := by
  unfold trimEndChars
  rw [List.reverse_append, dropWhile_append_of_head, List.reverse_reverse]
  · intro c hc
    exact h c (List.mem_reverse.mp hc)
  · rwa [List.head?_reverse]

/-- Blanks around a text without blanks at its ends are what trimming removes. -/
theorem trimChars_append {pre cs post : List Char} (hpre : ∀ c ∈ pre, isBlank c = true)
    (hcs : Trimmed cs) (hpost : ∀ c ∈ post, isBlank c = true) :
    trimChars (pre ++ cs ++ post) = cs := by
  unfold trimChars
  cases cs with
  | nil =>
    have hall : ∀ c ∈ pre ++ [] ++ post, isBlank c = true := by
      intro c hc
      rw [List.append_nil, List.mem_append] at hc
      exact hc.elim (hpre c) (hpost c)
    rw [dropWhile_of_forall hall]
    rfl
  | cons c rest =>
    rw [List.append_assoc, dropWhile_append_of_head hpre (by simpa using hcs.head)]
    exact trimEndChars_append hcs.last hpost

theorem trimChars_blanks {pre cs : List Char} (hpre : ∀ c ∈ pre, isBlank c = true)
    (hcs : Trimmed cs) : trimChars (pre ++ cs) = cs := by
  have htrim := trimChars_append hpre hcs (List.forall_mem_nil _)
  rwa [List.append_nil] at htrim

theorem trimChars_of_trimmed {cs : List Char} (h : Trimmed cs) : trimChars cs = cs :=
  trimChars_blanks (List.forall_mem_nil _) h

theorem trimmed_trimChars (cs : List Char) : Trimmed (trimChars cs) where
  head c hc := by
    have hprefix : trimChars cs <+: cs.dropWhile isBlank := List.rdropWhile_prefix _ _
    obtain ⟨post, hpost⟩ := hprefix
    cases htrim : trimChars cs with
    | nil => simp [htrim] at hc
    | cons d rest =>
      apply @head?_dropWhile_false isBlank cs
      rw [← hpost, htrim]
      simpa [htrim] using hc
  last c hc := by
    apply @head?_dropWhile_false isBlank (cs.dropWhile isBlank).reverse
    rwa [trimChars, trimEndChars, List.getLast?_reverse] at hc

theorem trimmed_of_trim_eq {line : String} (h : trim line = line) : Trimmed line.toList := by
  have htrim := trimmed_trimChars line.toList
  rwa [← String.toList_ofList (l := trimChars line.toList), ← trim, h] at htrim

/-- Trimming takes blanks away at both ends and nothing else. -/
theorem exists_trimChars (cs : List Char) :
    ∃ pre post, (∀ c ∈ pre, isBlank c = true) ∧ (∀ c ∈ post, isBlank c = true) ∧
      cs = pre ++ trimChars cs ++ post := by
  refine ⟨cs.takeWhile isBlank, (cs.dropWhile isBlank).rtakeWhile isBlank,
    fun c hc => List.mem_takeWhile_imp hc, fun c hc => List.mem_rtakeWhile_imp hc, ?_⟩
  calc
    cs = cs.takeWhile isBlank ++ cs.dropWhile isBlank := List.takeWhile_append_dropWhile.symm
    _ = cs.takeWhile isBlank ++ (trimChars cs ++ (cs.dropWhile isBlank).rtakeWhile isBlank) :=
      congrArg (cs.takeWhile isBlank ++ ·) List.rdropWhile_append_rtakeWhile.symm
    _ = _ := (List.append_assoc _ _ _).symm

/-- More blanks at the ends change nothing. -/
theorem trimChars_blanks_append {pre post : List Char} (hpre : ∀ c ∈ pre, isBlank c = true)
    (hpost : ∀ c ∈ post, isBlank c = true) (cs : List Char) :
    trimChars (pre ++ cs ++ post) = trimChars cs := by
  obtain ⟨left, right, hleft, hright, heq⟩ := exists_trimChars cs
  have hsplit : pre ++ cs ++ post = (pre ++ left) ++ trimChars cs ++ (right ++ post) := by
    calc
      pre ++ cs ++ post = pre ++ (left ++ trimChars cs ++ right) ++ post := by rw [← heq]
      _ = _ := by simp only [List.append_assoc]
  rw [hsplit]
  apply trimChars_append
  · intro c hc
    exact (List.mem_append.mp hc).elim (hpre c) (hleft c)
  · exact trimmed_trimChars cs
  · intro c hc
    exact (List.mem_append.mp hc).elim (hright c) (hpost c)

theorem mem_of_mem_trimChars {cs : List Char} {c : Char} (h : c ∈ trimChars cs) : c ∈ cs := by
  obtain ⟨pre, post, -, -, heq⟩ := exists_trimChars cs
  rw [heq]
  simp [h]

theorem isBlank_getLast_of_forall {cs : List Char} (hne : cs ≠ [])
    (h : ∀ c ∈ cs, isBlank c = true) : ∃ c ∈ cs.getLast?, isBlank c = true := by
  cases hlast : cs.getLast? with
  | none => exact absurd (List.getLast?_eq_none_iff.mp hlast) hne
  | some c => exact ⟨c, rfl, h c (List.mem_of_getLast? hlast)⟩

theorem dropWhile_ne_nil_of_last {cs : List Char} (hne : cs ≠ [])
    (h : ∀ c ∈ cs.getLast?, isBlank c = false) : cs.dropWhile isBlank ≠ [] := by
  intro hnil
  have hall := List.dropWhile_eq_nil_iff.mp hnil
  cases hlast : cs.getLast? with
  | none => exact hne (List.getLast?_eq_none_iff.mp hlast)
  | some c =>
    have hblank := hall c (List.mem_of_getLast? hlast)
    rw [h c hlast] at hblank
    cases hblank

theorem eq_nil_of_atEnd {cs : List Char} (h : atEnd cs = true)
    (hlast : ∀ c ∈ cs.getLast?, isBlank c = false) : cs = [] := by
  unfold atEnd at h
  split at h
  · rfl
  · exact absurd (hlast '\n' rfl) (by decide)
  · cases h

/-- A pattern is found exactly when it is a part of the characters. -/
theorem occursIn_iff {pattern cs : List Char} : occursIn pattern cs = true ↔ pattern <:+: cs := by
  induction cs with
  | nil => simp [occursIn]
  | cons c rest ih =>
    rw [occursIn, Bool.or_eq_true, ih, List.isPrefixOf_iff_prefix, List.infix_cons_iff]

/-- A part without a given character lies on one side of it. -/
theorem infix_append_cons {pattern xs ys : List Char} {c : Char} (hc : c ∉ pattern) :
    pattern <:+: xs ++ c :: ys ↔ pattern <:+: xs ∨ pattern <:+: ys := by
  constructor
  · intro h
    rcases List.infix_append_iff.mp h with hxs | hys | ⟨left, right, rfl, hleft, hright⟩
    · exact Or.inl hxs
    · rcases List.infix_cons_iff.mp hys with hprefix | hys
      · cases pattern with
        | nil => exact Or.inl (List.nil_infix)
        | cons d rest =>
          obtain ⟨rfl, -⟩ := List.cons_prefix_cons.mp hprefix
          exact absurd List.mem_cons_self hc
      · exact Or.inr hys
    · cases right with
      | nil => exact Or.inl (by simpa using hleft.isInfix)
      | cons d rest =>
        obtain ⟨rfl, -⟩ := List.cons_prefix_cons.mp hright
        exact absurd (by simp) hc
  · rintro (h | h)
    · exact List.infix_append_of_infix_left h
    · exact List.infix_append_of_infix_right (List.infix_cons h)

theorem infix_blanks_append {pattern blanks ys : List Char} (hne : pattern ≠ [])
    (hpattern : ∀ c ∈ pattern, isBlank c = false) (h : ∀ c ∈ blanks, isBlank c = true) :
    pattern <:+: blanks ++ ys ↔ pattern <:+: ys := by
  induction blanks with
  | nil => simp
  | cons c rest ih =>
    have hc : c ∉ pattern := by
      intro hmem
      have hblank := h c List.mem_cons_self
      rw [hpattern c hmem] at hblank
      cases hblank
    have hrest := ih fun d hd => h d (List.mem_cons_of_mem _ hd)
    simpa [hne, hrest] using @infix_append_cons pattern [] (rest ++ ys) c hc

/-- A pattern without blanks lies on one side of a gap. -/
theorem infix_gap {pattern xs gap ys : List Char} (hne : pattern ≠ [])
    (hpattern : ∀ c ∈ pattern, isBlank c = false) (hgap : IsGap gap) :
    pattern <:+: xs ++ (gap ++ ys) ↔ pattern <:+: xs ∨ pattern <:+: ys := by
  cases gap with
  | nil => exact absurd rfl hgap.ne_nil
  | cons c rest =>
    have hc : c ∉ pattern := by
      intro hmem
      have hblank := hgap.chars c List.mem_cons_self
      rw [hpattern c hmem] at hblank
      cases hblank
    have hrest : ∀ d ∈ rest, isBlank d = true :=
      fun d hd => hgap.chars d (List.mem_cons_of_mem _ hd)
    rw [List.cons_append, infix_append_cons hc,
      infix_blanks_append hne hpattern hrest]

end EntityDiagram.Text
