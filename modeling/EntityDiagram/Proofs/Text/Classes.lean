import EntityDiagram.Text.Blank
import EntityDiagram.Text.Case
import EntityDiagram.Text.WordChar
import Mathlib.Data.List.Basic

/-!
Classes of characters and the case mappings. The tables are compared interval by interval: blanks
are no word characters, and the lower case of a word character is again one, except for the dotted
capital I, whose lower case holds a combining mark. A character in lower case is its own lower
case, so a text in lower case stays as it is. The upper case of a character is never a delimiter of
the line grammars.
-/
namespace EntityDiagram.Text

def covers (lo hi : Nat) : List (Nat × Nat) → Bool
  | [] => false
  | (first, last) :: rest =>
    Nat.ble first lo && (Nat.ble hi last || (Nat.blt last lo && covers lo hi rest))

def avoids (lo hi : Nat) : List (Nat × Nat) → Bool
  | [] => true
  | (first, last) :: rest => Nat.blt hi first || (Nat.blt last lo && avoids lo hi rest)

/-- No number of the run from `lo` to `hi` has an image. Runs of every second number may overlap
when they hold numbers of different parity. -/
def isUnmapped (lo hi step : Nat) : List Run → Bool
  | [] => true
  | (first, last, step', _) :: rest =>
    Nat.blt hi first
      || ((Nat.blt last lo
          || ((Nat.beq lo hi || Nat.beq step 2) && Nat.beq step' 2 && Nat.beq ((lo + first) % 2) 1))
        && isUnmapped lo hi step rest)

theorem inRanges_of_covers {lo hi n : Nat} {ranges : List (Nat × Nat)}
    (h : covers lo hi ranges = true) (hlo : lo ≤ n) (hhi : n ≤ hi) : inRanges n ranges = true := by
  induction ranges with
  | nil => simp [covers] at h
  | cons range rest ih =>
    obtain ⟨first, last⟩ := range
    simp only [covers, Bool.and_eq_true, Bool.or_eq_true, Nat.ble_eq, Nat.blt_eq] at h
    obtain ⟨hfirst, hlast | ⟨hlast, hrest⟩⟩ := h
    · simp only [inRanges, show ¬ n < first by omega, show n ≤ last by omega, if_false, if_true]
    · simp only [inRanges, show ¬ n < first by omega, show ¬ n ≤ last by omega, if_false]
      exact ih hrest

theorem inRanges_of_avoids {lo hi n : Nat} {ranges : List (Nat × Nat)}
    (h : avoids lo hi ranges = true) (hlo : lo ≤ n) (hhi : n ≤ hi) : inRanges n ranges = false := by
  induction ranges with
  | nil => rfl
  | cons range rest ih =>
    obtain ⟨first, last⟩ := range
    simp only [avoids, Bool.and_eq_true, Bool.or_eq_true, Nat.blt_eq] at h
    rcases h with hfirst | ⟨hlast, hrest⟩
    · simp only [inRanges, show n < first by omega, if_true]
    · by_cases hn : n < first
      · simp only [inRanges, hn, if_true]
      · simp only [inRanges, hn, show ¬ n ≤ last by omega, if_false]
        exact ih hrest

theorem exists_range_of_inRanges {n : Nat} {ranges : List (Nat × Nat)}
    (h : inRanges n ranges = true) : ∃ range ∈ ranges, range.1 ≤ n ∧ n ≤ range.2 := by
  induction ranges with
  | nil => simp [inRanges] at h
  | cons range rest ih =>
    obtain ⟨first, last⟩ := range
    by_cases hfirst : n < first
    · simp [inRanges, hfirst] at h
    by_cases hlast : n ≤ last
    · exact ⟨(first, last), List.mem_cons_self, by simpa using hfirst, hlast⟩
    · simp only [inRanges, hfirst, hlast, if_false] at h
      obtain ⟨range, hmem, hbounds⟩ := ih h
      exact ⟨range, List.mem_cons_of_mem _ hmem, hbounds⟩

theorem exists_run_of_imageIn {n image : Nat} {runs : List Run} (h : imageIn n runs = some image) :
    ∃ run ∈ runs, run.1 ≤ n ∧ n ≤ run.2.1 ∧ (n - run.1) % run.2.2.1 = 0 ∧
      image = run.2.2.2 + (n - run.1) := by
  induction runs with
  | nil => simp [imageIn] at h
  | cons run rest ih =>
    obtain ⟨first, last, step, start⟩ := run
    by_cases hfirst : n < first
    · simp [imageIn, hfirst] at h
    by_cases hlast : n ≤ last
    · simp only [imageIn, hfirst, hlast, if_false, if_true] at h
      by_cases hstep : (n - first) % step = 0
      · simp only [hstep, if_true, Option.some.injEq] at h
        exact ⟨(first, last, step, start), List.mem_cons_self, by simpa using hfirst, hlast, hstep,
          h.symm⟩
      · simp [hstep] at h
    · simp only [imageIn, hfirst, hlast, if_false] at h
      obtain ⟨run, hmem, hrun⟩ := ih h
      exact ⟨run, List.mem_cons_of_mem _ hmem, hrun⟩

theorem imageIn_of_isUnmapped {lo hi step n : Nat} {runs : List Run}
    (h : isUnmapped lo hi step runs = true) (hlo : lo ≤ n) (hhi : n ≤ hi)
    (hstep : (n - lo) % step = 0) : imageIn n runs = none := by
  induction runs with
  | nil => rfl
  | cons run rest ih =>
    obtain ⟨first, last, step', start⟩ := run
    simp only [isUnmapped, Bool.and_eq_true, Bool.or_eq_true, Nat.blt_eq, Nat.beq_eq] at h
    by_cases hfirst : n < first
    · simp only [imageIn, hfirst, if_true]
    obtain ⟨hrun, hrest⟩ := h.resolve_left (by omega)
    by_cases hlast : n ≤ last
    · obtain ⟨⟨hown, rfl⟩, hodd⟩ := hrun.resolve_left (by omega)
      -- the two runs hold numbers of different parity
      have hpar : (n - lo) % 2 = 0 := by
        rcases hown with hsingle | htwo
        · omega
        · simpa only [htwo] using hstep
      have hne : ¬ (n - first) % 2 = 0 := by omega
      simp only [imageIn, hfirst, hlast, hne, if_false, if_true]
    · simp only [imageIn, hfirst, hlast, if_false]
      exact ih hrest

/-- A property of the characters of a fixed text is decided one by one. -/
theorem forall_mem_of_all {p : Char → Prop} [DecidablePred p] {cs : List Char}
    (h : (cs.all fun c => decide (p c)) = true) : ∀ c ∈ cs, p c := by
  simpa using h

/-- Blanks stand between words, never in them. -/
theorem isBlank_of_isWordChar {c : Char} (h : isWordChar c = true) : isBlank c = false := by
  have hapart : (blankRanges.all fun range => avoids range.1 range.2 wordRanges) = true := by
    decide +kernel
  by_contra hblank
  obtain ⟨range, hmem, hlo, hhi⟩ := exists_range_of_inRanges (by simpa [isBlank] using hblank)
  have havoid := List.all_eq_true.mp hapart range hmem
  have hword := inRanges_of_avoids havoid hlo hhi
  rw [isWordChar, hword] at h
  cases h

theorem isWordChar_of_isBlank {c : Char} (h : isBlank c = true) : isWordChar c = false := by
  by_contra hword
  rw [isBlank_of_isWordChar (by simpa using hword)] at h
  cases h

theorem ne_of_isWordChar {c d : Char} (hc : isWordChar c = true) (hd : isWordChar d = false) :
    c ≠ d := by
  rintro rfl
  rw [hc] at hd
  cases hd

structure IsWord (cs : List Char) : Prop where
  ne_nil : cs ≠ []
  chars : ∀ c ∈ cs, isWordChar c = true

/-- A word without the dotted capital I, so that its lower case is a word. -/
structure IsName (cs : List Char) : Prop extends IsWord cs where
  undotted : '\u0130' ∉ cs

theorem IsWord.not_mem {cs : List Char} (h : IsWord cs) {c : Char} (hc : isWordChar c = false) :
    c ∉ cs :=
  fun hmem => ne_of_isWordChar (h.chars c hmem) hc rfl

theorem IsWord.head {cs : List Char} (h : IsWord cs) : ∃ c ∈ cs.head?, isWordChar c = true := by
  cases cs with
  | nil => exact absurd rfl h.ne_nil
  | cons c rest => exact ⟨c, rfl, h.chars c List.mem_cons_self⟩

theorem IsWord.append {xs ys : List Char} (hx : IsWord xs) (hy : ∀ c ∈ ys, isWordChar c = true) :
    IsWord (xs ++ ys) where
  ne_nil := by simp [hx.ne_nil]
  chars c hc := (List.mem_append.mp hc).elim (hx.chars c) (hy c)

theorem IsName.append {xs ys : List Char} (hx : IsName xs) (hy : IsName ys) :
    IsName (xs ++ ys) where
  toIsWord := hx.toIsWord.append hy.chars
  undotted := by simp [hx.undotted, hy.undotted]

/-- The image runs of the lower case mapping lie beyond its domain and miss the dotted capital I. -/
theorem lowerRuns_image_unmapped : (lowerRuns.all fun run =>
    isUnmapped run.2.2.2 (run.2.2.2 + (run.2.1 - run.1)) run.2.2.1 lowerRuns
      && avoids run.2.2.2 (run.2.2.2 + (run.2.1 - run.1)) [(0x130, 0x130), (0xD800, 0xDFFF)]
      && Nat.blt (run.2.2.2 + (run.2.1 - run.1)) 0x110000) = true := by
  decide +kernel

theorem lowerRuns_image_word : (lowerRuns.all fun run =>
    covers run.2.2.2 (run.2.2.2 + (run.2.1 - run.1)) wordRanges
      || avoids run.1 run.2.1 wordRanges) = true := by
  decide +kernel

theorem toNat_ofNat {n : Nat} (h : n.isValidChar) : (Char.ofNat n).toNat = n := by
  rw [Char.ofNat, dif_pos h]
  rfl

/-- The lower case of a character other than the dotted capital I is the character itself, which
then has no image, or the one character that a run of the table gives. -/
theorem lowerChar_cases {c : Char} (hc : c ≠ '\u0130') :
    (imageIn c.toNat lowerRuns = none ∧ lowerChar c = [c]) ∨
      ∃ image, imageIn c.toNat lowerRuns = some image ∧ lowerChar c = [Char.ofNat image] := by
  cases himage : imageIn c.toNat lowerRuns with
  | none => exact Or.inl ⟨rfl, by simp [lowerChar, hc, himage]⟩
  | some image => exact Or.inr ⟨image, rfl, by simp [lowerChar, hc, himage]⟩

/-- An image of the lower case mapping is a character without an image of its own. -/
theorem lower_image_facts {n image : Nat} (h : imageIn n lowerRuns = some image) :
    (Char.ofNat image).toNat = image ∧ image ≠ 0x130 ∧ imageIn image lowerRuns = none := by
  obtain ⟨run, hmem, hlo, hhi, hstep, himage⟩ := exists_run_of_imageIn h
  have hrun := List.all_eq_true.mp lowerRuns_image_unmapped run hmem
  simp only [avoids, Bool.and_eq_true, Bool.or_eq_true, Nat.blt_eq] at hrun
  obtain ⟨⟨hunmapped, hbounds⟩, hlimit⟩ := hrun
  have hvalid : image.isValidChar := by
    simp only [Nat.isValidChar]
    omega
  refine ⟨toNat_ofNat hvalid, by omega, ?_⟩
  apply imageIn_of_isUnmapped hunmapped
  · omega
  · omega
  · rw [himage, Nat.add_sub_cancel_left]
    exact hstep

/-- A character in lower case is its own lower case. -/
theorem lowerChar_of_mem {c d : Char} (h : d ∈ lowerChar c) : lowerChar d = [d] := by
  by_cases hc : c = '\u0130'
  · subst hc
    have hd : d = 'i' ∨ d = '\u0307' := by simpa [lowerChar] using h
    rcases hd with rfl | rfl <;> decide
  rcases lowerChar_cases hc with ⟨himage, hself⟩ | ⟨image, himage, hlower⟩
  · rw [hself, List.mem_singleton] at h
    rw [h, hself]
  · rw [hlower, List.mem_singleton] at h
    obtain ⟨hnat, hne, hnone⟩ := lower_image_facts himage
    have hd : d ≠ '\u0130' := by
      rintro rfl
      exact hne (by rw [← hnat, ← h]; rfl)
    rw [← hnat, ← h] at hnone
    simp only [lowerChar, hd, if_false, hnone]

/-- The lower case of a word character is a word character. -/
theorem isWordChar_of_mem_lowerChar {c d : Char} (hc : isWordChar c = true) (hdot : c ≠ '\u0130')
    (h : d ∈ lowerChar c) : isWordChar d = true := by
  rcases lowerChar_cases hdot with ⟨_, hself⟩ | ⟨image, himage, hlower⟩
  · rw [hself, List.mem_singleton] at h
    rwa [h]
  · rw [hlower, List.mem_singleton] at h
    obtain ⟨run, hmem, hlo, hhi, -, heq⟩ := exists_run_of_imageIn himage
    have hrun := List.all_eq_true.mp lowerRuns_image_word run hmem
    rcases Bool.or_eq_true_iff.mp hrun with hcovers | havoids
    · rw [isWordChar, h, (lower_image_facts himage).1]
      exact inRanges_of_covers hcovers (by omega) (by omega)
    · have hno := inRanges_of_avoids havoids hlo hhi
      rw [isWordChar, hno] at hc
      cases hc

/-- Every character of a text in lower case is the lower case of one of its characters, or the
final form of the sigma. -/
theorem mem_lowerFrom {before cs : List Char} {d : Char} (h : d ∈ lowerFrom before cs) :
    d = '\u03c2' ∨ ∃ c ∈ cs, d ∈ lowerChar c := by
  induction cs generalizing before with
  | nil => simp [lowerFrom] at h
  | cons c rest ih =>
    rw [lowerFrom, List.mem_append] at h
    rcases h with hhead | hrest
    · split at hhead
      · exact Or.inl (by simpa using hhead)
      · exact Or.inr ⟨c, List.mem_cons_self, hhead⟩
    · rcases ih hrest with hsigma | ⟨c', hc', hd⟩
      · exact Or.inl hsigma
      · exact Or.inr ⟨c', List.mem_cons_of_mem _ hc', hd⟩

theorem lowerChar_of_mem_lowerChars {cs : List Char} {d : Char} (h : d ∈ lowerChars cs) :
    lowerChar d = [d] := by
  rcases mem_lowerFrom h with rfl | ⟨c, -, hd⟩
  · decide
  · exact lowerChar_of_mem hd

/-- A text of characters that are their own lower case does not change. -/
theorem lowerFrom_eq_self {before cs : List Char} (h : ∀ c ∈ cs, lowerChar c = [c]) :
    lowerFrom before cs = cs := by
  induction cs generalizing before with
  | nil => rfl
  | cons c rest ih =>
    have hc : lowerChar c = [c] := h c List.mem_cons_self
    have hsigma : c ≠ '\u03a3' := by
      rintro rfl
      exact absurd hc (by decide)
    have hrest : lowerFrom (c :: before) rest = rest :=
      ih fun d hd => h d (List.mem_cons_of_mem _ hd)
    simp [lowerFrom, hsigma, hc, hrest]

theorem mem_lowerFrom_of_mem {before cs : List Char} {c d : Char} (hc : c ∈ cs)
    (hsigma : c ≠ '\u03a3') (hd : d ∈ lowerChar c) : d ∈ lowerFrom before cs := by
  induction cs generalizing before with
  | nil => cases hc
  | cons c' rest ih =>
    rw [lowerFrom, List.mem_append]
    rcases List.mem_cons.mp hc with rfl | hc
    · exact Or.inl (by simpa [hsigma] using hd)
    · exact Or.inr (ih hc)

/-- The lower case of a word holds word characters, and the dots of capital I's that have one. -/
theorem isWordChar_of_mem_lowerChars {cs : List Char} (h : ∀ c ∈ cs, isWordChar c = true) {d : Char}
    (hd : d ∈ lowerChars cs) : isWordChar d = true ∨ d = '\u0307' := by
  rcases mem_lowerFrom hd with rfl | ⟨c, hc, hd⟩
  · exact Or.inl (by decide)
  by_cases hdot : c = '\u0130'
  · subst hdot
    have hparts : d = 'i' ∨ d = '\u0307' := by simpa [lowerChar] using hd
    rcases hparts with rfl | rfl
    · exact Or.inl (by decide)
    · exact Or.inr rfl
  · exact Or.inl (isWordChar_of_mem_lowerChar (h c hc) hdot hd)

/-- A dot is left in the lower case of a word exactly when the word has a dotted capital I. -/
theorem dot_mem_lowerChars_iff {cs : List Char} (h : ∀ c ∈ cs, isWordChar c = true) :
    '\u0307' ∈ lowerChars cs ↔ '\u0130' ∈ cs := by
  constructor
  · intro hd
    rcases mem_lowerFrom hd with hsigma | ⟨c, hc, hd⟩
    · exact absurd hsigma (by decide)
    · by_contra hnone
      have hdot : c ≠ '\u0130' := fun heq => hnone (heq ▸ hc)
      exact absurd (isWordChar_of_mem_lowerChar (h c hc) hdot hd) (by decide)
  · intro hc
    exact mem_lowerFrom_of_mem hc (by decide) (by decide)

theorem IsWord.head_lower {cs : List Char} (h : IsWord cs) :
    ∃ c ∈ (lowerChars cs).head?, isWordChar c = true := by
  obtain ⟨c, rest, rfl⟩ := List.exists_cons_of_ne_nil h.ne_nil
  have hfirst : lowerChars (c :: rest) = lowerChar c ++ lowerFrom [c] rest := by
    simp [lowerChars, lowerFrom, casedNext]
  by_cases hdot : c = '\u0130'
  · have hhead : (lowerChars (c :: rest)).head? = some 'i' := by
      rw [hfirst, hdot]
      rfl
    exact ⟨'i', hhead, by decide⟩
  · rcases lowerChar_cases hdot with ⟨-, hself⟩ | ⟨image, -, hlower⟩
    · exact ⟨c, by simp [hfirst, hself], h.chars c List.mem_cons_self⟩
    · have hword := h.chars c List.mem_cons_self
      exact ⟨Char.ofNat image, by simp [hfirst, hlower],
        isWordChar_of_mem_lowerChar hword hdot (by simp [hlower])⟩

def delimiters : List Char := ['\n', '\x22', '\x27', ':', '\x7b', '|', '\x7d']

def isDelimiter (c : Char) : Bool := delimiters.contains c

theorem isDelimiter_of_isWordChar {c : Char} (h : isWordChar c = true) : isDelimiter c = false := by
  have hwords : (delimiters.all fun d => !isWordChar d) = true := by
    decide
  by_contra hmark
  have hmem : c ∈ delimiters := List.contains_iff_mem.mp (Bool.not_eq_false _ ▸ hmark)
  have hword := List.all_eq_true.mp hwords c hmem
  rw [h] at hword
  cases hword

theorem upperRuns_image_unmarked : (upperRuns.all fun run =>
    avoids run.2.2.2 (run.2.2.2 + (run.2.1 - run.1)) [(0, 0x40), (0x7B, 0x7D), (0xD800, 0xDFFF)]
      && Nat.blt (run.2.2.2 + (run.2.1 - run.1)) 0x110000) = true := by
  decide

theorem upperExpansions_unmarked : (upperExpansions.all fun entry =>
    entry.2.all fun n => !isDelimiter (Char.ofNat n)) = true := by
  decide

theorem toNat_of_isDelimiter {c : Char} (h : isDelimiter c = true) :
    c.toNat ≤ 0x40 ∨ (0x7B ≤ c.toNat ∧ c.toNat ≤ 0x7D) := by
  have hmem : c ∈ delimiters := List.contains_iff_mem.mp h
  simp only [delimiters, List.mem_cons, List.not_mem_nil, or_false] at hmem
  rcases hmem with rfl | rfl | rfl | rfl | rfl | rfl | rfl <;> decide

/-- The upper case of a character without meaning has none either. -/
theorem isDelimiter_of_mem_upperChar {c d : Char} (hc : isDelimiter c = false)
    (h : d ∈ upperChar c) : isDelimiter d = false := by
  unfold upperChar at h
  split at h
  · next images hlookup =>
    obtain ⟨n, hn, rfl⟩ := List.mem_map.mp h
    obtain ⟨before, after, heq, -⟩ := List.lookup_eq_some_iff.mp hlookup
    have hentry : (c.toNat, images) ∈ upperExpansions := by simp [heq]
    have hall := List.all_eq_true.mp upperExpansions_unmarked _ hentry
    simpa using List.all_eq_true.mp hall n hn
  · split at h
    · next image himage =>
      rw [List.mem_singleton] at h
      obtain ⟨run, hmem, hlo, hhi, -, heq⟩ := exists_run_of_imageIn himage
      have hrun := List.all_eq_true.mp upperRuns_image_unmarked run hmem
      simp only [avoids, Bool.and_eq_true, Bool.or_eq_true, Nat.blt_eq] at hrun
      have hnat : d.toNat = image := by
        rw [h]
        apply toNat_ofNat
        simp only [Nat.isValidChar]
        omega
      by_contra hmark
      have hbound := toNat_of_isDelimiter (by simpa using hmark)
      omega
    · rw [List.mem_singleton] at h
      rwa [h]

/-- A capitalized word holds no character with a meaning. -/
theorem isDelimiter_of_mem_capitalize {word : String}
    (h : ∀ c ∈ word.toList, isDelimiter c = false) :
    ∀ d ∈ (capitalize word).toList, isDelimiter d = false := by
  intro d hd
  unfold capitalize at hd
  split at hd
  · simp at hd
  · next c rest hword =>
    rw [String.toList_ofList, List.mem_append] at hd
    rw [hword] at h
    rcases hd with hupper | hrest
    · exact isDelimiter_of_mem_upperChar (h c List.mem_cons_self) hupper
    · exact h d (List.mem_cons_of_mem _ hrest)

end EntityDiagram.Text
