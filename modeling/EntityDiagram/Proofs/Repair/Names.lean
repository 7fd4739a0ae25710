import EntityDiagram.Proofs.Attribute.Written
import EntityDiagram.Repair.Column
import Mathlib.Data.List.Nodup
import Mathlib.Data.List.Perm.Subperm
import Std.Data.String.ToNat

/-!
Names that a repair makes. They are in lower case with an underscore, so they differ from the
generated name column and stand for themselves without regard to case. They are words unless they
come from a name with a dotted capital I, whose lower case leaves a dot that is no word character.
There is a free name for every column: the candidates are all different, and each taken name rules
out one of them at most.
-/
namespace EntityDiagram.Repair

open Text

/-- A name in lower case with an underscore that comes from the name `stem`: a word, up to the dots
that dotted capital I's of the stem leave. -/
structure DerivedFrom (stem name : String) : Prop where
  head : ∃ c ∈ name.toList.head?, isWordChar c = true
  chars : ∀ c ∈ name.toList, isWordChar c = true ∨ c = '\u0307'
  dot_iff : '\u0307' ∈ name.toList ↔ '\u0130' ∈ stem.toList
  lowered : ∀ c ∈ name.toList, lowerChar c = [c]
  underscore : '_' ∈ name.toList

namespace DerivedFrom

variable {stem name : String}

theorem lower_eq (h : DerivedFrom stem name) : lower name = name := by
  rw [lower, lowerChars, lowerFrom_eq_self h.lowered, String.ofList_toList]

theorem ne_nameColumn (h : DerivedFrom stem name) : name ≠ Entity.nameColumn := by
  rintro rfl
  exact absurd h.underscore (by decide)

/-- A derived name is not that of the key of a junction entity. -/
theorem ne_id (h : DerivedFrom stem name) : name ≠ "id" := by
  rintro rfl
  exact absurd h.underscore (by decide)

/-- A derived name holds a character that is no symbol. -/
theorem exists_not_isSymbol (h : DerivedFrom stem name) :
    ∃ c ∈ name.toList, Relationship.isSymbol c = false :=
  ⟨'_', h.underscore, by decide⟩

/-- A derived name is a word exactly when its stem has no dotted capital I. -/
theorem isWord_iff (h : DerivedFrom stem name) : IsWord name.toList ↔ '\u0130' ∉ stem.toList := by
  rw [← h.dot_iff]
  constructor
  · intro hword
    exact hword.not_mem (by decide)
  · intro hdot
    refine ⟨List.ne_nil_of_mem h.underscore, fun c hc => ?_⟩
    exact (h.chars c hc).resolve_right fun heq => hdot (heq ▸ hc)

theorem isWord (h : DerivedFrom stem name) (hstem : IsName stem.toList) : IsWord name.toList :=
  h.isWord_iff.mpr hstem.undotted

theorem all_isWordChar_iff (h : DerivedFrom stem name) :
    name.toList.all isWordChar = true ↔ IsWord name.toList := by
  rw [List.all_eq_true]
  exact ⟨fun hall => ⟨List.ne_nil_of_mem h.underscore, hall⟩, fun hword => hword.chars⟩

theorem isBlank (h : DerivedFrom stem name) : ∀ c ∈ name.toList, isBlank c = false := by
  intro c hc
  rcases h.chars c hc with hword | rfl
  · exact isBlank_of_isWordChar hword
  · decide

/-- A word in lower case may stand before a derived name. -/
theorem cons (h : DerivedFrom stem name) {before : String}
    (hbefore : ∀ c ∈ before.toList, isWordChar c = true ∧ lowerChar c = [c]) :
    DerivedFrom stem (before ++ name) where
  head := by
    rw [String.toList_append]
    cases hchars : before.toList with
    | nil => exact h.head
    | cons c rest => exact ⟨c, rfl, (hbefore c (by simp [hchars])).1⟩
  chars c hc := by
    rw [String.toList_append, List.mem_append] at hc
    exact hc.elim (fun hc => Or.inl (hbefore c hc).1) (h.chars c)
  dot_iff := by
    have hnone : '\u0307' ∉ before.toList :=
      fun hmem => absurd (hbefore _ hmem).1 (by decide)
    rw [String.toList_append, List.mem_append, or_iff_right hnone, h.dot_iff]
  lowered c hc := by
    rw [String.toList_append, List.mem_append] at hc
    exact hc.elim (fun hc => (hbefore c hc).2) (h.lowered c)
  underscore := by
    rw [String.toList_append]
    exact List.mem_append_right _ h.underscore

end DerivedFrom

/-- The lower case of a name with a suffix that has an underscore. -/
theorem derivedFrom_suffix {stem : String} (hstem : IsWord stem.toList) {suffix : String}
    (hsuffix : ∀ c ∈ suffix.toList, isWordChar c = true ∧ lowerChar c = [c])
    (hunderscore : '_' ∈ suffix.toList) : DerivedFrom stem (lower stem ++ suffix) := by
  have hchars : (lower stem ++ suffix).toList = lowerChars stem.toList ++ suffix.toList := by
    rw [String.toList_append, lower, String.toList_ofList]
  refine ⟨?_, ?_, ?_, ?_, ?_⟩ <;> rw [hchars]
  · obtain ⟨c, hc, hword⟩ := hstem.head_lower
    exact ⟨c, by simp [Option.mem_def.mp hc], hword⟩
  · intro c hc
    exact (List.mem_append.mp hc).elim (isWordChar_of_mem_lowerChars hstem.chars)
      fun hc => Or.inl (hsuffix c hc).1
  · have hnone : '\u0307' ∉ suffix.toList :=
      fun hmem => absurd (hsuffix _ hmem).1 (by decide)
    rw [List.mem_append, or_iff_left hnone, dot_mem_lowerChars_iff hstem.chars]
  · intro c hc
    exact (List.mem_append.mp hc).elim lowerChar_of_mem_lowerChars fun hc => (hsuffix c hc).2
  · exact List.mem_append_right _ hunderscore

/-- The column that refers to an entity. -/
theorem derivedFrom_key {stem : String} (hstem : IsWord stem.toList) :
    DerivedFrom stem (lower stem ++ "_id") :=
  derivedFrom_suffix hstem (forall_mem_of_all (by decide)) (by decide)

theorem derivedFrom_related {stem : String} (hstem : IsWord stem.toList) :
    DerivedFrom stem ("related_" ++ (lower stem ++ "_id")) :=
  (derivedFrom_key hstem).cons (forall_mem_of_all (by decide))

theorem derivedFrom_expectedForeignKey {q : Relationship} (h : IsWord q.fromEntity.toList) :
    DerivedFrom q.fromEntity q.expectedForeignKey :=
  derivedFrom_key h

theorem digit_facts {c : Char} (h : c.isDigit = true) :
    isWordChar c = true ∧ lowerChar c = [c] := by
  have hrange : 0x30 ≤ c.toNat ∧ c.toNat ≤ 0x39 := by
    rw [Char.isDigit, Bool.and_eq_true, decide_eq_true_eq, decide_eq_true_eq] at h
    exact ⟨UInt32.le_iff_toNat_le.mp h.1, UInt32.le_iff_toNat_le.mp h.2⟩
  constructor
  · exact inRanges_of_covers (by decide : covers 0x30 0x39 wordRanges = true) hrange.1 hrange.2
  · have himage : imageIn c.toNat lowerRuns = none :=
      imageIn_of_isUnmapped (by decide : isUnmapped 0x30 0x39 1 lowerRuns = true) hrange.1 hrange.2
        (Nat.mod_one _)
    have hne : c ≠ '\u0130' := by
      rintro rfl
      exact absurd hrange.2 (by decide)
    simp [lowerChar, hne, himage]

def nameSuffixes (count : Nat) : List String :=
  "_name" :: "_display_name" :: (List.range count).map fun k => "_name_" ++ Nat.repr (k + 2)

theorem nameCandidates_eq (stem : String) (count : Nat) :
    nameCandidates stem count = (nameSuffixes count).map (stem ++ ·) := by
  have hplain : ∀ a b c : String, a ++ b ++ c = a ++ (b ++ c) := fun _ _ _ => String.append_assoc
  simp only [nameCandidates, nameSuffixes, Entity.nameColumn, List.map_cons, List.map_map,
    toString_text, Nat.toString_eq_repr, hplain]
  rfl

theorem nameSuffix_facts {count : Nat} {suffix : String} (h : suffix ∈ nameSuffixes count) :
    (∀ c ∈ suffix.toList, isWordChar c = true ∧ lowerChar c = [c]) ∧ '_' ∈ suffix.toList := by
  simp only [nameSuffixes, List.mem_cons, List.mem_map] at h
  rcases h with rfl | rfl | ⟨k, -, rfl⟩
  · exact ⟨forall_mem_of_all (by decide), by decide⟩
  · exact ⟨forall_mem_of_all (by decide), by decide⟩
  · have hfixed : ∀ c ∈ "_name_".toList, isWordChar c = true ∧ lowerChar c = [c] :=
      forall_mem_of_all (by decide)
    constructor
    · intro c hc
      rw [String.toList_append, List.mem_append, Nat.toList_repr] at hc
      rcases hc with hc | hc
      · exact hfixed c hc
      · exact digit_facts (Nat.isDigit_of_mem_toDigits (by decide) (by decide) hc)
    · simp

/-- What follows the stem does not end like the name of a foreign key column. -/
theorem getLast?_nameSuffix {count : Nat} {suffix : String} (h : suffix ∈ nameSuffixes count) :
    suffix.toList ≠ [] ∧ suffix.toList.getLast? ≠ some 'd' := by
  simp only [nameSuffixes, List.mem_cons, List.mem_map] at h
  rcases h with rfl | rfl | ⟨k, -, rfl⟩
  · decide
  · decide
  · have hdigits : (Nat.repr (k + 2)).toList ≠ [] := by
      rw [Nat.toList_repr]
      exact Nat.toDigits_ne_nil
    rw [String.toList_append, List.getLast?_append_of_ne_nil _ hdigits]
    refine ⟨by simp, fun hlast => ?_⟩
    have hmem := List.mem_of_getLast? hlast
    rw [Nat.toList_repr] at hmem
    exact absurd (Nat.isDigit_of_mem_toDigits (by decide) (by decide) hmem) (by decide)

/-- No candidate is the name of a foreign key column. -/
theorem ne_key_of_mem_nameCandidates {stem name : String} {count : Nat}
    (h : name ∈ nameCandidates stem count) (side : String) : name ≠ side ++ "_id" := by
  rw [nameCandidates_eq] at h
  obtain ⟨suffix, hsuffix, rfl⟩ := List.mem_map.mp h
  obtain ⟨hne, hlast⟩ := getLast?_nameSuffix hsuffix
  intro heq
  have hends := congrArg (fun name => name.toList.getLast?) heq
  simp only [String.toList_append, List.getLast?_append_of_ne_nil _ hne] at hends
  exact hlast (hends.trans (by simp))

/-- Every candidate is a derived name. -/
theorem derivedFrom_of_mem_nameCandidates {stem : String} (hstem : IsWord stem.toList) {count : Nat}
    {name : String} (h : name ∈ nameCandidates (lower stem) count) : DerivedFrom stem name := by
  rw [nameCandidates_eq] at h
  obtain ⟨suffix, hsuffix, rfl⟩ := List.mem_map.mp h
  obtain ⟨hchars, hunderscore⟩ := nameSuffix_facts hsuffix
  exact derivedFrom_suffix hstem hchars hunderscore

theorem nodup_nameSuffixes (count : Nat) : (nameSuffixes count).Nodup := by
  have hnumbered : ∀ plain : String, plain = "_name" ∨ plain = "_display_name" →
      plain ∉ (List.range count).map fun k => "_name_" ++ Nat.repr (k + 2) := by
    intro plain hplain hmem
    obtain ⟨k, -, heq⟩ := List.mem_map.mp hmem
    have hprefix : "_name_".toList <+: plain.toList :=
      ⟨(Nat.repr (k + 2)).toList, by rw [← heq, String.toList_append]⟩
    rcases hplain with rfl | rfl <;> exact absurd hprefix (by decide)
  refine List.nodup_cons.mpr ⟨?_, List.nodup_cons.mpr ⟨hnumbered _ (Or.inr rfl), ?_⟩⟩
  · rw [List.mem_cons, not_or]
    exact ⟨by decide, hnumbered _ (Or.inl rfl)⟩
  · refine List.Nodup.map ?_ List.nodup_range
    intro j k h
    exact Nat.add_right_cancel (Nat.repr_injective ((String.append_right_inj _).mp h))

theorem nodup_nameCandidates (stem : String) (count : Nat) : (nameCandidates stem count).Nodup := by
  rw [nameCandidates_eq]
  exact (nodup_nameSuffixes count).map fun _ _ h => (String.append_right_inj stem).mp h

theorem length_nameCandidates (stem : String) (count : Nat) :
    (nameCandidates stem count).length = count + 2 := by
  simp [nameCandidates]

/-- Each taken name rules out one candidate at most. -/
theorem length_filter_taken {candidates : List String} (h : candidates.Nodup)
    (taken : List String) :
    candidates.length ≤ (candidates.filter fun name => !taken.contains name).length +
      taken.length := by
  have hsub : candidates.filter taken.contains ⊆ taken := by
    intro name hname
    simpa using (List.mem_filter.mp hname).2
  have hle := (List.subperm_of_subset (h.filter _) hsub).length_le
  have hsplit : (candidates.filter taken.contains).length +
      (candidates.filter fun name => !taken.contains name).length = candidates.length :=
    (List.length_eq_length_filter_add _).symm
  omega

theorem freeNames_eq (stem : String) (taken : List String) (count : Nat) :
    freeNames stem taken count = ((nameCandidates stem (taken.length + count)).filter
      fun name => !taken.contains name).take count := by
  simp [freeNames]

/-- There are as many free names as are asked for. -/
theorem length_freeNames (stem : String) (taken : List String) (count : Nat) :
    (freeNames stem taken count).length = count := by
  have hle := length_filter_taken (nodup_nameCandidates stem (taken.length + count)) taken
  rw [length_nameCandidates] at hle
  rw [freeNames_eq, List.length_take]
  omega

theorem mem_freeNames {stem : String} {taken : List String} {count : Nat} {name : String}
    (h : name ∈ freeNames stem taken count) :
    name ∈ nameCandidates stem (taken.length + count) ∧ name ∉ taken := by
  obtain ⟨hmem, hfree⟩ := List.mem_filter.mp (List.mem_of_mem_take h)
  exact ⟨hmem, by simpa using hfree⟩

end EntityDiagram.Repair
