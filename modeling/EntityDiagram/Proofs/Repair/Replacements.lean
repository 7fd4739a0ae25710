import EntityDiagram.Proofs.Repair.Columns
import Mathlib.Data.Nat.Find

/-!
The search for the name of a conflicting column. It looks at one candidate after the other and ends
at the first that is not taken. The candidates are all different, so it passes no more of them than
there are taken names. The conflicting columns of an entity are renamed one after the other, and a
name that is given to one of them is taken for the others. So their new names are distinct, and
differ from those of all columns that the entity had or that are added to it, also without regard to
case.
-/
namespace EntityDiagram.Repair

open Text

def nameCandidate (stem : String) : Nat → String
  | 0 => s!"{stem}_{Entity.nameColumn}"
  | 1 => s!"{stem}_display_{Entity.nameColumn}"
  | k + 2 => s!"{stem}_{Entity.nameColumn}_{k + 2}"

/-- A search that looks at the candidate with the first number ends at the one with the second. -/
inductive Search (stem : String) (taken : List String) : Nat → Nat → Prop
  | found {k : Nat} (hfree : nameCandidate stem k ∉ taken) : Search stem taken k k
  | next {k last : Nat} (htaken : nameCandidate stem k ∈ taken)
      (hrest : Search stem taken (k + 1) last) : Search stem taken k last

/-- Names that are found one after the other. A name that was found is taken from then on. -/
inductive Chosen (stem : String) : List String → List String → Prop
  | none (taken : List String) : Chosen stem taken []
  | next {taken names : List String} {last : Nat} (hsearch : Search stem taken 0 last)
      (hrest : Chosen stem (nameCandidate stem last :: taken) names) :
      Chosen stem taken (nameCandidate stem last :: names)

structure IsFirstFree (stem : String) (taken : List String) (last : Nat) : Prop where
  free : nameCandidate stem last ∉ taken
  before : ∀ k < last, nameCandidate stem k ∈ taken

variable {stem : String} {taken : List String} {last : Nat}

theorem nameCandidates_eq_map (stem : String) (count : Nat) :
    nameCandidates stem count = (List.range (count + 2)).map (nameCandidate stem) := by
  simp [nameCandidates, nameCandidate, List.range_succ_eq_map]

theorem nameCandidate_injective (stem : String) : Function.Injective (nameCandidate stem) := by
  intro i j h
  have hnodup := nodup_nameCandidates stem (i + j)
  rw [nameCandidates_eq_map] at hnodup
  exact List.inj_on_of_nodup_map hnodup (List.mem_range.mpr (by omega))
    (List.mem_range.mpr (by omega)) h

theorem filter_eq_nil_of_taken {count : Nat} (h : ∀ k < count, nameCandidate stem k ∈ taken) :
    ((List.range count).map (nameCandidate stem)).filter (fun name => !taken.contains name) = [] := by
  rw [List.filter_eq_nil_iff]
  intro name hname
  obtain ⟨k, hk, rfl⟩ := List.mem_map.mp hname
  simpa using h k (List.mem_range.mp hk)

/-- The candidates are all different, so no more of them are taken than there are taken names. -/
theorem le_length_of_taken {count : Nat} (h : ∀ k < count, nameCandidate stem k ∈ taken) :
    count ≤ taken.length := by
  have hnodup : ((List.range count).map (nameCandidate stem)).Nodup :=
    List.nodup_range.map (nameCandidate_injective stem)
  have hle := length_filter_taken hnodup taken
  rwa [filter_eq_nil_of_taken h, List.length_nil, Nat.zero_add, List.length_map,
    List.length_range] at hle

theorem exists_isFirstFree (stem : String) (taken : List String) :
    ∃ last, IsFirstFree stem taken last := by
  have hfree : ∃ k, nameCandidate stem k ∉ taken := by
    by_contra hnone
    have htaken : ∀ k < taken.length + 1, nameCandidate stem k ∈ taken :=
      fun k _ => not_not.mp fun hk => hnone ⟨k, hk⟩
    have hle := le_length_of_taken htaken
    omega
  exact ⟨Nat.find hfree, Nat.find_spec hfree, fun k hk => not_not.mp (Nat.find_min hfree hk)⟩

namespace IsFirstFree

theorem eq (h : IsFirstFree stem taken last) {other : Nat} (hother : IsFirstFree stem taken other) :
    other = last := by
  rcases Nat.lt_trichotomy other last with hlt | heq | hlt
  · exact absurd (h.before other hlt) hother.free
  · exact heq
  · exact absurd (hother.before last hlt) h.free

/-- A search that has passed taken candidates only ends at the first that is not. -/
theorem search_from (h : IsFirstFree stem taken last) {ahead : Nat} (hahead : ahead ≤ last) :
    Search stem taken (last - ahead) last := by
  -- by how many candidates are still ahead, so from the end of the search backwards
  induction ahead with
  | zero => exact .found h.free
  | succ ahead ih =>
    have hnext : last - (ahead + 1) + 1 = last - ahead := by omega
    refine .next (h.before _ (by omega)) ?_
    rw [hnext]
    exact ih (by omega)

theorem search (h : IsFirstFree stem taken last) : Search stem taken 0 last := by
  have hfrom := h.search_from (Nat.le_refl last)
  rwa [Nat.sub_self] at hfrom

end IsFirstFree

/-- A search passes taken candidates only and ends at one that is not. -/
theorem Search.facts {first : Nat} (h : Search stem taken first last) :
    nameCandidate stem last ∉ taken ∧
      ∀ k, first ≤ k → k < last → nameCandidate stem k ∈ taken := by
  induction h with
  | found hfree =>
    refine ⟨hfree, fun k hle hlt => ?_⟩
    omega
  | @next first last htaken _ ih =>
    refine ⟨ih.1, fun k hle hlt => ?_⟩
    rcases Nat.eq_or_lt_of_le hle with rfl | hlt'
    · exact htaken
    · exact ih.2 k hlt' hlt

theorem search_iff : Search stem taken 0 last ↔ IsFirstFree stem taken last :=
  ⟨fun h => ⟨h.facts.1, fun k hk => h.facts.2 k (Nat.zero_le k) hk⟩, IsFirstFree.search⟩

/-- The candidates around the one with a number. -/
theorem exists_nameCandidates_eq (stem : String) {count : Nat} (h : last < count + 2) :
    ∃ after, nameCandidates stem count =
      (List.range last).map (nameCandidate stem) ++ nameCandidate stem last :: after := by
  have hlt : last < (List.range (count + 2)).length := by rwa [List.length_range]
  rw [nameCandidates_eq_map, ← List.take_append_drop last (List.range (count + 2)),
    List.take_range, Nat.min_eq_left (Nat.le_of_lt h), List.drop_eq_getElem_cons hlt,
    List.map_append, List.map_cons, List.getElem_range]
  exact ⟨_, rfl⟩

/-- The free names begin with the one that a search finds. The others are those that are free when
it is taken. -/
theorem IsFirstFree.freeNames_succ (h : IsFirstFree stem taken last) (count : Nat) :
    freeNames stem taken (count + 1) =
      nameCandidate stem last :: freeNames stem (nameCandidate stem last :: taken) count := by
  have hle := le_length_of_taken h.before
  -- one more name is taken and one fewer is asked for, so both look at the same candidates
  have hbound : (nameCandidate stem last :: taken).length + count =
      taken.length + (count + 1) := by
    rw [List.length_cons]
    omega
  obtain ⟨after, hsplit⟩ := exists_nameCandidates_eq stem
    (show last < taken.length + (count + 1) + 2 by omega)
  have hnodup := nodup_nameCandidates stem (taken.length + (count + 1))
  rw [hsplit, List.nodup_append] at hnodup
  have hnotMem : nameCandidate stem last ∉ after := (List.nodup_cons.mp hnodup.2.1).1
  have hpassed := filter_eq_nil_of_taken h.before
  have hpassed' := filter_eq_nil_of_taken fun k hk =>
    List.mem_cons_of_mem (nameCandidate stem last) (h.before k hk)
  have hafter : after.filter (fun name => !(nameCandidate stem last :: taken).contains name) =
      after.filter fun name => !taken.contains name := by
    apply List.filter_congr
    intro name hname
    have hne : name ≠ nameCandidate stem last := fun heq => hnotMem (heq ▸ hname)
    simp [hne]
  rw [freeNames_eq, freeNames_eq, hbound, hsplit, List.filter_append, List.filter_append, hpassed,
    hpassed', List.nil_append, List.nil_append, List.filter_cons_of_pos (by simpa using h.free),
    List.filter_cons_of_neg (by simp), hafter, List.take_succ_cons]

/-- Free names are found one after the other. -/
theorem chosen_freeNames (stem : String) (taken : List String) (count : Nat) :
    Chosen stem taken (freeNames stem taken count) := by
  induction count generalizing taken with
  | zero =>
    have hnone : freeNames stem taken 0 = [] := by simp [freeNames]
    rw [hnone]
    exact .none taken
  | succ count ih =>
    obtain ⟨last, hlast⟩ := exists_isFirstFree stem taken
    rw [hlast.freeNames_succ count]
    exact .next hlast.search (ih _)

namespace Chosen

variable {names : List String}

theorem take (h : Chosen stem taken names) (count : Nat) :
    Chosen stem taken (names.take count) := by
  induction h generalizing count with
  | none taken =>
    rw [List.take_nil]
    exact .none taken
  | next hsearch _ ih =>
    cases count with
    | zero => exact .none _
    | succ count => exact .next hsearch (ih count)

/-- Names that are found one after the other are distinct and not taken. -/
theorem fresh (h : Chosen stem taken names) :
    names.Nodup ∧ ∀ name ∈ names, name ∉ taken := by
  induction h with
  | none => exact ⟨List.nodup_nil, fun _ hname => absurd hname List.not_mem_nil⟩
  | next hsearch _ ih =>
    obtain ⟨hnodup, hfree⟩ := ih
    refine ⟨List.nodup_cons.mpr ⟨fun hmem => ?_, hnodup⟩, fun name hname => ?_⟩
    · exact hfree _ hmem List.mem_cons_self
    · rcases List.mem_cons.mp hname with rfl | hmem
      · exact hsearch.facts.1
      · exact fun htaken => hfree name hmem (List.mem_cons_of_mem _ htaken)

theorem exists_nameCandidate (h : Chosen stem taken names) {name : String} (hname : name ∈ names) :
    ∃ k, name = nameCandidate stem k := by
  induction h with
  | none => cases hname
  | next _ _ ih =>
    rcases List.mem_cons.mp hname with rfl | hmem
    · exact ⟨_, rfl⟩
    · exact ih hmem

end Chosen

/-- A candidate for an entity is in lower case. -/
theorem lower_nameCandidate (stem : String) (k : Nat) :
    lower (nameCandidate (lower stem) k) = nameCandidate (lower stem) k := by
  have hmem : nameCandidate (lower stem) k ∈ nameCandidates (lower stem) k := by
    rw [nameCandidates_eq_map]
    exact List.mem_map_of_mem (List.mem_range.mpr (by omega))
  rw [nameCandidates_eq] at hmem
  obtain ⟨suffix, hsuffix, hname⟩ := List.mem_map.mp hmem
  rw [← hname]
  have hlowered : ∀ c ∈ (lower stem ++ suffix).toList, lowerChar c = [c] := by
    intro c hc
    rw [String.toList_append, lower, String.toList_ofList, List.mem_append] at hc
    exact hc.elim lowerChar_of_mem_lowerChars fun hc => ((nameSuffix_facts hsuffix).1 c hc).2
  rw [lower, lowerChars, lowerFrom_eq_self hlowered, String.ofList_toList]

def replacements (e : Entity) (conflicting : List String) (fixes : List ForeignKeyFix) :
    List String :=
  ((repairColumns e conflicting (start e fixes) e.attributes).1.filter
    fun c => isConflicting conflicting c.source).map (·.name)

/-- A conflicting column is no key, and gets the next free name. -/
theorem repairedName_of_isConflicting {conflicting : List String} {a : Attribute}
    (h : isConflicting conflicting a = true) (state : State) :
    repairedName conflicting state a = state.free.headD "" := by
  have hkey : a.isPrimaryKey = false := by
    simp only [isConflicting, Bool.and_eq_true, Bool.not_eq_true'] at h
    exact h.1
  rw [repairedName, hkey, Bool.and_false, if_neg Bool.false_ne_true, if_pos h]

/-- The conflicting columns get the free names in order. -/
theorem map_name_repairColumns (e : Entity) (conflicting : List String) (state : State)
    (columns : List Attribute)
    (hfree : columns.countP (isConflicting conflicting) ≤ state.free.length) :
    ((repairColumns e conflicting state columns).1.filter
        fun c => isConflicting conflicting c.source).map (·.name) =
      state.free.take (columns.countP (isConflicting conflicting)) := by
  induction columns generalizing state with
  | nil => rfl
  | cons a rest ih =>
    have hrest := ih (advance conflicting state a)
    rw [repairColumns]
    by_cases ha : isConflicting conflicting a = true
    · rw [List.countP_cons_of_pos ha] at hfree ⊢
      obtain ⟨name, others, hnames⟩ := List.exists_cons_of_length_pos
        (show 0 < state.free.length by omega)
      have hadvance : (advance conflicting state a).free = others := by
        simp [advance, ha, hnames]
      rw [hadvance] at hrest
      rw [List.filter_cons_of_pos (by exact ha), List.map_cons, repairColumn,
        repairedName_of_isConflicting ha, hnames, List.headD_cons, List.take_succ_cons,
        ← hrest (by rw [hnames, List.length_cons] at hfree; omega)]
    · rw [List.countP_cons_of_neg ha] at hfree ⊢
      have hadvance : (advance conflicting state a).free = state.free := by simp [advance, ha]
      rw [hadvance] at hrest
      rw [List.filter_cons_of_neg (by exact ha), hrest hfree]

/-- The conflicting columns of an entity are renamed one after the other. -/
theorem chosen_replacements (e : Entity) (conflicting : List String)
    (fixes : List ForeignKeyFix) :
    Chosen (lower e.name) (takenNames e fixes) (replacements e conflicting fixes) := by
  have hcount : e.attributes.countP (isConflicting conflicting) ≤
      (start e fixes).free.length := by
    have hle : e.attributes.countP (isConflicting conflicting) ≤ e.attributes.length :=
      List.countP_le_length
    rwa [start, length_freeNames]
  rw [replacements, map_name_repairColumns e conflicting (start e fixes) e.attributes hcount]
  exact (chosen_freeNames _ _ _).take _

/-- A search for the name of a conflicting column ends, whatever the stem and the taken names are:
it passes no more candidates than there are taken names and finds the first candidate that is not
taken. The conflicting columns of any entity are renamed by one search after the other. Their new
names are distinct and differ, also without regard to case, from the names of all columns of the
entity and of all foreign keys to add to it. -/
theorem replacement_names_are_fresh :
    (∀ (stem : String) (taken : List String), ∃ last ≤ taken.length,
      IsFirstFree stem taken last ∧ (∀ other, Search stem taken 0 other ↔ other = last) ∧
        freeNames stem taken 1 = [nameCandidate stem last]) ∧
    ∀ (e : Entity) (conflicting : List String) (fixes : List ForeignKeyFix),
      Chosen (lower e.name) (takenNames e fixes) (replacements e conflicting fixes) ∧
        (replacements e conflicting fixes).Nodup ∧
        ∀ name ∈ replacements e conflicting fixes,
          (∀ a ∈ e.attributes, lower name ≠ lower a.name) ∧
            ∀ fix ∈ fixes, lower name ≠ lower fix.columnName := by
  constructor
  · intro stem taken
    obtain ⟨last, hlast⟩ := exists_isFirstFree stem taken
    refine ⟨last, le_length_of_taken hlast.before, hlast, fun other => ?_, ?_⟩
    · rw [search_iff]
      exact ⟨hlast.eq, fun heq => heq ▸ hlast⟩
    · rw [hlast.freeNames_succ 0]
      simp [freeNames]
  · intro e conflicting fixes
    have hchosen := chosen_replacements e conflicting fixes
    obtain ⟨hnodup, hfree⟩ := hchosen.fresh
    refine ⟨hchosen, hnodup, fun name hname => ?_⟩
    have hnotMem := hfree name hname
    obtain ⟨k, rfl⟩ := hchosen.exists_nameCandidate hname
    rw [takenNames, List.mem_append, not_or] at hnotMem
    rw [lower_nameCandidate]
    exact ⟨fun a ha heq => hnotMem.1 (List.mem_map.mpr ⟨a, ha, heq.symm⟩),
      fun fix hfix heq => hnotMem.2 (List.mem_map.mpr ⟨fix, hfix, heq.symm⟩)⟩

def userColumn (name : String) : Attribute :=
  { name, displayName := name, typeToken := "string" }

/-- Two columns of a user conflict with the generated name column. One plain candidate is a column
already, and the other is a foreign key to add. -/
def user : Entity where
  name := "User"
  displayName := "User"
  attributes := [userColumn "Name", userColumn "USER_NAME", userColumn "NAME"]

def userKeys : List ForeignKeyFix := [⟨"User", "user_display_name", "Name"⟩]

theorem replacement_names_are_fresh_user :
    replacements user ["name"] userKeys = ["user_name_2", "user_name_3"] ∧
      "user_name_3" ∈ replacements user ["name"] userKeys ∧
      (replacements user ["name"] userKeys).Nodup ∧
      (∀ a ∈ user.attributes, lower "user_name_3" ≠ lower a.name) ∧
      ∀ fix ∈ userKeys, lower "user_name_3" ≠ lower fix.columnName := by
  have hnames : replacements user ["name"] userKeys = ["user_name_2", "user_name_3"] := by
    have hfree := freeNames_eq (lower user.name) (takenNames user userKeys) user.attributes.length
    simp only [replacements, start, hfree]
    decide +kernel
  have hmem : "user_name_3" ∈ replacements user ["name"] userKeys := by simp [hnames]
  obtain ⟨-, hnodup, hfresh⟩ := replacement_names_are_fresh.2 user ["name"] userKeys
  exact ⟨hnames, hmem, hnodup, hfresh _ hmem⟩

end EntityDiagram.Repair
