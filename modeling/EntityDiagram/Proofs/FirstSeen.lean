import EntityDiagram.FirstSeen
import Mathlib.Data.List.Basic

/-!
First elements and repeated ones. The keys of the first elements are the keys of all elements
without repetitions, in order; each first element is the one that a search for its key finds. There
is nothing repeated exactly when no element occurs twice.
-/
namespace EntityDiagram

section Distinct

variable {β : Type} [BEq β] [LawfulBEq β]

theorem filter_eraseDups (p : β → Bool) (items : List β) :
    (items.filter p).eraseDups = items.eraseDups.filter p := by
  match items with
  | [] => rfl
  | b :: rest =>
    rw [List.eraseDups_cons]
    by_cases hb : p b = true
    · rw [List.filter_cons_of_pos hb, List.filter_cons_of_pos hb, List.eraseDups_cons,
        ← filter_eraseDups p, List.filter_filter, List.filter_filter]
      simp only [Bool.and_comm]
    · rw [List.filter_cons_of_neg hb, List.filter_cons_of_neg hb, ← filter_eraseDups p,
        List.filter_filter]
      refine congrArg List.eraseDups (List.filter_congr fun c _ => ?_)
      by_cases hc : p c = true
      · have hne : c ≠ b := fun heq => hb (heq ▸ hc)
        simp [hc, hne]
      · simp [hc]
termination_by items.length
decreasing_by all_goals exact Nat.lt_succ_of_le (List.length_filter_le _ _)

theorem nodup_eraseDups (items : List β) : items.eraseDups.Nodup := by
  induction items with
  | nil => exact List.nodup_nil
  | cons b rest ih =>
    rw [List.eraseDups_cons, filter_eraseDups]
    refine List.nodup_cons.mpr ⟨?_, ih.filter _⟩
    intro hmem
    simpa using (List.mem_filter.mp hmem).2

theorem eraseDups_concat (items : List β) (b : β) :
    (items ++ [b]).eraseDups =
      if items.contains b then items.eraseDups else items.eraseDups ++ [b] := by
  rw [List.eraseDups_append]
  by_cases hmem : b ∈ items
  · simp [List.removeAll, hmem]
  · have hkept : [b].removeAll items = [b] := by simp [List.removeAll, hmem]
    rw [hkept, if_neg (by simpa using hmem)]
    rfl

theorem eraseDups_of_nodup {items : List β} (h : items.Nodup) : items.eraseDups = items := by
  induction items with
  | nil => rfl
  | cons b rest ih =>
    obtain ⟨hb, hrest⟩ := List.nodup_cons.mp h
    have hfilter : rest.filter (fun c => !c == b) = rest := by
      refine List.filter_eq_self.mpr fun c hc => ?_
      have hne : c ≠ b := fun heq => hb (heq ▸ hc)
      simpa using hne
    rw [List.eraseDups_cons, hfilter, ih hrest]

end Distinct

section Keys

variable {α β : Type} [BEq β] [LawfulBEq β] [Hashable β] {key : α → β}

theorem mem_of_mem_firstSeen {items : List α} {a : α} (h : a ∈ firstSeen key items) :
    a ∈ items := by
  induction items with
  | nil => cases h
  | cons b rest ih =>
    rw [firstSeen_cons, List.mem_cons] at h
    rcases h with rfl | h
    · exact List.mem_cons_self
    · exact List.mem_cons_of_mem _ (ih (List.mem_filter.mp h).1)

/-- The keys of the first elements are all keys in order of first occurrence. -/
theorem map_firstSeen (items : List α) :
    (firstSeen key items).map key = (items.map key).eraseDups := by
  induction items with
  | nil => rfl
  | cons a rest ih =>
    have hfilter : ((firstSeen key rest).filter fun b => !(key a == key b)).map key =
        ((firstSeen key rest).map key).filter fun b => !b == key a := by
      rw [List.filter_map]
      refine congrArg (List.map key) (List.filter_congr fun b _ => ?_)
      rw [Function.comp_apply, BEq.comm]
    rw [firstSeen_cons, List.map_cons, List.map_cons, List.eraseDups_cons, hfilter, ih,
      filter_eraseDups]

/-- No two first elements have one key. -/
theorem nodup_map_firstSeen (items : List α) : ((firstSeen key items).map key).Nodup := by
  rw [map_firstSeen]
  exact nodup_eraseDups _

/-- Every key is that of a first element. -/
theorem exists_mem_firstSeen {items : List α} {a : α} (h : a ∈ items) :
    ∃ b ∈ firstSeen key items, key b = key a := by
  have hkey : key a ∈ (firstSeen key items).map key := by
    rw [map_firstSeen, List.mem_eraseDups]
    exact List.mem_map_of_mem h
  exact List.mem_map.mp hkey

/-- A first element is the one that a search for its key finds. -/
theorem find?_of_mem_firstSeen {items : List α} {a : α} (h : a ∈ firstSeen key items) :
    items.find? (fun b => key b == key a) = some a := by
  induction items with
  | nil => cases h
  | cons b rest ih =>
    rw [firstSeen_cons, List.mem_cons] at h
    rcases h with rfl | h
    · simp
    · obtain ⟨hmem, hkey⟩ := List.mem_filter.mp h
      rw [List.find?_cons_of_neg (by simpa using hkey), ih hmem]

/-- An element is a first one exactly when a search for its key finds it. -/
theorem mem_firstSeen_iff {items : List α} {a : α} :
    a ∈ firstSeen key items ↔ items.find? (fun b => key b == key a) = some a := by
  constructor
  · exact find?_of_mem_firstSeen
  · intro hfind
    obtain ⟨b, hb, hkey⟩ := @exists_mem_firstSeen α β _ _ _ key items a
      (List.mem_of_find?_eq_some hfind)
    have hfound := find?_of_mem_firstSeen hb
    rw [hkey, hfind] at hfound
    obtain rfl := Option.some.inj hfound
    exact hb

end Keys

section Repeated

variable {β : Type} [BEq β] [Hashable β]

theorem mem_of_mem_seenAgain {seen : Std.HashSet β} {items : List β} {b : β}
    (h : b ∈ seenAgain seen items) : b ∈ items := by
  induction items generalizing seen with
  | nil => cases h
  | cons c rest ih =>
    rw [seenAgain] at h
    split at h
    · rcases List.mem_cons.mp h with rfl | h
      · exact List.mem_cons_self
      · exact List.mem_cons_of_mem _ (ih h)
    · exact List.mem_cons_of_mem _ (ih h)

variable [LawfulBEq β]

theorem seenAgain_eq_nil_iff {seen : Std.HashSet β} {items : List β} :
    seenAgain seen items = [] ↔ items.Nodup ∧ ∀ b ∈ items, b ∉ seen := by
  induction items generalizing seen with
  | nil => simp [seenAgain]
  | cons c rest ih =>
    rw [seenAgain]
    by_cases hc : seen.contains c = true
    · have hmem : c ∈ seen := hc
      simp [hmem]
    · have hmem : c ∉ seen := hc
      rw [if_neg hc, ih, List.nodup_cons]
      simp only [Std.HashSet.mem_insert, beq_iff_eq, not_or, List.mem_cons, forall_eq_or_imp]
      constructor
      · rintro ⟨hnodup, hall⟩
        exact ⟨⟨fun hcrest => (hall c hcrest).1 rfl, hnodup⟩, hmem, fun b hb => (hall b hb).2⟩
      · rintro ⟨⟨hnew, hnodup⟩, -, hall⟩
        exact ⟨hnodup, fun b hb => ⟨fun heq => hnew (heq ▸ hb), hall b hb⟩⟩

/-- Nothing is repeated exactly when no element occurs twice. -/
theorem repeated_eq_nil_iff {items : List β} : repeated items = [] ↔ items.Nodup := by
  have hseen : seenAgain ∅ items = [] ↔ items.Nodup := by
    rw [seenAgain_eq_nil_iff]
    simp
  rw [← hseen]
  unfold repeated
  constructor
  · intro h
    rw [List.eq_nil_iff_forall_not_mem]
    intro b hb
    obtain ⟨c, hc, hkey⟩ := @exists_mem_firstSeen β β _ _ _ id _ _ (mem_of_mem_seenAgain hb)
    obtain rfl : c = b := hkey
    exact (List.filter_eq_nil_iff.mp h) c hc (by simpa using hb)
  · intro h
    rw [h]
    apply List.filter_eq_nil_iff.mpr
    simp

/-- Of three elements only the last two of which are equal, that one is repeated. -/
theorem repeated_pair {a b : β} (h : a ≠ b) :
    repeated [a, b, b] = [b] := by
  have hagain : seenAgain ∅ [a, b, b] = [b] := by
    simp [seenAgain, h]
  have hfirst : firstSeen id [a, b, b] = [a, b] := by
    simp [firstSeen, unseen, h]
  simp [repeated, hagain, hfirst, h.symm]

end Repeated

end EntityDiagram
