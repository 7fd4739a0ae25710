import Std.Data.HashSet

/-!
The first elements with each key, in order, and those that repeat an earlier key.
-/
namespace EntityDiagram

def unseen {α β : Type} [BEq β] [Hashable β] (key : α → β) (seen : Std.HashSet β) : List α → List α
  | [] => []
  | a :: rest =>
    if seen.contains (key a) then unseen key seen rest
    else a :: unseen key (seen.insert (key a)) rest

/-- Keeps an element when no earlier one has its key. -/
def firstSeen {α β : Type} [BEq β] [Hashable β] (key : α → β) (items : List α) : List α :=
  unseen key ∅ items

def seenAgain {β : Type} [BEq β] [Hashable β] (seen : Std.HashSet β) : List β → List β
  | [] => []
  | b :: rest =>
    if seen.contains b then b :: seenAgain seen rest else seenAgain (seen.insert b) rest

def repeated {β : Type} [BEq β] [Hashable β] (items : List β) : List β :=
  let again := Std.HashSet.ofList (seenAgain ∅ items)
  (firstSeen id items).filter again.contains

/-- Only what has been seen matters, not how. -/
theorem unseen_congr {α β : Type} [BEq β] [LawfulBEq β] [Hashable β] (key : α → β)
    {seen others : Std.HashSet β} (h : ∀ b, seen.contains b = others.contains b)
    (items : List α) : unseen key seen items = unseen key others items := by
  induction items generalizing seen others with
  | nil => rfl
  | cons a rest ih =>
    have hi : ∀ b, (seen.insert (key a)).contains b = (others.insert (key a)).contains b := by
      intro b
      rw [Std.HashSet.contains_insert, Std.HashSet.contains_insert, h]
    simp only [unseen, h, ih h, ih hi]

/-- One more seen key drops the elements that have it. -/
theorem unseen_insert {α β : Type} [BEq β] [LawfulBEq β] [Hashable β] (key : α → β) (k : β)
    (seen : Std.HashSet β) (items : List α) :
    unseen key (seen.insert k) items = (unseen key seen items).filter fun b => !(k == key b) := by
  induction items generalizing seen with
  | nil => rfl
  | cons a rest ih =>
    by_cases hk : k == key a
    · obtain rfl : k = key a := by simpa using hk
      by_cases hs : seen.contains (key a)
      · simp [unseen, hs, ih]
      · simp [unseen, hs, ih, List.filter_filter]
    · by_cases hs : seen.contains (key a)
      · simp [unseen, hk, hs, ih]
      · have swap : ∀ b, ((seen.insert k).insert (key a)).contains b
            = ((seen.insert (key a)).insert k).contains b := by
          intro b
          simp only [Std.HashSet.contains_insert]
          ac_rfl
        simp [unseen, hk, hs, unseen_congr key swap, ih]

/-- The first element stays, and of the others those with another key. -/
theorem firstSeen_cons {α β : Type} [BEq β] [LawfulBEq β] [Hashable β] (key : α → β) (a : α)
    (rest : List α) :
    firstSeen key (a :: rest) = a :: (firstSeen key rest).filter fun b => !(key a == key b) := by
  simp [firstSeen, unseen, unseen_insert]

end EntityDiagram
