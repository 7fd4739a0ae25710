import EntityDiagram.Proofs.Attribute.Rewritten

/-!
Readable attributes. The line of an attribute is read as that attribute when the name of the column
is a word. A name that a repair makes may hold the dot of a capital I, which is no word character.
The line of such a column keeps its place in the block, but reading stops at the dot and leaves the
column out.
-/
namespace EntityDiagram.Attribute

open Text

def isReadable (a : Attribute) : Bool := a.name.toList.all isWordChar

/-- The line that is written for the attribute keeps its place. It is read as the attribute when the
name is a word, and left out otherwise. -/
structure Printable (a : Attribute) : Prop where
  parts : a.parts.Printable
  read : ofLine? a.line = if a.isReadable then some a else none

theorem isReadable_of_isWord {a : Attribute} (h : IsWord a.name.toList) : a.isReadable = true :=
  List.all_eq_true.mpr h.chars

theorem Written.isReadable {a : Attribute} (h : a.Written) : a.isReadable = true :=
  isReadable_of_isWord h.parts.name

theorem Written.printable {a : Attribute} (h : a.Written) : a.Printable where
  parts := h.parts.printable
  read := by rw [ofLine?_line h, if_pos h.isReadable]

/-- What follows a name begins with a blank. -/
theorem scanTail?_of_head {c : Char} {rest : List Char} (h : isBlank c = false) :
    scanTail? (c :: rest) = none := by
  have hnewline : c ≠ '\n' := by
    rintro rfl
    exact absurd h (by decide)
  have hend : atEnd (c :: rest) = false := by
    unfold atEnd
    split
    · next heq => cases heq
    · next heq => exact absurd (List.cons.inj heq).1 hnewline
    · rfl
  by_cases hquote : c = '\x22'
  · subst hquote
    unfold scanTail?
    simp only [List.takeWhile_cons, List.dropWhile_cons, ne_eq, not_true_eq_false, decide_false,
      Bool.false_eq_true, if_false, startsBlank, List.head?_nil, Option.any_none, Bool.false_and]
    split <;> rfl
  · unfold scanTail?
    simp only [List.takeWhile_cons, List.dropWhile_cons, ne_eq, hquote, not_false_eq_true,
      decide_true, if_true, startsBlank, List.head?_cons, Option.any_some, h, Bool.false_and, hend,
      Bool.or_self, Bool.false_eq_true, if_false]
    split
    · rfl
    · split <;> rfl

/-- After the type and a space, a word that goes on with a character of another kind is no name. -/
theorem scan?_of_stop {type word rest : List Char} {c : Char} (htype : TypeToken type)
    (hword : IsWord word) (hc : isWordChar c = false) (hblank : isBlank c = false) :
    scan? (type ++ ([' '] ++ (word ++ c :: rest))) = none := by
  have hscan := scanType?_append htype ([' '] ++ (word ++ c :: rest))
    fun d hd => isGap_space.chars d (head?_append_mem isGap_space.ne_nil hd)
  have hgap := run?_append isGap_space.ne_nil isGap_space.chars (word ++ c :: rest)
    fun d hd => isBlank_of_isWordChar (hword.chars d (head?_append_mem hword.ne_nil hd))
  have hrun := run?_append hword.ne_nil hword.chars (c :: rest) fun d hd => by
    obtain rfl : c = d := by simpa using hd
    exact hc
  simp only [scan?, hscan, hgap, hrun, scanTail?_of_head hblank, bind, Option.bind_some,
    Option.bind_none]

/-- A text that begins with a word character and is no word goes on with a character of another
kind. -/
theorem exists_stop {name : List Char} (hhead : ∃ c ∈ name.head?, isWordChar c = true)
    (h : name.all isWordChar = false) :
    ∃ word c rest, name = word ++ c :: rest ∧ IsWord word ∧ isWordChar c = false := by
  have hne : name.dropWhile isWordChar ≠ [] := by
    intro hnil
    rw [List.all_eq_true.mpr (List.dropWhile_eq_nil_iff.mp hnil)] at h
    cases h
  obtain ⟨c, rest, hrest⟩ := List.exists_cons_of_ne_nil hne
  refine ⟨name.takeWhile isWordChar, c, rest, ?_, ⟨?_, fun d hd => List.mem_takeWhile_imp hd⟩, ?_⟩
  · rw [← hrest, List.takeWhile_append_dropWhile]
  · obtain ⟨d, hd, hword⟩ := hhead
    cases name with
    | nil => cases hd
    | cons d' more =>
      obtain rfl : d' = d := by simpa using hd
      simp [hword]
  · exact head?_dropWhile_false c (by rw [hrest]; rfl)

/-- Reading stops at a character of the name that is no word character. -/
theorem scan?_of_not_isWordChar {p : Parts} (h : p.Printable)
    (hname : p.name.all isWordChar = false) : scan? p.line = none := by
  obtain ⟨word, c, rest, hsplit, hword, hc⟩ := exists_stop h.head hname
  have hblank : isBlank c = false := h.chars c (by simp [hsplit])
  rw [Parts.line, hsplit, List.append_assoc, List.cons_append]
  exact scan?_of_stop h.type hword hc hblank

/-- The line of a column whose name is no word is left out. -/
theorem printable_of_not_isReadable {a : Attribute} (h : a.parts.Printable)
    (hname : a.isReadable = false) : a.Printable where
  parts := h
  read := by
    have hscan := scan?_of_not_isWordChar h hname
    rw [ofLine?, line_eq, String.toList_ofList, hscan, hname]
    split <;> rfl

/-- A column keeps its place whatever it is called, as long as the name has no blanks and begins
with a word character. -/
theorem Parts.Written.printable_rename {p : Parts} (h : p.Written) {name : List Char}
    (hhead : ∃ c ∈ name.head?, isWordChar c = true) (hchars : ∀ c ∈ name, isBlank c = false) :
    Printable { p with name := name } where
  type := h.type
  head := hhead
  chars := hchars
  trimmed := h.trimmed
  newline := by
    have hnewline := h.newline
    have hnew : '\n' ∉ name := fun hmem => absurd (hchars _ hmem) (by decide)
    simp only [line, List.mem_append, not_or] at hnewline ⊢
    exact ⟨hnewline.1, hnewline.2.1, hnew, hnewline.2.2.2⟩

theorem isReadable_rewritten (a : Attribute) (name constraints : String) :
    (a.rewritten name constraints).isReadable = name.toList.all isWordChar := by
  rw [isReadable, rewritten_name]

/-- A renamed column whose new name is no word is left out. -/
theorem Written.printable_renamed {a : Attribute} (h : a.Written) {name : String}
    (hhead : ∃ c ∈ name.toList.head?, isWordChar c = true)
    (hchars : ∀ c ∈ name.toList, isBlank c = false) (hname : name.toList.all isWordChar = false) :
    (a.rewritten name a.constraints).Printable := by
  apply printable_of_not_isReadable
  · rw [Attribute.rewritten, parts_ofParts]
    exact h.parts.printable_rename hhead hchars
  · rw [isReadable_rewritten, hname]

end EntityDiagram.Attribute
