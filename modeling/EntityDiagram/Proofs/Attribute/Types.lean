import EntityDiagram.Proofs.Attribute.Grammar

/-!
Types of columns. The type of an attribute line is a word or a keyword with an argument in
parentheses, and `ColumnType.ofToken` looks for the same keywords on its own. The two agree on every
type that the grammar finds, so a column carries options exactly when it is a choice and a target
exactly when it is a lookup, and both are written with a parenthesis. The name of a column refines
the generic types only, and refining a type twice is the same as refining it once.
-/
namespace EntityDiagram

open Text

namespace SemanticType

theorem refine_of_ne {type : SemanticType} (hstring : type ≠ .string) (hdate : type ≠ .dateTime)
    (column : String) : type.refine column = type := by
  cases type with
  | string => exact absurd rfl hstring
  | dateTime => exact absurd rfl hdate
  | _ => rfl

theorem refine_string_mem (column : String) :
    string.refine column ∈ [string, email, phone, url] := by
  have hhints : ∀ hint ∈ stringHints, hint.2 ∈ [string, email, phone, url] := by decide
  simp only [refine]
  split
  · next hint hfind => exact hhints hint (List.mem_of_find?_eq_some hfind)
  · decide

theorem refine_dateTime_mem (column : String) :
    dateTime.refine column ∈ [dateTime, dateOnly] := by
  simp only [refine]
  split
  · decide
  · decide

def IsUnhinted (type : SemanticType) : Prop :=
  type ∉ [string, email, phone, url] ∧ type ∉ [dateTime, dateOnly]

theorem refine_eq_iff {target : SemanticType} (h : target.IsUnhinted) (type : SemanticType)
    (column : String) : type.refine column = target ↔ type = target := by
  obtain ⟨hstring, hdate⟩ := h
  cases type with
  | string =>
    constructor
    · rintro rfl
      exact absurd (refine_string_mem column) hstring
    · rintro rfl
      exact absurd (by decide) hstring
  | dateTime =>
    constructor
    · rintro rfl
      exact absurd (refine_dateTime_mem column) hdate
    · rintro rfl
      exact absurd (by decide) hdate
  | _ => rfl

/-- The name of a column says the same again. -/
theorem refine_refine (type : SemanticType) (column : String) :
    (type.refine column).refine column = type.refine column := by
  by_cases hsame : type.refine column = type
  · rw [hsame, hsame]
  -- a type that changes is generic, and what it changes to is not
  · cases type with
    | string =>
      have hmem := refine_string_mem column
      refine refine_of_ne hsame ?_ column
      intro hdate
      rw [hdate] at hmem
      exact absurd hmem (by decide)
    | dateTime =>
      have hmem := refine_dateTime_mem column
      refine refine_of_ne ?_ hsame column
      intro hstring
      rw [hstring] at hmem
      exact absurd hmem (by decide)
    | _ => exact absurd rfl hsame

end SemanticType

namespace ColumnType

def call (keyword : String) (argument : List Char) : List Char :=
  keyword.toList ++ '(' :: argument ++ [')']

inductive Denotes : List Char → ColumnType → Prop
  | word {cs : List Char} {type : SemanticType} (h : IsWord cs) (hchoice : type ≠ .choice)
      (hlookup : type ≠ .lookup) : Denotes cs (.plain type)
  | choice {argument : List Char} (hclosing : ')' ∉ argument) :
      Denotes (call "choice" argument)
        (.choice ((splitChars ',' argument).map fun option => String.ofList (trimChars option)))
  | lookup {argument : List Char} (hclosing : ')' ∉ argument) :
      Denotes (call "lookup" argument) (.lookup (String.ofList (trimChars argument)))

theorem call_eq (keyword : String) (argument : List Char) :
    call keyword argument = (keyword.toList ++ ['(']) ++ (argument ++ [')']) := by
  simp [call]

/-- A call has the argument that stands between its parentheses. -/
theorem argument?_call (keyword : String) {argument : List Char} (hne : argument ≠ [])
    (hclosing : ')' ∉ argument) : argument? keyword (call keyword argument) = some argument := by
  have hstart : (keyword.toList ++ ['(']).isPrefixOf (call keyword argument) = true := by
    rw [call_eq, List.isPrefixOf_iff_prefix]
    exact List.prefix_append _ _
  have hrun := run?_append (p := (· ≠ ')')) hne
    (fun c hc => decide_eq_true fun heq => hclosing (heq ▸ hc)) [')'] (by simp)
  unfold argument?
  simp only [hstart, if_true]
  rw [call_eq, List.drop_left, hrun]
  rfl

/-- A token that does not begin with the keyword and a parenthesis is no call of it. -/
theorem argument?_eq_none {keyword : String} {token : List Char}
    (h : ¬ keyword.toList ++ ['('] <+: token) : argument? keyword token = none := by
  unfold argument?
  simp only [List.isPrefixOf_iff_prefix, h, if_false]

theorem argument?_word {token : List Char} (h : IsWord token) (keyword : String) :
    argument? keyword token = none := by
  apply argument?_eq_none
  intro hstart
  exact h.not_mem (c := '(') (by decide) (hstart.subset (by simp))

/-- No word stands for a type that is written with an argument. -/
theorem words_facts (token : String) :
    (words.lookup token).getD .string ≠ .choice ∧ (words.lookup token).getD .string ≠ .lookup := by
  have hwords : ∀ entry ∈ words, entry.2 ≠ .choice ∧ entry.2 ≠ .lookup := by decide
  cases hlookup : words.lookup token with
  | none => decide
  | some type =>
    obtain ⟨before, after, hsplit, -⟩ := List.lookup_eq_some_iff.mp hlookup
    exact hwords (token, type) (by simp [hsplit])

/-- Every type that the grammar finds is understood as what it denotes. -/
theorem denotes_ofToken {token : List Char} (h : Attribute.TypeToken token) :
    Denotes token (ofToken (String.ofList token)) := by
  unfold ofToken
  rw [String.toList_ofList]
  cases h with
  | word h =>
    rw [argument?_word h, argument?_word h]
    obtain ⟨hchoice, hlookup⟩ := words_facts (lower (String.ofList token))
    exact .word h hchoice hlookup
  | @call _ argument hkeyword hne hclosing =>
    rcases hkeyword with rfl | rfl
    · have hchoice := argument?_call "choice" hne hclosing
      rw [call] at hchoice
      rw [hchoice]
      exact .choice hclosing
    · have hchoice : argument? "choice" (call "lookup" argument) = none :=
        argument?_eq_none (by simp [call])
      have hlookup := argument?_call "lookup" hne hclosing
      rw [call] at hchoice hlookup
      rw [hchoice, hlookup]
      exact .lookup hclosing

variable {token : List Char} {type : ColumnType}

theorem semantic_refine (type : ColumnType) (column : String) :
    (type.refine column).semantic = type.semantic.refine column := by
  cases type <;> rfl

/-- Only types without an argument are refined. -/
theorem options?_refine (type : ColumnType) (column : String) :
    (type.refine column).options? = type.options? := by
  cases type <;> rfl

theorem target?_refine (type : ColumnType) (column : String) :
    (type.refine column).target? = type.target? := by
  cases type <;> rfl

/-- A type carries what its kind asks for, and the kinds with an argument have a parenthesis. -/
theorem Denotes.facts (h : Denotes token type) :
    (type.options?.isSome = true ↔ type.semantic = .choice) ∧
      (type.target?.isSome = true ↔ type.semantic = .lookup) ∧
      (type.semantic = .choice ∨ type.semantic = .lookup ↔ '(' ∈ token) := by
  cases h with
  | word h hchoice hlookup =>
    have hparen : '(' ∉ token := h.not_mem (by decide)
    simp [options?, target?, semantic, hchoice, hlookup, hparen]
  | choice => simp [options?, target?, semantic, call]
  | lookup => simp [options?, target?, semantic, call]

/-- The options of a choice are trimmed, and what separates and ends them is in none of them. -/
theorem Denotes.options_facts (h : Denotes token type) {options : List String}
    (hoptions : type.options? = some options) :
    options ≠ [] ∧ ∀ option ∈ options,
      trim option = option ∧ ',' ∉ option.toList ∧ ')' ∉ option.toList := by
  cases h with
  | word => cases hoptions
  | lookup => cases hoptions
  | @choice argument hclosing =>
    obtain rfl := Option.some.inj hoptions
    refine ⟨by simp [splitChars_ne_nil], ?_⟩
    intro option hoption
    obtain ⟨piece, hpiece, rfl⟩ := List.mem_map.mp hoption
    have hchars : ∀ c ∈ trimChars piece, c ∈ argument ∧ c ≠ ',' :=
      fun c hc => mem_of_mem_splitChars hpiece c (mem_of_mem_trimChars hc)
    rw [trim, String.toList_ofList, trimChars_of_trimmed (trimmed_trimChars piece)]
    exact ⟨rfl, fun hmem => (hchars _ hmem).2 rfl, fun hmem => hclosing (hchars _ hmem).1⟩

end ColumnType

namespace Attribute

def statedType (a : Attribute) : SemanticType := (ColumnType.ofToken a.typeToken).semantic

/-- The type of a column, what the column carries with it, its type token and its name agree. -/
structure Coherent (a : Attribute) : Prop where
  options_iff : a.choiceOptions.isSome = true ↔ a.type = .choice
  target_iff : a.targetEntity.isSome = true ↔ a.type = .lookup
  call_iff : a.type = .choice ∨ a.type = .lookup ↔ '(' ∈ a.typeToken.toList
  options : ∀ options, a.choiceOptions = some options → options ≠ [] ∧ ∀ option ∈ options,
    trim option = option ∧ ',' ∉ option.toList ∧ ')' ∉ option.toList
  /-- A type that is not generic stays, whatever the column is called. -/
  explicit : a.statedType ≠ .string → a.statedType ≠ .dateTime →
    a.type = a.statedType ∧
      ∀ column, (ColumnType.resolve a.typeToken column).semantic = a.statedType
  string : a.statedType = .string → a.type ∈ [.string, .email, .phone, .url]
  dateTime : a.statedType = .dateTime → a.type ∈ [.dateTime, .dateOnly]
  /-- The name of the column has nothing more to say about its type. -/
  settled : a.type.refine a.name = a.type

theorem coherent_ofParts {p : Parts} (h : TypeToken p.type) : (ofParts p).Coherent := by
  have hdenotes := ColumnType.denotes_ofToken h
  obtain ⟨hoptions, htarget, hcall⟩ := hdenotes.facts
  have htype : (ofParts p).type = (ofParts p).statedType.refine (ofParts p).name :=
    ColumnType.semantic_refine _ _
  have hchoices : (ofParts p).choiceOptions = (ColumnType.ofToken (String.ofList p.type)).options? :=
    ColumnType.options?_refine _ _
  have htargets : (ofParts p).targetEntity = (ColumnType.ofToken (String.ofList p.type)).target? :=
    ColumnType.target?_refine _ _
  have htoken : (ofParts p).typeToken.toList = p.type := String.toList_ofList
  have hchoice : SemanticType.choice.IsUnhinted := ⟨by decide, by decide⟩
  have hlookup : SemanticType.lookup.IsUnhinted := ⟨by decide, by decide⟩
  constructor
  · rw [hchoices, htype, SemanticType.refine_eq_iff hchoice]
    exact hoptions
  · rw [htargets, htype, SemanticType.refine_eq_iff hlookup]
    exact htarget
  · rw [htype, SemanticType.refine_eq_iff hchoice, SemanticType.refine_eq_iff hlookup, htoken]
    exact hcall
  · intro options hsome
    exact hdenotes.options_facts (hchoices.symm.trans hsome)
  · intro hstring hdate
    refine ⟨htype.trans (SemanticType.refine_of_ne hstring hdate _), fun column => ?_⟩
    rw [ColumnType.resolve, ColumnType.semantic_refine]
    exact SemanticType.refine_of_ne hstring hdate column
  · intro hstring
    rw [htype, hstring]
    exact SemanticType.refine_string_mem _
  · intro hdate
    rw [htype, hdate]
    exact SemanticType.refine_dateTime_mem _
  · rw [htype, SemanticType.refine_refine]

/-- The type at the start of an attribute line is one of the grammar, also when blanks end the
line. -/
theorem typeToken_of_scan? {line : List Char} {p : Parts} (h : scan? line = some p) :
    TypeToken p.type := by
  obtain ⟨⟨type, _⟩, htype, h⟩ := Option.bind_eq_some_iff.mp h
  obtain ⟨_, -, h⟩ := Option.bind_eq_some_iff.mp h
  obtain ⟨_, -, h⟩ := Option.bind_eq_some_iff.mp h
  obtain ⟨_, -, h⟩ := Option.bind_eq_some_iff.mp h
  obtain rfl := Option.some.inj h
  exact (typeToken_of_scanType? htype).2

end Attribute

/-- The type of every attribute line is coherent: what the column carries, what its token says and
what its name adds. -/
theorem attribute_types_are_coherent {line : String} {a : Attribute}
    (h : Attribute.ofLine? line = some a) : a.Coherent := by
  unfold Attribute.ofLine? at h
  split at h
  · cases h
  · obtain ⟨p, hscan, rfl⟩ := Option.map_eq_some_iff.mp h
    exact Attribute.coherent_ofParts (Attribute.typeToken_of_scan? hscan)

/-- A choice whose options hold blanks and a parenthesis, under a name that speaks of a type. -/
def contactLine : String := "choice( by mail,(e-mail ,, none) email_link NOT NULL"

theorem attribute_types_are_coherent_contact :
    ∃ a, Attribute.ofLine? contactLine = some a ∧
      a.choiceOptions = some ["by mail", "(e-mail", "", "none"] ∧ a.Coherent := by
  obtain ⟨a, ha⟩ : ∃ a, Attribute.ofLine? contactLine = some a :=
    Option.isSome_iff_exists.mp (by decide)
  have hoptions : (Attribute.ofLine? contactLine).bind (·.choiceOptions) =
      some ["by mail", "(e-mail", "", "none"] := by decide
  rw [ha] at hoptions
  exact ⟨a, ha, hoptions, attribute_types_are_coherent ha⟩

end EntityDiagram
