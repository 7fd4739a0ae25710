import EntityDiagram.Wire.Decode
import Mathlib.Data.List.Basic
import Mathlib.Data.List.Zip

/-!
Spellings of keys. Beside its primary spelling a key has a secondary one, with words joined by
underscores instead of by capitals; the two sides of a cardinality are named apart. A document may be
spelled anew with any choice of its keys, at any depth, in their secondary spelling. A value is read
from a document when it is read from each of these spellings. Such readings are put together like the
decoders: from the items of lists and from the fields of objects whose keys share no spelling.
-/
namespace EntityDiagram.Wire

open Checked

def secondarySpelling (key : String) : String :=
  if key = "from" then "from_side"
  else if key = "to" then "to_side"
  else String.ofList (key.toList.flatMap fun c => if c.isUpper then ['_', c.toLower] else [c])

def spelling (secondary : Bool) (key : String) : String :=
  if secondary then secondarySpelling key else key

mutual

/-- The document with the chosen keys in their secondary spelling. A key is chosen by the path that
leads to its value. -/
def respell (chosen : List Step → Bool) : Json → Json
  | .list items => .list (respellItems chosen 0 items)
  | .object members => .object (respellMembers chosen members)
  | doc => doc

def respellItems (chosen : List Step → Bool) (position : Nat) : List Json → List Json
  | [] => []
  | item :: rest =>
    respell (fun path => chosen (.index position :: path)) item
      :: respellItems chosen (position + 1) rest

def respellMembers (chosen : List Step → Bool) : Members → Members
  | [] => []
  | (key, doc) :: rest =>
    (spelling (chosen [.key key]) key, respell (fun path => chosen (.key key :: path)) doc)
      :: respellMembers chosen rest

end

mutual

/-- A document without a chosen key stays as it is. -/
theorem respell_never : (doc : Json) → respell (fun _ => false) doc = doc
  | .list items => by rw [respell, respellItems_never]
  | .object members => by rw [respell, respellMembers_never]
  | .null | .bool _ | .int _ | .decimal _ | .text _ | .brokenText _ => rfl

theorem respellItems_never (position : Nat) :
    (items : List Json) → respellItems (fun _ => false) position items = items
  | [] => rfl
  | item :: rest => by rw [respellItems, respell_never item, respellItems_never _ rest]

theorem respellMembers_never :
    (members : Members) → respellMembers (fun _ => false) members = members
  | [] => rfl
  | (key, doc) :: rest => by
    rw [respellMembers, respell_never doc, respellMembers_never rest]
    rfl

end

theorem respellMembers_eq_map (chosen : List Step → Bool) (members : Members) :
    respellMembers chosen members = members.map fun member =>
      (spelling (chosen [.key member.1]) member.1,
        respell (fun path => chosen (.key member.1 :: path)) member.2) := by
  induction members with
  | nil => rfl
  | cons member rest ih => rw [respellMembers, ih, List.map_cons]

def Apart (a b : String) : Prop :=
  a ≠ b ∧ a ≠ secondarySpelling b ∧ secondarySpelling a ≠ b ∧
    secondarySpelling a ≠ secondarySpelling b

theorem Apart.symm {a b : String} (h : Apart a b) : Apart b a :=
  ⟨h.1.symm, h.2.2.1.symm, h.2.1.symm, h.2.2.2.symm⟩

/-- Whatever is chosen, keys that are apart are spelled differently. -/
theorem Apart.spelling_ne {a b : String} (h : Apart a b) (s t : Bool) :
    spelling s a ≠ spelling t b := by
  obtain ⟨h₁, h₂, h₃, h₄⟩ := h
  cases s <;> cases t <;> assumption

/-- The keys are given with their two spellings, and every spelling belongs to one of them at
most. -/
structure Spelled (keys : List Key) : Prop where
  secondary : ∀ key ∈ keys, key.secondary = secondarySpelling key.primary
  apart : keys.Pairwise fun a b => a.primary ≠ b.primary ∧ a.primary ≠ b.secondary ∧
    a.secondary ≠ b.primary ∧ a.secondary ≠ b.secondary

instance (keys : List Key) : Decidable (Spelled keys) :=
  decidable_of_iff (_ ∧ _) ⟨fun h => ⟨h.1, h.2⟩, fun h => ⟨h.secondary, h.apart⟩⟩

theorem Spelled.pairwise_apart {keys : List Key} (h : Spelled keys) :
    (keys.map (·.primary)).Pairwise Apart := by
  refine List.pairwise_map.mpr (h.apart.imp_of_mem fun {a b} ha hb hab => ?_)
  rwa [h.secondary a ha, h.secondary b hb] at hab

/-- A key that is apart from all others is not found among them. -/
theorem lookup_respellMembers_eq_none {key : String} {members : Members}
    (h : ∀ name ∈ members.map (·.1), Apart key name) (chosen : List Step → Bool)
    (secondary : Bool) : (respellMembers chosen members).lookup (spelling secondary key) = none := by
  rw [respellMembers_eq_map, List.lookup_eq_none_iff]
  intro member hmember
  obtain ⟨original, horiginal, rfl⟩ := List.mem_map.mp hmember
  exact bne_iff_ne.mpr ((h original.1 (List.mem_map_of_mem horiginal)).spelling_ne _ _)

/-- A key is found in the spelling that was chosen for it, and in no other. -/
theorem lookup_respellMembers {members : Members} (hkeys : (members.map (·.1)).Pairwise Apart)
    {key : String} {doc : Json} (h : (key, doc) ∈ members) (chosen : List Step → Bool)
    (secondary : Bool) :
    (respellMembers chosen members).lookup (spelling secondary key) =
      if spelling secondary key = spelling (chosen [.key key]) key then
        some (respell (fun path => chosen (.key key :: path)) doc)
      else none := by
  obtain ⟨before, after, rfl⟩ := List.append_of_mem h
  rw [List.map_append, List.map_cons, List.pairwise_append, List.pairwise_cons] at hkeys
  obtain ⟨-, ⟨hafter, -⟩, hbefore⟩ := hkeys
  have hbefore' := lookup_respellMembers_eq_none
    (fun name hname => (hbefore name hname key List.mem_cons_self).symm) chosen secondary
  have hafter' := lookup_respellMembers_eq_none hafter chosen secondary
  rw [respellMembers_eq_map] at hbefore' hafter' ⊢
  rw [List.map_append, List.map_cons, List.lookup_append, hbefore', Option.none_or,
    List.lookup_cons, hafter']
  by_cases hspelling : spelling secondary key = spelling (chosen [.key key]) key
  · rw [if_pos hspelling, beq_iff_eq.mpr hspelling]
  · rw [if_neg hspelling, beq_eq_false_iff_ne.mpr hspelling]

def Has (members : Members) (key : Key) (doc : Json) : Prop :=
  ∀ chosen, ∃ found, key.find? (respellMembers chosen members) =
    some (found, respell (fun path => chosen (.key key.primary :: path)) doc)

theorem Spelled.has {keys : List Key} {members : Members} (hkeys : Spelled keys)
    (hmembers : (members.map (·.1)).Sublist (keys.map (·.primary))) {key : Key} (hkey : key ∈ keys)
    {doc : Json} (h : (key.primary, doc) ∈ members) : Has members key doc := by
  intro chosen
  have hapart := hkeys.pairwise_apart.sublist hmembers
  have hprimary := lookup_respellMembers hapart h chosen false
  have hsecondary := lookup_respellMembers hapart h chosen true
  rw [spelling, if_neg Bool.false_ne_true] at hprimary
  rw [spelling, if_pos rfl] at hsecondary
  rw [Key.find?, hkeys.secondary key hkey, hprimary, hsecondary]
  cases chosen [.key key.primary] with
  | false => exact ⟨key.primary, by simp [spelling]⟩
  | true =>
    by_cases heq : key.primary = secondarySpelling key.primary
    · exact ⟨key.primary, by simp [spelling, ← heq]⟩
    · exact ⟨secondarySpelling key.primary, by simp [spelling, heq]⟩

/-- Members that are listed like their keys all have their documents. -/
theorem Spelled.forall_has {keys listed : List Key} {members shown : Members} (hkeys : Spelled keys)
    (hmembers : (members.map (·.1)).Sublist (keys.map (·.primary))) (hlisted : listed ⊆ keys)
    (hshown : shown ⊆ members) (hnames : shown.map (·.1) = listed.map (·.primary)) :
    (listed.zip shown).Forall fun field => Has members field.1 field.2.2 := by
  refine List.forall_iff_forall_mem.mpr fun field hfield => ?_
  obtain ⟨position, hposition⟩ := List.getElem?_of_mem hfield
  obtain ⟨hkey, hmember⟩ := List.getElem?_zip_eq_some.mp hposition
  have hname : field.2.1 = field.1.primary := by
    have hposition' := congrArg (·[position]?) hnames
    simpa [hkey, hmember] using hposition'
  refine hkeys.has hmembers (hlisted (List.mem_of_getElem? hkey)) ?_
  rw [← hname]
  exact hshown (List.mem_of_getElem? hmember)

section Reads

variable {α β : Type} {members : Members}

def Reads (decode : Json → Checked α) (doc : Json) (value : α) : Prop :=
  ∀ chosen, decode (respell chosen doc) = accepted value

def ReadsMembers (decode : Members → Checked α) (members : Members) (value : α) : Prop :=
  ∀ chosen, decode (respellMembers chosen members) = accepted value

theorem reads_text (value : String) : Reads text (.text value) value := fun _ => rfl

theorem reads_flag (value : Bool) : Reads flag (.bool value) value := fun _ => rfl

theorem reads_integer (value : Int) : Reads integer (.int value) value := fun _ => rfl

theorem reads_number (value : Decimal) : Reads number (.decimal value) value := fun _ => rfl

theorem reads_ofText? (value : Option String) : Reads (nullable text) (.ofText? value) value := by
  cases value <;> exact fun _ => rfl

/-- Where labels differ, a value is found by its label. -/
theorem find?_label {all : List α} {label : α → String} (hlabels : (all.map label).Nodup) {a : α}
    (h : a ∈ all) : all.find? (fun b => label b = label a) = some a := by
  obtain ⟨before, after, rfl⟩ := List.append_of_mem h
  rw [List.map_append, List.map_cons, List.nodup_append] at hlabels
  refine List.find?_eq_some_iff_append.mpr ⟨by simp, before, after, rfl, fun b hb => ?_⟩
  have hne : label b ≠ label a := hlabels.2.2 _ (List.mem_map_of_mem hb) _ List.mem_cons_self
  simpa using hne

/-- A value of an enumeration is read from its label. -/
theorem reads_oneOf {all : List α} {label : α → String} (hlabels : (all.map label).Nodup) {a : α}
    (h : a ∈ all) : Reads (oneOf all label) (.text (label a)) a := by
  intro chosen
  rw [respell, oneOf, find?_label hlabels h] <;> simp

theorem itemsFrom_respellItems {decode : Json → Checked α} {encode : α → Json}
    (h : ∀ a, Reads decode (encode a) a) (values : List α) (chosen : List Step → Bool)
    (position : Nat) :
    itemsFrom decode position (respellItems chosen position (values.map encode)) =
      accepted values := by
  induction values generalizing position with
  | nil => rfl
  | cons value rest ih =>
    rw [List.map_cons, respellItems, itemsFrom, h value, ih]
    rfl

theorem reads_list {decode : Json → Checked α} {encode : α → Json}
    (h : ∀ a, Reads decode (encode a) a) (values : List α) :
    Reads (list decode) (.list (values.map encode)) values := by
  intro chosen
  rw [respell]
  exact itemsFrom_respellItems h values chosen 0

theorem reads_ofTexts (values : List String) : Reads (list text) (.ofTexts values) values :=
  reads_list reads_text values

theorem reads_ofTexts? (values : Option (List String)) :
    Reads (nullable (list text)) ((values.map Json.ofTexts).getD .null) values := by
  cases values with
  | none => exact fun _ => rfl
  | some values => exact fun chosen => congrArg (Checked.map some) (reads_ofTexts values chosen)

namespace ReadsMembers

theorem pure (value : α) : ReadsMembers (fun _ => Pure.pure value) members value := fun _ => rfl

theorem map {decode : Members → Checked α} {value : α} (f : α → β)
    (h : ReadsMembers decode members value) :
    ReadsMembers (fun o => f <$> decode o) members (f value) :=
  fun chosen => congrArg (Checked.map f) (h chosen)

theorem app {decodeFun : Members → Checked (α → β)} {decode : Members → Checked α} {f : α → β}
    {value : α} (hf : ReadsMembers decodeFun members f) (h : ReadsMembers decode members value) :
    ReadsMembers (fun o => decodeFun o <*> decode o) members (f value) :=
  fun chosen => congrArg₂ Checked.app (hf chosen) (h chosen)

end ReadsMembers

theorem reads_record {decode : Members → Checked α} {value : α}
    (h : ReadsMembers decode members value) : Reads (record decode) (.object members) value := by
  intro chosen
  rw [respell]
  exact h chosen

/-- A record is read from its fields, each of which has its document. -/
theorem reads_fields {decode : Members → Checked α} {value : α} {keys : List Key}
    (hkeys : Spelled keys) (hmembers : members.map (·.1) = keys.map (·.primary))
    (h : ((keys.zip members).Forall fun field => Has members field.1 field.2.2) →
      ReadsMembers decode members value) : Reads (record decode) (.object members) value :=
  reads_record (h (hkeys.forall_has (hmembers ▸ .refl _) (List.Subset.refl _) (List.Subset.refl _)
    hmembers))

variable {decode : Json → Checked α} {value : α} {key : Key} {doc : Json}

theorem Has.field (hfield : Has members key doc) (h : Reads decode doc value) :
    ReadsMembers (field key decode) members value := by
  intro chosen
  obtain ⟨found, hfound⟩ := hfield chosen
  rw [Wire.field, hfound]
  exact congrArg (under _) (h _)

theorem Has.fieldOr {default : α} (hfield : Has members key doc) (h : Reads decode doc value) :
    ReadsMembers (fieldOr key default decode) members value := by
  intro chosen
  obtain ⟨found, hfound⟩ := hfield chosen
  rw [Wire.fieldOr, hfound]
  exact congrArg (under _) (h _)

end Reads

end EntityDiagram.Wire
