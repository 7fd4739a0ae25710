import EntityDiagram.Json

/-!
Faults of documents that do not fit a type. Every fault has a cause and the path to the place in
the document. Reading a document collects all of its faults, in the order of the fields.
-/
namespace EntityDiagram.Wire

inductive Step where
  | key (name : String)
  | index (position : Nat)
  deriving DecidableEq, Repr

inductive Cause where
  | missing
  | notText
  | brokenText
  | tooShort
  | patternMismatch (pattern : String)
  | notOneOf (labels : List String)
  | notLiteral (label : String)
  | notList
  | notDictionary
  | notObject
  | noTag
  | unknownTag (tag : String) (expected : List String)
  | notFlag
  | unreadableFlag
  | notInteger
  | unreadableInteger
  | oversizedInteger
  | fractionalInteger
  | notFinite
  | notNumber
  | unreadableNumber
  | malformedDocument
  deriving DecidableEq, Repr

namespace Cause

def code : Cause → String
  | missing => "missing"
  | notText => "string_type"
  | brokenText => "string_unicode"
  | tooShort => "string_too_short"
  | patternMismatch _ => "string_pattern_mismatch"
  | notOneOf _ => "enum"
  | notLiteral _ => "literal_error"
  | notList => "list_type"
  | notDictionary => "dict_type"
  | notObject => "model_attributes_type"
  | noTag => "union_tag_not_found"
  | unknownTag _ _ => "union_tag_invalid"
  | notFlag => "bool_type"
  | unreadableFlag => "bool_parsing"
  | notInteger => "int_type"
  | unreadableInteger => "int_parsing"
  | oversizedInteger => "int_parsing_size"
  | fractionalInteger => "int_from_float"
  | notFinite => "finite_number"
  | notNumber => "float_type"
  | unreadableNumber => "float_parsing"
  | malformedDocument => "json_invalid"

def inQuotes (label : String) : String := s!"'{label}'"

def alternatives (labels : List String) : String :=
  match (labels.map inQuotes).reverse with
  | [] => ""
  | [only] => only
  | last :: others => String.intercalate ", " others.reverse ++ " or " ++ last

def message : Cause → String
  | missing => "Field required"
  | notText => "Input should be a valid string"
  | brokenText =>
    "Input should be a valid string, unable to parse raw data as a unicode string"
  | tooShort => "String should have at least 1 character"
  | patternMismatch pattern => s!"String should match pattern '{pattern}'"
  | notOneOf labels => s!"Input should be {alternatives labels}"
  | notLiteral label => s!"Input should be {inQuotes label}"
  | notList => "Input should be a valid list"
  | notDictionary => "Input should be a valid dictionary"
  | notObject => "Input should be a valid dictionary or object to extract fields from"
  | noTag => "Unable to extract tag using discriminator 'type'"
  | unknownTag tag expected =>
    let listed := String.intercalate ", " (expected.map inQuotes)
    s!"Input tag '{tag}' found using 'type' does not match any of the expected tags: {listed}"
  | notFlag => "Input should be a valid boolean"
  | unreadableFlag => "Input should be a valid boolean, unable to interpret input"
  | notInteger => "Input should be a valid integer"
  | unreadableInteger =>
    "Input should be a valid integer, unable to parse string as an integer"
  | oversizedInteger => "Unable to parse input string as an integer, exceeded maximum size"
  | fractionalInteger =>
    "Input should be a valid integer, got a number with a fractional part"
  | notFinite => "Input should be a finite number"
  | notNumber => "Input should be a valid number"
  | unreadableNumber => "Input should be a valid number, unable to parse string as a number"
  | malformedDocument => "JSON decode error"

end Cause

structure Fault where
  cause : Cause
  path : List Step := []
  deriving DecidableEq, Repr

def Fault.under (step : Step) (f : Fault) : Fault := { f with path := step :: f.path }

/-- The part of a document that a path leads to, or leads to last before it leaves the document. -/
def innermost (doc : Json) : List Step → Json
  | [] => doc
  | .key name :: rest => match doc.member? name with
    | some inner => innermost inner rest
    | none => doc
  | .index position :: rest => match doc with
    | .list items => match items[position]? with
      | some inner => innermost inner rest
      | none => doc
    | _ => doc

inductive Checked (α : Type) where
  | accepted (value : α)
  | rejected (faults : List Fault)
  deriving DecidableEq, Repr

namespace Checked

def fault {α : Type} (cause : Cause) : Checked α := rejected [⟨cause, []⟩]

def map {α β : Type} (f : α → β) : Checked α → Checked β
  | accepted value => accepted (f value)
  | rejected faults => rejected faults

def app {α β : Type} : Checked (α → β) → Checked α → Checked β
  | accepted f, accepted value => accepted (f value)
  | accepted _, rejected faults => rejected faults
  | rejected faults, accepted _ => rejected faults
  | rejected faults, rejected others => rejected (faults ++ others)

instance : Applicative Checked where
  pure := accepted
  map := map
  seq f value := app f (value ())

def under {α : Type} (step : Step) : Checked α → Checked α
  | accepted value => accepted value
  | rejected faults => rejected (faults.map (Fault.under step))

end Checked

end EntityDiagram.Wire
