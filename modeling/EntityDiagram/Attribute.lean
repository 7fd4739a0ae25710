import EntityDiagram.ColumnType
import EntityDiagram.Relationship

/-!
Attributes, the columns of an entity, written as

    TYPE NAME CONSTRAINTS "DESCRIPTION"

where constraints and description are optional. The type is a word, or `choice` or `lookup` with an
argument in parentheses. A line that looks like a relationship is never an attribute. Constraints
are free text, in which the key marks and `NOT NULL` are looked for anywhere.
-/
namespace EntityDiagram

structure Attribute where
  name : String
  displayName : String
  typeToken : String
  type : SemanticType := .string
  constraints : String := ""
  description : Option String := none
  isPrimaryKey : Bool := false
  isForeignKey : Bool := false
  isUnique : Bool := false
  isRequired : Bool := false
  choiceOptions : Option (List String) := none
  targetEntity : Option String := none
  deriving DecidableEq, Repr

namespace Attribute

structure Parts where
  type : List Char
  name : List Char
  constraints : List Char
  description : Option (List Char)
  deriving DecidableEq, Repr

def scanType? (line : List Char) : Option (List Char × List Char) := do
  let (word, rest) ← Text.run? Text.isWordChar line
  match rest with
  | '(' :: inner =>
    if word = "choice".toList || word = "lookup".toList then
      match Text.run? (· ≠ ')') inner with
      | some (argument, ')' :: after) => some (word ++ '(' :: argument ++ [')'], after)
      | _ => none
    else none
  | _ => some (word, rest)

def startsBlank (cs : List Char) : Bool := cs.head?.any Text.isBlank

def endsBlank (cs : List Char) : Bool := cs.getLast?.any Text.isBlank

/-- Constraints and description after the name of a column. Each begins after a blank, and the
description stands in double quotes at the end. -/
def scanTail? (cs : List Char) : Option (List Char × Option (List Char)) :=
  let before := cs.takeWhile (· ≠ '\x22')
  match cs.dropWhile (· ≠ '\x22') with
  | [] =>
    if Text.atEnd cs || (startsBlank cs && 2 ≤ cs.length) then some (Text.trimChars cs, none)
    else none
  | _ :: rest =>
    match rest.dropWhile (· ≠ '\x22') with
    | _ :: after =>
      if startsBlank before && endsBlank before && Text.atEnd after then
        some (Text.trimChars before, some (rest.takeWhile (· ≠ '\x22')))
      else none
    | [] => none

def scan? (line : List Char) : Option Parts := do
  let (type, rest) ← scanType? line
  let (_, rest) ← Text.run? Text.isBlank rest
  let (name, rest) ← Text.run? Text.isWordChar rest
  let (constraints, description) ← scanTail? rest
  return ⟨type, name, constraints, description⟩

def ofParts (parts : Parts) : Attribute :=
  let typeToken := String.ofList parts.type
  let name := String.ofList parts.name
  let constraints := String.ofList parts.constraints
  let type := ColumnType.resolve typeToken name
  let isPrimaryKey := Text.contains constraints "PK"
  { name
    displayName := Text.displayName name
    typeToken
    type := type.semantic
    constraints
    description := parts.description.map String.ofList
    isPrimaryKey
    isForeignKey := Text.contains constraints "FK"
    isUnique := Text.contains constraints "UK"
    isRequired := Text.contains constraints "NOT NULL" || isPrimaryKey
    choiceOptions := type.options?
    targetEntity := type.target? }

def ofLine? (line : String) : Option Attribute :=
  if Relationship.isShaped line then none else (scan? line.toList).map ofParts

def lineText (type name constraints : String) (description : Option String) : String :=
  let column := s!"{type} {name}"
  let column := if constraints = "" then column else s!"{column} {constraints}"
  match description with
  | some text => s!"{column} \"{text}\""
  | none => column

end Attribute

end EntityDiagram
