import EntityDiagram.Attribute
import EntityDiagram.Line

/-!
Diagrams: the entities and relationships of a text. An entity block gives an entity with the
attributes that its body lines describe, and a relationship line outside of every block gives a
relationship. Lines that fit no grammar are left out. An entity that is declared again replaces
the earlier one and keeps its place.

A diagram is built line by line, where the entity of a body line is looked up among those that are
declared. It is also put together from whole blocks, which needs no lookup.
-/
namespace EntityDiagram

structure Entity where
  name : String
  displayName : String
  attributes : List Attribute := []
  deriving DecidableEq, Repr

namespace Entity

def primaryKeys (e : Entity) : List Attribute := e.attributes.filter (·.isPrimaryKey)

def isJunctionTable (e : Entity) : Bool :=
  1 < e.primaryKeys.length && 1 < (e.primaryKeys.filter (·.isForeignKey)).length

def ofBlock (name : String) (body : List String) : Entity :=
  ⟨name, Text.displayName name, body.filterMap Attribute.ofLine?⟩

/-- Adds an entity at the end, or in the place of the one with its name. -/
def declare (e : Entity) : List Entity → List Entity
  | [] => [e]
  | f :: rest => if f.name = e.name then e :: rest else f :: declare e rest

def extend? (name : String) (a : Attribute) : List Entity → Option (List Entity)
  | [] => none
  | e :: rest =>
    if e.name = name then some ({ e with attributes := e.attributes ++ [a] } :: rest)
    else (extend? name a rest).map (e :: ·)

end Entity

structure Diagram where
  entities : List Entity
  relationships : List Relationship
  deriving DecidableEq, Repr

inductive BuildError where
  | namelessHeader
  | undeclared (entity : Option String)
  deriving DecidableEq, Repr

namespace Diagram

def addColumn (d : Diagram) (owner : Option String) (a : Attribute) : Except BuildError Diagram :=
  match owner.bind fun name => Entity.extend? name a d.entities with
  | some entities => .ok { d with entities }
  | none => .error (.undeclared owner)

def addLine (d : Diagram) (line : ClassifiedLine) : Except BuildError Diagram :=
  match line.kind with
  | .entityOpen =>
    match line.entity with
    | some name => .ok { d with entities := (Entity.ofBlock name []).declare d.entities }
    | none => .error .namelessHeader
  | .entityClose => .ok d
  | .entityBody =>
    match Attribute.ofLine? line.text with
    | some a => d.addColumn line.entity a
    | none => .ok d
  | .topLevel =>
    match Relationship.ofLine? line.text with
    | some q => .ok { d with relationships := d.relationships ++ [q] }
    | none => .ok d

def addLines (d : Diagram) (lines : List ClassifiedLine) : Except BuildError Diagram :=
  lines.foldlM addLine d

def build (text : String) : Except BuildError Diagram :=
  addLines ⟨[], []⟩ (ClassifiedDocument.ofText text).lines

def leadingBody : List Line → List String
  | .body text _ :: rest => text :: leadingBody rest
  | _ => []

def blocks : List Line → List (String × List String)
  | [] => []
  | .opening _ name :: rest => (name, leadingBody rest) :: blocks rest
  | _ :: rest => blocks rest

def relationshipOf? : Line → Option Relationship
  | .topLevel text => Relationship.ofLine? text
  | _ => none

def ofLines (lines : List Line) : Diagram where
  entities :=
    (blocks lines).foldl
      (fun entities block => (Entity.ofBlock block.1 block.2).declare entities) []
  relationships := lines.filterMap relationshipOf?

def ofText (text : String) : Diagram := ofLines (Document.ofText text).lines

end Diagram

end EntityDiagram
