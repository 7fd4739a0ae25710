import EntityDiagram.Diagram
import EntityDiagram.Wire.Decode

/-!
Diagrams as JSON documents: attributes, entities, cardinalities and relationships.
-/
namespace EntityDiagram

open Wire

namespace Attribute

def encode (a : Attribute) : Json :=
  .object
    [("name", .text a.name), ("displayName", .text a.displayName),
     ("originalType", .text a.typeToken), ("type", .text a.type.label),
     ("constraints", .text a.constraints), ("description", .ofText? a.description),
     ("isPrimaryKey", .bool a.isPrimaryKey), ("isForeignKey", .bool a.isForeignKey),
     ("isUnique", .bool a.isUnique), ("isRequired", .bool a.isRequired),
     ("choiceOptions", (a.choiceOptions.map Json.ofTexts).getD .null),
     ("targetEntity", .ofText? a.targetEntity)]

def decode : Json → Checked Attribute := record fun o =>
  mk <$> field (.plain "name") text o
    <*> field ⟨"displayName", "display_name"⟩ text o
    <*> field ⟨"originalType", "original_type"⟩ text o
    <*> fieldOr (.plain "type") .string (oneOf SemanticType.all SemanticType.label) o
    <*> fieldOr (.plain "constraints") "" text o
    <*> fieldOr (.plain "description") none (nullable text) o
    <*> fieldOr ⟨"isPrimaryKey", "is_primary_key"⟩ false flag o
    <*> fieldOr ⟨"isForeignKey", "is_foreign_key"⟩ false flag o
    <*> fieldOr ⟨"isUnique", "is_unique"⟩ false flag o
    <*> fieldOr ⟨"isRequired", "is_required"⟩ false flag o
    <*> fieldOr ⟨"choiceOptions", "choice_options"⟩ none (nullable (list text)) o
    <*> fieldOr ⟨"targetEntity", "target_entity"⟩ none (nullable text) o

end Attribute

namespace Entity

def encode (e : Entity) : Json :=
  .object
    [("name", .text e.name), ("displayName", .text e.displayName),
     ("attributes", .list (e.attributes.map Attribute.encode))]

def decode : Json → Checked Entity := record fun o =>
  mk <$> field (.plain "name") text o
    <*> field ⟨"displayName", "display_name"⟩ text o
    <*> fieldOr (.plain "attributes") [] (list Attribute.decode) o

end Entity

namespace Cardinality

def encode (c : Cardinality) : Json :=
  .object [("kind", .text c.kind.label), ("from", .text c.fromSide), ("to", .text c.toSide)]

def decode : Json → Checked Cardinality := record fun o =>
  mk <$> field (.plain "kind") (oneOf CardinalityKind.all CardinalityKind.label) o
    <*> field ⟨"from", "from_side"⟩ text o
    <*> field ⟨"to", "to_side"⟩ text o

end Cardinality

namespace Relationship

def encode (r : Relationship) : Json :=
  .object
    [("fromEntity", .text r.fromEntity), ("toEntity", .text r.toEntity),
     ("cardinality", r.cardinality.encode), ("name", .text r.name),
     ("displayName", .text r.displayName), ("symbols", .text r.symbols),
     ("label", .ofText? r.label)]

def decode : Json → Checked Relationship := record fun o =>
  mk <$> field ⟨"fromEntity", "from_entity"⟩ text o
    <*> field ⟨"toEntity", "to_entity"⟩ text o
    <*> field (.plain "cardinality") Cardinality.decode o
    <*> field (.plain "name") text o
    <*> field ⟨"displayName", "display_name"⟩ text o
    <*> field (.plain "symbols") text o
    <*> fieldOr (.plain "label") none (nullable text) o

end Relationship

def Diagram.encode (d : Diagram) : Json :=
  .object
    [("entities", .list (d.entities.map Entity.encode)),
     ("relationships", .list (d.relationships.map Relationship.encode))]

def ColumnType.encode (type : ColumnType) : Json :=
  .object
    [("type", .text type.semantic.label),
     ("choiceOptions", (type.options?.map Json.ofTexts).getD .null),
     ("targetEntity", .ofText? type.target?)]

end EntityDiagram
