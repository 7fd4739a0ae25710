import EntityDiagram.Finding
import EntityDiagram.FirstSeen
import EntityDiagram.Platform

/-!
The rules applied to a diagram. Every rule looks at one entity or at one relationship; a rule about
a relationship also looks up the entities by name, of which the last with a name counts. Findings
about the structure of entities come first, then those about names, relationships and the platform.
-/
namespace EntityDiagram

namespace Entity

def keyFindings (e : Entity) : List Finding :=
  match e.primaryKeys with
  | [] =>
    [.ofDetail .missingPrimaryKey e.name none
      s!"Entity '{e.name}' must have exactly one primary key (PK) attribute."
      "Add a PK constraint to one of the columns."]
  | [_] => []
  | keys =>
    [.ofDetail (.multiplePrimaryKeys (keys.map (·.name))) e.name none
      (s!"Entity '{e.name}' has {keys.length} primary keys. "
        ++ "Only one primary key is allowed per entity.")
      "Remove the PK constraint from all but one attribute."]

def duplicates (e : Entity) : List String := repeated (e.attributes.map fun a => Text.lower a.name)

def duplicateFindings (e : Entity) : List Finding :=
  let duplicates := e.duplicates
  if duplicates.isEmpty then []
  else
    let listed := String.intercalate ", " duplicates
    [.ofDetail (.duplicateColumns duplicates) e.name none
      s!"Entity '{e.name}' has duplicate column names: {listed}"
      "Column names must be unique within an entity."]

def emptyFindings (e : Entity) : List Finding :=
  if e.attributes.isEmpty then
    [.ofDetail .emptyEntity e.name none
      s!"Entity '{e.name}' has no attributes defined."
      "Add at least one attribute with a PK constraint."]
  else []

def structureFindings (e : Entity) : List Finding :=
  e.keyFindings ++ e.duplicateFindings ++ e.emptyFindings

def nameColumn : String := "name"

def nameConflicts (e : Entity) : List String :=
  (e.attributes.filter fun a => Text.lower a.name = nameColumn && !a.isPrimaryKey).map (·.name)

def nameFindings (e : Entity) : List Finding :=
  if e.nameConflicts.isEmpty then []
  else
    let stem := Text.lower e.name
    [.ofDetail (.namingConflict e.nameConflicts) e.name none
      (s!"Entity '{e.name}' has a non-primary column called 'name'. "
        ++ "This conflicts with the auto-generated primary name column.")
      s!"Rename the column to '{stem}_name', 'display_name' or 'title'."]

def systemConflicts (e : Entity) : List String :=
  (e.attributes.filter fun a => Platform.systemColumns.contains (Text.lower a.name)).map (·.name)

def systemFindings (e : Entity) : List Finding :=
  if e.systemConflicts.isEmpty then []
  else
    let stem := Text.lower e.name
    let listed := String.intercalate ", " e.systemConflicts
    let renamed (column : String) : String := s!"'{stem}_{Text.lower column}'"
    let renames := String.intercalate ", " (e.systemConflicts.map renamed)
    [.ofDetail (.systemColumnConflict e.systemConflicts) e.name none
      s!"Entity '{e.name}' has columns that conflict with system columns: {listed}"
      s!"Rename using the table_column pattern, e.g. {renames}."]

def namingFindings (e : Entity) : List Finding := e.nameFindings ++ e.systemFindings

/-- The entity with a given name; the last one counts. -/
def named? (name : String) : List Entity → Option Entity
  | [] => none
  | e :: rest => (named? name rest).or (if e.name = name then some e else none)

end Entity

namespace Relationship

def isManyToMany (r : Relationship) : Bool := r.cardinality.kind = .manyToMany

def sideFindings (r : Relationship) (side : String) (entity : Option Entity) : List Finding :=
  match entity with
  | some _ => []
  | none =>
    [.ofDetail (.missingEntity side) none r.reference
      s!"Relationship references non-existent entity '{side}'."
      "Define every entity referenced by a relationship in the diagram."]

def manyToManyFindings (r : Relationship) : List Finding :=
  if r.isManyToMany then
    [.ofDetail (.manyToMany ⟨r.junctionName, r.fromEntity, r.toEntity⟩) none r.reference
      (s!"Many-to-many relationship detected between '{r.fromEntity}' and '{r.toEntity}'. "
        ++ "Direct M:N relationships are not supported.")
      s!"Create a junction table like '{r.junctionName}' with FK references to both entities."]
  else []

def selfFindings (r : Relationship) : List Finding :=
  if r.fromEntity = r.toEntity then
    [.ofDetail .selfReference none r.reference
      s!"Self-referencing relationship detected in entity '{r.fromEntity}'."
      "Self references are supported but need extra configuration."]
  else []

def hasForeignKey (r : Relationship) (target : Entity) : Bool :=
  target.attributes.any fun a => a.isForeignKey && Text.lower a.name = r.expectedForeignKey

/-- Findings about the foreign key. A many-to-many relationship needs none of its own, since its
junction entity carries both. -/
def foreignKeyFindings (r : Relationship) (source target : Option Entity) : List Finding :=
  match source, target with
  | some _, some target =>
    if r.isManyToMany || r.hasForeignKey target then []
    else
      let column := r.expectedForeignKey
      let fix : ForeignKeyFix := ⟨target.name, column, r.fromEntity⟩
      [.ofDetail (.missingForeignKey fix) target.name r.reference
        s!"Relationship defined but no foreign key '{column}' found in '{target.name}'."
        s!"Add '{column} FK' to entity '{target.name}'."]
  | _, _ => []

def findings (r : Relationship) (entities : List Entity) : List Finding :=
  let source := Entity.named? r.fromEntity entities
  let target := Entity.named? r.toEntity entities
  r.sideFindings r.fromEntity source ++ r.sideFindings r.toEntity target
    ++ r.manyToManyFindings ++ r.selfFindings ++ r.foreignKeyFindings source target

end Relationship

def Platform.Match.finding (m : Match) : Finding :=
  .ofDetail (.platformEntity m.logicalName) m.entity none
    s!"Entity '{m.entity}' matches CDM entity '{m.displayName}'."
    s!"Consider using the existing CDM {m.displayName} entity instead of creating a custom one."

def Diagram.findings (d : Diagram) : List Finding :=
  d.entities.flatMap Entity.structureFindings
    ++ d.entities.flatMap Entity.namingFindings
    ++ d.relationships.flatMap (·.findings d.entities)
    ++ (Platform.detect d.entities).found.map Platform.Match.finding

end EntityDiagram
