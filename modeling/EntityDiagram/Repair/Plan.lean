import EntityDiagram.Report

/-!
What the findings of a report ask a repair to do: rename columns that conflict with the generated
name column, add foreign keys, and make junction entities. Of several findings with one key the
first counts. Every change that a repair makes is recorded.
-/
namespace EntityDiagram

inductive Change where
  | renamed (entity column name : String)
  | marked (entity column : String)
  | added (entity column : String)
  | junction (fix : JunctionFix)
  deriving DecidableEq, Repr

def Change.message : Change → String
  | renamed entity column name => s!"Renamed '{entity}.{column}' to '{entity}.{name}'"
  | marked entity column => s!"Marked '{entity}.{column}' as FK"
  | added entity column => s!"Added foreign key '{entity}.{column}'"
  | junction fix =>
    s!"Created junction entity '{fix.junctionEntity}' for '{fix.fromEntity}' and '{fix.toEntity}'"

namespace Repair

def conflict? (f : Finding) : Option (String × List String) :=
  match f.detail, f.entity with
  | .namingConflict columns, some entity => some (entity, columns.map Text.lower)
  | _, _ => none

def foreignKeyFix? (f : Finding) : Option ForeignKeyFix :=
  match f.detail with
  | .missingForeignKey fix => some fix
  | _ => none

def junctionFix? (f : Finding) : Option JunctionFix :=
  match f.detail with
  | .manyToMany fix => some fix
  | _ => none

def fixColumn (fix : ForeignKeyFix) : String := Text.lower fix.columnName

structure Plan where
  /-- Columns to rename, with their entities. -/
  conflicts : List (String × List String)
  /-- Foreign keys to add. -/
  foreignKeys : List ForeignKeyFix
  /-- Junction entities to make, one for each name. -/
  junctions : List JunctionFix
  deriving DecidableEq, Repr

namespace Plan

def ofFindings (findings : List Finding) : Plan where
  conflicts := findings.filterMap conflict?
  foreignKeys := findings.filterMap foreignKeyFix?
  junctions := firstSeen (·.junctionEntity) (findings.filterMap junctionFix?)

/-- The columns of an entity to rename. An entity without a name has none. -/
def conflictsOf (plan : Plan) (entity : String) : List String :=
  if entity = "" then []
  else (plan.conflicts.filter (·.1 = entity)).flatMap (·.2)

def foreignKeysOf (plan : Plan) (entity : String) : List ForeignKeyFix :=
  firstSeen fixColumn (plan.foreignKeys.filter (·.entityName = entity))

end Plan

end Repair

end EntityDiagram
