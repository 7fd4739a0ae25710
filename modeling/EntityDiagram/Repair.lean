import EntityDiagram.Repair.Column

/-!
Repair of a diagram. The text of a report is written anew with the repairable findings removed and
everything else as it was:

* the first primary key of an entity is renamed to `name`, unless the entity is a junction table or
  the key is, or becomes, a foreign key;
* a column reported to conflict with the generated name column gets a free name;
* a missing foreign key is added as a column, or marked on the column that has its name;
* a many-to-many relationship gives way to a junction entity and two relationships to it.
-/
namespace EntityDiagram

namespace Repair

structure Block where
  lines : List String
  changes : List Change
  deriving DecidableEq, Repr

def entityIndent (line : String) : String := "    " ++ line

def attributeIndent (line : String) : String := "        " ++ line

def blockLines (name : String) (attributes : List String) : List String :=
  entityIndent (name ++ " \x7b") :: attributes.map attributeIndent ++ [entityIndent "\x7d", ""]

def addedLine (fix : ForeignKeyFix) : String :=
  Attribute.lineText "string" fix.columnName "FK"
    (some s!"Foreign key to {Text.capitalize fix.referencedEntity}")

def entityBlock (plan : Plan) (e : Entity) : Block :=
  let repaired := entityColumns plan e
  { lines := blockLines e.name (repaired.1.map Column.line ++ repaired.2.pending.map addedLine)
    changes :=
      repaired.1.flatMap (·.changes)
        ++ repaired.2.pending.map fun fix => Change.added e.name fix.columnName }

/-- The foreign key columns of a junction entity. They differ also when both sides are the same
entity. -/
def junctionColumns (fix : JunctionFix) : String × String :=
  let toColumn := s!"{Text.lower fix.toEntity}_id"
  (s!"{Text.lower fix.fromEntity}_id",
   if fix.fromEntity = fix.toEntity then s!"related_{toColumn}" else toColumn)

def junctionBlock (fix : JunctionFix) : List String :=
  blockLines fix.junctionEntity
    [Attribute.lineText "string" "id" "PK" (some "Unique identifier"),
     Attribute.lineText "string" (junctionColumns fix).1 "FK"
       (some s!"Foreign key to {fix.fromEntity}"),
     Attribute.lineText "string" (junctionColumns fix).2 "FK"
       (some s!"Foreign key to {fix.toEntity}")]

def isReplaced (fixes : List JunctionFix) (r : Relationship) : Bool :=
  r.isManyToMany && fixes.any fun fix => fix.fromEntity = r.fromEntity && fix.toEntity = r.toEntity

def relationshipLine (r : Relationship) : String :=
  entityIndent (Relationship.lineText r.fromEntity r.symbols r.toEntity r.label)

def junctionLinks (fix : JunctionFix) : List String :=
  [fix.fromEntity, fix.toEntity].map fun side =>
    entityIndent (Relationship.lineText side "||--o\x7b" fix.junctionEntity (some "has"))

end Repair

structure Correction where
  text : String
  changes : List Change
  deriving DecidableEq, Repr

namespace Report

def createdJunctions (r : Report) (plan : Repair.Plan) : List JunctionFix :=
  let declared := Std.HashSet.ofList (r.entities.map (·.name))
  plan.junctions.filter fun fix => !declared.contains fix.junctionEntity

def keptRelationships (r : Report) (plan : Repair.Plan) : List Relationship :=
  r.relationships.filter fun rel => !Repair.isReplaced plan.junctions rel

def correctedLines (r : Report) (plan : Repair.Plan) (blocks : List Repair.Block) :
    List String :=
  diagramHeader
    :: blocks.flatMap (·.lines)
    ++ (r.createdJunctions plan).flatMap Repair.junctionBlock
    ++ (r.keptRelationships plan).map Repair.relationshipLine
    ++ plan.junctions.flatMap Repair.junctionLinks

def changes (r : Report) (plan : Repair.Plan) (blocks : List Repair.Block) : List Change :=
  blocks.flatMap (·.changes) ++ (r.createdJunctions plan).map Change.junction

def correct (r : Report) : Correction :=
  let plan := Repair.Plan.ofFindings r.findings
  let blocks := r.entities.map (Repair.entityBlock plan)
  { text := Text.trimEnd (String.intercalate "\n" (r.correctedLines plan blocks))
    changes := r.changes plan blocks }

end Report

def repairRounds : Nat → String → List (Report × Correction)
  | 0, _ => []
  | rounds + 1, text =>
    let report := Report.ofText text
    let correction := report.correct
    (report, correction) :: repairRounds rounds correction.text

end EntityDiagram
