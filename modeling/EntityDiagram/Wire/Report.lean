import EntityDiagram.Report
import EntityDiagram.Wire.Diagram

/-!
Reports as JSON documents. A finding names its rule in the member `type`, which decides the further
members it has; the rule is also a step on the path to a fault inside of the finding.
-/
namespace EntityDiagram

open Wire

namespace ForeignKeyFix

def encode (fix : ForeignKeyFix) : Json :=
  .object
    [("entityName", .text fix.entityName), ("columnName", .text fix.columnName),
     ("referencedEntity", .text fix.referencedEntity)]

def decode : Json → Checked ForeignKeyFix := record fun o =>
  mk <$> field ⟨"entityName", "entity_name"⟩ text o
    <*> field ⟨"columnName", "column_name"⟩ text o
    <*> field ⟨"referencedEntity", "referenced_entity"⟩ text o

end ForeignKeyFix

namespace JunctionFix

def encode (fix : JunctionFix) : Json :=
  .object
    [("junctionEntity", .text fix.junctionEntity), ("fromEntity", .text fix.fromEntity),
     ("toEntity", .text fix.toEntity)]

def decode : Json → Checked JunctionFix := record fun o =>
  mk <$> field ⟨"junctionEntity", "junction_entity"⟩ text o
    <*> field ⟨"fromEntity", "from_entity"⟩ text o
    <*> field ⟨"toEntity", "to_entity"⟩ text o

end JunctionFix

namespace Detail

def members : Detail → Members
  | multiplePrimaryKeys columns | duplicateColumns columns | namingConflict columns
  | systemColumnConflict columns => [("columns", .ofTexts columns)]
  | missingEntity name => [("missingEntity", .text name)]
  | manyToMany fix => [("fixData", fix.encode)]
  | missingForeignKey fix => [("fixData", fix.encode)]
  | platformEntity logicalName => [("cdmEntity", .text logicalName)]
  | missingPrimaryKey | emptyEntity | selfReference => []

def columnsOf (o : Members) : Checked (List String) :=
  fieldOr (.plain "columns") [] (list text) o

def decode (rule : Rule) (o : Members) : Checked Detail :=
  match rule with
  | .missingPrimaryKey => pure missingPrimaryKey
  | .multiplePrimaryKeys => multiplePrimaryKeys <$> columnsOf o
  | .duplicateColumns => duplicateColumns <$> columnsOf o
  | .emptyEntity => pure emptyEntity
  | .namingConflict => namingConflict <$> columnsOf o
  | .systemColumnConflict => systemColumnConflict <$> columnsOf o
  | .missingEntity => missingEntity <$> field ⟨"missingEntity", "missing_entity"⟩ text o
  | .manyToMany => manyToMany <$> field ⟨"fixData", "fix_data"⟩ JunctionFix.decode o
  | .selfReference => pure selfReference
  | .missingForeignKey =>
    missingForeignKey <$> field ⟨"fixData", "fix_data"⟩ ForeignKeyFix.decode o
  | .platformEntity => platformEntity <$> field ⟨"cdmEntity", "cdm_entity"⟩ text o

end Detail

structure Notice where
  severity : Severity
  category : Category
  message : String
  suggestion : String := ""
  entity : Option String := none
  relationship : Option String := none
  deriving DecidableEq, Repr

namespace Notice

def members (n : Notice) : Members :=
  [("severity", .text n.severity.label), ("category", .text n.category.label),
   ("message", .text n.message), ("suggestion", .text n.suggestion),
   ("entity", .ofText? n.entity), ("relationship", .ofText? n.relationship)]

def encode (n : Notice) : Json := .object n.members

def decodeWith (severity : Checked Severity) (category : Checked Category) (o : Members) :
    Checked Notice :=
  mk <$> severity <*> category
    <*> field (.plain "message") text o
    <*> fieldOr (.plain "suggestion") "" text o
    <*> fieldOr (.plain "entity") none (nullable text) o
    <*> fieldOr (.plain "relationship") none (nullable text) o

def decode : Json → Checked Notice := record fun o =>
  decodeWith (field (.plain "severity") (oneOf Severity.all Severity.label) o)
    (field (.plain "category") (oneOf Category.all Category.label) o) o

def decodeOf (rule : Rule) (o : Members) : Checked Notice :=
  decodeWith (fieldOr (.plain "severity") rule.severity (oneOf Severity.all Severity.label) o)
    (fieldOr (.plain "category") rule.category (oneOf Category.all Category.label) o) o

end Notice

namespace Finding

def notice (f : Finding) : Notice :=
  ⟨f.severity, f.category, f.message, f.suggestion, f.entity, f.relationship⟩

def ofNotice (n : Notice) (detail : Detail) : Finding :=
  ⟨n.severity, n.category, n.message, n.suggestion, n.entity, n.relationship, detail⟩

def encode (f : Finding) : Json :=
  .object (f.notice.members ++ ("type", .text f.rule.tag) :: f.detail.members)

def ruleTag (rule : Rule) (doc : Json) : Checked Unit :=
  match doc with
  | .text value => if value = rule.tag then pure () else .fault (.notLiteral rule.tag)
  | _ => .fault (.notLiteral rule.tag)

/-- Reads a finding of a given rule, which the member `type` may leave out but not contradict. -/
def decodeOf (rule : Rule) : Json → Checked Finding := record fun o =>
  (fun notice _ detail => ofNotice notice detail) <$> Notice.decodeOf rule o
    <*> fieldOr (.plain "type") () (ruleTag rule) o
    <*> Detail.decode rule o

def ruleOf? (tag : Json) : Option Rule :=
  match tag with
  | .text value => Rule.all.find? (·.tag = value)
  | _ => none

def decode (doc : Json) : Checked Finding :=
  match doc with
  | .object members =>
    match members.lookup "type" with
    | none => .fault .noTag
    | some tag =>
      match ruleOf? tag with
      | some rule => (decodeOf rule doc).under (.key rule.tag)
      | none => .fault (.unknownTag tag.display (Rule.all.map Rule.tag))
  | _ => .fault .notObject

end Finding

namespace Summary

def encode (s : Summary) : Json :=
  .object
    [("isValid", .bool s.isValid), ("status", .text s.status.label),
     ("errorCount", .int s.errorCount), ("warningCount", .int s.warningCount),
     ("infoCount", .int s.infoCount), ("totalIssues", .int s.totalIssues),
     ("cdmEntitiesDetected", .int s.platformEntities)]

def decode : Json → Checked Summary := record fun o =>
  mk <$> field ⟨"isValid", "is_valid"⟩ flag o
    <*> field (.plain "status") (oneOf Verdict.all Verdict.label) o
    <*> fieldOr ⟨"errorCount", "error_count"⟩ 0 integer o
    <*> fieldOr ⟨"warningCount", "warning_count"⟩ 0 integer o
    <*> fieldOr ⟨"infoCount", "info_count"⟩ 0 integer o
    <*> fieldOr ⟨"totalIssues", "total_issues"⟩ 0 integer o
    <*> fieldOr ⟨"cdmEntitiesDetected", "cdm_entities_detected"⟩ 0 integer o

end Summary

namespace Platform

def Match.encode (m : Match) : Json :=
  .object
    [("entity", .text m.entity), ("logicalName", .text m.logicalName),
     ("displayName", .text m.displayName), ("matchType", .text m.matchType),
     ("confidence", .decimal m.confidence)]

def Match.decode : Json → Checked Match := record fun o =>
  Match.mk <$> field (.plain "entity") text o
    <*> field ⟨"logicalName", "logical_name"⟩ text o
    <*> field ⟨"displayName", "display_name"⟩ text o
    <*> fieldOr ⟨"matchType", "match_type"⟩ "exact" text o
    <*> fieldOr (.plain "confidence") (.finite false 1 0) number o

def Detection.encode (d : Detection) : Json :=
  .object
    [("matches", .list (d.found.map Match.encode)), ("totalEntitiesAnalyzed", .int d.analyzed),
     ("customEntities", .int d.custom)]

def Detection.decode : Json → Checked Detection := record fun o =>
  Detection.mk <$> fieldOr (.plain "matches") [] (list Match.decode) o
    <*> fieldOr ⟨"totalEntitiesAnalyzed", "total_entities_analyzed"⟩ 0 integer o
    <*> fieldOr ⟨"customEntities", "custom_entities"⟩ 0 integer o

end Platform

namespace Report

def encode (r : Report) : Json :=
  .object
    [("entities", .list (r.entities.map Entity.encode)),
     ("relationships", .list (r.relationships.map Relationship.encode)),
     ("warnings", .list (r.findings.map Finding.encode)), ("validation", r.summary.encode),
     ("cdmDetection", r.platform.encode)]

def decode : Json → Checked Report := record fun o =>
  mk <$> fieldOr (.plain "entities") [] (list Entity.decode) o
    <*> fieldOr (.plain "relationships") [] (list Relationship.decode) o
    <*> fieldOr (.plain "warnings") [] (list Finding.decode) o
    <*> field (.plain "validation") Summary.decode o
    <*> fieldOr ⟨"cdmDetection", "cdm_detection"⟩ {} Platform.Detection.decode o

end Report

end EntityDiagram
