/-!
Findings about a diagram. Each is raised by one of eleven rules and carries what the rule is about:
columns, the name of an entity, or the data of a fix. Severity and category of a finding are those
of its rule unless it was given others.
-/
namespace EntityDiagram

inductive Severity where
  | error | warning | info
  deriving DecidableEq, Repr

namespace Severity

def all : List Severity := [error, warning, info]

def label : Severity → String
  | error => "error"
  | warning => "warning"
  | info => "info"

end Severity

inductive Category where
  | structural | naming | relationships | platform
  deriving DecidableEq, Repr

namespace Category

def all : List Category := [structural, naming, relationships, platform]

def label : Category → String
  | structural => "structure"
  | naming => "naming"
  | relationships => "relationships"
  | platform => "cdm"

end Category

inductive Rule where
  | missingPrimaryKey | multiplePrimaryKeys | duplicateColumns | emptyEntity | namingConflict
  | systemColumnConflict | missingEntity | manyToMany | selfReference | missingForeignKey
  | platformEntity
  deriving DecidableEq, Repr

namespace Rule

def all : List Rule :=
  [missingPrimaryKey, multiplePrimaryKeys, duplicateColumns, emptyEntity, namingConflict,
   systemColumnConflict, missingEntity, manyToMany, selfReference, missingForeignKey,
   platformEntity]

def tag : Rule → String
  | missingPrimaryKey => "missing_primary_key"
  | multiplePrimaryKeys => "multiple_primary_keys"
  | duplicateColumns => "duplicate_columns"
  | emptyEntity => "empty_entity"
  | namingConflict => "naming_conflict"
  | systemColumnConflict => "system_column_conflict"
  | missingEntity => "missing_entity"
  | manyToMany => "many_to_many_relationship"
  | selfReference => "self_referencing_relationship"
  | missingForeignKey => "missing_foreign_key"
  | platformEntity => "cdm_entity_detected"

def severity : Rule → Severity
  | missingPrimaryKey | multiplePrimaryKeys | duplicateColumns => .error
  | emptyEntity | namingConflict | systemColumnConflict => .warning
  | missingEntity | manyToMany => .error
  | selfReference | missingForeignKey => .warning
  | platformEntity => .info

def category : Rule → Category
  | missingPrimaryKey | multiplePrimaryKeys | duplicateColumns | emptyEntity => .structural
  | namingConflict | systemColumnConflict => .naming
  | missingEntity | manyToMany | selfReference | missingForeignKey => .relationships
  | platformEntity => .platform

end Rule

structure ForeignKeyFix where
  entityName : String
  columnName : String
  referencedEntity : String
  deriving DecidableEq, Repr

structure JunctionFix where
  junctionEntity : String
  fromEntity : String
  toEntity : String
  deriving DecidableEq, Repr

inductive Detail where
  | missingPrimaryKey
  | multiplePrimaryKeys (columns : List String)
  | duplicateColumns (columns : List String)
  | emptyEntity
  | namingConflict (columns : List String)
  | systemColumnConflict (columns : List String)
  | missingEntity (name : String)
  | manyToMany (fix : JunctionFix)
  | selfReference
  | missingForeignKey (fix : ForeignKeyFix)
  | platformEntity (logicalName : String)
  deriving DecidableEq, Repr

def Detail.rule : Detail → Rule
  | missingPrimaryKey => .missingPrimaryKey
  | multiplePrimaryKeys _ => .multiplePrimaryKeys
  | duplicateColumns _ => .duplicateColumns
  | emptyEntity => .emptyEntity
  | namingConflict _ => .namingConflict
  | systemColumnConflict _ => .systemColumnConflict
  | missingEntity _ => .missingEntity
  | manyToMany _ => .manyToMany
  | selfReference => .selfReference
  | missingForeignKey _ => .missingForeignKey
  | platformEntity _ => .platformEntity

structure Finding where
  severity : Severity
  category : Category
  message : String
  suggestion : String
  entity : Option String
  relationship : Option String
  detail : Detail
  deriving DecidableEq, Repr

namespace Finding

def rule (f : Finding) : Rule := f.detail.rule

def ofDetail (detail : Detail) (entity relationship : Option String)
    (message suggestion : String) : Finding :=
  { severity := detail.rule.severity
    category := detail.rule.category
    message
    suggestion
    entity
    relationship
    detail }

end Finding

end EntityDiagram
