import EntityDiagram.Finding

/-!
The published catalogue of rules, with severity, category, and whether findings of the rule are
repaired automatically.
-/
namespace EntityDiagram

structure CatalogueEntry where
  type : String
  severity : Severity
  category : Category
  autoFixable : Bool := false
  description : String := ""
  deriving DecidableEq, Repr

def catalogue : List CatalogueEntry :=
  [{ type := "missing_primary_key", severity := .error, category := .structural
     description := "Entity has no PK attribute." },
   { type := "multiple_primary_keys", severity := .error, category := .structural
     description := "Entity has more than one PK attribute." },
   { type := "duplicate_columns", severity := .error, category := .structural
     description := "Attribute names repeat (case-insensitive)." },
   { type := "empty_entity", severity := .warning, category := .structural
     description := "Entity declares no attributes." },
   { type := "naming_conflict", severity := .warning, category := .naming, autoFixable := true
     description := "Non-primary column named 'name'." },
   { type := "system_column_conflict", severity := .warning, category := .naming
     description := "Column collides with a platform system column." },
   { type := "missing_entity", severity := .error, category := .relationships
     description := "Relationship references an undeclared entity." },
   { type := "many_to_many_relationship", severity := .error, category := .relationships
     autoFixable := true
     description := "Direct M:N relationship; needs a junction entity." },
   { type := "self_referencing_relationship", severity := .warning, category := .relationships
     description := "Relationship from an entity to itself." },
   { type := "missing_foreign_key", severity := .warning, category := .relationships
     autoFixable := true
     description := "Target entity lacks the '<from>_id' FK column." },
   { type := "cdm_entity_detected", severity := .info, category := .platform
     description := "Entity matches a common platform entity." }]

end EntityDiagram
