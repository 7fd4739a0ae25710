import EntityDiagram.Finding.Catalogue
import EntityDiagram.Repair
import EntityDiagram.Service.Failure
import EntityDiagram.Wire.Report

/-!
Requests to the service and its answers, as JSON documents.
-/
namespace EntityDiagram.Service

open Wire

inductive ReportError where
  | refused (failure : Failure)
  | unbuilt (error : BuildError)
  deriving Repr

def reportOf (doc : Json) : Except ReportError Report := do
  let source ← (sourceText doc).mapError .refused
  let diagram ← (Diagram.build source).mapError .unbuilt
  return Report.ofDiagram diagram

structure ValidateOptions where
  includeCorrected : Option Bool := none
  deriving DecidableEq, Repr

def ValidateOptions.encode (o : ValidateOptions) : Json :=
  .object [("includeCorrectedErd", (o.includeCorrected.map Json.bool).getD .null)]

def ValidateOptions.decode : Json → Checked ValidateOptions := record fun o =>
  ValidateOptions.mk <$>
    fieldOr ⟨"includeCorrectedErd", "include_corrected_erd"⟩ none (nullable flag) o

def contentOf (o : Members) : Checked String :=
  field ⟨"mermaidContent", "mermaid_content"⟩ nonEmptyText o

structure ValidateRequest where
  content : String
  options : ValidateOptions := {}
  deriving DecidableEq, Repr

def ValidateRequest.encode (r : ValidateRequest) : Json :=
  .object [("mermaidContent", .text r.content), ("options", r.options.encode)]

def ValidateRequest.decode : Json → Checked ValidateRequest := record fun o =>
  ValidateRequest.mk <$> contentOf o
    <*> fieldOr (.plain "options") {} ValidateOptions.decode o

structure CorrectRequest where
  content : String
  deriving DecidableEq, Repr

def CorrectRequest.encode (r : CorrectRequest) : Json :=
  .object [("mermaidContent", .text r.content)]

def CorrectRequest.decode : Json → Checked CorrectRequest := record fun o =>
  CorrectRequest.mk <$> contentOf o

structure ValidateResponse where
  success : Bool
  summary : Summary
  entities : List Entity
  relationships : List Relationship
  findings : List Finding
  corrected : Option String := none
  platform : Platform.Detection
  deriving DecidableEq, Repr

def ValidateResponse.encode (r : ValidateResponse) : Json :=
  .object
    [("success", .bool r.success), ("validation", r.summary.encode),
     ("entities", .list (r.entities.map Entity.encode)),
     ("relationships", .list (r.relationships.map Relationship.encode)),
     ("warnings", .list (r.findings.map Finding.encode)),
     ("correctedErd", .ofText? r.corrected), ("cdmDetection", r.platform.encode)]

def ValidateResponse.decode : Json → Checked ValidateResponse := record fun o =>
  ValidateResponse.mk <$> field (.plain "success") flag o
    <*> field (.plain "validation") Summary.decode o
    <*> field (.plain "entities") (list Entity.decode) o
    <*> field (.plain "relationships") (list Relationship.decode) o
    <*> field (.plain "warnings") (list Finding.decode) o
    <*> fieldOr ⟨"correctedErd", "corrected_erd"⟩ none (nullable text) o
    <*> field ⟨"cdmDetection", "cdm_detection"⟩ Platform.Detection.decode o

def ValidateResponse.ofReport (report : Report) (includeCorrected : Bool) : ValidateResponse :=
  { success := true
    summary := report.summary
    entities := report.entities
    relationships := report.relationships
    findings := report.findings
    corrected := if includeCorrected then some report.correct.text else none
    platform := report.platform }

structure CorrectResponse where
  corrected : String
  changes : List String := []
  deriving DecidableEq, Repr

def CorrectResponse.encode (r : CorrectResponse) : Json :=
  .object [("correctedErd", .text r.corrected), ("appliedFixes", .ofTexts r.changes)]

def CorrectResponse.decode : Json → Checked CorrectResponse := record fun o =>
  CorrectResponse.mk <$> field ⟨"correctedErd", "corrected_erd"⟩ text o
    <*> fieldOr ⟨"appliedFixes", "applied_fixes"⟩ [] (list text) o

def CorrectResponse.ofCorrection (c : Correction) : CorrectResponse :=
  ⟨c.text, c.changes.map Change.message⟩

def entryEncode (entry : CatalogueEntry) : Json :=
  .object
    [("type", .text entry.type), ("severity", .text entry.severity.label),
     ("category", .text entry.category.label), ("autoFixable", .bool entry.autoFixable),
     ("description", .text entry.description)]

def entryDecode : Json → Checked CatalogueEntry := record fun o =>
  CatalogueEntry.mk <$> field (.plain "type") text o
    <*> field (.plain "severity") (oneOf Severity.all Severity.label) o
    <*> field (.plain "category") (oneOf Category.all Category.label) o
    <*> fieldOr ⟨"autoFixable", "auto_fixable"⟩ false flag o
    <*> fieldOr (.plain "description") "" text o

structure Capabilities where
  rules : List CatalogueEntry
  supportedTypes : List String
  deriving DecidableEq, Repr

def Capabilities.current : Capabilities := ⟨catalogue, ColumnType.supportedTokens⟩

def Capabilities.encode (c : Capabilities) : Json :=
  .object
    [("rules", .list (c.rules.map entryEncode)), ("supportedTypes", .ofTexts c.supportedTypes)]

def Capabilities.decode : Json → Checked Capabilities := record fun o =>
  Capabilities.mk <$> field (.plain "rules") (list entryDecode) o
    <*> field ⟨"supportedTypes", "supported_types"⟩ (list text) o

structure Health where
  status : String := "healthy"
  serviceName : String
  version : String
  uptimeSeconds : Decimal
  details : Members := []

/-- Numbers without digits are left out of the details. -/
def Health.encode (h : Health) : Json :=
  .object
    [("status", .text h.status), ("service_name", .text h.serviceName),
     ("version", .text h.version), ("uptime_seconds", .decimal h.uptimeSeconds),
     ("details", (Json.object h.details).withoutIndefinite)]

def Health.levelLimit : Nat := 256

def Health.isWritable (h : Health) : Bool := (Json.object h.details).isWithin Health.levelLimit

def healthWords : List String := ["healthy", "degraded", "unhealthy"]

def healthPattern : String := "^(" ++ String.intercalate "|" healthWords ++ ")$"

def healthWord : Json → Checked String
  | .text value =>
    if healthWords.contains value then .accepted value
    else .fault (.patternMismatch healthPattern)
  | .brokenText _ => .fault .brokenText
  | _ => .fault .notText

def dictionary : Json → Checked Members
  | .object members => .accepted members
  | _ => .fault .notDictionary

def Health.decode : Json → Checked Health := record fun o =>
  Health.mk <$> fieldOr (.plain "status") "healthy" healthWord o
    <*> field (.plain "service_name") text o
    <*> field (.plain "version") text o
    <*> field (.plain "uptime_seconds") number o
    <*> fieldOr (.plain "details") [] dictionary o

def stepEncode : Step → Json
  | .key name => .text name
  | .index position => .int position

def faultEncode (f : Fault) : Json :=
  .object
    [("type", .text f.cause.code), ("loc", .list (f.path.map stepEncode)),
     ("msg", .text f.cause.message)]

end EntityDiagram.Service
