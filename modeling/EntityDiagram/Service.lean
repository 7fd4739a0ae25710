import EntityDiagram.Journal
import EntityDiagram.Json.Reader
import EntityDiagram.Service.Address
import EntityDiagram.Service.Failure
import EntityDiagram.Service.Message
import EntityDiagram.Service.Settings

/-!
The service: four routes under `/api`. A request is first matched with a route, then its body is
read, then its content is checked: it must not be blank, and not longer than the settings allow.
Each answer has a status, a document and the records it leaves in the journal.
-/
namespace EntityDiagram.Service

open Wire

def serviceName : String := "erd-validator"

def version : String := "1.0.0"

inductive Endpoint where
  | health | capabilities | validate | correct
  deriving DecidableEq, Repr

def routes : List (String × String × Endpoint) :=
  [("/api/health", "GET", .health), ("/api/validate-erd", "POST", .validate),
   ("/api/correct-erd", "POST", .correct), ("/api/validation-options", "GET", .capabilities)]

def pages : List String := ["/openapi.json", "/docs", "/docs/oauth2-redirect", "/redoc"]

/-- A request: the decoded path that it asks for, and its body as text, empty when there is none. -/
structure Request where
  method : String
  path : String
  body : String := ""

inductive Content where
  | document (doc : Json)
  | page
  | nothing

structure Response where
  status : Int
  content : Content
  records : List Journal.Record := []

namespace Response

def ok (doc : Json) : Response := { status := 200, content := .document doc }

def ofFailure (f : Failure) : Response := { status := f.status, content := .document f.encode }

def ofFaults (faults : List Fault) : Response :=
  { status := 422
    content := .document (.object [("detail", .list (faults.map faultEncode))]) }

def headOnly (r : Response) : Response := { r with content := .nothing }

end Response

/-- A path names a route when they agree up to slashes at the end of the path and one newline before
them. -/
def namesRoute (path route : String) : Bool :=
  let cs := (path.toList.reverse.dropWhile (· = '/')).reverse
  Text.dropFinalNewline cs = route.toList

def depthLimit : Nat := 969

def reportLimit : Nat := 964

inductive BodyError where
  | failure (f : Failure)
  | faults (faults : List Fault)
  | unwritable

inductive Breakdown where
  | badSettings (faults : List Fault)
  | unwritable

def isReportable (doc : Json) (f : Fault) : Bool :=
  let part := innermost doc f.path
  part.isWritable && part.isWithin reportLimit

def readDocument {α : Type} (decode : Json → Checked α) (doc : Json) : Except BodyError α :=
  match decode doc with
  | .accepted request => .ok request
  | .rejected faults =>
    if faults.all (isReportable doc) then
      .error (.faults (faults.map (Fault.under (.key "body"))))
    else .error .unwritable

def readBody {α : Type} (decode : Json → Checked α) (body : String) : Except BodyError α :=
  if body = "" then .error (.faults [⟨.missing, [.key "body"]⟩])
  else match (Text.decoded? body).map (Json.readDecoded depthLimit) with
    | some (.ok doc) => readDocument decode doc
    | some (.error (.malformed _ offset)) =>
      .error (.faults [⟨.malformedDocument, [.key "body", .index offset]⟩])
    | _ => .error (.failure .unreadableBody)

def checkContent (content : String) (settings : Settings) : Except Failure Unit :=
  if Text.trim content = "" then
    .error (.invalid (.text "Missing required field: mermaidContent"))
  else if settings.maxContentLength < content.length then
    .error (.tooLarge (.text s!"ERD content exceeds {settings.maxContentLength} characters."))
  else .ok ()

def validatedRecord (r : ValidateResponse) : Journal.Record :=
  { level := .info
    logger := serviceName
    message := s!"Validated ERD: entities={r.entities.length} status={r.summary.status.label}" }

def validate (settings : Settings) (request : ValidateRequest) : Response :=
  match checkContent request.content settings with
  | .error failure => .ofFailure failure
  | .ok () =>
    let wanted := request.options.includeCorrected.getD settings.includeCorrected
    let response := ValidateResponse.ofReport (Report.ofText request.content) wanted
    { Response.ok response.encode with records := [validatedRecord response] }

def correct (settings : Settings) (request : CorrectRequest) : Response :=
  match checkContent request.content settings with
  | .error failure => .ofFailure failure
  | .ok () => .ok (CorrectResponse.ofCorrection (Report.ofText request.content).correct).encode

/-- Answers a request with a body. The settings are needed only once the body has been read. -/
def serveBody {α : Type} (settings : Checked Settings) (decode : Json → Checked α)
    (answer : Settings → α → Response) (body : String) : Except Breakdown Response :=
  match readBody decode body with
  | .error (.failure f) => .ok (.ofFailure f)
  | .error (.faults faults) => .ok (.ofFaults faults)
  | .error .unwritable => .error .unwritable
  | .ok request => match settings with
    | .accepted s => .ok (answer s request)
    | .rejected faults => .error (.badSettings faults)

def serve (settings : Checked Settings) (uptime : Decimal) (body : String) :
    Endpoint → Except Breakdown Response
  | .health => .ok (.ok (Health.encode { serviceName, version, uptimeSeconds := uptime }))
  | .capabilities => .ok (.ok Capabilities.current.encode)
  | .validate => serveBody settings ValidateRequest.decode validate body
  | .correct => serveBody settings CorrectRequest.decode correct body

def notFound : Failure := .general (.text "Not Found") 404

def methodNotAllowed : Failure := .general (.text "Method Not Allowed") 405

def servePage (method : String) : Response :=
  if method = "GET" then { status := 200, content := .page } else .ofFailure methodNotAllowed

def respondTo (settings : Checked Settings) (uptime : Decimal) (request : Request)
    (method : String) : Except Breakdown Response :=
  match routes.filter fun route => namesRoute request.path route.1 with
  | [] =>
    if pages.any (namesRoute request.path) then .ok (servePage method)
    else .ok (.ofFailure notFound)
  | found =>
    match found.find? fun route => route.2.1 = method with
    | some (_, _, endpoint) => serve settings uptime request.body endpoint
    | none => .ok (.ofFailure methodNotAllowed)

def respond (settings : Checked Settings) (uptime : Decimal) (request : Request) :
    Except Breakdown Response :=
  let method := Text.upper request.method
  let response := respondTo settings uptime request method
  if method = "HEAD" then response.map Response.headOnly else response

def lifeRecords : List Journal.Record :=
  [{ level := .info
     logger := serviceName
     message := s!"Service started: name={serviceName} version={version} port=8000" },
   { level := .info, logger := serviceName, message := s!"Service stopped: name={serviceName}" }]

def lifeEntries (state : Journal.State) : List Journal.Entry :=
  lifeRecords.flatMap (Journal.entries state)

end EntityDiagram.Service
