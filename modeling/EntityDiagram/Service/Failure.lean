import EntityDiagram.Json

/-!
Failures of the service. Each kind has a status and a default detail; the answer to a request that
fails holds the detail, which as a rule is a text.
-/
namespace EntityDiagram.Service

inductive Failure where
  | general (detail : Json) (status : Int)
  | invalid (detail : Json)
  | unreadable (detail : Json)
  | tooLarge (detail : Json)
  deriving Repr

namespace Failure

def detail : Failure → Json
  | general detail _ => detail
  | invalid detail => detail
  | unreadable detail => detail
  | tooLarge detail => detail

def status : Failure → Int
  | general _ status => status
  | invalid _ => 422
  | unreadable _ => 400
  | tooLarge _ => 413

def defaultStatus : Int := 500

def ofInvalid (detail : Option Json) : Failure :=
  invalid (detail.getD (.text "Validation error"))

def ofUnreadable (detail : Option Json) : Failure :=
  unreadable (detail.getD (.text "Parsing error"))

def ofTooLarge (detail : Option Json) : Failure :=
  tooLarge (detail.getD (.text "Payload too large"))

def notText : Failure := unreadable (.text "ERD content must be a string.")

def unreadableBody : Failure := unreadable (.text "There was an error parsing the body")

def message (f : Failure) : String := f.detail.display

def encode (f : Failure) : Json := .object [("detail", f.detail)]

end Failure

/-- The text of a diagram. A text with half of a character in it is one too: such a half is neither
blank nor part of a word, and the mark in its place is read as it would be. -/
def sourceText : Json → Except Failure String
  | .text value | .brokenText value => .ok value
  | _ => .error .notText

end EntityDiagram.Service
