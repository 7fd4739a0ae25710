import EntityDiagram.Text.Case
import EntityDiagram.Wire.Decode

/-!
Settings of the service. A setting is taken from the given values, else from the environment, else
from its default. Every setting has two names, and case never matters for either of them. Where both
names have a value the first name wins.
-/
namespace EntityDiagram.Service

open Wire

structure Settings where
  logLevel : String := "info"
  maxContentLength : Int := 1048576
  includeCorrected : Bool := true
  deriving DecidableEq, Repr

abbrev Environment := List (String × String)

structure Setting extends Key where
  /-- The name that is reported for a value given under both names. -/
  shared : String

namespace Setting

def spells {α : Type} (name : String) (entry : String × α) : Bool :=
  Text.lower entry.1 = Text.lower name

def reportedName (s : Setting) (given : Members) : String :=
  match given.lookup s.primary, given.lookup s.secondary with
  | some _, some _ => s.shared
  | none, some _ => s.secondary
  | _, none => s.primary

/-- The given value of a setting and the name to report for it. Of several spellings of a name the
first counts. -/
def given? (s : Setting) (given : Members) : Option (String × Json) :=
  ((given.find? (spells s.primary)).or (given.find? (spells s.secondary))).map fun entry =>
    (s.reportedName given, entry.2)

/-- The value of a name in the environment; of several spellings the last counts. -/
def inEnvironment? (environment : Environment) (name : String) : Option Json :=
  (environment.reverse.find? (spells name)).map fun entry => .text entry.2

def environment? (s : Setting) (environment : Environment) : Option (String × Json) :=
  match inEnvironment? environment s.primary with
  | some value => some (s.primary, value)
  | none => (inEnvironment? environment s.secondary).map fun value => (s.secondary, value)

def load {α : Type} (s : Setting) (default : α) (decode : Json → Checked α) (given : Members)
    (environment : Environment) : Checked α :=
  match (s.given? given).or (s.environment? environment) with
  | some (name, doc) => (decode doc).under (.key name)
  | none => .accepted default

def logLevel : Setting := ⟨⟨"LOG_LEVEL", "log_level"⟩, "log_level"⟩

def maxContentLength : Setting :=
  ⟨⟨"ERD_MAX_CONTENT_LENGTH", "max_content_length"⟩, "max_content_length"⟩

def includeCorrected : Setting :=
  ⟨⟨"ERD_INCLUDE_CORRECTED", "include_corrected_erd"⟩, "ERD_INCLUDE_CORRECTED"⟩

end Setting

def journalLevel (given : Members) (environment : Environment) : Checked String :=
  Setting.logLevel.load "info" text given environment

def Settings.load (given : Members) (environment : Environment) : Checked Settings :=
  mk <$> journalLevel given environment
    <*> Setting.maxContentLength.load 1048576 integer given environment
    <*> Setting.includeCorrected.load true flag given environment

def Settings.encode (s : Settings) : Json :=
  .object
    [("log_level", .text s.logLevel), ("max_content_length", .int s.maxContentLength),
     ("include_corrected_erd", .bool s.includeCorrected)]

end EntityDiagram.Service
