import EntityDiagram.Journal.Level
import EntityDiagram.Text.Scan

/-!
The journal of a service. Records are handed to named loggers that form a hierarchy by the dots in
their names. A logger takes the level of its nearest ancestor that has one, and hands a record to
its own sinks and to those of its ancestors, up to the first logger that does not propagate.

A logger exists from its first use on. Its parent is the nearest of its ancestors that exist then,
and a logger that comes to exist later takes the place of parents above it.

Setting up the journal for a service gives the service's logger and the logger of the program's own
modules one new sink, which they share, in place of any earlier one.
-/
namespace EntityDiagram.Journal

/-- Where the entries of a service are written. Each set-up makes a new one. -/
structure Sink where
  service : String
  serial : Nat
  deriving DecidableEq, Repr

def rootName : String := "root"

structure Logger where
  level : Level := .notSet
  sinks : List Sink := []
  propagates : Bool := true
  parent : String := rootName
  deriving DecidableEq, Repr

def programName : String := "src"

def canonical (name : String) : String := if name = "" then rootName else name

structure State where
  loggers : List (String × Logger) := []
  setups : Nat := 0
  trace : String := ""
  deriving DecidableEq, Repr

def pristine (name : String) : Logger :=
  if name = rootName then { level := .warning } else {}

/-- A dot inside of a name separates when an even number of dots follow it directly. -/
def separatesAt (cs : List Char) (i : Nat) : Bool :=
  0 < i && cs[i]? = some '.' && ((cs.drop (i + 1)).takeWhile (· = '.')).length % 2 = 0

def isAbove (upper : String) (lower : List Char) : Bool :=
  upper.toList.isPrefixOf lower && separatesAt lower upper.length

namespace State

def logger (state : State) (name : String) : Logger :=
  (state.loggers.lookup name).getD (pristine name)

def hasLogger (state : State) (name : String) : Bool :=
  name = rootName || (state.loggers.lookup name).isSome

def nearestAbove (name : List Char) (nearest : String) : List (String × Logger) → String
  | [] => nearest
  | (other, _) :: rest =>
    if isAbove other name && (nearest = rootName || nearest.length < other.length) then
      nearestAbove name other rest
    else nearestAbove name nearest rest

def parent (state : State) (name : String) : String :=
  match state.loggers.lookup name with
  | some logger => logger.parent
  | none => nearestAbove name.toList rootName state.loggers

/-- The parent that a logger has once a logger called `name` exists. A parent stays when its own
name begins with the new one. -/
def adopted (name : String) (child : String × Logger) : String × Logger :=
  if isAbove name child.1.toList && !name.toList.isPrefixOf child.2.parent.toList then
    (child.1, { child.2 with parent := name })
  else child

def acquire (state : State) (name : String) : State :=
  if state.hasLogger name then state
  else
    let logger := { pristine name with parent := state.parent name }
    { state with loggers := (name, logger) :: state.loggers.map (adopted name) }

def configure (state : State) (name : String) (logger : Logger) : State :=
  let logger := { logger with parent := state.parent name }
  { state with loggers := (name, logger) :: state.loggers.filter (·.1 ≠ name) }

/-- The state in which the loggers that a set-up configures exist. A set-up that fails leaves it. -/
def prepare (state : State) (service : String) : State :=
  (state.acquire (canonical service)).acquire programName

def setup (state : State) (service word : String) : Except LevelError State := do
  let level ← Level.ofWord word
  let logger : Logger := { level, sinks := [⟨service, state.setups⟩], propagates := false }
  let state := state.prepare service
  let state := (state.configure (canonical service) logger).configure programName logger
  return { state with setups := state.setups + 1 }

def withTrace (state : State) (trace : String) : State := { state with trace }

end State

def lineageWithin (state : State) : Nat → String → List String
  | 0, _ => [rootName]
  | count + 1, name =>
    if name = rootName then [rootName] else name :: lineageWithin state count (state.parent name)

/-- A logger and everything above it, up to the top. Every parent but the top has a shorter name
than its child. -/
def lineage (state : State) (name : String) : List String :=
  lineageWithin state (name.length + 1) name

def threshold (state : State) : List String → Level
  | [] => .notSet
  | name :: rest =>
    let level := (state.logger name).level
    if level = .notSet then threshold state rest else level

def reached (state : State) : List String → List Sink
  | [] => []
  | name :: rest =>
    let logger := state.logger name
    logger.sinks ++ if logger.propagates then reached state rest else []

structure Record where
  level : Level
  logger : String
  message : String
  exception : Option String := none
  deriving DecidableEq, Repr

structure Entry where
  record : Record
  service : String
  trace : String
  deriving DecidableEq, Repr

def isEnabled (state : State) (logger : String) (level : Level) : Bool :=
  (threshold state (lineage state (canonical logger))).rank ≤ level.rank

def entries (state : State) (record : Record) : List Entry :=
  if isEnabled state record.logger record.level then
    (reached state (lineage state (canonical record.logger))).map fun sink =>
      ⟨{ record with logger := canonical record.logger }, sink.service, state.trace⟩
  else []

inductive Outcome where
  /-- Entries are written for services, possibly none. -/
  | written (entries : List Entry)
  /-- No logger has a sink, and the text of the record is written as it is. -/
  | bare (text : String)
  /-- The record was to be written, but it has no message. -/
  | unwritable
  deriving DecidableEq, Repr

def bareText (message : String) (exception : Option String) : String :=
  match exception with
  | none => message
  | some text => s!"{message}\nException: {text}"

/-- Hands a record to its logger. Its message is made only when it is written. Where no logger has a
sink, warnings and what is more important are written as they are. -/
def submit (state : State) (level : Level) (logger : String) (message : Option String)
    (exception : Option String) : Outcome :=
  let sinks := reached state (lineage state (canonical logger))
  if !isEnabled state logger level || (sinks.isEmpty && level.rank < Level.warning.rank) then
    .written []
  else match message with
    | none => .unwritable
    | some message =>
      if sinks.isEmpty then .bare (bareText message exception)
      else .written (entries state ⟨level, logger, message, exception⟩)

end EntityDiagram.Journal
