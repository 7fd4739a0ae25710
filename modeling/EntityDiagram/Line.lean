import EntityDiagram.Text.Blank
import EntityDiagram.Text.Scan
import EntityDiagram.Text.WordChar

/-!
Lines of a diagram. Blank lines, comments and the line that names the kind of diagram carry no
content. Each remaining line is trimmed and classified by a machine with two variables: whether a
block is open, and the entity that is current. A header line always opens a block, also inside of
another one, and a closing brace always leads outside.

The same lines are also read as `Line`s, whose constructors hold an entity exactly where a line has
one, along with the name of the open entity as the only state.
-/
namespace EntityDiagram

def diagramHeader : String := "erDiagram"

def significantLines (text : String) : List String :=
  ((Text.split '\n' text).map Text.trim).filter fun line =>
    !(line = "" || "%%".toList.isPrefixOf line.toList || line = diagramHeader)

/-- The name of the entity whose block a line opens. The line begins with the name and a brace,
with nothing but blanks between, and it ends with a brace. -/
def headerChars? (line : List Char) : Option (List Char) :=
  if line.getLast? = some '\x7b' then
    match Text.run? Text.isWordChar line with
    | some (name, rest) =>
      match rest.dropWhile Text.isBlank with
      | '\x7b' :: _ => some name
      | _ => none
    | none => none
  else none

def headerName? (line : String) : Option String := (headerChars? line.toList).map String.ofList

def Line.closingText : String := "\x7d"

inductive BlockState where
  | atTop | inBlock
  deriving DecidableEq, Repr

def BlockState.label : BlockState → String
  | atTop => "at_top"
  | inBlock => "in_entity_block"

inductive LineKind where
  | entityOpen | entityClose | entityBody | topLevel
  deriving DecidableEq, Repr

def LineKind.label : LineKind → String
  | entityOpen => "entity_open"
  | entityClose => "entity_close"
  | entityBody => "entity_body"
  | topLevel => "top_level"

structure ClassifiedLine where
  kind : LineKind
  text : String
  entity : Option String := none
  deriving DecidableEq, Repr

/-- The variables of the block machine. That an entity is current exactly inside of a block is not
part of them. -/
structure BlockMachine where
  state : BlockState := .atTop
  current : Option String := none
  deriving DecidableEq, Repr

namespace BlockMachine

def step (m : BlockMachine) (text : String) : ClassifiedLine × BlockMachine :=
  match headerName? text with
  | some name => (⟨.entityOpen, text, some name⟩, ⟨.inBlock, some name⟩)
  | none =>
    if text = Line.closingText then (⟨.entityClose, text, none⟩, ⟨.atTop, none⟩)
    else match m.state with
      | .inBlock => (⟨.entityBody, text, m.current⟩, m)
      | .atTop => (⟨.topLevel, text, none⟩, m)

def run (m : BlockMachine) : List String → List ClassifiedLine × BlockMachine
  | [] => ([], m)
  | text :: rest =>
    let first := m.step text
    let others := run first.2 rest
    (first.1 :: others.1, others.2)

end BlockMachine

structure ClassifiedDocument where
  lines : List ClassifiedLine := []
  finalState : BlockState := .atTop
  openEntity : Option String := none
  deriving DecidableEq, Repr

namespace ClassifiedDocument

def ofText (text : String) : ClassifiedDocument :=
  let outcome := BlockMachine.run {} (significantLines text)
  ⟨outcome.1, outcome.2.state, outcome.2.current⟩

def hasUnclosedBlock (d : ClassifiedDocument) : Bool := d.finalState = .inBlock

end ClassifiedDocument

inductive Line where
  | opening (text name : String)
  | closing
  | body (text owner : String)
  | topLevel (text : String)
  deriving DecidableEq, Repr

namespace Line

def text : Line → String
  | opening text _ => text
  | closing => closingText
  | body text _ => text
  | topLevel text => text

def entity? : Line → Option String
  | opening _ name => some name
  | body _ owner => some owner
  | _ => none

def step (current : Option String) (text : String) : Line × Option String :=
  match headerName? text with
  | some name => (opening text name, some name)
  | none =>
    if text = closingText then (closing, none)
    else match current with
      | some owner => (body text owner, some owner)
      | none => (topLevel text, none)

def run (current : Option String) : List String → List Line × Option String
  | [] => ([], current)
  | text :: rest =>
    let first := step current text
    let others := run first.2 rest
    (first.1 :: others.1, others.2)

end Line

structure Document where
  lines : List Line
  /-- The entity whose block is still open at the end. -/
  openEntity : Option String
  deriving DecidableEq, Repr

namespace Document

def ofText (text : String) : Document :=
  let outcome := Line.run none (significantLines text)
  ⟨outcome.1, outcome.2⟩

def finalState (d : Document) : BlockState :=
  match d.openEntity with
  | some _ => .inBlock
  | none => .atTop

end Document

end EntityDiagram
