import EntityDiagram.Journal
import EntityDiagram.Report
import EntityDiagram.Text.Quoted

/-!
Notes on the reading of a text. Every line that fits no grammar is noted, a body line that looks
like a relationship is noted as skipped before that, and an open block is noted at the end. The
last note counts what was read.
-/
namespace EntityDiagram.Reading

inductive Note where
  | skippedShape (line : String)
  | droppedInBlock (entity line : String)
  | droppedTopLevel (line : String)
  | openBlock (entity : String)
  | finished (entities relationships : Nat) (errors warnings : Int)
  deriving DecidableEq, Repr

def Note.logger : Note → String
  | skippedShape _ => "src.erd_validator.services.attribute_parser"
  | _ => "src.erd_validator.services.erd_parser"

def Note.message : Note → String
  | skippedShape line => s!"Skipping relationship-shaped line: {Text.quoted line}"
  | droppedInBlock entity line => s!"Dropping unparsed line in '{entity}': {Text.quoted line}"
  | droppedTopLevel line => s!"Dropping unparsed top-level line: {Text.quoted line}"
  | openBlock entity => s!"Entity block '{entity}' is not closed at end of input"
  | finished entities relationships errors warnings =>
    s!"Parsed ERD: entities={entities} relationships={relationships} "
      ++ s!"errors={errors} warnings={warnings}"

def Note.record (note : Note) : Journal.Record := ⟨.debug, note.logger, note.message, none⟩

def lineNotes : Line → List Note
  | .body text owner =>
    (if Relationship.isShaped text then [.skippedShape text] else [])
      ++ if (Attribute.ofLine? text).isNone then [.droppedInBlock owner text] else []
  | .topLevel text => if (Relationship.ofLine? text).isNone then [.droppedTopLevel text] else []
  | _ => []

def notes (text : String) : List Note :=
  let document := Document.ofText text
  let report := Report.ofText text
  document.lines.flatMap lineNotes
    ++ (document.openEntity.map Note.openBlock).toList
    ++ [.finished report.entities.length report.relationships.length report.summary.errorCount
        report.summary.warningCount]

def entries (state : Journal.State) (text : String) : List Journal.Entry :=
  (notes text).flatMap fun note => Journal.entries state note.record

end EntityDiagram.Reading
