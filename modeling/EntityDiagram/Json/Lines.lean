import EntityDiagram.Json.Reader
import EntityDiagram.Text.Blank
import EntityDiagram.Text.Scan

/-!
Texts with one JSON document a line. Blank lines are skipped, and the first line that is no document
is refused.
-/
namespace EntityDiagram.Json

structure LineError where
  line : List Char
  error : ReadError
  deriving DecidableEq, Repr

def lineDepth : Nat := 990

def readLine (line : List Char) : Except LineError Json :=
  (read lineDepth line).mapError fun error => ⟨line, error⟩

def readLines (text : String) : Except LineError (List Json) :=
  ((Text.splitChars '\n' text.toList).filter fun line => !line.all Text.isBlank).mapM readLine

end EntityDiagram.Json
