import EntityDiagram.Finding.Rules
import EntityDiagram.Finding.Summary

/-!
The report on a text: its diagram, the findings about it, their summary, and the comparison with
the entities of the platform.
-/
namespace EntityDiagram

structure Report where
  entities : List Entity := []
  relationships : List Relationship := []
  findings : List Finding := []
  summary : Summary
  platform : Platform.Detection := {}
  deriving DecidableEq, Repr

namespace Report

def ofDiagram (d : Diagram) : Report :=
  { entities := d.entities
    relationships := d.relationships
    findings := d.findings
    summary := Summary.ofFindings d.findings
    platform := Platform.detect d.entities }

def ofText (text : String) : Report := ofDiagram (Diagram.ofText text)

end Report

end EntityDiagram
