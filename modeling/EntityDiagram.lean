import EntityDiagram.Journal.Template
import EntityDiagram.Json.Lines
import EntityDiagram.Proofs.Attribute.Form
import EntityDiagram.Proofs.Attribute.Types
import EntityDiagram.Proofs.Diagram.Assembly
import EntityDiagram.Proofs.Diagram.Joining
import EntityDiagram.Proofs.Finding.Agreement
import EntityDiagram.Proofs.Finding.Catalogue
import EntityDiagram.Proofs.Finding.Order
import EntityDiagram.Proofs.Journal.Attempts
import EntityDiagram.Proofs.Line.Layout
import EntityDiagram.Proofs.Line.Readings
import EntityDiagram.Proofs.Reading.Account
import EntityDiagram.Proofs.Repair.Completeness
import EntityDiagram.Proofs.Repair.Convergence
import EntityDiagram.Proofs.Repair.Introduced
import EntityDiagram.Proofs.Repair.Invented
import EntityDiagram.Proofs.Repair.Junctions
import EntityDiagram.Proofs.Repair.Links
import EntityDiagram.Proofs.Repair.Recorded
import EntityDiagram.Proofs.Repair.Replacements
import EntityDiagram.Proofs.Repair.RoundTrip
import EntityDiagram.Proofs.Wire.RoundTrip
import EntityDiagram.Reading
import EntityDiagram.Service
