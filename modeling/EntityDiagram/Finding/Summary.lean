import EntityDiagram.Finding

/-!
The summary of findings: counts by severity, and a verdict that follows the gravest one.
-/
namespace EntityDiagram

inductive Verdict where
  | success | warning | error
  deriving DecidableEq, Repr

namespace Verdict

def all : List Verdict := [success, warning, error]

def label : Verdict → String
  | success => "success"
  | warning => "warning"
  | error => "error"

end Verdict

structure Summary where
  isValid : Bool
  status : Verdict
  errorCount : Int := 0
  warningCount : Int := 0
  infoCount : Int := 0
  totalIssues : Int := 0
  platformEntities : Int := 0
  deriving DecidableEq, Repr

def countSeverity (severity : Severity) (findings : List Finding) : Nat :=
  findings.countP (·.severity = severity)

def Summary.ofFindings (findings : List Finding) : Summary :=
  let errors := countSeverity .error findings
  let warnings := countSeverity .warning findings
  { isValid := errors = 0
    status := if errors ≠ 0 then .error else if warnings ≠ 0 then .warning else .success
    errorCount := errors
    warningCount := warnings
    infoCount := countSeverity .info findings
    totalIssues := findings.length
    platformEntities := findings.countP (·.category = .platform) }

end EntityDiagram
