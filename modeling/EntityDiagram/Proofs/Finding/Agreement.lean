import EntityDiagram.Proofs.Finding.Category
import EntityDiagram.Report

/-!
Agreement within a report. A report says the same things several times: the summary counts the
findings by severity and those of the platform by category, its verdict follows the counts, and the
comparison with the platform lists the entities that the findings about it name. In the report on
every text all of this agrees, with the findings and with the entities.
-/
namespace EntityDiagram

open Text

namespace Platform

def isCommon (name : String) : Bool := (commonEntities.map lower).contains (lower name)

theorem isSome_commonEntity? (name : String) :
    (commonEntity? name).isSome = isCommon name := by
  rw [commonEntity?, List.isSome_find?, isCommon, List.contains_eq_any_beq, List.any_map]
  exact congrArg commonEntities.any (funext fun common => BEq.comm)

theorem commonEntity?_facts {name common : String} (h : commonEntity? name = some common) :
    common ∈ commonEntities ∧ lower common = lower name :=
  ⟨List.mem_of_find?_eq_some h, by simpa using List.find?_some h⟩

theorem match?_facts {e : Entity} {m : Match} (h : match? e = some m) :
    m.entity = e.name ∧ m.logicalName = lower e.name ∧
      m.displayName ∈ commonEntities ∧ lower m.displayName = m.logicalName := by
  obtain ⟨common, hcommon, rfl⟩ := Option.map_eq_some_iff.mp h
  obtain ⟨hmem, hlower⟩ := commonEntity?_facts hcommon
  exact ⟨rfl, hlower, hmem, rfl⟩

/-- The matches are the entities with a common name, in the order of the entities. -/
theorem found_names (entities : List Entity) :
    (detect entities).found.map (fun m => (m.entity, m.logicalName)) =
      (entities.filter fun e => isCommon e.name).map fun e => (e.name, lower e.name) := by
  induction entities with
  | nil => rfl
  | cons e rest ih =>
    have hrest : (rest.filterMap match?).map (fun m => (m.entity, m.logicalName)) =
        (rest.filter fun e => isCommon e.name).map fun e => (e.name, lower e.name) := ih
    have hsome : (match? e).isSome = isCommon e.name := by
      rw [← isSome_commonEntity?, match?, Option.isSome_map]
    simp only [detect, List.filterMap_cons]
    cases hmatch : match? e with
    | none =>
      rw [hmatch, Option.isSome_none] at hsome
      simp only [List.filter_cons, ← hsome, Bool.false_eq_true, if_false, hrest]
    | some m =>
      rw [hmatch, Option.isSome_some] at hsome
      obtain ⟨hentity, hlogical, -⟩ := match?_facts hmatch
      simp only [List.filter_cons, ← hsome, if_true, List.map_cons, hentity, hlogical, hrest]

end Platform

namespace Summary

variable (findings : List Finding)

/-- Every finding has one of three severities. -/
theorem countSeverity_add : countSeverity .error findings + countSeverity .warning findings +
    countSeverity .info findings = findings.length := by
  induction findings with
  | nil => rfl
  | cons f rest ih =>
    simp only [countSeverity] at ih
    simp only [countSeverity, List.countP_cons, List.length_cons]
    cases f.severity <;> simp <;> omega

theorem countSeverity_eq_zero_iff {severity : Severity} :
    countSeverity severity findings = 0 ↔ ∀ f ∈ findings, f.severity ≠ severity := by
  simp [countSeverity, List.countP_eq_zero]

theorem isValid_eq_false_iff :
    (ofFindings findings).isValid = false ↔ ∃ f ∈ findings, f.severity = .error := by
  have hzero : (ofFindings findings).isValid = true ↔ ∀ f ∈ findings, f.severity ≠ .error := by
    rw [← countSeverity_eq_zero_iff]
    exact decide_eq_true_iff
  rw [← Bool.not_eq_true, hzero]
  simp

/-- The verdict follows the counts of errors and of warnings. -/
theorem status_facts :
    ((ofFindings findings).status = .error ↔ countSeverity .error findings ≠ 0) ∧
      ((ofFindings findings).status = .success ↔
        countSeverity .error findings = 0 ∧ countSeverity .warning findings = 0) := by
  simp only [ofFindings]
  by_cases herrors : countSeverity .error findings = 0
  · by_cases hwarnings : countSeverity .warning findings = 0 <;> simp [herrors, hwarnings]
  · simp [herrors]

theorem status_eq_error_iff :
    (ofFindings findings).status = .error ↔ (ofFindings findings).isValid = false := by
  rw [(status_facts findings).1]
  exact decide_eq_false_iff_not.symm

theorem status_eq_success_iff :
    (ofFindings findings).status = .success ↔ ∀ f ∈ findings, f.severity = .info := by
  rw [(status_facts findings).2, countSeverity_eq_zero_iff, countSeverity_eq_zero_iff,
    ← forall₂_and]
  refine forall₂_congr fun f _ => ?_
  cases f.severity <;> decide

end Summary

structure Report.Agrees (r : Report) : Prop where
  /-- Every finding counts once. -/
  counts : r.summary.errorCount + r.summary.warningCount + r.summary.infoCount =
    r.summary.totalIssues
  issues : r.summary.totalIssues = r.findings.length
  /-- The verdict follows the gravest finding. -/
  error : r.summary.status = .error ↔ r.summary.isValid = false
  invalid : r.summary.isValid = false ↔ ∃ f ∈ r.findings, f.severity = .error
  success : r.summary.status = .success ↔ ∀ f ∈ r.findings, f.severity = .info
  /-- What informs is what the platform offers. -/
  infos : r.summary.infoCount = r.summary.platformEntities
  offered : r.summary.platformEntities = r.platform.found.length
  /-- The matches are the entities with common names, in order. -/
  found : r.platform.found.map (fun m => (m.entity, m.logicalName)) =
    (r.entities.filter fun e => Platform.isCommon e.name).map fun e => (e.name, lower e.name)
  common : ∀ m ∈ r.platform.found,
    m.displayName ∈ Platform.commonEntities ∧ lower m.displayName = m.logicalName
  /-- The findings about the platform name the same. -/
  named : (r.findings.filter (·.rule = .platformEntity)).map Finding.subject =
    r.platform.found.map fun m => (some m.entity, .platformEntity m.logicalName)
  custom : r.platform.found.length + r.platform.custom = r.platform.analyzed
  analyzed : r.platform.analyzed = r.entities.length

theorem Report.agrees_ofDiagram (d : Diagram) : (ofDiagram d).Agrees where
  counts := by
    have hadd := Summary.countSeverity_add d.findings
    simp only [ofDiagram, Summary.ofFindings]
    omega
  issues := rfl
  error := Summary.status_eq_error_iff d.findings
  invalid := Summary.isValid_eq_false_iff d.findings
  success := Summary.status_eq_success_iff d.findings
  infos := by
    obtain ⟨hinfos, hoffered⟩ := d.count_platform
    simp only [ofDiagram, Summary.ofFindings, hinfos, hoffered]
  offered := by
    simp only [ofDiagram, Summary.ofFindings, d.count_platform.2]
  found := Platform.found_names d.entities
  common m hm := by
    obtain ⟨e, -, hmatch⟩ := List.mem_filterMap.mp hm
    exact (Platform.match?_facts hmatch).2.2
  named := by
    simp only [ofDiagram]
    rw [Diagram.filter_platformEntity, List.map_map]
    rfl
  custom := by
    simp only [ofDiagram, Platform.detect]
    omega
  analyzed := rfl

/-- In the report on every text the summary, the findings and the comparison with the platform
agree. -/
theorem reports_agree (text : String) : (Report.ofText text).Agrees :=
  Report.agrees_ofDiagram (Diagram.ofText text)

end EntityDiagram
