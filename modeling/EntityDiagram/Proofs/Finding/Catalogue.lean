import EntityDiagram.Finding.Catalogue
import EntityDiagram.Proofs.Finding.Category
import EntityDiagram.Repair

/-!
The catalogue of rules against the rules themselves and the repair. Every rule has one entry, which
has the severity and the category of its findings. The entry calls the findings repairable exactly
when they can ask something of a repair. So the repair of a report stays the same when all findings
are deleted that the catalogue does not call repairable.
-/
namespace EntityDiagram

open Repair

namespace Rule

def entries (rule : Rule) : List CatalogueEntry := catalogue.filter (·.type = rule.tag)

/-- The catalogue calls the findings of the rule repairable. -/
def isFixable (rule : Rule) : Bool := rule.entries.all (·.autoFixable)

/-- A rule has one entry, with its severity and its category. -/
theorem exists_entry (rule : Rule) :
    ∃ entry, rule.entries = [entry] ∧ entry.severity = rule.severity ∧
      entry.category = rule.category := by
  cases rule <;> exact ⟨_, rfl, rfl, rfl⟩

theorem isFixable_iff {rule : Rule} :
    rule.isFixable = true ↔
      rule = .namingConflict ∨ rule = .manyToMany ∨ rule = .missingForeignKey := by
  cases rule <;> decide

end Rule

namespace Repair

structure AsksNothing (f : Finding) : Prop where
  conflict : conflict? f = none
  foreignKey : foreignKeyFix? f = none
  junction : junctionFix? f = none

theorem asksNothing_of_not_isFixable {f : Finding} (h : f.rule.isFixable = false) :
    AsksNothing f := by
  have hrule : ¬ (f.rule = .namingConflict ∨ f.rule = .manyToMany ∨
      f.rule = .missingForeignKey) := by
    rw [← Rule.isFixable_iff, h]
    exact Bool.false_ne_true
  unfold Finding.rule at hrule
  constructor
  · unfold conflict?
    split
    · next hdetail _ => simp [hdetail, Detail.rule] at hrule
    · rfl
  · unfold foreignKeyFix?
    split
    · next hdetail => simp [hdetail, Detail.rule] at hrule
    · rfl
  · unfold junctionFix?
    split
    · next hdetail => simp [hdetail, Detail.rule] at hrule
    · rfl

/-- What findings ask for stays the same when some are deleted that do not ask for it. -/
theorem filterMap_filter_isFixable {β : Type} {ask : Finding → Option β}
    (h : ∀ f, AsksNothing f → ask f = none) (findings : List Finding) :
    (findings.filter (·.rule.isFixable)).filterMap ask = findings.filterMap ask := by
  rw [List.filterMap_filter]
  apply List.filterMap_congr
  intro f _
  split
  · rfl
  · next hfixable =>
    exact (h f (asksNothing_of_not_isFixable (by simpa using hfixable))).symm

theorem ofFindings_filter_isFixable (findings : List Finding) :
    Plan.ofFindings (findings.filter (·.rule.isFixable)) = Plan.ofFindings findings := by
  unfold Plan.ofFindings
  rw [filterMap_filter_isFixable (fun _ h => h.conflict),
    filterMap_filter_isFixable (fun _ h => h.foreignKey),
    filterMap_filter_isFixable (fun _ h => h.junction)]

/-- A finding asks nothing of a repair exactly when the plan is empty that is made from it alone. -/
theorem asksNothing_iff {f : Finding} : AsksNothing f ↔ Plan.ofFindings [f] = Plan.ofFindings [] := by
  constructor
  · intro h
    simp [Plan.ofFindings, h.conflict, h.foreignKey, h.junction]
  · intro h
    refine ⟨?_, ?_, ?_⟩
    · cases hask : conflict? f with
      | none => rfl
      | some conflict =>
        have hplan := congrArg Plan.conflicts h
        simp [Plan.ofFindings, hask] at hplan
    · cases hask : foreignKeyFix? f with
      | none => rfl
      | some fix =>
        have hplan := congrArg Plan.foreignKeys h
        simp [Plan.ofFindings, hask] at hplan
    · cases hask : junctionFix? f with
      | none => rfl
      | some fix =>
        have hplan := congrArg Plan.junctions h
        simp [Plan.ofFindings, hask, firstSeen, unseen] at hplan

/-- The entry of a rule calls its findings repairable exactly when one can ask something of a
repair. -/
theorem isFixable_iff_exists_asks (rule : Rule) :
    rule.isFixable = true ↔
      ∃ f : Finding, f.rule = rule ∧ Plan.ofFindings [f] ≠ Plan.ofFindings [] := by
  constructor
  · intro h
    rcases Rule.isFixable_iff.mp h with rfl | rfl | rfl
    · refine ⟨.ofDetail (.namingConflict []) (some "A") none "" "", rfl, ?_⟩
      exact asksNothing_iff.not.mp fun hasks => nomatch hasks.conflict
    · refine ⟨.ofDetail (.manyToMany ⟨"AB", "A", "B"⟩) none none "" "", rfl, ?_⟩
      exact asksNothing_iff.not.mp fun hasks => nomatch hasks.junction
    · refine ⟨.ofDetail (.missingForeignKey ⟨"B", "a_id", "A"⟩) none none "" "", rfl, ?_⟩
      exact asksNothing_iff.not.mp fun hasks => nomatch hasks.foreignKey
  · rintro ⟨f, rfl, hplan⟩
    by_contra hfixable
    exact hplan (asksNothing_iff.mp (asksNothing_of_not_isFixable (by simpa using hfixable)))

end Repair

/-- Every finding about a diagram has a type with one entry in the catalogue, and the severity and
the category of the entry. The entry of a rule calls its findings repairable exactly when one can
ask something of a repair. And the repair of any report, its text and the changes in it, is the same
without the findings that the catalogue does not call repairable. -/
theorem catalogue_matches_rules_and_repair (entities : List Entity)
    (relationships : List Relationship) (r : Report) :
    (∀ f ∈ Diagram.findings ⟨entities, relationships⟩, ∃ entry,
      catalogue.filter (·.type = f.rule.tag) = [entry] ∧
        f.severity = entry.severity ∧ f.category = entry.category) ∧
    (∀ rule : Rule, rule.isFixable = true ↔
      ∃ f : Finding, f.rule = rule ∧ Plan.ofFindings [f] ≠ Plan.ofFindings []) ∧
    Report.correct { r with findings := r.findings.filter (·.rule.isFixable) } = r.correct := by
  refine ⟨fun f hf => ?_, isFixable_iff_exists_asks, ?_⟩
  · obtain ⟨category, hbelongs⟩ := Diagram.exists_category_of_mem_findings hf
    obtain ⟨entry, hentry, hseverity, hcategory⟩ := f.rule.exists_entry
    exact ⟨entry, hentry, hbelongs.severity.trans hseverity.symm,
      hbelongs.rule_category.symm.trans hcategory.symm⟩
  · unfold Report.correct
    rw [ofFindings_filter_isFixable]
    rfl

def draft : Entity := { name := "Draft", displayName := "Draft" }

/-- A report as no text has one: its findings are graver than their rules, and the foreign key that
it misses is not asked for. -/
def overstated : Report where
  entities := [draft]
  findings :=
    [{ Finding.ofDetail .emptyEntity draft.name none "" "" with severity := .error },
     .ofDetail (.missingForeignKey ⟨"Draft", "author_id", "Author"⟩) none none "" "",
     { Finding.ofDetail (.platformEntity "draft") draft.name none "" "" with category := .naming }]
  summary := Summary.ofFindings []

theorem catalogue_matches_rules_and_repair_draft :
    (∃ f ∈ Diagram.findings ⟨[draft], []⟩, f.rule = .emptyEntity ∧ ∃ entry,
      catalogue.filter (·.type = f.rule.tag) = [entry] ∧
        f.severity = entry.severity ∧ f.category = entry.category) ∧
    (overstated.findings.filter (·.rule.isFixable)).length = 1 ∧
    Report.correct
      { overstated with findings := overstated.findings.filter (·.rule.isFixable) } =
        overstated.correct := by
  obtain ⟨f, hf, hrule⟩ : ∃ f ∈ Diagram.findings ⟨[draft], []⟩, f.rule = .emptyEntity := by
    decide +kernel
  obtain ⟨hentries, -, hsame⟩ := catalogue_matches_rules_and_repair [draft] [] overstated
  exact ⟨⟨f, hf, hrule, hentries f hf⟩, by decide +kernel, hsame⟩

end EntityDiagram
