import EntityDiagram.Proofs.Finding.Raises
import Mathlib.Data.List.Perm.Basic

/-!
Findings and the order of declarations. A rule looks at one entity, or at one relationship and the
entities with the names of its sides. Where no two entities share a name, these are the same in every
order, so another order of entities and relationships gives the same findings in another order. A
summary counts findings, so it stays the same.
-/
namespace EntityDiagram

/-- Among entities with distinct names the order does not matter for a search. -/
theorem Entity.named?_perm {entities others : List Entity} (h : others.Perm entities)
    (hdistinct : (entities.map (·.name)).Nodup) (name : String) :
    named? name others = named? name entities := by
  have hothers : (others.map (·.name)).Nodup := (h.map _).nodup_iff.mpr hdistinct
  cases hfound : named? name entities with
  | some e =>
    obtain ⟨he, rfl⟩ := mem_of_named? hfound
    exact named?_of_mem hothers (h.mem_iff.mpr he)
  | none =>
    rw [named?_eq_none_iff] at hfound ⊢
    exact fun hmem => hfound ((h.map _).mem_iff.mp hmem)

theorem Relationship.findings_perm {entities others : List Entity} (h : others.Perm entities)
    (hdistinct : (entities.map (·.name)).Nodup) (q : Relationship) :
    q.findings others = q.findings entities := by
  simp only [findings, Entity.named?_perm h hdistinct]

/-- Comparing entities with those of the platform keeps to their order. -/
theorem Platform.found_perm {entities others : List Entity} (h : others.Perm entities) :
    (detect others).found.Perm (detect entities).found :=
  h.filterMap match?

/-- The same findings in another order have the same summary. -/
theorem Summary.ofFindings_perm {findings others : List Finding} (h : others.Perm findings) :
    ofFindings others = ofFindings findings := by
  have hcount (severity : Severity) :
      countSeverity severity others = countSeverity severity findings := h.countP_eq _
  simp only [ofFindings, hcount, h.countP_eq, h.length_eq]

theorem Diagram.findings_perm {d d' : Diagram} (hentities : d'.entities.Perm d.entities)
    (hrelationships : d'.relationships.Perm d.relationships) (hdistinct : d.names.Nodup) :
    d'.findings.Perm d.findings := by
  have hlinks : (d'.relationships.flatMap (·.findings d'.entities)).Perm
      (d.relationships.flatMap (·.findings d.entities)) := by
    simp only [Relationship.findings_perm hentities hdistinct]
    exact hrelationships.flatMap_right _
  have hstructure := hentities.flatMap_right Entity.structureFindings
  have hnaming := hentities.flatMap_right Entity.namingFindings
  have hplatform := (Platform.found_perm hentities).map Platform.Match.finding
  exact ((hstructure.append hnaming).append hlinks).append hplatform

/-- Entities with distinct names and relationships have the same findings in whatever order they are
declared, and the same summary. -/
theorem order_of_declarations_does_not_matter {entities entities' : List Entity}
    {relationships relationships' : List Relationship}
    (hdistinct : (entities.map (·.name)).Nodup) (hentities : entities'.Perm entities)
    (hrelationships : relationships'.Perm relationships) :
    (Diagram.findings ⟨entities', relationships'⟩).Perm
        (Diagram.findings ⟨entities, relationships⟩) ∧
      Summary.ofFindings (Diagram.findings ⟨entities', relationships'⟩) =
        Summary.ofFindings (Diagram.findings ⟨entities, relationships⟩) := by
  have hfindings : (Diagram.findings ⟨entities', relationships'⟩).Perm
      (Diagram.findings ⟨entities, relationships⟩) :=
    Diagram.findings_perm hentities hrelationships hdistinct
  exact ⟨hfindings, Summary.ofFindings_perm hfindings⟩

def shelf : Entity := { name := "Shelf", displayName := "Shelf" }

def book : Entity where
  name := "Book"
  displayName := "Book"
  attributes := [{ name := "id", displayName := "Id", typeToken := "int", isPrimaryKey := true }]

/-- A relationship whose foreign key the second entity lacks. -/
def shelfHoldsBook : Relationship where
  fromEntity := "Shelf"
  toEntity := "Book"
  cardinality := .ofSymbols "||--o\x7b"
  name := "holds"
  displayName := "holds"
  symbols := "||--o\x7b"
  label := some "holds"

/-- A many-to-many relationship with an entity that is not declared. -/
def bookQuotesPaper : Relationship where
  fromEntity := "Book"
  toEntity := "Paper"
  cardinality := .ofSymbols "\x7do--o\x7b"
  name := "Book_Paper"
  displayName := "Book Paper"
  symbols := "\x7do--o\x7b"

theorem order_of_declarations_does_not_matter_books :
    ([shelf, book].map (·.name)).Nodup ∧ [book, shelf].Perm [shelf, book] ∧
      [bookQuotesPaper, shelfHoldsBook].Perm [shelfHoldsBook, bookQuotesPaper] ∧
      (Diagram.findings ⟨[book, shelf], [bookQuotesPaper, shelfHoldsBook]⟩).Perm
        (Diagram.findings ⟨[shelf, book], [shelfHoldsBook, bookQuotesPaper]⟩) ∧
      Summary.ofFindings (Diagram.findings ⟨[book, shelf], [bookQuotesPaper, shelfHoldsBook]⟩) =
        Summary.ofFindings
          (Diagram.findings ⟨[shelf, book], [shelfHoldsBook, bookQuotesPaper]⟩) := by
  have hdistinct : ([shelf, book].map (·.name)).Nodup := by decide
  have hentities : [book, shelf].Perm [shelf, book] := List.Perm.swap _ _ _
  have hrelationships : [bookQuotesPaper, shelfHoldsBook].Perm [shelfHoldsBook, bookQuotesPaper] :=
    List.Perm.swap _ _ _
  exact ⟨hdistinct, hentities, hrelationships,
    order_of_declarations_does_not_matter hdistinct hentities hrelationships⟩

/-- Of two entities with one name the last counts, so between them the order does matter. -/
example :
    let key : Attribute :=
      { name := "shelf_id", displayName := "Shelf", typeToken := "int", isForeignKey := true }
    let linked : Entity := { book with attributes := [key] }
    shelfHoldsBook.findings [shelf, book, linked] = [] ∧
      shelfHoldsBook.findings [shelf, linked, book] ≠ [] := by
  decide

end EntityDiagram
