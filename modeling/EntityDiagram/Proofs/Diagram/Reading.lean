import EntityDiagram.Proofs.Diagram.Printing

/-!
Diagrams that are read from a text. Every line with a role comes from a significant line of the
text, every entity from a block, and declaring a name again keeps the names distinct. So a diagram
that is read from a text is what its written text says.
-/
namespace EntityDiagram

open Text

/-- A header line begins with the name of its entity. -/
theorem isWord_of_headerName? {line name : String} (h : headerName? line = some name) :
    IsWord name.toList ∧ ∀ c ∈ name.toList, c ∈ line.toList := by
  obtain ⟨cs, hcs, rfl⟩ := Option.map_eq_some_iff.mp h
  rw [String.toList_ofList]
  unfold headerChars? at hcs
  split at hcs
  · split at hcs
    · next word rest hrun =>
      obtain ⟨hne, hall, -, hline⟩ := run?_eq_some_iff.mp hrun
      split at hcs
      · obtain rfl := Option.some.inj hcs
        exact ⟨⟨hne, hall⟩, fun c hc => by simp [hline, hc]⟩
      · cases hcs
    · cases hcs
  · cases hcs

namespace Line

/-- The role of a line fits its text, which is one of those that were read. -/
inductive ReadFrom (texts : List String) : Line → Prop
  | opening {text name : String} (h : text ∈ texts) (hname : headerName? text = some name) :
      ReadFrom texts (.opening text name)
  | closing : ReadFrom texts .closing
  | body {text owner : String} (h : text ∈ texts) : ReadFrom texts (.body text owner)
  | topLevel {text : String} (h : text ∈ texts) : ReadFrom texts (.topLevel text)

theorem ReadFrom.cons {texts : List String} {line : Line} (h : ReadFrom texts line)
    (text : String) : ReadFrom (text :: texts) line := by
  cases h with
  | opening h hname => exact opening (List.mem_cons_of_mem _ h) hname
  | closing => exact closing
  | body h => exact body (List.mem_cons_of_mem _ h)
  | topLevel h => exact topLevel (List.mem_cons_of_mem _ h)

theorem readFrom_step (current : Option String) (text : String) (texts : List String) :
    ReadFrom (text :: texts) (step current text).1 := by
  unfold step
  split
  · next name hname => exact .opening List.mem_cons_self hname
  · split
    · exact .closing
    · split
      · exact .body List.mem_cons_self
      · exact .topLevel List.mem_cons_self

theorem readFrom_run (current : Option String) (texts : List String) :
    ∀ line ∈ (run current texts).1, ReadFrom texts line := by
  induction texts generalizing current with
  | nil => simp [run]
  | cons text rest ih =>
    intro line hline
    rcases List.mem_cons.mp hline with rfl | hline
    · exact readFrom_step current text rest
    · exact (ih _ line hline).cons text

end Line

namespace Diagram

theorem mem_leadingBody {lines : List Line} {text : String} (h : text ∈ leadingBody lines) :
    ∃ owner, Line.body text owner ∈ lines := by
  induction lines with
  | nil => cases h
  | cons line rest ih =>
    cases line with
    | body text' owner =>
      rcases List.mem_cons.mp h with rfl | h
      · exact ⟨owner, List.mem_cons_self⟩
      · obtain ⟨owner', hmem⟩ := ih h
        exact ⟨owner', List.mem_cons_of_mem _ hmem⟩
    | opening _ _ => cases h
    | closing => cases h
    | topLevel _ => cases h

theorem mem_blocks {lines : List Line} {block : String × List String} (h : block ∈ blocks lines) :
    (∃ text, Line.opening text block.1 ∈ lines) ∧
      ∀ text ∈ block.2, ∃ owner, Line.body text owner ∈ lines := by
  induction lines with
  | nil => cases h
  | cons line rest ih =>
    have hlater : block ∈ blocks rest → (∃ text, Line.opening text block.1 ∈ line :: rest) ∧
        ∀ text ∈ block.2, ∃ owner, Line.body text owner ∈ line :: rest := by
      intro hrest
      obtain ⟨⟨text, htext⟩, hbody⟩ := ih hrest
      refine ⟨⟨text, List.mem_cons_of_mem _ htext⟩, fun text' htext' => ?_⟩
      obtain ⟨owner, hmem⟩ := hbody text' htext'
      exact ⟨owner, List.mem_cons_of_mem _ hmem⟩
    cases line with
    | opening text name =>
      rcases List.mem_cons.mp h with rfl | h
      · refine ⟨⟨text, List.mem_cons_self⟩, fun text' htext' => ?_⟩
        obtain ⟨owner, hmem⟩ := mem_leadingBody htext'
        exact ⟨owner, List.mem_cons_of_mem _ hmem⟩
      · exact hlater h
    | body _ _ => exact hlater h
    | closing => exact hlater h
    | topLevel _ => exact hlater h

end Diagram

namespace Entity

theorem mem_declare {e f : Entity} {entities : List Entity} (h : f ∈ e.declare entities) :
    f = e ∨ f ∈ entities := by
  induction entities with
  | nil => exact Or.inl (by simpa [declare] using h)
  | cons g rest ih =>
    rw [declare] at h
    split at h
    · rcases List.mem_cons.mp h with rfl | h
      · exact Or.inl rfl
      · exact Or.inr (List.mem_cons_of_mem _ h)
    · rcases List.mem_cons.mp h with rfl | h
      · exact Or.inr List.mem_cons_self
      · exact (ih h).imp_right (List.mem_cons_of_mem _)

/-- A declared entity takes the place of the one with its name, so names stay distinct. -/
theorem nodup_declare {e : Entity} {entities : List Entity}
    (h : (entities.map (·.name)).Nodup) : ((e.declare entities).map (·.name)).Nodup := by
  induction entities with
  | nil => simp [declare]
  | cons f rest ih =>
    obtain ⟨hf, hrest⟩ := List.nodup_cons.mp h
    rw [declare]
    split
    · next heq =>
      rw [List.map_cons, ← heq]
      exact h
    · next hne =>
      refine List.nodup_cons.mpr ⟨?_, ih hrest⟩
      intro hmem
      obtain ⟨g, hg, hname⟩ := List.mem_map.mp hmem
      rcases mem_declare hg with rfl | hg
      · exact hne hname.symm
      · exact hf (List.mem_map.mpr ⟨g, hg, hname⟩)

/-- What declaring one block after the other keeps: names are distinct and every entity comes from
a block. -/
theorem foldl_declare_blocks {P : Entity → Prop} {blocks : List (String × List String)}
    {known : List Entity} (hnodup : (known.map (·.name)).Nodup) (hknown : ∀ e ∈ known, P e)
    (hblocks : ∀ block ∈ blocks, P (ofBlock block.1 block.2)) :
    ((blocks.foldl (fun known block => (ofBlock block.1 block.2).declare known) known).map
        (·.name)).Nodup ∧
      ∀ e ∈ blocks.foldl (fun known block => (ofBlock block.1 block.2).declare known) known,
        P e := by
  induction blocks generalizing known with
  | nil => exact ⟨hnodup, hknown⟩
  | cons block rest ih =>
    refine ih (nodup_declare hnodup) ?_ fun b hb => hblocks b (List.mem_cons_of_mem _ hb)
    intro e he
    rcases mem_declare he with rfl | he
    · exact hblocks block List.mem_cons_self
    · exact hknown e he

end Entity

namespace Diagram

/-- What is read is what its written text says, and the names in it are made of characters of the
text. -/
theorem faithful_ofText_and_names (text : String) :
    (ofText text).Faithful ∧
      (∀ e ∈ (ofText text).entities, ∀ c ∈ e.name.toList, c ∈ text.toList) ∧
      ∀ q ∈ (ofText text).relationships,
        ∀ c, c ∈ q.fromEntity.toList ∨ c ∈ q.toEntity.toList → c ∈ text.toList := by
  have hlines : ∀ line ∈ (Document.ofText text).lines,
      Line.ReadFrom (significantLines text) line := Line.readFrom_run none _
  have hchars : ∀ line ∈ significantLines text, ∀ c ∈ line.toList, c ∈ text.toList :=
    fun line hline c hc => ((mem_significantLines hline).2 c hc).1
  have hblocks : ∀ block ∈ blocks (Document.ofText text).lines,
      (Entity.ofBlock block.1 block.2).Faithful ∧ ∀ c ∈ block.1.toList, c ∈ text.toList := by
    intro block hblock
    obtain ⟨⟨header, hheader⟩, hbody⟩ := mem_blocks hblock
    cases hlines _ hheader with
    | opening hmem hname =>
      obtain ⟨hword, hsub⟩ := isWord_of_headerName? hname
      refine ⟨⟨hword, rfl, ?_⟩, fun c hc => hchars header hmem c (hsub c hc)⟩
      intro a ha
      obtain ⟨line, hline, hread⟩ := List.mem_filterMap.mp ha
      obtain ⟨owner, hmem⟩ := hbody line hline
      cases hlines _ hmem with
      | body hsignificant =>
        obtain ⟨htrim, hline⟩ := mem_significantLines hsignificant
        exact Attribute.written_of_ofLine? hread htrim.last fun hc => (hline _ hc).2 rfl
  obtain ⟨hnodup, hentities⟩ :=
    @Entity.foldl_declare_blocks (fun e => e.Faithful ∧ ∀ c ∈ e.name.toList, c ∈ text.toList)
      _ [] List.nodup_nil (List.forall_mem_nil _) hblocks
  have hrelationships : ∀ q ∈ (ofText text).relationships, q.Faithful ∧
      ∀ c, c ∈ q.fromEntity.toList ∨ c ∈ q.toEntity.toList → c ∈ text.toList := by
    intro q hq
    obtain ⟨line, hline, hread⟩ := List.mem_filterMap.mp hq
    cases hlines line hline with
    | topLevel hmem =>
      obtain ⟨hfaithful, hsub⟩ := Relationship.faithful_of_ofLine? hread
      exact ⟨hfaithful, fun c hc => hchars _ hmem c (hsub c hc)⟩
    | opening _ _ => cases hread
    | closing => cases hread
    | body _ => cases hread
  exact ⟨⟨hnodup, fun e he => (hentities e he).1, fun q hq => (hrelationships q hq).1⟩,
    fun e he => (hentities e he).2, fun q hq => (hrelationships q hq).2⟩

/-- Every diagram that is read is what its written text says. -/
theorem faithful_ofText (text : String) : (ofText text).Faithful :=
  (faithful_ofText_and_names text).1

/-- A text without the dotted capital I gives names without it. -/
theorem written_ofText {text : String} (h : '\u0130' ∉ text.toList) :
    (ofText text).Written := by
  obtain ⟨hfaithful, hentities, hrelationships⟩ := faithful_ofText_and_names text
  refine ⟨hfaithful.nodup, ?_, ?_⟩
  · intro e he
    have hentity := hfaithful.entities e he
    exact ⟨⟨hentity.name, fun hc => h (hentities e he _ hc)⟩, hentity.displayName_eq,
      hentity.attributes⟩
  · intro q hq
    exact (hfaithful.relationships q hq).written
      (fun hc => h (hrelationships q hq _ (Or.inl hc)))
      (fun hc => h (hrelationships q hq _ (Or.inr hc)))

end Diagram

end EntityDiagram
