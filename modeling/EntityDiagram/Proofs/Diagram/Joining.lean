import EntityDiagram.Proofs.Diagram.Reading
import EntityDiagram.Proofs.Diagram.Stepwise

/-!
Joined texts. After a text that leaves no block open the machine starts anew, so the lines of a
second text have the roles they have alone. The diagram of both is that of the first with the
entities of the second declared into it: an entity with a known name takes the place of the known
one, the others follow. Entity blocks and lines outside of blocks do not see each other, so it is
only the order among the blocks and the order among the lines that a diagram depends on.
-/
namespace EntityDiagram

namespace Entity

/-- Entities with further ones declared into them. One with a known name takes the place of the
known one, and the others follow. -/
def merge (known further : List Entity) : List Entity :=
  known.map (fun e => (further.find? (·.name = e.name)).getD e) ++
    further.filter fun e => e.name ∉ known.map (·.name)

theorem find?_declare (e : Entity) (name : String) (entities : List Entity) :
    (e.declare entities).find? (·.name = name) =
      if e.name = name then some e else entities.find? (·.name = name) := by
  induction entities with
  | nil => by_cases h : e.name = name <;> simp [declare, h]
  | cons f rest ih =>
    rw [declare]
    split
    · next heq => by_cases h : e.name = name <;> simp [heq, h]
    · next hne =>
      rw [List.find?_cons, List.find?_cons, ih]
      by_cases hf : f.name = name
      · have he : e.name ≠ name := fun h => hne (hf.trans h.symm)
        simp [hf, he]
      · simp [hf]

/-- An entity with a known name takes the place of the known one. -/
theorem declare_of_mem {e : Entity} {entities : List Entity}
    (hnodup : (entities.map (·.name)).Nodup) (h : e.name ∈ entities.map (·.name)) :
    e.declare entities = entities.map fun f => if f.name = e.name then e else f := by
  induction entities with
  | nil => cases h
  | cons f rest ih =>
    obtain ⟨hf, hrest⟩ := List.nodup_cons.mp hnodup
    rw [declare, List.map_cons]
    split
    · next heq =>
      have hsame : rest.map (fun g => if g.name = e.name then e else g) = rest := by
        refine (List.map_congr_left fun g hg => if_neg fun hname => hf ?_).trans (List.map_id _)
        exact List.mem_map.mpr ⟨g, hg, hname.trans heq.symm⟩
      rw [hsame]
    · next hne => rw [ih hrest ((List.mem_cons.mp h).resolve_left (Ne.symm hne))]

theorem declare_append_of_mem {e : Entity} {xs : List Entity} (h : e.name ∈ xs.map (·.name))
    (ys : List Entity) : e.declare (xs ++ ys) = e.declare xs ++ ys := by
  induction xs with
  | nil => cases h
  | cons f rest ih =>
    rw [List.cons_append, declare, declare]
    split
    · rfl
    · next hne =>
      rw [ih ((List.mem_cons.mp h).resolve_left (Ne.symm hne)), List.cons_append]

theorem declare_append_of_not_mem {e : Entity} {xs : List Entity} (h : e.name ∉ xs.map (·.name))
    (ys : List Entity) : e.declare (xs ++ ys) = xs ++ e.declare ys := by
  induction xs with
  | nil => rfl
  | cons f rest ih =>
    have hne : f.name ≠ e.name := fun heq => h (by simp [heq])
    have hrest : e.name ∉ rest.map (·.name) := fun hmem => h (List.mem_cons_of_mem _ hmem)
    rw [List.cons_append, declare, if_neg hne, ih hrest, List.cons_append]

/-- Declared entities are kept by a condition on names together or not at all. -/
theorem filter_declare (p : String → Bool) (e : Entity) (entities : List Entity) :
    (e.declare entities).filter (p ·.name) =
      if p e.name then e.declare (entities.filter (p ·.name)) else entities.filter (p ·.name) := by
  induction entities with
  | nil => by_cases h : p e.name <;> simp [declare, h]
  | cons f rest ih =>
    rw [declare]
    split
    · next heq => by_cases h : p e.name <;> simp [declare, heq, h]
    · next hne =>
      rw [List.filter_cons, List.filter_cons, ih]
      by_cases h : p e.name <;> by_cases hf : p f.name <;> simp [declare, hne, h, hf]

/-- An entity and what takes its place have the same name. -/
theorem name_getD_find? (further : List Entity) (e : Entity) :
    ((further.find? (·.name = e.name)).getD e).name = e.name := by
  cases hfind : further.find? (·.name = e.name) with
  | none => rfl
  | some f => simpa using List.find?_some hfind

/-- Declaring one more entity commutes with merging. -/
theorem declare_merge {known : List Entity} (hnodup : (known.map (·.name)).Nodup)
    (further : List Entity) (e : Entity) :
    e.declare (merge known further) = merge known (e.declare further) := by
  have hnames : (known.map fun f => (further.find? (·.name = f.name)).getD f).map (·.name) =
      known.map (·.name) := by
    rw [List.map_map]
    exact List.map_congr_left fun f _ => name_getD_find? further f
  have hfilter := filter_declare (fun name => name ∉ known.map (·.name)) e further
  by_cases h : e.name ∈ known.map (·.name)
  · have hplaces : e.declare (known.map fun f => (further.find? (·.name = f.name)).getD f) =
        known.map fun f => ((e.declare further).find? (·.name = f.name)).getD f := by
      rw [declare_of_mem (hnames ▸ hnodup) (hnames ▸ h), List.map_map]
      refine List.map_congr_left fun f _ => ?_
      rw [Function.comp_apply, name_getD_find?, find?_declare]
      by_cases hf : e.name = f.name
      · simp [hf]
      · simp [hf, Ne.symm hf]
    rw [if_neg (by simpa using h)] at hfilter
    rw [merge, declare_append_of_mem (hnames ▸ h), hplaces, merge, hfilter]
  · have hplaces : (known.map fun f => (further.find? (·.name = f.name)).getD f) =
        known.map fun f => ((e.declare further).find? (·.name = f.name)).getD f := by
      refine List.map_congr_left fun f hf => ?_
      have hne : e.name ≠ f.name := fun heq => h (List.mem_map.mpr ⟨f, hf, heq.symm⟩)
      rw [find?_declare, if_neg hne]
    rw [if_pos (by simpa using h)] at hfilter
    rw [merge, declare_append_of_not_mem (hnames ▸ h), hplaces, merge, hfilter]

theorem merge_nil (known : List Entity) : merge known [] = known := by simp [merge]

end Entity

inductive Interleaves {α : Type} : List α → List α → List α → Prop
  | nil : Interleaves [] [] []
  | left {x : α} {xs ys zs : List α} (h : Interleaves xs ys zs) : Interleaves (x :: xs) ys (x :: zs)
  | right {y : α} {xs ys zs : List α} (h : Interleaves xs ys zs) :
      Interleaves xs (y :: ys) (y :: zs)

namespace Interleaves

variable {α β : Type} {xs ys zs : List α}

theorem swap (h : Interleaves xs ys zs) : Interleaves ys xs zs := by
  induction h with
  | nil => exact .nil
  | left _ ih => exact .right ih
  | right _ ih => exact .left ih

theorem mem (h : Interleaves xs ys zs) {z : α} (hz : z ∈ zs) : z ∈ xs ∨ z ∈ ys := by
  induction h with
  | nil => cases hz
  | left _ ih =>
    rcases List.mem_cons.mp hz with rfl | hz
    · exact Or.inl List.mem_cons_self
    · exact (ih hz).imp_left (List.mem_cons_of_mem _)
  | right _ ih =>
    rcases List.mem_cons.mp hz with rfl | hz
    · exact Or.inr List.mem_cons_self
    · exact (ih hz).imp_right (List.mem_cons_of_mem _)

/-- What only the elements of the first list give has their order. -/
theorem flatMap_eq (h : Interleaves xs ys zs) {f : α → List β} (hf : ∀ y ∈ ys, f y = []) :
    zs.flatMap f = xs.flatMap f := by
  induction h with
  | nil => rfl
  | left _ ih => rw [List.flatMap_cons, List.flatMap_cons, ih hf]
  | @right y _ _ _ _ ih =>
    rw [List.flatMap_cons, hf y List.mem_cons_self, List.nil_append]
    exact ih fun y' hy' => hf y' (List.mem_cons_of_mem _ hy')

end Interleaves

theorem significantLines_join (first second : String) :
    significantLines (first ++ "\n" ++ second) =
      significantLines first ++ significantLines second := by
  have hchars : (first ++ "\n" ++ second).toList =
      first.toList ++ '\n' :: second.toList := by simp
  simp only [significantLines_eq, Text.split, hchars, Text.splitChars_append_cons, List.map_append,
    List.filter_append]

namespace Document

structure IsBlocks (d : Document) : Prop where
  closed : d.finalState = .atTop
  inside : ∀ text, .topLevel text ∉ d.lines

def IsTopLevel (d : Document) : Prop := ∃ texts : List String, d.lines = texts.map .topLevel

theorem IsTopLevel.closed {text : String} (h : (ofText text).IsTopLevel) :
    (ofText text).finalState = .atTop := by
  obtain ⟨texts, htexts⟩ := h
  have hnone : Line.lastBoundary? (texts.map .topLevel) = none := by
    simp [Line.lastBoundary?, Line.isBoundary]
  have hfinal := (path_ofText text).final_eq
  rw [htexts, Line.openAfter, hnone] at hfinal
  exact finalState_eq_atTop_iff.mpr hfinal

/-- After a text that leaves no block open, a second one is read as it is alone. -/
theorem ofText_join {first : String} (h : (ofText first).finalState = .atTop) (second : String) :
    ofText (first ++ "\n" ++ second) =
      ⟨(ofText first).lines ++ (ofText second).lines, (ofText second).openEntity⟩ := by
  have hopen : (Line.run none (significantLines first)).2 = none := finalState_eq_atTop_iff.mp h
  simp only [ofText, significantLines_join, Line.run_append, hopen]

/-- Texts that leave no block open are read one by one. -/
theorem lines_intercalate {texts : List String}
    (h : ∀ text ∈ texts, (ofText text).finalState = .atTop) :
    (ofText (String.intercalate "\n" texts)).lines = texts.flatMap fun text => (ofText text).lines := by
  induction texts with
  | nil => decide
  | cons text rest ih =>
    have hrest := ih fun t ht => h t (List.mem_cons_of_mem _ ht)
    cases rest with
    | nil => simp
    | cons next others =>
      rw [String.intercalate_cons_cons, ofText_join (h text List.mem_cons_self), hrest]
      rfl

end Document

namespace Diagram

def merge (d further : Diagram) : Diagram :=
  ⟨Entity.merge d.entities further.entities, d.relationships ++ further.relationships⟩

theorem leadingBody_of_path {lines : List Line} {final : Option String}
    (h : Line.Path none lines final) : leadingBody lines = [] := by
  cases h with
  | nil => rfl
  | cons hmove _ => cases hmove <;> rfl

/-- Lines that do not go on with a body give a diagram that is merged into the one before. -/
theorem ofLines_append_eq_merge {xs ys : List Line} (h : leadingBody ys = [])
    (hnodup : ((ofLines xs).entities.map (·.name)).Nodup) :
    ofLines (xs ++ ys) = (ofLines xs).merge (ofLines ys) := by
  have hentities : (blocks ys).foldl
      (fun known block => (Entity.ofBlock block.1 block.2).declare known)
        (Entity.merge (ofLines xs).entities []) =
      Entity.merge (ofLines xs).entities (ofLines ys).entities :=
    List.foldl_hom (Entity.merge (ofLines xs).entities) fun further block =>
      Entity.declare_merge hnodup further (Entity.ofBlock block.1 block.2)
  rw [Entity.merge_nil] at hentities
  rw [ofLines_append h, hentities]
  rfl

/-- The diagram of a text and a further one, where the first leaves no block open. -/
theorem ofText_join {first : String} (h : (Document.ofText first).finalState = .atTop)
    (second : String) :
    ofText (first ++ "\n" ++ second) = (ofText first).merge (ofText second) := by
  rw [ofText, Document.ofText_join h]
  exact ofLines_append_eq_merge (leadingBody_of_path (Document.path_ofText second))
    (faithful_ofText first).nodup

variable {texts : List String}

/-- Texts that leave no block open give their blocks one after the other. -/
theorem blocks_flatMap (h : ∀ text ∈ texts, (Document.ofText text).finalState = .atTop) :
    blocks (texts.flatMap fun text => (Document.ofText text).lines) =
      texts.flatMap fun text => blocks (Document.ofText text).lines := by
  induction texts with
  | nil => rfl
  | cons text rest ih =>
    have hclosed : ∀ t ∈ rest, (Document.ofText t).finalState = .atTop :=
      fun t ht => h t (List.mem_cons_of_mem _ ht)
    have hbody : leadingBody (rest.flatMap fun text => (Document.ofText text).lines) = [] := by
      rw [← Document.lines_intercalate hclosed]
      exact leadingBody_of_path (Document.path_ofText _)
    rw [List.flatMap_cons, blocks_append hbody, ih hclosed, List.flatMap_cons]

theorem ofText_intercalate (h : ∀ text ∈ texts, (Document.ofText text).finalState = .atTop) :
    ofText (String.intercalate "\n" texts) =
      ⟨(texts.flatMap fun text => blocks (Document.ofText text).lines).foldl
          (fun known block => (Entity.ofBlock block.1 block.2).declare known) [],
        texts.flatMap fun text => (ofText text).relationships⟩ := by
  rw [ofText, Document.lines_intercalate h, ofLines, blocks_flatMap h, List.filterMap_flatMap]
  rfl

/-- Blocks and lines outside of blocks do not see each other. -/
theorem ofText_interleaved {parts links : List String}
    (hparts : ∀ part ∈ parts, (Document.ofText part).IsBlocks)
    (hlinks : ∀ link ∈ links, (Document.ofText link).IsTopLevel)
    (h : Interleaves parts links texts) :
    ofText (String.intercalate "\n" texts) =
      ⟨(ofText (String.intercalate "\n" parts)).entities,
        (ofText (String.intercalate "\n" links)).relationships⟩ := by
  have hclosed : ∀ text ∈ texts, (Document.ofText text).finalState = .atTop := by
    intro text htext
    rcases h.mem htext with hpart | hlink
    · exact (hparts text hpart).closed
    · exact (hlinks text hlink).closed
  have hblocks : ∀ link ∈ links, blocks (Document.ofText link).lines = [] := by
    intro link hlink
    obtain ⟨lines, hlines⟩ := hlinks link hlink
    rw [hlines, blocks_topLevel]
  have hrelationships : ∀ part ∈ parts, (ofText part).relationships = [] := by
    intro part hpart
    refine List.filterMap_eq_nil_iff.mpr fun line hline => ?_
    cases line with
    | topLevel text => exact absurd hline ((hparts part hpart).inside text)
    | _ => rfl
  rw [ofText_intercalate hclosed, ofText_intercalate fun part hpart => (hparts part hpart).closed,
    ofText_intercalate fun link hlink => (hlinks link hlink).closed, h.flatMap_eq hblocks,
    h.swap.flatMap_eq hrelationships]

end Diagram

/-- Reading composes. After a text that leaves no block open, a further one is read as it is alone,
and its diagram is merged into the one before. So texts made of the same closed blocks and the same
lines outside of blocks, each in the same order, have the same report. -/
theorem reading_composes :
    (∀ first second, (Document.ofText first).finalState = .atTop →
      (Document.ofText (first ++ "\n" ++ second)).lines =
          (Document.ofText first).lines ++ (Document.ofText second).lines ∧
        (Document.ofText (first ++ "\n" ++ second)).finalState =
          (Document.ofText second).finalState ∧
        (Document.ofText (first ++ "\n" ++ second)).openEntity =
          (Document.ofText second).openEntity ∧
        Diagram.ofText (first ++ "\n" ++ second) =
          ⟨Entity.merge (Diagram.ofText first).entities (Diagram.ofText second).entities,
            (Diagram.ofText first).relationships ++ (Diagram.ofText second).relationships⟩) ∧
      ∀ parts links texts texts' : List String,
        (∀ part ∈ parts, (Document.ofText part).IsBlocks) →
        (∀ link ∈ links, (Document.ofText link).IsTopLevel) →
        Interleaves parts links texts → Interleaves parts links texts' →
        Report.ofText (String.intercalate "\n" texts) =
          Report.ofText (String.intercalate "\n" texts') := by
  constructor
  · intro first second h
    have hdocument := Document.ofText_join h second
    refine ⟨?_, ?_, ?_, Diagram.ofText_join h second⟩
    all_goals rw [hdocument]
    rfl
  · intro parts links texts texts' hparts hlinks h h'
    rw [Report.ofText, Report.ofText, Diagram.ofText_interleaved hparts hlinks h,
      Diagram.ofText_interleaved hparts hlinks h']

def buyersText : String := "BUYER \x7b\n int id PK\n\x7d\nBILL \x7b\n int id PK\n\x7d"

def billsText : String := "BILL \x7b\n int buyer_id FK\n\x7d\nITEM \x7b\n int id PK\n\x7d"

def billsLink : String := "BUYER ||--o\x7b BILL : gets"

/-- The second text declares an entity of the first again; the link may also come before both. -/
theorem reading_composes_bills :
    (Document.ofText buyersText).finalState = .atTop ∧
      (Diagram.ofText (buyersText ++ "\n" ++ billsText)).entities =
        Entity.merge (Diagram.ofText buyersText).entities (Diagram.ofText billsText).entities ∧
      Report.ofText (String.intercalate "\n" [buyersText, billsText, billsLink]) =
        Report.ofText (String.intercalate "\n" [billsLink, buyersText, billsText]) := by
  have hclosed : (Document.ofText buyersText).finalState = .atTop ∧
      (Document.ofText billsText).finalState = .atTop := by decide
  have hinside : ∀ part ∈ [buyersText, billsText], ∀ line ∈ (Document.ofText part).lines,
      line.isBoundary = true ∨ line.entity?.isSome = true := by decide
  have hparts : ∀ part ∈ [buyersText, billsText], (Document.ofText part).IsBlocks := by
    intro part hpart
    refine ⟨?_, fun text hline => ?_⟩
    · simp only [List.mem_cons, List.not_mem_nil, or_false] at hpart
      rcases hpart with rfl | rfl
      · exact hclosed.1
      · exact hclosed.2
    · rcases hinside part hpart _ hline with h | h <;> cases h
  have hlinks : ∀ link ∈ [billsLink], (Document.ofText link).IsTopLevel := by
    intro link hlink
    obtain rfl := List.mem_singleton.mp hlink
    exact ⟨[billsLink], by decide⟩
  obtain ⟨hjoin, hinterleaved⟩ := reading_composes
  obtain ⟨-, -, -, hdiagram⟩ := hjoin buyersText billsText hclosed.1
  refine ⟨hclosed.1, congrArg Diagram.entities hdiagram, ?_⟩
  exact hinterleaved _ _ _ _ hparts hlinks (.left (.left (.right .nil)))
    (.right (.left (.left .nil)))

end EntityDiagram
