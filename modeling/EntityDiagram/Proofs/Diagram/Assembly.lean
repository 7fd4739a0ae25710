import EntityDiagram.Proofs.Diagram.Joining
import EntityDiagram.Proofs.FirstSeen
import Mathlib.Data.List.Nodup

/-!
How a diagram is put together from the lines of a text. An entity is declared by a header and may be
declared again, also inside of another block. It stands where its name occurs first among the
headers, and its columns are those of the block that its last header opens: declaring a name again
keeps the place and forgets the columns. Relationships are those of the lines outside of blocks.
-/
namespace EntityDiagram

namespace Line

def declared? : Line → Option String
  | opening _ name => some name
  | _ => none

def bodyText? : Line → Option String
  | body text _ => some text
  | _ => none

def topLevelText? : Line → Option String
  | topLevel text => some text
  | _ => none

/-- The lines after the last header of an entity, up to the next line that opens or closes a
block. -/
structure LastBlock (lines : List Line) (name : String) (inner : List Line) : Prop where
  inside : ∀ line ∈ inner, line.isBoundary = false
  split : ∃ before header after, lines = before ++ opening header name :: (inner ++ after) ∧
    (∀ line ∈ after.head?, line.isBoundary = true) ∧ ∀ line ∈ after, line.declared? ≠ some name

/-- A declared name has a last header. -/
theorem exists_last_header {lines : List Line} {name : String}
    (h : name ∈ lines.filterMap declared?) :
    ∃ before header after, lines = before ++ opening header name :: after ∧
      ∀ line ∈ after, line.declared? ≠ some name := by
  induction lines with
  | nil => cases h
  | cons line rest ih =>
    by_cases hrest : name ∈ rest.filterMap declared?
    · obtain ⟨before, header, after, rfl, hafter⟩ := ih hrest
      exact ⟨line :: before, header, after, rfl, hafter⟩
    · have hnone : ∀ other ∈ rest, other.declared? ≠ some name :=
        fun other hother heq => hrest (List.mem_filterMap.mpr ⟨other, hother, heq⟩)
      obtain ⟨other, hother, hname⟩ := List.mem_filterMap.mp h
      rcases List.mem_cons.mp hother with rfl | hother
      · cases other with
        | opening header _ =>
          obtain rfl := Option.some.inj hname
          exact ⟨[], header, rest, rfl, hnone⟩
        | _ => cases hname
      · exact absurd hname (hnone other hother)

theorem exists_lastBlock {lines : List Line} {name : String}
    (h : name ∈ lines.filterMap declared?) : ∃ inner, LastBlock lines name inner := by
  obtain ⟨before, header, after, rfl, hafter⟩ := exists_last_header h
  refine ⟨after.takeWhile fun line => !line.isBoundary, ⟨?_, before, header,
    after.dropWhile fun line => !line.isBoundary, ?_, ?_, ?_⟩⟩
  · intro line hline
    simpa using List.mem_takeWhile_imp hline
  · rw [List.takeWhile_append_dropWhile]
  · intro line hline
    have hhead := List.head?_dropWhile_not (fun line => !line.isBoundary) after
    rw [hline] at hhead
    simpa using hhead
  · intro line hline
    exact hafter line ((List.dropWhile_suffix _).subset hline)

/-- Inside of a block there are only body lines of its entity. -/
theorem Path.exists_body {inner : List Line} {owner : String} {final : Option String}
    (h : Path (some owner) inner final) (hinside : ∀ line ∈ inner, line.isBoundary = false) :
    ∃ texts : List String, inner = texts.map (body · owner) := by
  obtain ⟨current, hcurrent⟩ : ∃ current, current = some owner := ⟨_, rfl⟩
  rw [← hcurrent] at h
  induction h with
  | nil => exact ⟨[], rfl⟩
  | cons hmove _ ih =>
    have hline := hinside _ List.mem_cons_self
    cases hmove with
    | opening => cases hline
    | closing => cases hline
    | @body text _ =>
      obtain ⟨texts, rfl⟩ := ih (fun line hmem => hinside line (List.mem_cons_of_mem _ hmem))
        hcurrent
      obtain rfl := Option.some.inj hcurrent
      exact ⟨text :: texts, rfl⟩
    | topLevel => cases hcurrent

end Line

namespace Entity

@[simp]
theorem ofBlock_name (name : String) (body : List String) : (ofBlock name body).name = name := rfl

/-- Declaring an entity adds its name at the end unless the name is known. -/
theorem names_declare (e : Entity) (known : List Entity) :
    (e.declare known).map (·.name) =
      if e.name ∈ known.map (·.name) then known.map (·.name)
      else known.map (·.name) ++ [e.name] := by
  induction known with
  | nil => rfl
  | cons f rest ih =>
    rw [declare]
    by_cases hf : f.name = e.name
    · rw [if_pos hf, if_pos (by simp [hf]), List.map_cons, List.map_cons, hf]
    · have hmem : e.name ∈ (f :: rest).map (·.name) ↔ e.name ∈ rest.map (·.name) := by
        rw [List.map_cons, List.mem_cons, or_iff_right (Ne.symm hf)]
      rw [if_neg hf, List.map_cons, ih, if_congr hmem rfl rfl, List.map_cons]
      split <;> rfl

/-- The names of declared blocks, each where it occurs first. -/
theorem names_foldl_declare (blocks : List (String × List String)) :
    (blocks.foldl (fun known block => (ofBlock block.1 block.2).declare known) []).map (·.name) =
      (blocks.map (·.1)).eraseDups := by
  induction blocks using List.reverseRecOn with
  | nil => rfl
  | append_singleton blocks block ih =>
    have hknown : block.1 ∈ (blocks.map (·.1)).eraseDups ↔
        (blocks.map (·.1)).contains block.1 = true := by
      rw [List.mem_eraseDups, List.contains_iff_mem]
    rw [List.foldl_concat, names_declare, ih, ofBlock_name, List.map_append, List.map_singleton,
      eraseDups_concat, if_congr hknown rfl rfl]

/-- Blocks of other entities leave an entity as it is. -/
theorem find?_foldl_declare {name : String} {blocks : List (String × List String)}
    (h : name ∉ blocks.map (·.1)) (known : List Entity) :
    (blocks.foldl (fun known block => (ofBlock block.1 block.2).declare known) known).find?
        (·.name = name) = known.find? (·.name = name) := by
  induction blocks generalizing known with
  | nil => rfl
  | cons block rest ih =>
    rw [List.map_cons, List.mem_cons, not_or] at h
    rw [List.foldl_cons, ih h.2, find?_declare, ofBlock_name, if_neg (Ne.symm h.1)]

end Entity

namespace Diagram

/-- The names of the blocks are those on the headers. -/
theorem map_fst_blocks (lines : List Line) :
    (blocks lines).map (·.1) = lines.filterMap Line.declared? := by
  induction lines with
  | nil => rfl
  | cons line rest ih =>
    cases line with
    | opening _ name =>
      rw [blocks, List.map_cons, ih]
      rfl
    | _ => exact ih

theorem leadingBody_of_boundary {lines : List Line}
    (h : ∀ line ∈ lines.head?, line.isBoundary = true) : leadingBody lines = [] := by
  cases lines with
  | nil => rfl
  | cons line rest =>
    have hline := h line rfl
    cases line with
    | body _ _ => cases hline
    | _ => rfl

/-- The last block of an entity among all blocks. -/
theorem blocks_of_lastBlock {lines inner : List Line} {name : String} {final : Option String}
    (hpath : Line.Path none lines final) (h : Line.LastBlock lines name inner) :
    ∃ earlier later : List (String × List String),
      blocks lines = earlier ++ (name, inner.filterMap Line.bodyText?) :: later ∧
      name ∉ later.map (·.1) := by
  obtain ⟨before, header, after, rfl, hend, hlast⟩ := h.split
  obtain ⟨middle, -, _ | ⟨⟨⟩, hrest⟩⟩ := Line.Path.append_iff.mp hpath
  obtain ⟨next, hinner, -⟩ := Line.Path.append_iff.mp hrest
  obtain ⟨texts, rfl⟩ := hinner.exists_body h.inside
  have htexts : (texts.map (Line.body · name)).filterMap Line.bodyText? = texts := by
    rw [List.filterMap_map]
    exact List.filterMap_some
  refine ⟨blocks before, blocks after, ?_, ?_⟩
  · rw [blocks_append rfl, blocks, leadingBody_body_append, blocks_body_append,
      leadingBody_of_boundary hend, List.append_nil, htexts]
  · rw [map_fst_blocks, List.mem_filterMap]
    rintro ⟨line, hline, hname⟩
    exact hlast line hline hname

/-- The entity of a name is that of its last block. -/
theorem find?_of_lastBlock {lines inner : List Line} {name : String} {final : Option String}
    (hpath : Line.Path none lines final) (h : Line.LastBlock lines name inner) :
    (ofLines lines).entities.find? (·.name = name) =
      some (Entity.ofBlock name (inner.filterMap Line.bodyText?)) := by
  obtain ⟨earlier, later, hblocks, hlater⟩ := blocks_of_lastBlock hpath h
  rw [ofLines, hblocks, List.foldl_append, List.foldl_cons, Entity.find?_foldl_declare hlater,
    Entity.find?_declare, Entity.ofBlock_name, if_pos rfl]

/-- The diagram is put together from lines: entities stand where their names occur first, each with
the columns of its last block, and the relationships are those of lines outside of blocks. -/
structure AssembledFrom (d : Diagram) (lines : List Line) : Prop where
  distinct : (d.entities.map (·.name)).Nodup
  names : d.entities.map (·.name) = (lines.filterMap Line.declared?).eraseDups
  block : ∀ e ∈ d.entities, ∃ inner, Line.LastBlock lines e.name inner
  attributes : ∀ e ∈ d.entities, ∀ inner, Line.LastBlock lines e.name inner →
    e.attributes = (inner.filterMap Line.bodyText?).filterMap Attribute.ofLine?
  relationships : d.relationships =
    (lines.filterMap Line.topLevelText?).filterMap Relationship.ofLine?

theorem assembledFrom_of_path {lines : List Line} {final : Option String}
    (h : Line.Path none lines final) : (ofLines lines).AssembledFrom lines := by
  have hnames : (ofLines lines).entities.map (·.name) =
      (lines.filterMap Line.declared?).eraseDups := by
    rw [ofLines, Entity.names_foldl_declare, map_fst_blocks]
  have hdistinct : ((ofLines lines).entities.map (·.name)).Nodup := by
    rw [hnames]
    exact nodup_eraseDups _
  refine ⟨hdistinct, hnames, fun e he => ?_, fun e he inner hinner => ?_, ?_⟩
  · have hmem : e.name ∈ (ofLines lines).entities.map (·.name) := List.mem_map_of_mem he
    rw [hnames, List.mem_eraseDups] at hmem
    exact Line.exists_lastBlock hmem
  · have hmem := List.mem_of_find?_eq_some (find?_of_lastBlock h hinner)
    -- names are distinct, so the entity that is found is the given one
    have hfound := List.inj_on_of_nodup_map hdistinct he hmem (Entity.ofBlock_name _ _).symm
    exact congrArg Entity.attributes hfound
  · rw [ofLines, List.filterMap_filterMap]
    exact List.filterMap_congr fun line _ => by cases line <;> rfl

end Diagram

/-- The diagram of a text is put together from the lines of the text. In particular, headers with
distinct names give one entity each, in their order. -/
theorem diagram_is_assembled (text : String) :
    (Diagram.ofText text).AssembledFrom (Document.ofText text).lines ∧
      (((Document.ofText text).lines.filterMap Line.declared?).Nodup →
        (Diagram.ofText text).entities.map (·.name) =
          (Document.ofText text).lines.filterMap Line.declared?) := by
  have hassembled : (Diagram.ofText text).AssembledFrom (Document.ofText text).lines :=
    Diagram.assembledFrom_of_path (Document.path_ofText text)
  refine ⟨hassembled, fun hnodup => ?_⟩
  rw [hassembled.names, eraseDups_of_nodup hnodup]

def pairText : String := "A \x7b\n int a PK\n\x7d\nB ||--|| A\nB \x7b\n int b\n\x7d"

/-- The first block is left open, and its entity is declared again at the end. -/
def reopenedText : String := "A \x7b\n int a PK\nB \x7b\n int b\n\x7d\nA \x7b\n int c\n B ||--|| A"

theorem diagram_is_assembled_reopened :
    (Diagram.ofText pairText).entities.map (·.name) = ["A", "B"] ∧
      (Diagram.ofText reopenedText).entities.map (·.name) = ["A", "B"] ∧
      ∀ e ∈ (Diagram.ofText reopenedText).entities, e.name = "A" →
        e.attributes = ["int c", "B ||--|| A"].filterMap Attribute.ofLine? := by
  have hpair : (Document.ofText pairText).lines.filterMap Line.declared? = ["A", "B"] := by decide
  have hnames : (Document.ofText reopenedText).lines.filterMap Line.declared? =
      ["A", "B", "A"] := by decide
  have hlines : (Document.ofText reopenedText).lines =
      [.opening "A \x7b" "A", .body "int a PK" "A", .opening "B \x7b" "B", .body "int b" "B",
        .closing]
        ++ .opening "A \x7b" "A" :: ([.body "int c" "A", .body "B ||--|| A" "A"] ++ []) := by decide
  have hdistinct := (diagram_is_assembled pairText).2 (by rw [hpair]; decide)
  rw [hpair] at hdistinct
  have hassembled := (diagram_is_assembled reopenedText).1
  refine ⟨hdistinct, ?_, fun e he hname => ?_⟩
  · rw [hassembled.names, hnames]
    decide
  · have hblock : Line.LastBlock (Document.ofText reopenedText).lines e.name
        [.body "int c" "A", .body "B ||--|| A" "A"] := by
      rw [hname]
      exact ⟨by decide, _, _, [], hlines, by simp, by simp⟩
    exact hassembled.attributes e he _ hblock

end EntityDiagram
