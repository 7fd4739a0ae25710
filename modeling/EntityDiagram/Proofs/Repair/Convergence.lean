import EntityDiagram.Proofs.Repair.Resolved
import Mathlib.Logic.Function.Iterate

/-!
Convergence of repeated repair. Every round takes away a many-to-many relationship while there is
one. Without any, a round leaves a tidy diagram, in which nothing but a key may still be renamed;
the next round renames that key, and after it a round changes nothing. So the number of rounds is
bounded by the number of many-to-many relationships, and from then on the text stays the same.
-/
namespace EntityDiagram

open Text Repair

namespace Repair

variable {e : Entity} {conflicting : List String}

def KeySettled (e : Entity) : Prop :=
  ∀ i a, e.attributes[i]? = some a → IsChosenKey e [] (e.attributes.take i) a →
    a.name = Entity.nameColumn

/-- No column is added when no foreign key is missing. -/
theorem take_repairedAttributes :
    (repairedAttributes e conflicting []).take e.attributes.length =
      repairedAttributes e conflicting [] := by
  have hdrop : (repairedAttributes e conflicting []).drop e.attributes.length = [] := by
    rw [drop_repairedAttributes]
    rfl
  exact List.take_of_length_le (List.drop_eq_nil_iff.mp hdrop)

/-- No column is marked when no foreign key is missing. -/
theorem MarkedAs.eq_constraints {before : List Attribute} {a : Attribute} {constraints : String}
    (h : MarkedAs [] before a constraints) : constraints = a.constraints := by
  cases h with
  | kept _ => rfl
  | marked hfor =>
    obtain ⟨fix, hfix, -⟩ := hfor.missing
    cases hfix

/-- An entity with nothing to repair and a settled key stays as it is. -/
theorem repairedAttributes_eq_self (hfit : Fits conflicting [] e) (hwritten : e.Written)
    (hconflicts : ∀ a ∈ e.attributes, isNameConflict a = false) (hsettled : KeySettled e) :
    repairedAttributes e conflicting [] = e.attributes := by
  have hsame : ((repairedAttributes e conflicting []).take e.attributes.length).map id =
      e.attributes.map id := by
    apply map_take_repairedAttributes hfit
    intro i a name constraints hi hname hconstraints
    have ha := List.mem_of_getElem? hi
    have hkept : name = a.name := by
      cases hname with
      | key hchosen => exact (hsettled i a hi hchosen).symm
      | conflict hconflict _ =>
        rw [hconflicts a ha] at hconflict
        cases hconflict
      | kept _ _ => rfl
    rw [hkept, hconstraints.eq_constraints]
    exact (hwritten.attributes a ha).rewritten_self
  rwa [take_repairedAttributes, List.map_id, List.map_id] at hsame

def keyFlags (a : Attribute) : Bool × Bool := (a.isPrimaryKey, a.isForeignKey)

theorem map_keyFlags_repaired (hfit : Fits conflicting [] e) (hwritten : e.Written) :
    (repairedAttributes e conflicting []).map keyFlags = e.attributes.map keyFlags := by
  rw [← take_repairedAttributes]
  apply map_take_repairedAttributes hfit
  intro i a name constraints hi hname hconstraints
  have ha := hwritten.attributes a (List.mem_of_getElem? hi)
  have hold := ha.hasFlagsOf
  have hnew := a.hasFlagsOf_rewritten name constraints
  rw [hconstraints.eq_constraints] at hnew ⊢
  rw [keyFlags, keyFlags, hnew.isPrimaryKey, hnew.isForeignKey, hold.isPrimaryKey,
    hold.isForeignKey]

/-- Whether a key is renamed depends on the flags of the columns alone. -/
theorem renamesKey_of_keyFlags {e' : Entity}
    (h : e'.attributes.map keyFlags = e.attributes.map keyFlags)
    (hrenames : renamesKey e' [] = true) : renamesKey e [] = true := by
  have hmarks (f : Entity) : f.primaryKeys.map (·.isForeignKey) =
      ((f.attributes.map keyFlags).filter Prod.fst).map Prod.snd := by
    rw [List.filter_map, List.map_map]
    rfl
  have hsame : e'.primaryKeys.map (·.isForeignKey) = e.primaryKeys.map (·.isForeignKey) := by
    rw [hmarks, hmarks, h]
  have hjunction : e'.isJunctionTable = e.isJunctionTable := by
    have hlength := congrArg List.length hsame
    have hcount := congrArg (List.countP id) hsame
    rw [List.length_map, List.length_map] at hlength
    rw [List.countP_map, List.countP_map, List.countP_eq_length_filter,
      List.countP_eq_length_filter] at hcount
    simp only [Entity.isJunctionTable, hlength]
    exact congrArg (fun count => _ && decide (1 < count)) hcount
  obtain ⟨key', hkey', hother, hforeign, -⟩ := renamesKey_iff.mp hrenames
  have hhead := congrArg List.head? hsame
  rw [List.head?_map, List.head?_map, hkey', Option.map_some, eq_comm,
    Option.map_eq_some_iff] at hhead
  obtain ⟨key, hkey, heq⟩ := hhead
  exact renamesKey_iff.mpr ⟨key, hkey, hjunction ▸ hother, heq.trans hforeign, by simp⟩

/-- The chosen key of a repaired entity is settled: the repair has renamed it. -/
theorem keySettled_repaired (hfit : Fits conflicting [] e) (hwritten : e.Written) :
    KeySettled { e with attributes := repairedAttributes e conflicting [] } := by
  have hflags := map_keyFlags_repaired hfit hwritten
  intro i a' hi' hchosen'
  dsimp only at hi' hchosen'
  have hlength : (repairedAttributes e conflicting []).length = e.attributes.length := by
    simpa using congrArg List.length hflags
  have hlt : i < e.attributes.length := hlength ▸ (List.getElem?_eq_some_iff.mp hi').1
  obtain ⟨name, constraints, hname, hconstraints, hget⟩ :=
    getElem?_repairedAttributes_index hfit (List.getElem?_eq_getElem hlt)
  obtain rfl : a' = _ := Option.some.inj (hi'.symm.trans hget)
  have ha := hwritten.attributes _ (List.getElem_mem hlt)
  have hkey : e.attributes[i].isPrimaryKey = true :=
    (flags_rewritten name ha hconstraints).1 ▸ hchosen'.isPrimaryKey
  have hbefore : ∀ b ∈ e.attributes.take i, b.isPrimaryKey = false := by
    intro b hb
    have hmem : keyFlags b ∈ (e.attributes.take i).map keyFlags := List.mem_map_of_mem hb
    rw [List.map_take, ← hflags, ← List.map_take] at hmem
    obtain ⟨b', hb', heq⟩ := List.mem_map.mp hmem
    exact (congrArg Prod.fst heq).symm.trans (hchosen'.first b' hb')
  have hchosen : IsChosenKey e [] (e.attributes.take i) e.attributes[i] :=
    ⟨renamesKey_of_keyFlags hflags hchosen'.renames, hkey, hbefore⟩
  rw [Attribute.rewritten_name]
  cases hname with
  | key _ => rfl
  | conflict hconflict _ => simp [isNameConflict, hkey] at hconflict
  | kept hother _ => exact absurd hchosen hother

end Repair

namespace Diagram

variable {d : Diagram}

def manyToManyCount (d : Diagram) : Nat := d.relationships.countP (·.isManyToMany)

/-- Links are not many-to-many, so only kept relationships count. -/
theorem manyToManyCount_repaired (d : Diagram) :
    d.repaired.manyToManyCount = d.kept.countP (·.isManyToMany) := by
  have hlinks : (d.plan.junctions.flatMap fun fix =>
      [link fix fix.fromEntity, link fix fix.toEntity]).countP (·.isManyToMany) = 0 := by
    rw [List.countP_eq_zero]
    intro q hq
    obtain ⟨fix, -, hq⟩ := List.mem_flatMap.mp hq
    simp only [List.mem_cons, List.not_mem_nil, or_false] at hq
    rcases hq with rfl | rfl <;> simp [isManyToMany_link]
  rw [manyToManyCount, repaired, List.countP_append, hlinks, Nat.add_zero]

/-- The first many-to-many relationship with a junction name is replaced. -/
theorem exists_isReplaced (h : 0 < d.manyToManyCount) :
    ∃ q ∈ d.relationships, q.isManyToMany = true ∧ isReplaced d.plan.junctions q = true := by
  obtain ⟨q, hq, hmany⟩ := List.countP_pos_iff.mp h
  obtain ⟨fix, hfix, -⟩ : ∃ fix ∈ d.plan.junctions, fix.junctionEntity = q.junctionName :=
    exists_mem_firstSeen (mem_junctionFixes_iff.mpr ⟨none, Raises.manyToMany hq hmany⟩)
  obtain ⟨q', hq', hmany', rfl⟩ := exists_of_mem_junctions hfix
  exact ⟨q', hq', hmany', isReplaced_iff.mpr ⟨hmany', hfix⟩⟩

/-- A round takes away a many-to-many relationship while there is one. -/
theorem manyToManyCount_repaired_le (d : Diagram) :
    d.repaired.manyToManyCount ≤ d.manyToManyCount - 1 := by
  have hsplit := List.countP_eq_countP_filter_add d.relationships (·.isManyToMany)
    (isReplaced d.plan.junctions)
  rw [manyToManyCount_repaired, kept]
  rcases Nat.eq_zero_or_pos d.manyToManyCount with hnone | hpos
  · rw [manyToManyCount] at hnone ⊢
    omega
  · obtain ⟨q, hq, hmany, hreplaced⟩ := exists_isReplaced hpos
    have hgone : 0 < (d.relationships.filter (isReplaced d.plan.junctions)).countP
        (·.isManyToMany) :=
      List.countP_pos_iff.mpr ⟨q, List.mem_filter.mpr ⟨hq, hreplaced⟩, hmany⟩
    rw [manyToManyCount]
    omega

theorem manyToManyCount_iterate_le (d : Diagram) (n : Nat) :
    (repaired^[n] d).manyToManyCount ≤ d.manyToManyCount - n := by
  induction n with
  | zero => exact Nat.le_refl _
  | succ n ih =>
    rw [Function.iterate_succ_apply']
    have hround := manyToManyCount_repaired_le (repaired^[n] d)
    omega

theorem Written.iterate (h : d.Written) (n : Nat) : (Diagram.repaired^[n] d).Written := by
  induction n with
  | zero => exact h
  | succ n ih =>
    rw [Function.iterate_succ_apply']
    exact ih.repaired

/-- Repair has nothing left to do but to rename keys. -/
structure Tidy (d : Diagram) : Prop where
  relationships : ∀ q ∈ d.relationships, q.isManyToMany = false
  conflicts : ∀ e ∈ d.entities, ∀ a ∈ e.attributes, isNameConflict a = false
  foreignKeys : ∀ entity fix, ¬ d.Raises entity (.missingForeignKey fix)

theorem junctions_eq_nil (h : ∀ q ∈ d.relationships, q.isManyToMany = false) :
    d.plan.junctions = [] := by
  rw [List.eq_nil_iff_forall_not_mem]
  intro fix hfix
  obtain ⟨q, hq, hmany, -⟩ := exists_of_mem_junctions hfix
  rw [h q hq] at hmany
  cases hmany

/-- Without many-to-many relationships no entity and no relationship comes or goes. -/
theorem repaired_eq (h : ∀ q ∈ d.relationships, q.isManyToMany = false) :
    d.repaired = ⟨d.entities.map (repairedEntity d.plan), d.relationships⟩ := by
  have hnone := junctions_eq_nil h
  have hcreated : d.created = [] := by rw [created, hnone, List.filter_nil]
  have hkept : d.kept = d.relationships := by
    rw [kept, List.filter_eq_self]
    intro q hq
    simp [isReplaced, h q hq]
  rw [repaired, hcreated, hkept, hnone, List.map_nil, List.append_nil, List.flatMap_nil,
    List.append_nil]

/-- Without many-to-many relationships a round leaves a tidy diagram. -/
theorem tidy_repaired (h : d.Written) (hmany : ∀ q ∈ d.relationships, q.isManyToMany = false) :
    d.repaired.Tidy := by
  have hrelationships : d.repaired.relationships = d.relationships := by rw [repaired_eq hmany]
  have hnames : d.repaired.names = d.names := by
    rw [names_repaired, created, junctions_eq_nil hmany, List.filter_nil, List.map_nil,
      List.append_nil]
  refine ⟨hrelationships ▸ hmany, fun e he => ?_, fun entity fix hraises => ?_⟩
  · exact Entity.nameConflicts_eq_nil_iff.mp (nameConflicts_repaired h.faithful he)
  · cases id hraises with
    | @missingForeignKey q target hq hone hsource htarget hmissing =>
      obtain ⟨hmem, hname⟩ := Entity.mem_of_named? htarget
      have hto : q.toEntity ∈ d.repaired.names := hname ▸ List.mem_map_of_mem hmem
      rw [hnames] at hsource hto
      rw [hrelationships] at hq
      exact not_raises_missingForeignKey h hq hone hsource hto hname rfl hraises

theorem Tidy.foreignKeysOf (h : d.Tidy) (entity : String) :
    d.plan.foreignKeysOf entity = [] := by
  rw [List.eq_nil_iff_forall_not_mem]
  intro fix hfix
  obtain ⟨hmem, -⟩ := List.mem_filter.mp (mem_of_mem_firstSeen hfix)
  obtain ⟨source, hraises⟩ := mem_foreignKeys_iff.mp hmem
  exact h.foreignKeys source fix hraises

theorem Tidy.fits (htidy : d.Tidy) (h : d.Written) {e : Entity} (he : e ∈ d.entities) :
    Fits (d.plan.conflictsOf e.name) [] e :=
  htidy.foreignKeysOf e.name ▸ h.fits he

/-- A round on a tidy diagram settles all keys. -/
theorem Tidy.keySettled_repaired (htidy : d.Tidy) (h : d.Written) :
    ∀ e ∈ d.repaired.entities, KeySettled e := by
  intro e' he'
  rw [repaired_eq htidy.relationships] at he'
  obtain ⟨e, he, rfl⟩ := List.mem_map.mp he'
  rw [repairedEntity, htidy.foreignKeysOf]
  exact Repair.keySettled_repaired (htidy.fits h he) (h.entities e he)

/-- A round on a tidy diagram with settled keys changes nothing. -/
theorem Tidy.repaired_eq_self (htidy : d.Tidy) (h : d.Written)
    (hsettled : ∀ e ∈ d.entities, KeySettled e) : d.repaired = d := by
  have hentities : d.entities.map (repairedEntity d.plan) = d.entities := by
    refine (List.map_congr_left fun e he => ?_).trans (List.map_id _)
    rw [repairedEntity, htidy.foreignKeysOf, repairedAttributes_eq_self (htidy.fits h he)
      (h.entities e he) (htidy.conflicts e he) (hsettled e he)]
    rfl
  rw [repaired_eq htidy.relationships, hentities]

/-- After as many rounds as there are many-to-many relationships, and two more, nothing changes. -/
theorem Written.repaired_iterate (h : d.Written) :
    (Diagram.repaired^[d.manyToManyCount + 2] d).repaired =
      Diagram.repaired^[d.manyToManyCount + 2] d := by
  have hone := h.iterate d.manyToManyCount
  have hcount := manyToManyCount_iterate_le d d.manyToManyCount
  rw [Nat.sub_self, Nat.le_zero, manyToManyCount, List.countP_eq_zero] at hcount
  have hmany : ∀ q ∈ (Diagram.repaired^[d.manyToManyCount] d).relationships,
      q.isManyToMany = false := by simpa using hcount
  have htidy := tidy_repaired hone hmany
  have hagain := tidy_repaired hone.repaired htidy.relationships
  rw [Function.iterate_succ_apply', Function.iterate_succ_apply']
  exact hagain.repaired_eq_self hone.repaired.repaired (htidy.keySettled_repaired hone.repaired)

end Diagram

def repairText (text : String) : String := (Report.ofText text).correct.text

namespace Diagram

/-- The diagram of a repaired text is the repaired diagram, round after round. -/
theorem ofText_iterate {text : String} (h : (ofText text).Written) (n : Nat) :
    ofText (repairText^[n] text) = repaired^[n] (ofText text) := by
  induction n with
  | zero => rfl
  | succ n ih =>
    have hwritten : (ofText (repairText^[n] text)).Written := ih ▸ h.iterate n
    rw [Function.iterate_succ_apply', Function.iterate_succ_apply', ← ih]
    exact ofText_correct hwritten

end Diagram

/-- Repeated repair converges: after as many rounds as there are many-to-many relationships, and
two more, the text stays the same. -/
theorem repair_converges {text : String} (h : '\u0130' ∉ text.toList) {m : Nat}
    (hm : (Report.ofText text).relationships.countP (·.isManyToMany) = m) :
    repairText^[m + 3] text = repairText^[m + 2] text ∧
      ∀ j, m + 2 ≤ j → repairText^[j] text = repairText^[m + 2] text := by
  have hwritten := Diagram.written_ofText h
  have htext : ∀ n, repairText^[n + 1] text =
      (Diagram.repaired^[n] (Diagram.ofText text)).repaired.text := by
    intro n
    rw [Function.iterate_succ_apply', ← Diagram.ofText_iterate hwritten]
    exact correct_text _
  have hround := hwritten.repaired_iterate
  rw [show (Diagram.ofText text).manyToManyCount = m from hm] at hround
  have hfixed : repairText (repairText^[m + 2] text) = repairText^[m + 2] text := by
    rw [← Function.iterate_succ_apply' repairText, htext, hround, htext (m + 1),
      ← Function.iterate_succ_apply' Diagram.repaired]
  refine ⟨?_, fun j hj => ?_⟩
  · rw [Function.iterate_succ_apply', hfixed]
  · obtain ⟨later, rfl⟩ := Nat.exists_eq_add_of_le hj
    rw [Nat.add_comm, Function.iterate_add_apply, Function.iterate_fixed hfixed]

/-- Two relationships with one junction name: a round replaces one of them. -/
def sharedText : String := "A \x7do--o\x7b BC\nAB \x7do--o\x7b C"

theorem repair_converges_shared : '\u0130' ∉ sharedText.toList ∧
    (Report.ofText sharedText).relationships.countP (·.isManyToMany) = 2 ∧
    repairText^[5] sharedText = repairText^[4] sharedText ∧
      ∀ j, 4 ≤ j → repairText^[j] sharedText = repairText^[4] sharedText := by
  have hdot : '\u0130' ∉ sharedText.toList := by decide +kernel
  have hcount : (Report.ofText sharedText).relationships.countP (·.isManyToMany) = 2 := by
    decide +kernel
  exact ⟨hdot, hcount, repair_converges hdot hcount⟩

end EntityDiagram
