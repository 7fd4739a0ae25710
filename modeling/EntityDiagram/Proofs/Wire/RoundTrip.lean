import EntityDiagram.Proofs.Wire.Spelling
import EntityDiagram.Wire.Report

/-!
Round trip of reports through JSON documents. What is written for a value of any of the types that a
report is made of is read again as that value, however the keys of the document are spelled. Each
proof follows the fields of its decoder from the last to the first. The document of a finding has
members of its own for each rule, and the member that names the rule leads back to them.
-/
namespace EntityDiagram

open Wire

def Attribute.keys : List Key :=
  [.plain "name", ⟨"displayName", "display_name"⟩, ⟨"originalType", "original_type"⟩, .plain "type",
   .plain "constraints", .plain "description", ⟨"isPrimaryKey", "is_primary_key"⟩,
   ⟨"isForeignKey", "is_foreign_key"⟩, ⟨"isUnique", "is_unique"⟩, ⟨"isRequired", "is_required"⟩,
   ⟨"choiceOptions", "choice_options"⟩, ⟨"targetEntity", "target_entity"⟩]

def Entity.keys : List Key := [.plain "name", ⟨"displayName", "display_name"⟩, .plain "attributes"]

def Cardinality.keys : List Key := [.plain "kind", ⟨"from", "from_side"⟩, ⟨"to", "to_side"⟩]

def Relationship.keys : List Key :=
  [⟨"fromEntity", "from_entity"⟩, ⟨"toEntity", "to_entity"⟩, .plain "cardinality", .plain "name",
   ⟨"displayName", "display_name"⟩, .plain "symbols", .plain "label"]

def ForeignKeyFix.keys : List Key :=
  [⟨"entityName", "entity_name"⟩, ⟨"columnName", "column_name"⟩,
   ⟨"referencedEntity", "referenced_entity"⟩]

def JunctionFix.keys : List Key :=
  [⟨"junctionEntity", "junction_entity"⟩, ⟨"fromEntity", "from_entity"⟩, ⟨"toEntity", "to_entity"⟩]

def Finding.keys : List Key :=
  [.plain "severity", .plain "category", .plain "message", .plain "suggestion", .plain "entity",
   .plain "relationship", .plain "type", .plain "columns", ⟨"missingEntity", "missing_entity"⟩,
   ⟨"fixData", "fix_data"⟩, ⟨"cdmEntity", "cdm_entity"⟩]

def Summary.keys : List Key :=
  [⟨"isValid", "is_valid"⟩, .plain "status", ⟨"errorCount", "error_count"⟩,
   ⟨"warningCount", "warning_count"⟩, ⟨"infoCount", "info_count"⟩, ⟨"totalIssues", "total_issues"⟩,
   ⟨"cdmEntitiesDetected", "cdm_entities_detected"⟩]

def Platform.Match.keys : List Key :=
  [.plain "entity", ⟨"logicalName", "logical_name"⟩, ⟨"displayName", "display_name"⟩,
   ⟨"matchType", "match_type"⟩, .plain "confidence"]

def Platform.Detection.keys : List Key :=
  [.plain "matches", ⟨"totalEntitiesAnalyzed", "total_entities_analyzed"⟩,
   ⟨"customEntities", "custom_entities"⟩]

def Report.keys : List Key :=
  [.plain "entities", .plain "relationships", .plain "warnings", .plain "validation",
   ⟨"cdmDetection", "cdm_detection"⟩]

def recordKeys : List (List Key) :=
  [Attribute.keys, Entity.keys, Cardinality.keys, Relationship.keys, ForeignKeyFix.keys,
   JunctionFix.keys, Finding.keys, Summary.keys, Platform.Match.keys, Platform.Detection.keys,
   Report.keys]

/-- In no record do two keys share a spelling. -/
theorem spelled_of_mem_recordKeys : ∀ keys ∈ recordKeys, Spelled keys := by decide +kernel

theorem SemanticType.reads_label (type : SemanticType) :
    Reads (oneOf all label) (.text type.label) type :=
  reads_oneOf (by decide) (by cases type <;> decide)

theorem CardinalityKind.reads_label (kind : CardinalityKind) :
    Reads (oneOf all label) (.text kind.label) kind :=
  reads_oneOf (by decide) (by cases kind <;> decide)

theorem Severity.reads_label (severity : Severity) :
    Reads (oneOf all label) (.text severity.label) severity :=
  reads_oneOf (by decide) (by cases severity <;> decide)

theorem Category.reads_label (category : Category) :
    Reads (oneOf all label) (.text category.label) category :=
  reads_oneOf (by decide) (by cases category <;> decide)

theorem Verdict.reads_label (verdict : Verdict) :
    Reads (oneOf all label) (.text verdict.label) verdict :=
  reads_oneOf (by decide) (by cases verdict <;> decide)

theorem Attribute.reads_encode (a : Attribute) : Reads decode a.encode a := by
  cases a
  refine reads_fields (spelled_of_mem_recordKeys keys (by simp [recordKeys])) rfl ?_
  rintro ⟨hname, hdisplayName, horiginalType, htype, hconstraints, hdescription, hisPrimaryKey,
    hisForeignKey, hisUnique, hisRequired, hchoiceOptions, htargetEntity⟩
  refine .app ?_ (htargetEntity.fieldOr (reads_ofText? _))
  refine .app ?_ (hchoiceOptions.fieldOr (reads_ofTexts? _))
  refine .app ?_ (hisRequired.fieldOr (reads_flag _))
  refine .app ?_ (hisUnique.fieldOr (reads_flag _))
  refine .app ?_ (hisForeignKey.fieldOr (reads_flag _))
  refine .app ?_ (hisPrimaryKey.fieldOr (reads_flag _))
  refine .app ?_ (hdescription.fieldOr (reads_ofText? _))
  refine .app ?_ (hconstraints.fieldOr (reads_text _))
  refine .app ?_ (htype.fieldOr (SemanticType.reads_label _))
  refine .app ?_ (horiginalType.field (reads_text _))
  refine .app ?_ (hdisplayName.field (reads_text _))
  exact .map mk (hname.field (reads_text _))

theorem Entity.reads_encode (e : Entity) : Reads decode e.encode e := by
  cases e
  refine reads_fields (spelled_of_mem_recordKeys keys (by simp [recordKeys])) rfl ?_
  rintro ⟨hname, hdisplayName, hattributes⟩
  refine .app ?_ (hattributes.fieldOr (reads_list Attribute.reads_encode _))
  refine .app ?_ (hdisplayName.field (reads_text _))
  exact .map mk (hname.field (reads_text _))

theorem Cardinality.reads_encode (c : Cardinality) : Reads decode c.encode c := by
  cases c
  refine reads_fields (spelled_of_mem_recordKeys keys (by simp [recordKeys])) rfl ?_
  rintro ⟨hkind, hfrom, hto⟩
  refine .app ?_ (hto.field (reads_text _))
  refine .app ?_ (hfrom.field (reads_text _))
  exact .map mk (hkind.field (CardinalityKind.reads_label _))

theorem Relationship.reads_encode (r : Relationship) : Reads decode r.encode r := by
  cases r
  refine reads_fields (spelled_of_mem_recordKeys keys (by simp [recordKeys])) rfl ?_
  rintro ⟨hfromEntity, htoEntity, hcardinality, hname, hdisplayName, hsymbols, hlabel⟩
  refine .app ?_ (hlabel.fieldOr (reads_ofText? _))
  refine .app ?_ (hsymbols.field (reads_text _))
  refine .app ?_ (hdisplayName.field (reads_text _))
  refine .app ?_ (hname.field (reads_text _))
  refine .app ?_ (hcardinality.field (Cardinality.reads_encode _))
  refine .app ?_ (htoEntity.field (reads_text _))
  exact .map mk (hfromEntity.field (reads_text _))

theorem ForeignKeyFix.reads_encode (fix : ForeignKeyFix) : Reads decode fix.encode fix := by
  cases fix
  refine reads_fields (spelled_of_mem_recordKeys keys (by simp [recordKeys])) rfl ?_
  rintro ⟨hentityName, hcolumnName, hreferencedEntity⟩
  refine .app ?_ (hreferencedEntity.field (reads_text _))
  refine .app ?_ (hcolumnName.field (reads_text _))
  exact .map mk (hentityName.field (reads_text _))

theorem JunctionFix.reads_encode (fix : JunctionFix) : Reads decode fix.encode fix := by
  cases fix
  refine reads_fields (spelled_of_mem_recordKeys keys (by simp [recordKeys])) rfl ?_
  rintro ⟨hjunctionEntity, hfromEntity, htoEntity⟩
  refine .app ?_ (htoEntity.field (reads_text _))
  refine .app ?_ (hfromEntity.field (reads_text _))
  exact .map mk (hjunctionEntity.field (reads_text _))

namespace Finding

def members (f : Finding) : Members :=
  f.notice.members ++ ("type", .text f.rule.tag) :: f.detail.members

theorem spelled_keys : Spelled keys := spelled_of_mem_recordKeys keys (by simp [recordKeys])

/-- Whatever its rule, a finding has some of the keys, in their order. -/
theorem keys_members (f : Finding) : (f.members.map (·.1)).Sublist (keys.map (·.primary)) := by
  have hdetail : (f.detail.members.map (·.1)).Sublist
      ["columns", "missingEntity", "fixData", "cdmEntity"] := by
    cases f.detail <;> simp [Detail.members]
  rw [members, List.map_append, List.map_cons]
  exact (hdetail.cons_cons "type").append_left (f.notice.members.map (·.1))

/-- The members that findings of every rule have. -/
theorem has_notice (f : Finding) :
    ((keys.take 7).zip (f.notice.members ++ [("type", .text f.rule.tag)])).Forall fun field =>
      Has f.members field.1 field.2.2 := by
  have hshown : f.notice.members ++ [("type", .text f.rule.tag)] ⊆ f.members := by
    rw [members, List.append_cons]
    exact List.subset_append_left _ _
  exact spelled_keys.forall_has f.keys_members (List.take_subset 7 keys) hshown rfl

/-- The member that only findings of one rule have. -/
theorem has_detail (f : Finding) {key : Key} (hkey : key ∈ keys) {doc : Json}
    (h : f.detail.members = [(key.primary, doc)]) : Has f.members key doc :=
  spelled_keys.has f.keys_members hkey (by simp [members, h])

theorem readsMembers_notice (f : Finding) :
    ReadsMembers (Notice.decodeOf f.rule) f.members f.notice := by
  obtain ⟨hseverity, hcategory, hmessage, hsuggestion, hentity, hrelationship, -⟩ := f.has_notice
  refine .app ?_ (hrelationship.fieldOr (reads_ofText? _))
  refine .app ?_ (hentity.fieldOr (reads_ofText? _))
  refine .app ?_ (hsuggestion.fieldOr (reads_text _))
  refine .app ?_ (hmessage.field (reads_text _))
  refine .app ?_ (hcategory.fieldOr (Category.reads_label _))
  exact .map Notice.mk (hseverity.fieldOr (Severity.reads_label _))

theorem readsMembers_detail (f : Finding) :
    ReadsMembers (Detail.decode f.rule) f.members f.detail := by
  obtain ⟨severity, category, message, suggestion, entity, relationship, detail⟩ := f
  cases detail with
  | missingPrimaryKey | emptyEntity | selfReference => exact .pure _
  | multiplePrimaryKeys columns | duplicateColumns columns | namingConflict columns
  | systemColumnConflict columns =>
    exact .map _ ((has_detail _ (by simp [keys]) rfl).fieldOr (reads_ofTexts columns))
  | missingEntity name =>
    exact .map _ ((has_detail _ (by simp [keys]) rfl).field (reads_text name))
  | manyToMany fix =>
    exact .map _ ((has_detail _ (by simp [keys]) rfl).field fix.reads_encode)
  | missingForeignKey fix =>
    exact .map _ ((has_detail _ (by simp [keys]) rfl).field fix.reads_encode)
  | platformEntity logicalName =>
    exact .map _ ((has_detail _ (by simp [keys]) rfl).field (reads_text logicalName))

theorem reads_ruleTag (rule : Rule) : Reads (ruleTag rule) (.text rule.tag) () := by
  intro chosen
  simp [respell, ruleTag]
  rfl

theorem ruleOf?_tag (rule : Rule) : ruleOf? (.text rule.tag) = some rule :=
  find?_label (by decide) (by cases rule <;> decide)

/-- The member that names the rule is found, since it has only one spelling. -/
theorem lookup_type_respellMembers (f : Finding) (chosen : List Step → Bool) :
    (respellMembers chosen f.members).lookup "type" = some (.text f.rule.tag) := by
  have hlookup := lookup_respellMembers (spelled_keys.pairwise_apart.sublist f.keys_members)
    (List.mem_append_right _ List.mem_cons_self) chosen false
  have hsecondary : "type" = secondarySpelling "type" :=
    spelled_keys.secondary (.plain "type") (by simp [keys])
  have hspelling : ∀ secondary, spelling secondary "type" = "type" := by simp [spelling, ← hsecondary]
  rwa [hspelling, hspelling, if_pos rfl, respell] at hlookup
  all_goals simp

theorem reads_encode (f : Finding) : Reads decode f.encode f := by
  have hnotice := f.readsMembers_notice.map fun notice (_ : Unit) detail => ofNotice notice detail
  obtain ⟨-, -, -, -, -, -, htype⟩ := f.has_notice
  have hrule : Reads (decodeOf f.rule) f.encode f :=
    reads_record ((hnotice.app (htype.fieldOr (reads_ruleTag f.rule))).app f.readsMembers_detail)
  intro chosen
  have hdoc : respell chosen f.encode = .object (respellMembers chosen f.members) := by
    rw [encode, respell]
    rfl
  have hread := hrule chosen
  rw [hdoc] at hread ⊢
  simp only [decode, f.lookup_type_respellMembers, ruleOf?_tag, hread]
  rfl

end Finding

theorem Summary.reads_encode (s : Summary) : Reads decode s.encode s := by
  cases s
  refine reads_fields (spelled_of_mem_recordKeys keys (by simp [recordKeys])) rfl ?_
  rintro ⟨hisValid, hstatus, herrorCount, hwarningCount, hinfoCount, htotalIssues,
    hcdmEntitiesDetected⟩
  refine .app ?_ (hcdmEntitiesDetected.fieldOr (reads_integer _))
  refine .app ?_ (htotalIssues.fieldOr (reads_integer _))
  refine .app ?_ (hinfoCount.fieldOr (reads_integer _))
  refine .app ?_ (hwarningCount.fieldOr (reads_integer _))
  refine .app ?_ (herrorCount.fieldOr (reads_integer _))
  refine .app ?_ (hstatus.field (Verdict.reads_label _))
  exact .map mk (hisValid.field (reads_flag _))

namespace Platform

theorem Match.reads_encode (m : Match) : Reads decode m.encode m := by
  cases m
  refine reads_fields (spelled_of_mem_recordKeys keys (by simp [recordKeys])) rfl ?_
  rintro ⟨hentity, hlogicalName, hdisplayName, hmatchType, hconfidence⟩
  refine .app ?_ (hconfidence.fieldOr (reads_number _))
  refine .app ?_ (hmatchType.fieldOr (reads_text _))
  refine .app ?_ (hdisplayName.field (reads_text _))
  refine .app ?_ (hlogicalName.field (reads_text _))
  exact .map mk (hentity.field (reads_text _))

theorem Detection.reads_encode (d : Detection) : Reads decode d.encode d := by
  cases d
  refine reads_fields (spelled_of_mem_recordKeys keys (by simp [recordKeys])) rfl ?_
  rintro ⟨hmatches, htotalEntitiesAnalyzed, hcustomEntities⟩
  refine .app ?_ (hcustomEntities.fieldOr (reads_integer _))
  refine .app ?_ (htotalEntitiesAnalyzed.fieldOr (reads_integer _))
  exact .map mk (hmatches.fieldOr (reads_list Match.reads_encode _))

end Platform

theorem Report.reads_encode (r : Report) : Reads decode r.encode r := by
  cases r
  refine reads_fields (spelled_of_mem_recordKeys keys (by simp [recordKeys])) rfl ?_
  rintro ⟨hentities, hrelationships, hwarnings, hvalidation, hcdmDetection⟩
  refine .app ?_ (hcdmDetection.fieldOr (Platform.Detection.reads_encode _))
  refine .app ?_ (hvalidation.field (Summary.reads_encode _))
  refine .app ?_ (hwarnings.fieldOr (reads_list Finding.reads_encode _))
  refine .app ?_ (hrelationships.fieldOr (reads_list Relationship.reads_encode _))
  exact .map mk (hentities.fieldOr (reads_list Entity.reads_encode _))

/-- Every report is read again from its document without a fault, and so it is when any of the keys,
at any depth, stand in their secondary spelling. -/
theorem report_round_trip (r : Report) :
    Report.decode r.encode = .accepted r ∧
      ∀ chosen, Report.decode (respell chosen r.encode) = .accepted r := by
  have hread := r.reads_encode
  have hplain := hread fun _ => false
  rw [respell_never] at hplain
  exact ⟨hplain, hread⟩

example (kind : CardinalityKind) (fromSide toSide : String) :
    respell (fun path => path = [.key "from"]) (Cardinality.encode ⟨kind, fromSide, toSide⟩) =
      .object [("kind", .text kind.label), ("from_side", .text fromSide), ("to", .text toSide)] := by
  rfl

end EntityDiagram
