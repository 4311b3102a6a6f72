import MiniAgent.Application.ReferenceOrder

/-! # Decoding undoes encoding

What the encoder writes is reproducible from the payload alone. The external references of an
envelope are recognised by relations that no other rule uses, children come back in their canonical
order, and every check of the encoder is blind to the order of children and references. So the
decoder rebuilds the very envelope that it reads.
-/

namespace MiniAgent.Application

open MiniAgent.Core

@[simp] theorem recordCode_persistenceRegistry (code : P0RecordCode) :
    (persistenceRegistry code).recordCode = code := by
  cases code <;> rfl

theorem nonRuPersistenceRegistry_eq_some {code : P0RecordCode} {spec : P0RecordSchemaSpec} :
    nonRuPersistenceRegistry code = some spec ↔
      code ≠ .requestUnderstandingRecord ∧ spec = persistenceRegistry code := by
  unfold nonRuPersistenceRegistry
  split_ifs with understanding <;> simp [understanding, eq_comm]

theorem versionedPairSpec_eq_ok {code : P0RecordCode} {version : String}
    {spec : P0RecordSchemaSpec} :
    versionedPairSpec code version = .ok spec ↔
      spec = persistenceRegistry code ∧ version = spec.recordSchemaVersion := by
  unfold versionedPairSpec
  split_ifs with same known
  · rw [Except.ok.injEq, eq_comm]
    exact ⟨fun found => ⟨found, found ▸ same.symm⟩, fun found => found.1⟩
  all_goals
    simp only [false_iff, not_and]
    rintro rfl rfl
    exact same rfl

/-- No family has two external rules of one relation. -/
theorem externalRelations_nodup (code : P0RecordCode) :
    ((externalRules (persistenceRegistry code)).map (·.relation)).Nodup := by
  cases code <;> decide

/-- A projected reference never looks like an external one. -/
private theorem topLevel_not_external {code : P0RecordCode} {rule : P0ProjectionDecision}
    (member : rule ∈ (persistenceRegistry code).projectionDecisions)
    (projected : rule.classification = .topLevelP0Reference) :
    rule.relation ∉ (externalRules (persistenceRegistry code)).map (·.relation) := by
  have table : ((persistenceRegistry code).projectionDecisions.all fun rule =>
      rule.classification != .topLevelP0Reference ||
        decide (rule.relation ∉ (externalRules (persistenceRegistry code)).map (·.relation))) =
            true := by
    cases code <;> decide
  rcases Bool.or_eq_true_iff.mp (List.all_eq_true.mp table rule member) with other | apart
  · exact absurd projected (bne_iff_ne.mp other)
  · exact decide_eq_true_iff.mp apart

/-- A child's reference never looks like an external one of its parent. -/
private theorem child_not_external {code : P0RecordCode} {childCode : P0LogicalChildCode}
    {rule : P0ProjectionDecision}
    (allowed : childCode ∈ (persistenceRegistry code).allowedChildCodes)
    (member : rule ∈ (logicalChildSpecs childCode).projectionDecisions)
    (projected : rule.classification = .childTopLevelP0Reference) :
    rule.relation ∉ (externalRules (persistenceRegistry code)).map (·.relation) := by
  have table : ((persistenceRegistry code).allowedChildCodes.all fun childCode =>
      (logicalChildSpecs childCode).projectionDecisions.all fun rule =>
        rule.classification != .childTopLevelP0Reference ||
          decide (rule.relation ∉ (externalRules (persistenceRegistry code)).map (·.relation))) =
              true := by
    cases code <;> decide
  rcases Bool.or_eq_true_iff.mp
    (List.all_eq_true.mp (List.all_eq_true.mp table childCode allowed) rule member)
    with other | apart
  · exact absurd projected (bne_iff_ne.mp other)
  · exact decide_eq_true_iff.mp apart

theorem childSpecOf_eq_some {child : SourceRecord} {spec : P0LogicalChildSchemaSpec}
    (found : childSpecOf child = some spec) :
    spec = logicalChildSpecs spec.childCode ∧ child.sourceModel = spec.sourceModel := by
  have same := List.find?_some found
  refine ⟨?_, (beq_iff_eq.mp same).symm⟩
  have listed := List.mem_of_find?_eq_some found
  simp only [List.map_cons, List.map_nil, List.mem_cons, List.not_mem_nil, or_false] at listed
  rcases listed with rfl | rfl | rfl <;> rfl

variable {library : ModelLibrary} {references : List P0RecordReference}

theorem orIntegrity_eq_ok {α : Type} {category : P0PersistenceIntegrityCategory} {value : Option α}
    {found : α} :
    orIntegrity category value = .ok found ↔ value = some found := by
  cases value <;> simp [orIntegrity]

private theorem referenceForValue_relation {rule : P0ProjectionDecision} {value : Json}
    {reference : P0RecordReference} (success : referenceForValue rule value = .ok reference) :
    some reference.relation = rule.relation := by
  unfold referenceForValue at success
  split at success
  case h_2 => cases success
  case h_1 relation code relationEq codeEq =>
    split at success
    · cases success
    · split at success
      · simp only [Except.bind_eq_ok_iff, Except.pure_eq_ok_iff] at success
        obtain ⟨identity, -, rfl⟩ := success
        exact relationEq.symm
      · cases success

private theorem mapM_referenceForValue_relation {rule : P0ProjectionDecision} {values : List Json}
    (success : values.mapM (referenceForValue rule) = .ok references)
    {reference : P0RecordReference} (member : reference ∈ references) :
    some reference.relation = rule.relation := by
  obtain ⟨value, -, found⟩ :=
    Keyed.exists_of_forall₂_right (Except.mapM_eq_ok_iff.mp success) member
  exact referenceForValue_relation found

private theorem projectRule_relation {data : Fields} {rule : P0ProjectionDecision}
    {owner : Option Text} (success : projectRule data rule = .ok (owner, references))
    {reference : P0RecordReference} (member : reference ∈ references) :
    rule.classification = .topLevelP0Reference ∧ some reference.relation = rule.relation := by
  simp only [projectRule, Except.bind_eq_ok_iff] at success
  obtain ⟨values, -, success⟩ := success
  split at success
  case h_2 kind =>
    simp only [Except.bind_eq_ok_iff, Except.pure_eq_ok_iff, Prod.mk.injEq] at success
    obtain ⟨found, projected, -, rfl⟩ := success
    exact ⟨kind, mapM_referenceForValue_relation projected member⟩
  case h_1 =>
    split at success
    · simp only [Except.pure_eq_ok_iff, Prod.mk.injEq] at success
      obtain ⟨-, rfl⟩ := success
      cases member
    · cases success
  case h_3 =>
    simp only [Except.bind_eq_ok_iff, Except.pure_eq_ok_iff, Prod.mk.injEq] at success
    obtain ⟨-, -, -, rfl⟩ := success
    cases member
  case h_4 =>
    simp only [Except.pure_eq_ok_iff, Prod.mk.injEq] at success
    obtain ⟨-, rfl⟩ := success
    cases member

private theorem childReferences_relation {childSpec : P0LogicalChildSchemaSpec} {data : Fields}
    (success : childReferences childSpec data = .ok references) {reference : P0RecordReference}
    (member : reference ∈ references) :
    ∃ rule ∈ childSpec.projectionDecisions, rule.classification = .childTopLevelP0Reference ∧
      some reference.relation = rule.relation := by
  simp only [childReferences, Except.bind_eq_ok_iff, Except.pure_eq_ok_iff] at success
  obtain ⟨projected, each, rfl⟩ := success
  obtain ⟨found, listed, member⟩ := List.mem_flatten.mp member
  obtain ⟨rule, ruleMember, success⟩ :=
    Keyed.exists_of_forall₂_right (Except.mapM_eq_ok_iff.mp each) listed
  simp only [Except.bind_eq_ok_iff] at success
  obtain ⟨values, -, success⟩ := success
  split_ifs at success with kind
  · exact ⟨rule, ruleMember, kind, mapM_referenceForValue_relation success member⟩
  · rw [Except.pure_eq_ok_iff] at success
    subst success
    cases member

/-- Strict validation of the record's dump gives the record again. -/
def ModelLibrary.RoundTrips (library : ModelLibrary) (record : SourceRecord) : Prop :=
  (Json.object (library.modelDump record)).isNative = true ∧
    library.modelValidate record.sourceModel (.object (library.modelDump record)) = some record

section Laws

variable (laws : library.TextLaws) {record : SourceRecord}
include laws

theorem reload_eq (undoes : library.RoundTrips record) {model : SourceModel}
    (same : record.sourceModel = model) :
    reload library model record = some record := by
  rw [reload, laws.readText_writeText _ undoes.1, Option.bind_some, ← same, undoes.2]

theorem loadData_eq (undoes : library.RoundTrips record) {model : SourceModel}
    (same : record.sourceModel = model) :
    loadData library model (library.modelDump record) = some record := by
  rw [loadData, laws.readText_compact _ undoes.1, Option.bind_some, ← same, undoes.2]

theorem strictVersionedModel_eq_ok (undoes : library.RoundTrips record) {model : SourceModel}
    {category : P0PersistenceIntegrityCategory} {validated : SourceRecord} :
    strictVersionedModel library record model category = .ok validated ↔
      record.sourceModel = model ∧ validated = record := by
  simp only [strictVersionedModel, Except.bind_eq_ok_iff, requireIntegrity_eq_ok_iff, beq_iff_eq,
    Except.pure_eq_ok_iff, orIntegrity_eq_ok]
  constructor
  · rintro ⟨-, same, rebuilt, reloaded, -, -, rfl⟩
    rw [reload_eq laws undoes same] at reloaded
    exact ⟨same, (Option.some.inj reloaded).symm⟩
  · rintro ⟨same, rfl⟩
    exact ⟨(), same, validated, reload_eq laws undoes same, (), beq_self_eq_true _, rfl⟩

theorem strictSelectedVersionedRecord_eq_ok (undoes : library.RoundTrips record)
    {spec : P0RecordSchemaSpec} {validated : SourceRecord} :
    strictSelectedVersionedRecord library spec record = .ok validated ↔
      (record.sourceModel = spec.sourceModel ∧ mirrorsVersion spec record = true ∧
        passesSpecializedValidator spec record = true) ∧ validated = record := by
  simp only [strictSelectedVersionedRecord, Except.bind_eq_ok_iff, requireIntegrity_eq_ok_iff,
    beq_iff_eq, strictVersionedModel_eq_ok laws undoes, exists_const]
  tauto

theorem strictRecord_eq_ok (undoes : library.RoundTrips record) {spec : P0RecordSchemaSpec}
    {validated : SourceRecord} :
    strictRecord library spec record = .ok validated ↔
      (record.sourceModel = spec.sourceModel ∧ mirrorsVersion spec record = true ∧
        passesSpecializedValidator spec record = true) ∧ validated = record := by
  simp only [strictRecord, Except.bind_eq_ok_iff, requireIntegrity_eq_ok_iff, beq_iff_eq,
    orIntegrity_eq_ok, Except.pure_eq_ok_iff, exists_const]
  constructor
  · rintro ⟨same, specialized, rebuilt, reloaded, mirrored, rfl⟩
    rw [reload_eq laws undoes same] at reloaded
    obtain rfl := Option.some.inj reloaded
    exact ⟨⟨same, mirrored, specialized⟩, rfl⟩
  · rintro ⟨⟨same, mirrored, specialized⟩, rfl⟩
    exact ⟨same, specialized, validated, reload_eq laws undoes same, mirrored, rfl⟩

theorem checkedChild_eq_ok {child : SourceRecord} (undoes : library.RoundTrips child)
    {spec : P0RecordSchemaSpec} {checked : P0LogicalChildSchemaSpec × SourceRecord} :
    checkedChild library spec child = .ok checked ↔
      childSpecOf child = some checked.1 ∧ checked.2 = child ∧
      checked.1.childCode ∈ spec.allowedChildCodes ∧
        checked.1.parentRecordCode = spec.recordCode := by
  simp only [checkedChild, Except.bind_eq_ok_iff, requireIntegrity_eq_ok_iff, orIntegrity_eq_ok,
    Except.pure_eq_ok_iff, exists_const, Bool.and_eq_true, decide_eq_true_eq, beq_iff_eq]
  constructor
  · rintro ⟨childSpec, found, ⟨allowed, parent⟩, reloaded, same, rfl⟩
    rw [reload_eq laws undoes (childSpecOf_eq_some found).2] at same
    exact ⟨found, (Option.some.inj same).symm, allowed, parent⟩
  · rintro ⟨found, rfl, allowed, parent⟩
    exact ⟨checked.1, found, ⟨allowed, parent⟩, checked.2,
      reload_eq laws undoes (childSpecOf_eq_some found).2, rfl⟩

private theorem strictSelectedVersionedChild_eq_ok {spec : P0RecordSchemaSpec}
    {child validated : SourceRecord} (undoes : library.RoundTrips child) :
    strictSelectedVersionedChild library spec child = .ok validated ↔
      validated = child ∧ (allowedChildSpec spec child).isSome = true := by
  simp only [strictSelectedVersionedChild, Except.bind_eq_ok_iff, orIntegrity_eq_ok,
    strictVersionedModel_eq_ok laws undoes, Option.isSome_iff_exists]
  constructor
  · rintro ⟨childSpec, found, -, same⟩
    exact ⟨same, childSpec, found⟩
  · rintro ⟨same, childSpec, found⟩
    have model := List.find?_some found
    exact ⟨childSpec, found, (beq_iff_eq.mp model).symm, same⟩

theorem strictSelectedVersionedChildren_eq_ok {spec : P0RecordSchemaSpec}
    {children validated : List SourceRecord}
    (undoes : ∀ child ∈ children, library.RoundTrips child) :
    strictSelectedVersionedChildren library spec children = .ok validated ↔
      validated = children ∧ ∀ child ∈ children, (allowedChildSpec spec child).isSome = true := by
  rw [strictSelectedVersionedChildren, Except.mapM_self_eq_ok_iff fun child member value made =>
    ((strictSelectedVersionedChild_eq_ok laws (undoes child member)).mp made).1]
  refine and_congr_right fun _ => forall₂_congr fun child member => ?_
  rw [strictSelectedVersionedChild_eq_ok laws (undoes child member), and_iff_right rfl]

/-- A payload's data loads as the child that it was made of. -/
private theorem loadChild_childPayload {parentCode : P0RecordCode} {parentIdentity : Fields}
    {child : P0LogicalChildSchemaSpec × SourceRecord}
    {payload : P0LogicalChildPayload × List P0RecordReference} (undoes : library.RoundTrips child.2)
    (found : childSpecOf child.2 = some child.1)
    (success : childPayload library parentCode parentIdentity child = .ok payload) :
    loadChild library payload.1 = .ok child.2 ∧ payload.1.childCode = child.1.childCode ∧
      payload.1.data = library.modelDump child.2 := by
  simp only [childPayload, Except.bind_eq_ok_iff, Except.pure_eq_ok_iff] at success
  obtain ⟨references, -, identity, -, parent, -, own, -, rfl⟩ := success
  obtain ⟨spec, same⟩ := childSpecOf_eq_some found
  refine ⟨?_, rfl, rfl⟩
  rw [loadChild, ← spec, loadData_eq laws undoes same]
  rfl

end Laws

section Order

variable {left right : List SourceRecord}

private theorem insertionSort_eq_of_perm {left right : List ℕ} (same : left.Perm right) :
    left.insertionSort (· ≤ ·) = right.insertionSort (· ≤ ·) := by
  have permuted := (List.perm_insertionSort (· ≤ ·) left).trans
    (same.trans (List.perm_insertionSort (· ≤ ·) right).symm)
  exact permuted.eq_of_pairwise (fun _ _ _ _ => le_antisymm) (List.pairwise_insertionSort _ left)
    (List.pairwise_insertionSort _ right)

theorem childrenMatch_eq_of_perm (parent : SourceRecord) (same : left.Perm right) :
    childrenMatch parent left = childrenMatch parent right := by
  cases parent with
  | taskRecord task =>
    have transitions := same.filterMap fun child => child.asTaskStateTransition
    simp only [childrenMatch, transitionsMatch, allDistinct_eq_of_perm (transitions.map _),
      transitions.all_eq]
  | toolCallRecord call =>
    have attempts := same.filterMap fun child => child.asToolAttemptRecord
    simp only [childrenMatch, attemptsMatch, allDistinct_eq_of_perm (attempts.map _),
      attempts.all_eq, insertionSort_eq_of_perm (attempts.map _)]
  | _ => rfl

private theorem acceptedChildrenMatch_eq_of_perm (parent : RequestUnderstandingRecordV2)
    {left right : List AcceptedTaskDeltaV2} (same : left.Perm right) :
    acceptedChildrenMatch parent left = acceptedChildrenMatch parent right := by
  simp only [acceptedChildrenMatch, allDistinct_eq_of_perm (same.map _),
    (sameSet_eq_of_perm (same.map _)).1, (sameSet_eq_of_perm (same.map _)).2, same.any_eq]

/-- The chain looks children up by candidate only. -/
private theorem acceptedChainMatches_congr {parent : RequestUnderstandingRecordV2}
    {left right : List AcceptedTaskDeltaV2}
    (same : ∀ wanted, Keyed.lastByKey (·.candidateRef) left wanted =
      Keyed.lastByKey (·.candidateRef) right wanted)
    (previous : List (Uuid × ℕ)) (candidates : List DurableTaskDeltaCandidateV2) :
    acceptedChainMatches parent left previous candidates =
    acceptedChainMatches parent right previous candidates := by
  induction candidates generalizing previous with
  | nil => rfl
  | cons candidate rest ih => simp only [acceptedChainMatches, same, ih]

theorem requestUnderstandingChildrenMatch_of_perm {parent : SourceRecord} (same : left.Perm right)
    (success : requestUnderstandingChildrenMatch parent left = .ok ()) :
    requestUnderstandingChildrenMatch parent right = .ok () := by
  cases parent with
  | requestUnderstandingRecordV2 parent =>
    have deltas := same.filterMap fun child => child.asAcceptedTaskDeltaV2
    simp only [requestUnderstandingChildrenMatch, Except.bind_eq_ok_iff, requireIntegrity_eq_ok_iff,
      exists_const] at success ⊢
    obtain ⟨consistent, chain⟩ := success
    have distinct : ((left.filterMap (·.asAcceptedTaskDeltaV2)).map (·.candidateRef)).Nodup := by
      simp only [acceptedChildrenMatch, Bool.and_eq_true, allDistinct_iff] at consistent
      tauto
    refine ⟨acceptedChildrenMatch_eq_of_perm parent deltas ▸ consistent, ?_⟩
    rw [← acceptedChainMatches_congr (Keyed.lastByKey_eq_of_perm deltas distinct), chain]
  | _ => cases success

end Order

/-- The logical children as an envelope lists them. -/
def canonicalChildren (children : List SourceRecord) : List SourceRecord :=
  Keyed.sortByKey childOrderKey children

section Children

variable (laws : library.TextLaws) {children : List SourceRecord} {parentIdentity : Fields}
  {payloads : List P0LogicalChildPayload}
include laws

/-- Arranged payloads load as the arranged children, and their references carry child relations. -/
private theorem arrangedPayloads_spec {parentCode : P0RecordCode}
    {arranged : List (P0LogicalChildSchemaSpec × SourceRecord)}
    (undoes : ∀ child ∈ arranged, library.RoundTrips child.2)
    (found : ∀ child ∈ arranged, childSpecOf child.2 = some child.1)
    (success : arrangedPayloads library parentCode parentIdentity arranged =
      .ok (payloads, references)) :
    payloads.mapM (loadChild library) = .ok (arranged.map (·.2)) ∧
      (∀ payload ∈ payloads, ∃ child ∈ arranged, payload.childCode = child.1.childCode ∧
        payload.data = library.modelDump child.2) ∧
      references.Nodup ∧ ∀ reference ∈ references, ∃ child ∈ arranged,
      ∃ rule ∈ child.1.projectionDecisions,
        rule.classification = .childTopLevelP0Reference ∧
        some reference.relation = rule.relation := by
  simp only [arrangedPayloads, Except.bind_eq_ok_iff, Except.pure_eq_ok_iff, Prod.mk.injEq,
    normalizeReferences_eq_ok_iff laws] at success
  obtain ⟨pairs, each, normalized, ⟨-, rfl⟩, rfl, rfl⟩ := success
  have aligned := Except.mapM_eq_ok_iff.mp each
  refine ⟨?_, ?_, nodup_canonicalReferences _, ?_⟩
  · rw [Except.mapM_eq_ok_iff, List.forall₂_map_left_iff, List.forall₂_map_right_iff]
    refine (Keyed.forall₂_imp_of_mem_right aligned.flip fun pair child member made => ?_)
    exact (loadChild_childPayload laws (undoes child member) (found child member) made).1
  · intro payload member
    obtain ⟨pair, pairMember, rfl⟩ := List.mem_map.mp member
    obtain ⟨child, childMember, made⟩ := Keyed.exists_of_forall₂_right aligned pairMember
    exact ⟨child, childMember,
      (loadChild_childPayload laws (undoes child childMember) (found child childMember) made).2⟩
  · intro reference member
    obtain ⟨pair, pairMember, listed⟩ := List.mem_flatMap.mp (mem_canonicalReferences.mp member)
    obtain ⟨child, childMember, made⟩ := Keyed.exists_of_forall₂_right aligned pairMember
    simp only [childPayload, Except.bind_eq_ok_iff, Except.pure_eq_ok_iff] at made
    obtain ⟨own, projected, _, -, _, -, _, -, rfl⟩ := made
    obtain ⟨rule, ruleMember, kind, relation⟩ := childReferences_relation projected listed
    exact ⟨child, childMember, rule, ruleMember, kind, relation⟩

/-- The generic children come back canonically ordered, and encode again to the same payloads. -/
theorem childPayloads_spec {code : P0RecordCode}
    (undoes : ∀ child ∈ children, library.RoundTrips child)
    (success : childPayloads library (persistenceRegistry code) record parentIdentity children =
      .ok (payloads, references)) :
    childPayloads library (persistenceRegistry code) record parentIdentity
    (canonicalChildren children) =
        .ok (payloads, references) ∧
      payloads.mapM (loadChild library) = .ok (canonicalChildren children) ∧
      (∀ payload ∈ payloads, ∃ child ∈ children, payload.data = library.modelDump child) ∧
      references.Nodup ∧ ∀ reference ∈ references,
        some reference.relation ∉ (externalRules (persistenceRegistry code)).map (·.relation) := by
  simp only [childPayloads, Except.bind_eq_ok_iff, requireIntegrity_eq_ok_iff, exists_const]
    at success
  obtain ⟨validated, each, allowed, fits, arranged⟩ := success
  have aligned := Keyed.forall₂_imp_of_mem_right (Except.mapM_eq_ok_iff.mp each).flip
    fun checked child member made => (checkedChild_eq_ok laws (undoes child member)).mp made
  have records : validated.map (·.2) = children := by
    rw [Keyed.map_eq_map_of_forall₂ aligned fun _ _ facts => facts.2.1, List.map_id']
  have facts : ∀ pair ∈ validated, pair.2 ∈ children ∧ childSpecOf pair.2 = some pair.1 ∧
      pair.1.childCode ∈ (persistenceRegistry code).allowedChildCodes ∧
      checkedChild library (persistenceRegistry code) pair.2 = .ok pair := by
    intro pair member
    obtain ⟨child, present, found, rfl, allowed, parent⟩ :=
      Keyed.exists_of_forall₂_left aligned member
    exact ⟨present, found, allowed,
      (checkedChild_eq_ok laws (undoes _ present)).mpr ⟨found, rfl, allowed, parent⟩⟩
  let sorted :=
    Keyed.sortByKey (fun pair : P0LogicalChildSchemaSpec × SourceRecord => childOrderKey pair.2)
      validated
  have permuted : sorted.Perm validated := Keyed.sortByKey_perm _ _
  have sortedFacts := fun pair member => facts pair (permuted.mem_iff.mp member)
  have sortedRecords : sorted.map (·.2) = canonicalChildren children := by
    rw [Keyed.map_sortByKey, records, canonicalChildren]
  obtain ⟨loads, data, distinct, relations⟩ := arrangedPayloads_spec laws
    (fun pair member => undoes _ (sortedFacts pair member).1)
      (fun pair member => (sortedFacts pair member).2.1) arranged
  refine ⟨?_, sortedRecords ▸ loads, ?_, distinct, ?_⟩
  · simp only [childPayloads, Except.bind_eq_ok_iff, requireIntegrity_eq_ok_iff, exists_const]
    refine ⟨sorted, ?_, ?_, ?_, ?_⟩
    · rw [← sortedRecords]
      exact Except.mapM_map_eq_ok fun pair member => (sortedFacts pair member).2.2.2
    · simpa [permuted.isEmpty_eq] using allowed
    · rwa [childrenMatch_eq_of_perm record (permuted.map _)]
    · rwa [Keyed.sortByKey_of_pairwise (Keyed.sortByKey_pairwise _ _)]
  · intro payload member
    obtain ⟨pair, pairMember, -, same⟩ := data payload member
    exact ⟨pair.2, (sortedFacts pair pairMember).1, same⟩
  · intro reference member
    obtain ⟨pair, pairMember, rule, ruleMember, kind, relation⟩ := relations reference member
    obtain ⟨-, found, allowed, -⟩ := sortedFacts pair pairMember
    rw [relation]
    exact child_not_external allowed ((childSpecOf_eq_some found).1 ▸ ruleMember) kind

/-- The accepted children of a Request Understanding record do likewise. -/
theorem requestUnderstandingV2ChildPayloads_spec
    (undoes : ∀ child ∈ children, library.RoundTrips child)
    (success : requestUnderstandingV2ChildPayloads library record parentIdentity children =
      .ok (payloads, references)) :
    requestUnderstandingV2ChildPayloads library record parentIdentity (canonicalChildren children) =
        .ok (payloads, references) ∧
      payloads.mapM (loadAcceptedChild library) = .ok (canonicalChildren children) ∧
      ∀ payload ∈ payloads, ∃ child ∈ children, payload.data = library.modelDump child := by
  simp only [requestUnderstandingV2ChildPayloads, Except.bind_eq_ok_iff] at success
  obtain ⟨validated, each, ⟨⟩, fits, arranged⟩ := success
  obtain ⟨rfl, rebuilt⟩ := (Except.mapM_self_eq_ok_iff fun child member value made =>
    ((strictVersionedModel_eq_ok laws (undoes child member)).mp made).2).mp each
  have models := fun child member =>
    ((strictVersionedModel_eq_ok laws (undoes child member)).mp (rebuilt child member)).1
  have permuted : (canonicalChildren validated).Perm validated := Keyed.sortByKey_perm _ _
  let pairs := (canonicalChildren validated).map fun child =>
    (logicalChildSpecs .acceptedTaskDelta, child)
  have pairFacts : ∀ pair ∈ pairs, pair.2 ∈ validated ∧
      pair.1 = logicalChildSpecs .acceptedTaskDelta := by
    intro pair member
    obtain ⟨child, present, rfl⟩ := List.mem_map.mp member
    exact ⟨permuted.mem_iff.mp present, rfl⟩
  have found : ∀ pair ∈ pairs, childSpecOf pair.2 = some pair.1 := by
    intro pair member
    obtain ⟨present, spec⟩ := pairFacts pair member
    rw [spec, childSpecOf, models _ present]
    rfl
  obtain ⟨loads, data, -, -⟩ := arrangedPayloads_spec laws
    (fun pair member => undoes _ (pairFacts pair member).1) found arranged
  have recovered : pairs.map (·.2) = canonicalChildren validated := by
    simp only [pairs, List.map_map, Function.comp_def, List.map_id']
  refine ⟨?_, ?_, ?_⟩
  · simp only [requestUnderstandingV2ChildPayloads, Except.bind_eq_ok_iff]
    refine ⟨canonicalChildren validated, ?_, (),
      requestUnderstandingChildrenMatch_of_perm permuted.symm fits, ?_⟩
    · refine (Except.mapM_self_eq_ok_iff fun child member value made => ?_).mpr
        ⟨rfl, fun child member => ?_⟩
      · exact ((strictVersionedModel_eq_ok laws (undoes child (permuted.mem_iff.mp member))).mp
          made).2
      · exact rebuilt child (permuted.mem_iff.mp member)
    · rwa [canonicalChildren, Keyed.sortByKey_of_pairwise (Keyed.sortByKey_pairwise _ _)]
  · rw [← recovered, Except.mapM_eq_ok_iff]
    refine (Keyed.forall₂_imp_of_mem_right (Except.mapM_eq_ok_iff.mp loads).flip fun child payload
      member load => ?_).flip
    obtain ⟨pair, pairMember, code, -⟩ := data payload member
    rw [(pairFacts pair pairMember).2] at code
    simp only [loadAcceptedChild, Except.bind_eq_ok_iff, requireIntegrity_eq_ok_iff, beq_iff_eq]
    exact ⟨(), code, load⟩
  · intro payload member
    obtain ⟨pair, pairMember, -, same⟩ := data payload member
    exact ⟨pair.2, (pairFacts pair pairMember).1, same⟩

end Children

section Rebuilding

variable (laws : library.TextLaws) {children : List SourceRecord} {envelope : P0PersistenceEnvelope}

private theorem topLevelProjection_relation {collapse : Bool} {spec : P0RecordSchemaSpec}
    {owner : Option Text} (laws : library.TextLaws)
    (success : topLevelProjection library collapse spec record = .ok (owner, references))
    {reference : P0RecordReference} (member : reference ∈ references) :
    ∃ rule ∈ spec.projectionDecisions, rule.classification = .topLevelP0Reference ∧
      some reference.relation = rule.relation := by
  simp only [topLevelProjection, Except.bind_eq_ok_iff, Except.pure_eq_ok_iff, Prod.mk.injEq,
    normalizeReferences_eq_ok_iff laws] at success
  obtain ⟨projected, each, normalized, ⟨-, rfl⟩, -, rfl⟩ := success
  obtain ⟨⟨owner, found⟩, listed, member⟩ := List.mem_flatMap.mp (mem_canonicalReferences.mp member)
  obtain ⟨rule, ruleMember, made⟩ :=
    Keyed.exists_of_forall₂_right (Except.mapM_eq_ok_iff.mp each) listed
  exact ⟨rule, ruleMember, projectRule_relation made member⟩

/-- What an assembled envelope says of itself. -/
theorem assembleEnvelope_spec {spec : P0RecordSchemaSpec} {identity : Fields} {owner : Option Text}
    {payloads : List P0LogicalChildPayload}
    (success : assembleEnvelope library spec record identity owner references payloads =
      .ok envelope) :
    (envelope.recordCode = spec.recordCode ∧ envelope.payload.recordCode = spec.recordCode) ∧
      (envelope.recordSchemaVersion = spec.recordSchemaVersion ∧
        envelope.payload.recordSchemaVersion = spec.recordSchemaVersion) ∧
      envelope.payload.data = library.modelDump record ∧ envelope.recordReferences = references ∧
      envelope.payload.logicalChildren = payloads := by
  simp only [assembleEnvelope, Except.bind_eq_ok_iff, Except.pure_eq_ok_iff] at success
  obtain ⟨scalars, -, rfl⟩ := success
  exact ⟨⟨rfl, rfl⟩, ⟨rfl, rfl⟩, rfl, rfl, rfl⟩

/-- The references of an envelope that look external are the accepted external ones. -/
theorem mem_externalReferencesOf {code : P0RecordCode} {collapse : Bool} {owner : Option Text}
    {sourceReferences external childReferences : List P0RecordReference} (laws : library.TextLaws)
    (projected : topLevelProjection library collapse (persistenceRegistry code) record =
      .ok (owner, sourceReferences))
    (accepts : AcceptsExternal library (externalRules (persistenceRegistry code)) external)
    (childApart : ∀ reference ∈ childReferences,
      some reference.relation ∉ (externalRules (persistenceRegistry code)).map (·.relation))
    (listed : envelope.recordReferences =
      canonicalReferences (sourceReferences ++ external ++ childReferences))
    {reference : P0RecordReference} :
    reference ∈ externalReferencesOf (persistenceRegistry code) envelope ↔
    reference ∈ external := by
  simp only [externalReferencesOf, listed, List.mem_filter, mem_canonicalReferences,
    List.mem_append, decide_eq_true_eq]
  constructor
  · rintro ⟨(projection | found) | child, relation⟩
    · obtain ⟨rule, ruleMember, kind, same⟩ := topLevelProjection_relation laws projected projection
      exact absurd (same ▸ relation) (topLevel_not_external ruleMember kind)
    · exact found
    · exact absurd relation (childApart reference child)
  · intro found
    have relation := List.mem_map_of_mem (f := fun reference => some reference.relation) found
    rw [accepts.relations] at relation
    exact ⟨.inl (.inr found), relation⟩

/-- The facts of an encoding that its decoding needs. -/
structure Reproducible (library : ModelLibrary) (spec : P0RecordSchemaSpec) (record : SourceRecord)
    (children : List SourceRecord) (envelope : P0PersistenceEnvelope) : Prop where
  model : record.sourceModel = spec.sourceModel
  codes : envelope.recordCode = spec.recordCode ∧ envelope.payload.recordCode = spec.recordCode
  versions : envelope.recordSchemaVersion = spec.recordSchemaVersion ∧
    envelope.payload.recordSchemaVersion = spec.recordSchemaVersion
  data : envelope.payload.data = library.modelDump record
  native : envelopeHasNativeJson envelope = true

include laws

/-- A generic envelope is rebuilt from its record, its own external references and its own
children. -/
theorem buildEnvelope_again {code : P0RecordCode} {externals : List P0RecordReference}
    (undoes : ∀ model ∈ record :: children, library.RoundTrips model)
    (success : buildEnvelope library code record externals children = .ok envelope) :
    Reproducible library (persistenceRegistry code) record children envelope ∧
      envelope.payload.logicalChildren.mapM (loadChild library) = .ok (canonicalChildren children) ∧
      buildEnvelope library code record (externalReferencesOf (persistenceRegistry code) envelope)
        (canonicalChildren children) = .ok envelope := by
  have recordUndoes := undoes record (List.mem_cons_self ..)
  have childUndoes := fun child member => undoes child (List.mem_cons_of_mem record member)
  unfold buildEnvelope at success ⊢
  cases registered : nonRuPersistenceRegistry code with
  | none => simp [registered] at success
  | some spec =>
    obtain ⟨-, rfl⟩ := nonRuPersistenceRegistry_eq_some.mp registered
    simp only [registered, Except.bind_eq_ok_iff, Prod.exists, strictRecord_eq_ok laws recordUndoes]
      at success ⊢
    obtain ⟨validated, ⟨⟨model, mirrored, specialized⟩, rfl⟩, identity, identified, owner,
      sourceReferences, projected, external, accepted, payloads, childReferences, arranged,
      normalized, same, assembled⟩ := success
    obtain ⟨again, loads, data, childDistinct, childApart⟩ :=
      childPayloads_spec laws childUndoes arranged
    obtain ⟨codes, versions, recordData, listed, listedChildren⟩ := assembleEnvelope_spec assembled
    obtain ⟨distinct, rfl⟩ := (normalizeReferences_eq_ok_iff laws).mp same
    obtain ⟨accepts, -⟩ := validateExternalReferences_spec laws accepted
    have given : (externalReferencesOf (persistenceRegistry code) envelope).Nodup := by
      rw [externalReferencesOf, listed]
      exact (nodup_canonicalReferences _).filter _
    refine ⟨⟨model, codes, versions, recordData, ?_⟩, listedChildren ▸ loads, validated,
      ⟨⟨model, mirrored, specialized⟩, rfl⟩, identity, identified, owner, sourceReferences,
      projected, external, ?_,
      payloads, childReferences, again, _, same, assembled⟩
    · simp only [envelopeHasNativeJson, recordData, listedChildren, recordUndoes.1, Bool.true_and,
        List.all_eq_true]
      intro payload member
      obtain ⟨child, childMember, same⟩ := data payload member
      rw [same]
      exact (childUndoes child childMember).1
    · apply validateExternalReferences_of_mem laws accepts (externalRelations_nodup code) given
      exact fun reference => mem_externalReferencesOf laws projected accepts childApart listed

/-- A Request Understanding envelope has no external references to lose. -/
theorem buildRequestUnderstandingV2Envelope_again {externals : List P0RecordReference}
    (undoes : ∀ model ∈ record :: children, library.RoundTrips model)
    (success : buildRequestUnderstandingV2Envelope library record externals children =
      .ok envelope) :
    Reproducible library requestUnderstandingV2Spec record children envelope ∧
      envelope.payload.logicalChildren.mapM (loadAcceptedChild library) =
      .ok (canonicalChildren children) ∧
      buildRequestUnderstandingV2Envelope library record [] (canonicalChildren children) =
      .ok envelope := by
  have recordUndoes := undoes record (List.mem_cons_self ..)
  have childUndoes := fun child member => undoes child (List.mem_cons_of_mem record member)
  simp only [buildRequestUnderstandingV2Envelope, strictRequestUnderstandingV2,
    Except.bind_eq_ok_iff, Prod.exists,
    strictSelectedVersionedRecord_eq_ok laws recordUndoes] at success ⊢
  obtain ⟨validated, ⟨⟨model, mirrored, specialized⟩, rfl⟩, identity, identified, owner,
    sourceReferences, projected, external, accepted, payloads, childReferences, arranged,
    normalized, same, assembled⟩ := success
  obtain ⟨again, loads, data⟩ := requestUnderstandingV2ChildPayloads_spec laws childUndoes arranged
  obtain ⟨codes, versions, recordData, listed, listedChildren⟩ := assembleEnvelope_spec assembled
  have noRules : externalRules requestUnderstandingV2Spec = [] := by decide
  obtain ⟨accepts, -⟩ := validateExternalReferences_spec laws accepted
  rw [AcceptsExternal, noRules, List.forall₂_nil_left_iff] at accepts
  subst accepts
  refine ⟨⟨model, codes, versions, recordData, ?_⟩, listedChildren ▸ loads, validated,
    ⟨⟨model, mirrored, specialized⟩, rfl⟩, identity, identified, owner, sourceReferences,
    projected, [], ?_,
    payloads, childReferences, again, normalized, same, assembled⟩
  · simp only [envelopeHasNativeJson, recordData, listedChildren, recordUndoes.1, Bool.true_and,
      List.all_eq_true]
    intro payload member
    obtain ⟨child, childMember, same⟩ := data payload member
    rw [same]
    exact (childUndoes child childMember).1
  · refine validateExternalReferences_of_mem laws ?_ ?_ List.nodup_nil fun _ => Iff.rfl
    · rw [AcceptsExternal, noRules]
      exact .nil
    · rw [noRules]
      exact List.nodup_nil

end Rebuilding

section Reading

variable {children : List SourceRecord} {envelope : P0PersistenceEnvelope}
  {spec : P0RecordSchemaSpec} {raw : Text}

/-- Both readers of the text find the envelope in it. -/
def Spells (library : ModelLibrary) (raw : Text) (envelope : P0PersistenceEnvelope) : Prop :=
  Json.loads raw = some envelope.toJson ∧ library.readText raw = some envelope.toJson

/-- The three forms in which the decoder takes an envelope. -/
def formsOf (library : ModelLibrary) (envelope : P0PersistenceEnvelope) : List EnvelopeInput :=
  [.envelope envelope, .mapping envelope.modelDump, .text (library.writeText envelope.toJson)]

theorem jsonInput_spells (laws : library.TextLaws) (native : envelopeHasNativeJson envelope = true)
    {input : EnvelopeInput} (form : input ∈ formsOf library envelope) :
    ∃ raw, jsonInput library input = .ok raw ∧ Spells library raw envelope := by
  have written := toJson_isNative native
  have texts : Spells library (library.writeText envelope.toJson) envelope :=
    ⟨laws.loads_writeText _ written, laws.readText_writeText _ written⟩
  simp only [formsOf, List.mem_cons, List.not_mem_nil, or_false] at form
  rcases form with rfl | rfl | rfl
  · refine ⟨_, ?_, texts⟩
    rw [jsonInput, native]
    rfl
  · refine ⟨envelope.toJson.compact, ?_, Json.loads_compact written,
      laws.readText_compact _ written⟩
    rw [jsonInput, ← P0PersistenceEnvelope.toJson, written]
    rfl
  · exact ⟨_, rfl, texts⟩

private theorem classifyOuterCode_eq_ok (spells : Spells library raw envelope) :
    classifyOuterCode raw envelope.recordCode = .ok envelope.modelDump := by
  simp [classifyOuterCode, spells.1, orIntegrity, Except.bind_ok, P0PersistenceEnvelope.toJson,
    readObject, Json.lookup, P0PersistenceEnvelope.modelDump, classifyCode, ownText,
    P0RecordCode.ofValue_value,
    requireIntegrity, Except.require]

private theorem lookup_recordSchemaVersion (envelope : P0PersistenceEnvelope) :
    Json.lookup envelope.modelDump "record_schema_version" =
    some (ownText envelope.recordSchemaVersion) := by
  simp [Json.lookup, P0PersistenceEnvelope.modelDump]

private theorem classifyOuterVersioned_eq_ok (spells : Spells library raw envelope) :
    classifyOuterVersioned raw envelope.recordCode envelope.recordSchemaVersion =
    .ok envelope.modelDump := by
  simp only [classifyOuterVersioned, classifyOuterCode_eq_ok spells, Except.bind_ok,
    lookup_recordSchemaVersion, orIntegrity, beq_self_eq_true]
  rfl

private theorem innerMetadataMatches_modelDump (envelope : P0PersistenceEnvelope) :
    innerMetadataMatches envelope.modelDump envelope.payload.recordCode
    envelope.payload.recordSchemaVersion =
      true := by
  simp [innerMetadataMatches, Json.lookup, P0PersistenceEnvelope.modelDump,
    P0VersionedPayload.toJson, readObject]

private theorem validateEnvelope_eq_ok (spells : Spells library raw envelope) :
    validateEnvelope library raw envelope.payload.recordCode envelope.payload.recordSchemaVersion =
      .ok envelope := by
  simp only [validateEnvelope, spells.2, orIntegrity, Except.bind_ok, readEnvelope_toJson,
    beq_self_eq_true, Bool.and_self]
  rfl

private theorem requireSameProjections_self (envelope : P0PersistenceEnvelope) :
    requireSameProjections envelope envelope = .ok () := by
  simp only [requireSameProjections, beq_self_eq_true]
  rfl

private theorem requireSameChildren_self (envelope : P0PersistenceEnvelope) :
    requireSameChildren envelope envelope = .ok () := by
  simp only [requireSameChildren, beq_self_eq_true]
  rfl

theorem decode_of_again {code : P0RecordCode} (laws : library.TextLaws)
    (undoes : library.RoundTrips record) (generic : code ≠ .requestUnderstandingRecord)
    (spells : Spells library raw envelope)
    (facts : Reproducible library (persistenceRegistry code) record children envelope)
    (loads : envelope.payload.logicalChildren.mapM (loadChild library) =
      .ok (canonicalChildren children))
    (again : buildEnvelope library code record
      (externalReferencesOf (persistenceRegistry code) envelope)
      (canonicalChildren children) = .ok envelope) :
    decode library raw code =
      .ok ⟨code, (persistenceRegistry code).recordSchemaVersion, record,
        canonicalChildren children⟩ := by
  have registered : nonRuPersistenceRegistry code = some (persistenceRegistry code) :=
    nonRuPersistenceRegistry_eq_some.mpr ⟨generic, rfl⟩
  obtain ⟨outerCode, innerCode⟩ := facts.codes
  obtain ⟨outerVersion, innerVersion⟩ := facts.versions
  rw [recordCode_persistenceRegistry] at outerCode innerCode
  have outer := classifyOuterCode_eq_ok spells
  have metadata := innerMetadataMatches_modelDump envelope
  have validated := validateEnvelope_eq_ok spells
  have classified :
      classifyOuter raw code = .ok (persistenceRegistry code, envelope.modelDump) := by
    simp only [classifyOuter, ← outerCode, outer, Except.bind_ok, lookup_recordSchemaVersion,
      orIntegrity]
    simp only [outerCode, registered, outerVersion, beq_self_eq_true]
    rfl
  rw [innerCode, innerVersion] at metadata validated
  have loaded : loadData library (persistenceRegistry code).sourceModel envelope.payload.data =
      some record :=
    facts.data ▸ loadData_eq laws undoes facts.model
  simp only [decode, classified, Except.bind_ok, metadata, validated, loaded, orIntegrity,
    loads, again, requireSameProjections_self, requireSameChildren_self]
  rfl

theorem decodeRequestUnderstandingV2_of_again {input : EnvelopeInput} (laws : library.TextLaws)
    (undoes : library.RoundTrips record) (given : jsonInput library input = .ok raw)
    (spells : Spells library raw envelope)
    (facts : Reproducible library requestUnderstandingV2Spec record children envelope)
    (loads : envelope.payload.logicalChildren.mapM (loadAcceptedChild library) =
      .ok (canonicalChildren children))
    (again : buildRequestUnderstandingV2Envelope library record [] (canonicalChildren children) =
      .ok envelope) :
    decodeRequestUnderstandingV2 library input .requestUnderstandingRecord
        requestUnderstandingV2Spec.recordSchemaVersion =
      .ok ⟨.requestUnderstandingRecord, requestUnderstandingV2Spec.recordSchemaVersion, record,
        canonicalChildren children⟩ := by
  obtain ⟨outerCode, innerCode⟩ := facts.codes
  obtain ⟨outerVersion, innerVersion⟩ := facts.versions
  have classified := classifyOuterVersioned_eq_ok spells
  have metadata := innerMetadataMatches_modelDump envelope
  have validated := validateEnvelope_eq_ok spells
  rw [outerCode, outerVersion] at classified
  rw [innerCode, innerVersion] at metadata validated
  have loaded : loadData library .requestUnderstandingRecordV2 envelope.payload.data =
      some record :=
    facts.data ▸ loadData_eq laws undoes facts.model
  have code : requestUnderstandingV2Spec.recordCode = .requestUnderstandingRecord := rfl
  rw [code] at classified metadata validated
  simp only [decodeRequestUnderstandingV2, given, classified, Except.bind_ok, metadata, validated,
    loaded, orIntegrity, loads, again, requireSameProjections_self, requireSameChildren_self,
    beq_self_eq_true]
  rfl

/-- Whatever the encoder writes, the decoder reads back: the record itself, and its children in
their canonical order, from the envelope, from its mapping and from its JSON text. -/
theorem codec_round_trip (laws : library.TextLaws) {code : P0RecordCode} {version : String}
    {externals : List P0RecordReference}
    (undoes : ∀ model ∈ record :: children, library.RoundTrips model)
    (encoded : encodePersistenceRecordVersioned library code version record externals children =
      .ok envelope)
    {input : EnvelopeInput} (form : input ∈ formsOf library envelope) :
    decodePersistenceRecordVersioned library input code version =
      .ok ⟨code, version, record, canonicalChildren children⟩ := by
  have recordUndoes := undoes record (List.mem_cons_self ..)
  have childUndoes := fun child member => undoes child (List.mem_cons_of_mem record member)
  simp only [encodePersistenceRecordVersioned, Except.bind_eq_ok_iff] at encoded
  obtain ⟨selected, pair, encoded⟩ := encoded
  obtain ⟨rfl, rfl⟩ := versionedPairSpec_eq_ok.mp pair
  rw [recordCode_persistenceRegistry] at encoded
  simp only [decodePersistenceRecordVersioned, pair, Except.bind_ok, recordCode_persistenceRegistry]
  split_ifs at encoded ⊢ with understanding
  · subst understanding
    obtain ⟨facts, loads, again⟩ := buildRequestUnderstandingV2Envelope_again laws undoes encoded
    obtain ⟨raw, given, spells⟩ := jsonInput_spells laws facts.native form
    exact decodeRequestUnderstandingV2_of_again laws recordUndoes given spells facts loads again
  · simp only [Except.bind_eq_ok_iff, strictSelectedVersionedRecord_eq_ok laws recordUndoes]
      at encoded
    obtain ⟨validated, ⟨-, rfl⟩, validatedChildren, rebuilt, encoded⟩ := encoded
    obtain ⟨rfl, -⟩ := (strictSelectedVersionedChildren_eq_ok laws childUndoes).mp rebuilt
    obtain ⟨facts, loads, again⟩ := buildEnvelope_again laws undoes encoded
    obtain ⟨raw, given, spells⟩ := jsonInput_spells laws facts.native form
    obtain ⟨outerCode, -⟩ := facts.codes
    have classified := classifyOuterVersioned_eq_ok spells
    rw [outerCode, facts.versions.1, recordCode_persistenceRegistry] at classified
    rw [given, Except.bind_ok, classified]
    exact decode_of_again laws recordUndoes understanding spells facts loads again

end Reading

/-- A model library that knows finitely many records. Each entry is a record with data that loads as
it; the first entry of a record is its dump. -/
def tableLibrary (entries : List (SourceRecord × Fields)) : ModelLibrary where
  modelDump record := ((entries.find? (·.1 == record)).map (·.2)).getD []
  modelValidate model value :=
    (entries.find? fun entry => entry.1.sourceModel == model && Json.object entry.2 == value).map
      (·.1)
  fieldDump _ _ value := some value
  writeText := Json.compact
  readText := Json.loads

theorem tableLibrary_textLaws (entries : List (SourceRecord × Fields)) :
    (tableLibrary entries).TextLaws where
  readText_writeText _ native := Json.loads_compact native
  readText_compact _ native := Json.loads_compact native
  loads_writeText _ native := Json.loads_compact native

/-- A Task that was blocked and then completed, with its two transitions, and their dumps. -/
def sampleTask : SourceRecord := .taskRecord
  { taskId := 1, ownerCustomerId := "customer-1", status := .completed, stateVersion := 3,
    createdAt := .utc 1735689600000000, updatedAt := .utc 1735689602000000 }

def sampleTransition (resultStateVersion : ℕ) (fromStatus toStatus : TaskStatus) (changedAt : ℤ) :
    SourceRecord :=
  .taskStateTransition
    { taskId := 1, requestUnitId := 2, fromStatus := fromStatus, toStatus := toStatus,
      baseStateVersion := resultStateVersion - 1, resultStateVersion :=
        resultStateVersion, reasonRef := 3,
      changedAt := .utc changedAt }

def sampleTransitionDump (resultStateVersion : ℤ) (fromStatus toStatus changedAt : String) :
    Fields :=
  [("task_id", ownText "00000000-0000-0000-0000-000000000001"),
    ("request_unit_id", ownText "00000000-0000-0000-0000-000000000002"),
    ("from_status", ownText fromStatus), ("to_status", ownText toStatus),
    ("base_state_version", .int (resultStateVersion - 1)),
    ("result_state_version", .int resultStateVersion),
    ("reason_ref", ownText "00000000-0000-0000-0000-000000000003"),
    ("changed_at", ownText changedAt)]

def sampleBlocked : SourceRecord := sampleTransition 2 .active .blocked 1735689601000000

def sampleCompleted : SourceRecord := sampleTransition 3 .blocked .completed 1735689602000000

def sampleLibrary : ModelLibrary := tableLibrary
  [(sampleTask,
    [("task_id", ownText "00000000-0000-0000-0000-000000000001"),
      ("owner_customer_id", ownText "customer-1"), ("status", ownText "COMPLETED"),
      ("state_version", .int 3),
      ("created_at", ownText "2025-01-01T00:00:00Z"),
      ("updated_at", ownText "2025-01-01T00:00:02Z"),
      ("last_outcome_ref", .null)]),
    (sampleBlocked, sampleTransitionDump 2 "ACTIVE" "BLOCKED" "2025-01-01T00:00:01Z"),
    (sampleCompleted, sampleTransitionDump 3 "BLOCKED" "COMPLETED" "2025-01-01T00:00:02Z")]

/-- The transitions are given in the wrong order and come back in the right one. -/
theorem codec_round_trip_task : ∃ envelope,
    encodePersistenceRecordVersioned sampleLibrary .taskRecord "task_record.p0.v1" sampleTask []
        [sampleCompleted, sampleBlocked] = .ok envelope ∧
      decodePersistenceRecordVersioned sampleLibrary
      (.text (sampleLibrary.writeText envelope.toJson)) .taskRecord
          "task_record.p0.v1" =
        .ok ⟨.taskRecord, "task_record.p0.v1", sampleTask, [sampleBlocked, sampleCompleted]⟩ := by
  have undoes : ∀ model ∈ [sampleTask, sampleCompleted, sampleBlocked],
      sampleLibrary.RoundTrips model := by
    intro model member
    simp only [List.mem_cons, List.not_mem_nil, or_false] at member
    rcases member with rfl | rfl | rfl <;> exact ⟨by decide, by decide⟩
  obtain ⟨envelope, encoded⟩ :=
    Except.exists_ok_of_isOk (show (encodePersistenceRecordVersioned sampleLibrary
    .taskRecord "task_record.p0.v1" sampleTask [] [sampleCompleted, sampleBlocked]).isOk = true by
      decide +kernel)
  have laws : sampleLibrary.TextLaws := tableLibrary_textLaws _
  exact ⟨envelope, encoded, codec_round_trip laws undoes encoded (by simp [formsOf])⟩

end MiniAgent.Application
