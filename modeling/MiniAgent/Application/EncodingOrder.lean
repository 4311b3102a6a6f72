import MiniAgent.Application.CodecRoundTrip

/-! # Encoding and the order of its collections

The encoder receives references and children as sequences and writes sets. References are sorted by
a key that determines them. Children are sorted by a key that their own checks have made distinct,
so no two of them are ever left in the order in which they were given. Two envelopes of one family
are equal exactly if their records, their children and their external references are.
-/

namespace MiniAgent.Application

open MiniAgent.Core

variable {library : ModelLibrary} {record parent child validated : SourceRecord}
  {children others : List SourceRecord} {externals otherExternals accepted : List P0RecordReference}
  {spec : P0RecordSchemaSpec} {code : P0RecordCode}

section References

variable (laws : library.TextLaws)
include laws

private theorem validateExternalReferences_nodup
    (success : validateExternalReferences library spec externals = .ok accepted) :
    externals.Nodup := by
  simp only [validateExternalReferences, Except.bind_eq_ok_iff, normalizeReferences_eq_ok_iff laws]
    at success
  obtain ⟨_, ⟨distinct, -⟩, -⟩ := success
  exact distinct.resolve_left Bool.false_ne_true

private theorem validateExternalReferences_of_perm (same : externals.Perm otherExternals)
    (success : validateExternalReferences library spec externals = .ok accepted) :
    validateExternalReferences library spec otherExternals = .ok accepted := by
  simp only [validateExternalReferences, Except.bind_eq_ok_iff, normalizeReferences_eq_ok_iff laws]
    at success ⊢
  rwa [← canonicalReferences_congr fun reference => same.mem_iff, ← same.nodup_iff]

/-- Every reference that was given is accepted, and no other. -/
private theorem accepted_perm_externals (apart : ((externalRules spec).map (·.relation)).Nodup)
    (success : validateExternalReferences library spec externals = .ok accepted) :
    accepted.Perm externals := by
  have distinct := validateExternalReferences_nodup laws success
  obtain ⟨accepts, given⟩ := validateExternalReferences_spec laws success
  have acceptedApart : (accepted.map fun reference => some reference.relation).Nodup :=
    accepts.relations ▸ apart
  have counted : externals.length ≤ accepted.length := by
    simp only [validateExternalReferences, Except.bind_eq_ok_iff,
      normalizeReferences_eq_ok_iff laws, requireIntegrity_eq_ok_iff, beq_iff_eq] at success
    obtain ⟨_, ⟨-, rfl⟩, -, many, -⟩ := success
    rw [(canonicalReferences_perm distinct).length_eq, List.Forall₂.length_eq accepts] at many
    exact many.le
  exact (List.subperm_of_subset acceptedApart.of_map given).perm_of_length_le counted

end References

private theorem sourceModel_comparedState (record : SourceRecord) :
    record.comparedState.sourceModel = record.sourceModel := by
  cases record <;> rfl

private theorem comparedState_eq_self (other : record.sourceModel ≠ .modelVisibleToolsetArtifact) :
    record.comparedState = record := by
  cases record with
  | modelVisibleToolsetArtifact => exact absurd rfl other
  | _ => rfl

/-- Except for toolset artifacts, a record is rebuilt as it is. -/
private theorem strictVersionedModel_eq_self {model : SourceModel}
    {category : P0PersistenceIntegrityCategory} (other : model ≠ .modelVisibleToolsetArtifact)
    (success : strictVersionedModel library record model category = .ok validated) :
    record.sourceModel = model ∧ validated = record ∧
    reload library model record = some record := by
  simp only [strictVersionedModel, Except.bind_eq_ok_iff, requireIntegrity_eq_ok_iff,
    orIntegrity_eq_ok, beq_iff_eq, runtimeValuesMatchExactly, Except.pure_eq_ok_iff] at success
  obtain ⟨-, rfl, rebuilt, reloaded, -, same, rfl⟩ := success
  have sameModel := congrArg SourceRecord.sourceModel same
  rw [sourceModel_comparedState, sourceModel_comparedState] at sameModel
  rw [comparedState_eq_self other, comparedState_eq_self (sameModel ▸ other)] at same
  subst same
  exact ⟨rfl, rfl, reloaded⟩

/-- A child of an allowed class that the model library reads back. -/
structure StrictChild (library : ModelLibrary) (spec : P0RecordSchemaSpec) (child : SourceRecord) :
    Prop where
  allowed : ∃ childCode ∈ spec.allowedChildCodes,
    child.sourceModel = (logicalChildSpecs childCode).sourceModel
  reloads : reload library child.sourceModel child = some child

private theorem childModel_ne_artifact (childCode : P0LogicalChildCode) :
    (logicalChildSpecs childCode).sourceModel ≠ .modelVisibleToolsetArtifact := by
  cases childCode <;> decide

private theorem strictSelectedVersionedChildren_strict {rebuilt : List SourceRecord}
    (success : strictSelectedVersionedChildren library spec children = .ok rebuilt) :
    rebuilt = children ∧ ∀ child ∈ children, StrictChild library spec child := by
  have each : ∀ child rebuilt, strictSelectedVersionedChild library spec child = .ok rebuilt →
      rebuilt = child ∧ StrictChild library spec child := by
    intro child rebuilt success
    simp only [strictSelectedVersionedChild, Except.bind_eq_ok_iff, orIntegrity_eq_ok] at success
    obtain ⟨childSpec, found, success⟩ := success
    obtain ⟨childCode, allowed, rfl⟩ := List.mem_map.mp (List.mem_of_find?_eq_some found)
    obtain ⟨same, rfl, reloads⟩ :=
      strictVersionedModel_eq_self (childModel_ne_artifact childCode) success
    exact ⟨rfl, ⟨childCode, allowed, same⟩, same ▸ reloads⟩
  rw [strictSelectedVersionedChildren,
    Except.mapM_self_eq_ok_iff fun child _ rebuilt made => (each child rebuilt made).1] at success
  exact ⟨success.1, fun child member => (each child child (success.2 child member)).2⟩

/-- The values of the identity fields of a child. -/
def childIdentity : SourceRecord → List ℕ
  | .taskStateTransition transition =>
    [transition.taskId, transition.requestUnitId, transition.resultStateVersion]
  | .toolAttemptRecord attempt => [attempt.toolCallId, attempt.attemptNo]
  | .acceptedTaskDeltaV2 child => [child.acceptedDeltaId]
  | _ => []

/-- No two children have one identity, or one place in the canonical order. -/
def ApartChildren (children : List SourceRecord) : Prop :=
  (children.map childIdentity).Nodup ∧ (children.map childOrderKey).Nodup

theorem exists_map_eq {α : Type} {make : α → SourceRecord}
    (each : ∀ child ∈ children, ∃ item, make item = child) :
    ∃ items : List α, items.map make = children := by
  induction children with
  | nil => exact ⟨[], rfl⟩
  | cons child rest ih =>
    obtain ⟨item, rfl⟩ := each child List.mem_cons_self
    obtain ⟨items, rfl⟩ := ih fun child member => each child (List.mem_cons_of_mem _ member)
    exact ⟨item :: items, rfl⟩

private theorem apartChildren_nil : ApartChildren [] := ⟨List.nodup_nil, List.nodup_nil⟩

/-- Where a third key is distinct, so is what determines it. -/
private theorem nodup_map_of_determines {α β γ : Type} {items : List α} {key : α → β}
    {other : α → γ} (read : γ → β) (determines : ∀ item, read (other item) = key item)
    (distinct : (items.map key).Nodup) : (items.map other).Nodup := by
  have same : items.map key = (items.map other).map read := by
    simp only [List.map_map, Function.comp_def, determines]
  exact (same ▸ distinct).of_map

private theorem apartChildren_transitions {task : TaskRecord}
    {transitions : List TaskStateTransition} (fits : transitionsMatch task transitions = true) :
    ApartChildren (transitions.map .taskStateTransition) := by
  simp only [transitionsMatch, Bool.and_eq_true, allDistinct_iff] at fits
  obtain ⟨⟨-, versions⟩, -⟩ := fits
  simp only [ApartChildren, List.map_map]
  constructor
  · exact nodup_map_of_determines (·.getD 2 0) (fun _ => rfl) versions
  · exact nodup_map_of_determines (·.getD 0 0) (fun _ => rfl) versions

private theorem apartChildren_attempts {call : ToolCallRecord} {attempts : List ToolAttemptRecord}
    (fits : attemptsMatch call attempts = true) :
    ApartChildren (attempts.map .toolAttemptRecord) := by
  simp only [attemptsMatch, Bool.and_eq_true, allDistinct_iff] at fits
  obtain ⟨-, numbers⟩ := fits
  simp only [ApartChildren, List.map_map]
  constructor
  · exact nodup_map_of_determines (·.getD 1 0) (fun _ => rfl) numbers
  · exact nodup_map_of_determines (·.getD 0 0) (fun _ => rfl) numbers

private theorem apartChildren_deltas {understanding : RequestUnderstandingRecordV2}
    {deltas : List AcceptedTaskDeltaV2} (fits : acceptedChildrenMatch understanding deltas = true) :
    ApartChildren (deltas.map .acceptedTaskDeltaV2) := by
  simp only [acceptedChildrenMatch, Bool.and_eq_true, allDistinct_iff] at fits
  obtain ⟨-, ⟨⟨⟨⟨-, identities⟩, -⟩, -⟩, -⟩⟩ := fits
  simp only [ApartChildren, List.map_map]
  constructor <;>
    exact nodup_map_of_determines (·.getD 0 0) (fun _ => rfl) identities

/-- Only three families have children, each of one class. -/
private theorem allowedChildCodes_cases {childCode : P0LogicalChildCode}
    (allowed : childCode ∈ (persistenceRegistry code).allowedChildCodes) :
    (code = .taskRecord ∧ childCode = .taskStateTransition) ∨
    (code = .toolCallRecord ∧ childCode = .toolAttemptRecord) ∨
      (code = .requestUnderstandingRecord ∧ childCode = .acceptedTaskDelta) := by
  cases code <;> cases childCode <;> revert allowed <;> decide

private theorem exists_transition (model : child.sourceModel = .taskStateTransition) :
    ∃ transition, SourceRecord.taskStateTransition transition = child := by
  cases child with
  | taskStateTransition transition => exact ⟨transition, rfl⟩
  | _ => simp [SourceRecord.sourceModel] at model

private theorem exists_attempt (model : child.sourceModel = .toolAttemptRecord) :
    ∃ attempt, SourceRecord.toolAttemptRecord attempt = child := by
  cases child with
  | toolAttemptRecord attempt => exact ⟨attempt, rfl⟩
  | _ => simp [SourceRecord.sourceModel] at model

private theorem exists_delta (model : child.sourceModel = .acceptedTaskDeltaV2) :
    ∃ delta, SourceRecord.acceptedTaskDeltaV2 delta = child := by
  cases child with
  | acceptedTaskDeltaV2 delta => exact ⟨delta, rfl⟩
  | _ => simp [SourceRecord.sourceModel] at model

/-- Children that fit the parent of a generic family are apart. -/
private theorem apartChildren_of_childrenMatch (generic : code ≠ .requestUnderstandingRecord)
    (strict : ∀ child ∈ children, StrictChild library (persistenceRegistry code) child)
    (parentModel : children ≠ [] → parent.sourceModel = (persistenceRegistry code).sourceModel)
    (fits : childrenMatch parent children = true) : ApartChildren children := by
  by_cases empty : children = []
  · subst empty
    exact apartChildren_nil
  have model := parentModel empty
  obtain ⟨first, firstMember⟩ := List.exists_mem_of_ne_nil _ empty
  obtain ⟨_, allowed, -⟩ := (strict first firstMember).allowed
  rcases allowedChildCodes_cases allowed with ⟨rfl, -⟩ | ⟨rfl, -⟩ | ⟨understanding, -⟩
  · have each : ∀ child ∈ children, ∃ transition,
        SourceRecord.taskStateTransition transition = child := by
      intro child member
      obtain ⟨childCode, allowed, same⟩ := (strict child member).allowed
      obtain rfl := List.mem_singleton.mp allowed
      exact exists_transition same
    obtain ⟨transitions, rfl⟩ := exists_map_eq each
    have taskModel : parent.sourceModel = .taskRecord := model
    cases parent with
    | taskRecord task =>
      have fits : transitionsMatch task transitions = true := by
        simpa [childrenMatch, List.filterMap_map, Function.comp_def,
          SourceRecord.asTaskStateTransition] using fits
      exact apartChildren_transitions fits
    | _ => simp [SourceRecord.sourceModel] at taskModel
  · have each : ∀ child ∈ children, ∃ attempt, SourceRecord.toolAttemptRecord attempt = child := by
      intro child member
      obtain ⟨childCode, allowed, same⟩ := (strict child member).allowed
      obtain rfl := List.mem_singleton.mp allowed
      exact exists_attempt same
    obtain ⟨attempts, rfl⟩ := exists_map_eq each
    have callModel : parent.sourceModel = .toolCallRecord := model
    cases parent with
    | toolCallRecord call =>
      have fits : attemptsMatch call attempts = true := by
        simpa [childrenMatch, List.filterMap_map, Function.comp_def,
          SourceRecord.asToolAttemptRecord] using fits
      exact apartChildren_attempts fits
    | _ => simp [SourceRecord.sourceModel] at callModel
  · exact absurd understanding generic

section Payloads

variable {identity : Fields} {payloads : List P0LogicalChildPayload × List P0RecordReference}

/-- A strict child is checked as it is. -/
theorem StrictChild.checked (strict : StrictChild library spec child)
    {pair : P0LogicalChildSchemaSpec × SourceRecord}
    (success : checkedChild library spec child = .ok pair) : pair.2 = child := by
  simp only [checkedChild, Except.bind_eq_ok_iff, orIntegrity_eq_ok, Except.pure_eq_ok_iff]
    at success
  obtain ⟨childSpec, found, -, -, reloaded, reloads, rfl⟩ := success
  rw [← (childSpecOf_eq_some found).2, strict.reloads] at reloads
  exact (Option.some.inj reloads).symm

private theorem childPayloads_records (strict : ∀ child ∈ children, StrictChild library spec child)
    {pairs : List (P0LogicalChildSchemaSpec × SourceRecord)}
    (each : children.mapM (checkedChild library spec) = .ok pairs) :
    pairs.map (·.2) = children := by
  have aligned := Keyed.forall₂_imp_of_mem_right (Except.mapM_eq_ok_iff.mp each).flip
    fun pair child member made => (strict child member).checked made
  rw [Keyed.map_eq_map_of_forall₂ aligned fun _ _ same => same, List.map_id']

private theorem childPayloads_fits (strict : ∀ child ∈ children, StrictChild library spec child)
    (success : childPayloads library spec parent identity children = .ok payloads) :
    childrenMatch parent children = true := by
  simp only [childPayloads, Except.bind_eq_ok_iff, requireIntegrity_eq_ok_iff, exists_const]
    at success
  obtain ⟨pairs, each, -, fits, -⟩ := success
  rwa [childPayloads_records strict each] at fits

/-- Payloads are the same for every arrangement of children that are apart. -/
private theorem childPayloads_of_perm (strict : ∀ child ∈ children, StrictChild library spec child)
    (apart : ApartChildren children) (same : children.Perm others)
    (success : childPayloads library spec parent identity children = .ok payloads) :
    childPayloads library spec parent identity others = .ok payloads := by
  simp only [childPayloads, Except.bind_eq_ok_iff, requireIntegrity_eq_ok_iff, exists_const]
    at success ⊢
  obtain ⟨pairs, each, allowed, fits, arranged⟩ := success
  obtain ⟨otherPairs, otherEach, permuted⟩ := Except.mapM_perm same each
  have distinct : (pairs.map fun pair => childOrderKey pair.2).Nodup := by
    have orders := apart.2
    rwa [← childPayloads_records strict each, List.map_map] at orders
  refine ⟨otherPairs, otherEach, permuted.isEmpty_eq ▸ allowed, ?_, ?_⟩
  · rwa [← childrenMatch_eq_of_perm parent (permuted.map _)]
  · rwa [← Keyed.sortByKey_eq_of_perm permuted distinct]

private theorem mapM_acceptedChild_eq_ok {category : P0PersistenceIntegrityCategory}
    {rebuilt : List SourceRecord}
    (each : children.mapM (fun child =>
      strictVersionedModel library child .acceptedTaskDeltaV2 category) = .ok rebuilt) :
    rebuilt = children ∧ ∀ child ∈ children, child.sourceModel = .acceptedTaskDeltaV2 := by
  have self : ∀ child rebuilt,
      strictVersionedModel library child .acceptedTaskDeltaV2 category = .ok rebuilt →
      child.sourceModel = .acceptedTaskDeltaV2 ∧ rebuilt = child ∧ _ :=
    fun child rebuilt made => strictVersionedModel_eq_self (by decide) made
  rw [Except.mapM_self_eq_ok_iff fun child _ rebuilt made => (self child rebuilt made).2.1] at each
  exact ⟨each.1, fun child member => (self child child (each.2 child member)).1⟩

/-- The accepted children of one Request Understanding are apart. -/
private theorem requestUnderstandingV2ChildPayloads_apart
    (success : requestUnderstandingV2ChildPayloads library parent identity children =
      .ok payloads) :
    ApartChildren children := by
  simp only [requestUnderstandingV2ChildPayloads, Except.bind_eq_ok_iff] at success
  obtain ⟨rebuilt, each, ⟨⟩, fits, -⟩ := success
  obtain ⟨rfl, models⟩ := mapM_acceptedChild_eq_ok each
  obtain ⟨deltas, rfl⟩ := exists_map_eq fun child member => exists_delta (models child member)
  cases parent with
  | requestUnderstandingRecordV2 understanding =>
    simp only [requestUnderstandingChildrenMatch, Except.bind_eq_ok_iff, requireIntegrity_eq_ok_iff]
      at fits
    obtain ⟨-, fits, -⟩ := fits
    exact apartChildren_deltas
      (by simpa [List.filterMap_map, SourceRecord.asAcceptedTaskDeltaV2] using fits)
  | _ => cases fits

private theorem requestUnderstandingV2ChildPayloads_of_perm (same : children.Perm others)
    (success : requestUnderstandingV2ChildPayloads library parent identity children =
      .ok payloads) :
    requestUnderstandingV2ChildPayloads library parent identity others = .ok payloads := by
  have apart := requestUnderstandingV2ChildPayloads_apart success
  simp only [requestUnderstandingV2ChildPayloads, Except.bind_eq_ok_iff] at success ⊢
  obtain ⟨rebuilt, each, ⟨⟩, fits, arranged⟩ := success
  obtain ⟨rfl, -⟩ := mapM_acceptedChild_eq_ok each
  obtain ⟨otherRebuilt, otherEach, permuted⟩ := Except.mapM_perm same each
  obtain ⟨rfl, -⟩ := mapM_acceptedChild_eq_ok otherEach
  refine ⟨otherRebuilt, otherEach, (), requestUnderstandingChildrenMatch_of_perm permuted fits, ?_⟩
  rwa [← Keyed.sortByKey_eq_of_perm permuted apart.2]

end Payloads

section Envelopes

variable (laws : library.TextLaws) {envelope : P0PersistenceEnvelope} {version : String}

/-- A family with children is not the one of toolset artifacts. -/
private theorem parentModel_ne_artifact
    (strict : StrictChild library (persistenceRegistry code) child) :
    (persistenceRegistry code).sourceModel ≠ .modelVisibleToolsetArtifact := by
  obtain ⟨_, allowed, -⟩ := strict.allowed
  rcases allowedChildCodes_cases allowed with ⟨rfl, -⟩ | ⟨rfl, -⟩ | ⟨rfl, -⟩ <;> decide

/-- A parent that has children is rebuilt as it is. -/
def ReloadsParent (library : ModelLibrary) (code : P0RecordCode) (record : SourceRecord)
    (children : List SourceRecord) :
    Prop :=
  children ≠ [] → reload library (persistenceRegistry code).sourceModel record = some record

private theorem strictSelectedVersionedRecord_reloads
    (strict : ∀ child ∈ children, StrictChild library (persistenceRegistry code) child)
    (success : strictSelectedVersionedRecord library (persistenceRegistry code) record =
      .ok validated) :
    ReloadsParent library code validated children := by
  intro nonempty
  obtain ⟨child, member⟩ := List.exists_mem_of_ne_nil _ nonempty
  simp only [strictSelectedVersionedRecord, Except.bind_eq_ok_iff] at success
  obtain ⟨-, -, -, -, -, -, success⟩ := success
  obtain ⟨-, rfl, reloads⟩ :=
    strictVersionedModel_eq_self (parentModel_ne_artifact (strict child member)) success
  exact reloads

include laws

/-- A generic encoding has distinct references and children that are apart. -/
private theorem buildEnvelope_apart
    (strict : ∀ child ∈ children, StrictChild library (persistenceRegistry code) child)
    (reloads : ReloadsParent library code record children)
    (success : buildEnvelope library code record externals children = .ok envelope) :
    externals.Nodup ∧ ApartChildren children := by
  unfold buildEnvelope at success
  cases registered : nonRuPersistenceRegistry code with
  | none => simp [registered] at success
  | some spec =>
    obtain ⟨generic, rfl⟩ := nonRuPersistenceRegistry_eq_some.mp registered
    simp only [registered, Except.bind_eq_ok_iff, Prod.exists] at success
    obtain ⟨validated, strictly, identity, -, owner, sourceReferences, -, external, accepted,
      payloads, childReferences, arranged, -⟩ := success
    refine ⟨validateExternalReferences_nodup laws accepted, ?_⟩
    apply apartChildren_of_childrenMatch generic strict _ (childPayloads_fits strict arranged)
    intro nonempty
    simp only [strictRecord, Except.bind_eq_ok_iff, requireIntegrity_eq_ok_iff, orIntegrity_eq_ok,
      beq_iff_eq, Except.pure_eq_ok_iff] at strictly
    obtain ⟨-, model, -, -, rebuilt, reloaded, -, -, rfl⟩ := strictly
    rw [reloads nonempty] at reloaded
    rw [← Option.some.inj reloaded, model]

private theorem buildEnvelope_of_perm
    (strict : ∀ child ∈ children, StrictChild library (persistenceRegistry code) child)
    (reloads : ReloadsParent library code record children)
    (sameExternals : externals.Perm otherExternals) (sameChildren : children.Perm others)
    (success : buildEnvelope library code record externals children = .ok envelope) :
    buildEnvelope library code record otherExternals others = .ok envelope := by
  have apart := (buildEnvelope_apart laws strict reloads success).2
  unfold buildEnvelope at success ⊢
  cases registered : nonRuPersistenceRegistry code with
  | none => simp [registered] at success
  | some spec =>
    obtain ⟨-, rfl⟩ := nonRuPersistenceRegistry_eq_some.mp registered
    simp only [registered, Except.bind_eq_ok_iff, Prod.exists] at success ⊢
    obtain ⟨validated, strictly, identity, identified, owner, sourceReferences, projected, external,
      accepted, payloads, childReferences, arranged, rest⟩ := success
    exact ⟨validated, strictly, identity, identified, owner, sourceReferences, projected, external,
      validateExternalReferences_of_perm laws sameExternals accepted, payloads, childReferences,
      childPayloads_of_perm strict apart sameChildren arranged, rest⟩

private theorem buildRequestUnderstandingV2Envelope_apart
    (success : buildRequestUnderstandingV2Envelope library record externals children =
      .ok envelope) :
    externals.Nodup ∧ ApartChildren children := by
  simp only [buildRequestUnderstandingV2Envelope, Except.bind_eq_ok_iff, Prod.exists] at success
  obtain ⟨validated, -, identity, -, owner, sourceReferences, -, external, accepted, payloads,
    childReferences, arranged, -⟩ := success
  exact ⟨validateExternalReferences_nodup laws accepted,
    requestUnderstandingV2ChildPayloads_apart arranged⟩

private theorem buildRequestUnderstandingV2Envelope_of_perm
    (sameExternals : externals.Perm otherExternals) (sameChildren : children.Perm others)
    (success : buildRequestUnderstandingV2Envelope library record externals children =
      .ok envelope) :
    buildRequestUnderstandingV2Envelope library record otherExternals others = .ok envelope := by
  simp only [buildRequestUnderstandingV2Envelope, Except.bind_eq_ok_iff, Prod.exists] at success ⊢
  obtain ⟨validated, strictly, identity, identified, owner, sourceReferences, projected, external,
    accepted, payloads, childReferences, arranged, rest⟩ := success
  exact ⟨validated, strictly, identity, identified, owner, sourceReferences, projected, external,
    validateExternalReferences_of_perm laws sameExternals accepted, payloads, childReferences,
    requestUnderstandingV2ChildPayloads_of_perm sameChildren arranged, rest⟩

/-- The collections of a record that was encoded. -/
private theorem encode_apart
    (success : encodePersistenceRecordVersioned library code version record externals children =
      .ok envelope) :
    externals.Nodup ∧ ApartChildren children := by
  simp only [encodePersistenceRecordVersioned, Except.bind_eq_ok_iff] at success
  obtain ⟨selected, pair, success⟩ := success
  obtain ⟨rfl, -⟩ := versionedPairSpec_eq_ok.mp pair
  split_ifs at success with understanding
  · exact buildRequestUnderstandingV2Envelope_apart laws success
  · simp only [Except.bind_eq_ok_iff] at success
    obtain ⟨validated, selectedly, rebuilt, each, built⟩ := success
    obtain ⟨rfl, strict⟩ := strictSelectedVersionedChildren_strict each
    exact buildEnvelope_apart laws strict
      (strictSelectedVersionedRecord_reloads strict selectedly) built

/-- What was encoded once is encoded alike from every arrangement of its collections. -/
private theorem encode_of_perm (sameExternals : externals.Perm otherExternals)
    (sameChildren : children.Perm others)
    (success : encodePersistenceRecordVersioned library code version record externals children =
      .ok envelope) :
    encodePersistenceRecordVersioned library code version record otherExternals others =
    .ok envelope := by
  simp only [encodePersistenceRecordVersioned, Except.bind_eq_ok_iff] at success ⊢
  obtain ⟨selected, pair, success⟩ := success
  obtain ⟨rfl, -⟩ := versionedPairSpec_eq_ok.mp pair
  refine ⟨_, pair, ?_⟩
  split_ifs at success ⊢ with understanding
  · exact buildRequestUnderstandingV2Envelope_of_perm laws sameExternals sameChildren success
  · simp only [Except.bind_eq_ok_iff] at success ⊢
    obtain ⟨validated, selectedly, rebuilt, each, built⟩ := success
    obtain ⟨rfl, strict⟩ := strictSelectedVersionedChildren_strict each
    obtain ⟨otherRebuilt, otherEach, -⟩ := Except.mapM_perm sameChildren each
    obtain ⟨rfl, -⟩ := strictSelectedVersionedChildren_strict otherEach
    refine ⟨validated, selectedly, otherRebuilt, otherEach, ?_⟩
    exact buildEnvelope_of_perm laws strict
      (strictSelectedVersionedRecord_reloads strict selectedly) sameExternals
      sameChildren built

/-- The references that look external in a generic envelope are those that were given. -/
private theorem buildEnvelope_externals (undoes : ∀ child ∈ children, library.RoundTrips child)
    (success : buildEnvelope library code record externals children = .ok envelope)
    (reference : P0RecordReference) :
    reference ∈ externalReferencesOf (persistenceRegistry code) envelope ↔
    reference ∈ externals := by
  unfold buildEnvelope at success
  cases registered : nonRuPersistenceRegistry code with
  | none => simp [registered] at success
  | some spec =>
    obtain ⟨-, rfl⟩ := nonRuPersistenceRegistry_eq_some.mp registered
    simp only [registered, Except.bind_eq_ok_iff, Prod.exists, normalizeReferences_eq_ok_iff laws]
      at success
    obtain ⟨validated, -, identity, -, owner, sourceReferences, projected, external, accepted,
      payloads, childReferences, arranged, _, ⟨-, rfl⟩, assembled⟩ := success
    obtain ⟨-, -, -, -, childApart⟩ := childPayloads_spec laws undoes arranged
    obtain ⟨accepts, -⟩ := validateExternalReferences_spec laws accepted
    obtain ⟨-, -, -, listed, -⟩ := assembleEnvelope_spec assembled
    rw [mem_externalReferencesOf laws projected accepts childApart listed]
    exact (accepted_perm_externals laws (externalRelations_nodup code) accepted).mem_iff

/-- A Request Understanding has no external references. -/
private theorem buildRequestUnderstandingV2Envelope_externals
    (success : buildRequestUnderstandingV2Envelope library record externals children = .ok envelope)
    (reference : P0RecordReference) :
    reference ∈ externalReferencesOf requestUnderstandingV2Spec envelope ↔
    reference ∈ externals := by
  have noRules : externalRules requestUnderstandingV2Spec = [] := by decide
  simp only [buildRequestUnderstandingV2Envelope, Except.bind_eq_ok_iff, Prod.exists] at success
  obtain ⟨_, -, _, -, _, _, -, external, accepted, -⟩ := success
  obtain ⟨accepts, -⟩ := validateExternalReferences_spec laws accepted
  have given := accepted_perm_externals laws (by rw [noRules]; exact List.nodup_nil) accepted
  rw [AcceptsExternal, noRules, List.forall₂_nil_left_iff] at accepts
  subst accepts
  rw [List.nil_perm.mp given, externalReferencesOf, noRules]
  simp

/-- What an envelope still tells of what it was encoded from. -/
structure Recovers (library : ModelLibrary) (code : P0RecordCode) (record : SourceRecord)
    (externals : List P0RecordReference) (children : List SourceRecord)
    (envelope : P0PersistenceEnvelope) : Prop where
  record : loadData library (persistenceRegistry code).sourceModel envelope.payload.data =
    some record
  externals : ∀ reference,
    reference ∈ externalReferencesOf (persistenceRegistry code) envelope ↔ reference ∈ externals
  children : envelope.payload.logicalChildren.mapM (loadChild library) =
    .ok (canonicalChildren children)

private theorem encode_recovers (undoes : ∀ model ∈ record :: children, library.RoundTrips model)
    (success : encodePersistenceRecordVersioned library code version record externals children =
      .ok envelope) :
    Recovers library code record externals children envelope := by
  have recordUndoes := undoes record List.mem_cons_self
  have childUndoes := fun child member => undoes child (List.mem_cons_of_mem record member)
  simp only [encodePersistenceRecordVersioned, Except.bind_eq_ok_iff] at success
  obtain ⟨selected, pair, success⟩ := success
  obtain ⟨rfl, -⟩ := versionedPairSpec_eq_ok.mp pair
  rw [recordCode_persistenceRegistry] at success
  split_ifs at success with understanding
  · subst understanding
    obtain ⟨facts, loads, -⟩ := buildRequestUnderstandingV2Envelope_again laws undoes success
    refine ⟨facts.data ▸ loadData_eq laws recordUndoes facts.model,
      buildRequestUnderstandingV2Envelope_externals laws success, ?_⟩
    rw [Except.mapM_eq_ok_iff] at loads ⊢
    apply loads.imp
    intro payload child loaded
    simp only [loadAcceptedChild, Except.bind_eq_ok_iff] at loaded
    obtain ⟨-, -, loaded⟩ := loaded
    exact loaded
  · simp only [Except.bind_eq_ok_iff, strictSelectedVersionedRecord_eq_ok laws recordUndoes]
      at success
    obtain ⟨validated, ⟨-, rfl⟩, rebuilt, each, built⟩ := success
    obtain ⟨rfl, -⟩ := strictSelectedVersionedChildren_strict each
    obtain ⟨facts, loads, -⟩ := buildEnvelope_again laws undoes built
    exact ⟨facts.data ▸ loadData_eq laws recordUndoes facts.model,
      buildEnvelope_externals laws childUndoes built, loads⟩

end Envelopes

/-- Encoding does not see the order of references and children. It refuses every repeated reference
and every repeated child identity, so envelopes of one family are equal exactly if record, children
and references are, as sets. -/
theorem encoding_is_order_free (laws : library.TextLaws) (code : P0RecordCode) (version : String) :
    (∀ record externals otherExternals children others, externals.Perm otherExternals →
      children.Perm others →
      (encodePersistenceRecordVersioned library code version record externals children).toOption =
        (encodePersistenceRecordVersioned library code version record otherExternals
          others).toOption) ∧
    (∀ record externals children, ¬(externals.Nodup ∧ (children.map childIdentity).Nodup) →
      (encodePersistenceRecordVersioned library code version record externals children).toOption =
      none) ∧
    ∀ record externals children other otherExternals others first second,
      (∀ model ∈ (record :: children) ++ (other :: others), library.RoundTrips model) →
      encodePersistenceRecordVersioned library code version record externals children = .ok first →
      encodePersistenceRecordVersioned library code version other otherExternals others =
      .ok second → (first = second ↔ record = other ∧ (∀ child, child ∈ children ↔ child ∈ others) ∧
        ∀ reference, reference ∈ externals ↔ reference ∈ otherExternals) := by
  refine ⟨?_, ?_, ?_⟩
  · intro record externals otherExternals children others sameExternals sameChildren
    ext envelope
    rw [Except.toOption_eq_some_iff, Except.toOption_eq_some_iff]
    exact ⟨encode_of_perm laws sameExternals sameChildren,
      encode_of_perm laws sameExternals.symm sameChildren.symm⟩
  · intro record externals children repeated
    rw [Option.eq_none_iff_forall_ne_some]
    intro envelope success
    obtain ⟨distinct, apart⟩ := encode_apart laws (Except.toOption_eq_some_iff.mp success)
    exact repeated ⟨distinct, apart.1⟩
  · intro record externals children other otherExternals others first second undoes encoded
      otherEncoded
    obtain ⟨distinct, apart⟩ := encode_apart laws encoded
    obtain ⟨otherDistinct, otherApart⟩ := encode_apart laws otherEncoded
    constructor
    · rintro rfl
      have recovered :=
        encode_recovers laws
          (fun model member => undoes model (List.mem_append_left _ member)) encoded
      have otherRecovered :=
        encode_recovers laws
          (fun model member => undoes model (List.mem_append_right _ member)) otherEncoded
      have arranged := Except.ok.inj (recovered.children.symm.trans otherRecovered.children)
      have permuted : children.Perm others := by
        have otherPermuted : (canonicalChildren others).Perm others := Keyed.sortByKey_perm _ _
        exact (Keyed.sortByKey_perm _ children).symm.trans (arranged.symm ▸ otherPermuted)
      refine ⟨Option.some.inj (recovered.record.symm.trans otherRecovered.record),
        fun child => permuted.mem_iff, ?_⟩
      exact fun reference =>
        (recovered.externals reference).symm.trans (otherRecovered.externals reference)
    · rintro ⟨rfl, sameChildren, sameExternals⟩
      have permuted :=
        (List.perm_ext_iff_of_nodup apart.1.of_map otherApart.1.of_map).mpr sameChildren
      have rearranged := (List.perm_ext_iff_of_nodup distinct otherDistinct).mpr sameExternals
      exact Except.ok.inj
        ((encode_of_perm laws rearranged permuted encoded).symm.trans otherEncoded)

/-- Both orders of a Task's transitions give one envelope, which is not that of the Task without
them, and no transition can be given twice. -/
theorem encoding_is_order_free_task : ∃ envelope bare,
    encodePersistenceRecordVersioned sampleLibrary .taskRecord "task_record.p0.v1" sampleTask []
        [sampleCompleted, sampleBlocked] = .ok envelope ∧
      encodePersistenceRecordVersioned sampleLibrary .taskRecord "task_record.p0.v1" sampleTask []
        [sampleBlocked, sampleCompleted] = .ok envelope ∧
      encodePersistenceRecordVersioned sampleLibrary .taskRecord "task_record.p0.v1" sampleTask []
      [] = .ok bare ∧ envelope ≠ bare ∧
      (encodePersistenceRecordVersioned sampleLibrary .taskRecord "task_record.p0.v1" sampleTask []
        [sampleBlocked, sampleBlocked]).toOption = none := by
  have laws : sampleLibrary.TextLaws := tableLibrary_textLaws _
  obtain ⟨ordered, refused, told⟩ := encoding_is_order_free laws .taskRecord "task_record.p0.v1"
  obtain ⟨envelope, encoded⟩ :=
    Except.exists_ok_of_isOk (show (encodePersistenceRecordVersioned sampleLibrary
    .taskRecord "task_record.p0.v1" sampleTask [] [sampleCompleted, sampleBlocked]).isOk = true by
      decide +kernel)
  obtain ⟨bare, bareEncoded⟩ :=
    Except.exists_ok_of_isOk (show (encodePersistenceRecordVersioned sampleLibrary
    .taskRecord "task_record.p0.v1" sampleTask [] []).isOk = true by decide +kernel)
  have undoes : ∀ model ∈ [sampleTask, sampleCompleted, sampleBlocked, sampleTask],
      sampleLibrary.RoundTrips model := by
    intro model member
    simp only [List.mem_cons, List.not_mem_nil, or_false] at member
    rcases member with rfl | rfl | rfl | rfl <;> exact ⟨by decide, by decide⟩
  refine ⟨envelope, bare, encoded, ?_, bareEncoded, ?_, refused _ _ _ (by decide)⟩
  · rw [← Except.toOption_eq_some_iff, ordered _ _ _ _ _ (List.Perm.refl []) (List.Perm.swap ..),
      encoded]
    rfl
  · intro same
    obtain ⟨-, sameChildren, -⟩ :=
      (told sampleTask [] [sampleCompleted, sampleBlocked] sampleTask [] [] envelope bare undoes
      encoded bareEncoded).mp same
    exact absurd ((sameChildren sampleBlocked).mp (by simp)) List.not_mem_nil

end MiniAgent.Application
