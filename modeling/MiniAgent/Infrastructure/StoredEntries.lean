import MiniAgent.Infrastructure.ActiveRuns
import MiniAgent.Infrastructure.GraphWrites

/-! # What a table holds

A row holds one record with its logical children. A row that was written by the store is sound: it
reads as the entry that it was written for, its columns are those of the entry, and its identity is
the one of the record. Of the model library this takes that a dump is native JSON that names the
identifiers of its record, and that strict validation gives back nothing but the record that was
dumped.
-/

namespace MiniAgent.Infrastructure

open MiniAgent.Core MiniAgent.Application

/-- The members under which the dump of a record names identifiers. -/
def uuidMembers : SourceRecord → List (String × Uuid)
  | .agentRunRecord run => [("run_id", run.runId)]
  | .taskRecord task => [("task_id", task.taskId)]
  | .requestUnitRecord unit => [("request_unit_id", unit.requestUnitId)]
  | .toolCallRecord call => [("tool_call_id", call.toolCallId), ("run_id", call.runId)]
  | .runTaskLinkRecord link => [("run_id", link.runId), ("task_id", link.taskId)]
  | _ => []

/-- What the store relies on in the library: a dump is native, strict validation of it gives nothing
but the record, and for a record that it accepts the dump names the identifiers by their texts. -/
structure StoreLaws (library : ModelLibrary) : Prop where
  texts : library.TextLaws
  native : ∀ record, (Json.object (library.modelDump record)).isNative = true
  keeps : ∀ record loaded, reload library record.sourceModel record = some loaded → loaded = record
  names : ∀ record, (reload library record.sourceModel record).isSome = true →
    ∀ member ∈ uuidMembers record,
    Json.lookup (library.modelDump record) member.1 = some (uuidJson member.2)

variable {library : ModelLibrary} {record : SourceRecord} {children : List SourceRecord}
  {code : P0RecordCode}
  {envelope : P0PersistenceEnvelope} {externals : List P0RecordReference}

/-- A record that the library accepts is read back from its dump. -/
private theorem StoreLaws.roundTrips (laws : StoreLaws library) {model : SourceModel}
    {loaded : SourceRecord} (same : record.sourceModel = model)
    (reloaded : reload library model record = some loaded) :
    library.RoundTrips record := by
  subst same
  obtain rfl := laws.keeps record loaded reloaded
  rw [reload, laws.texts.readText_writeText _ (laws.native _), Option.bind_some] at reloaded
  exact ⟨laws.native _, reloaded⟩

/-- What is encoded is accepted by the library, with all of its children. -/
private theorem StoreLaws.undoes_of_buildEnvelope (laws : StoreLaws library)
    (built : buildEnvelope library code record externals children = .ok envelope) :
    ∀ model ∈ record :: children, library.RoundTrips model := by
  unfold buildEnvelope at built
  split at built
  · cases built
  · next spec _ =>
    simp only [strictRecord, childPayloads, Except.bind_eq_ok_iff, Prod.exists,
      requireIntegrity_eq_ok_iff, beq_iff_eq, orIntegrity_eq_ok] at built
    obtain ⟨_, ⟨-, model, -, -, _, reloaded, -⟩, _, -, _, _, -, _, -, _, _, ⟨checked, each, -⟩,
      -⟩ := built
    refine List.forall_mem_cons.mpr ⟨laws.roundTrips model reloaded, fun child member => ?_⟩
    obtain ⟨_, -, made⟩ := Keyed.exists_of_forall₂_left (Except.mapM_eq_ok_iff.mp each) member
    simp only [checkedChild, Except.bind_eq_ok_iff, orIntegrity_eq_ok] at made
    obtain ⟨childSpec, found, -, -, _, again, -⟩ := made
    exact laws.roundTrips (childSpecOf_eq_some found).2 again

private theorem StoreLaws.undoes_of_buildRequestUnderstandingV2 (laws : StoreLaws library)
    (built : buildRequestUnderstandingV2Envelope library record externals children = .ok envelope) :
    ∀ model ∈ record :: children, library.RoundTrips model := by
  simp only [buildRequestUnderstandingV2Envelope, strictRequestUnderstandingV2,
    strictSelectedVersionedRecord, strictVersionedModel, requestUnderstandingV2ChildPayloads,
    Except.bind_eq_ok_iff, Prod.exists,
    requireIntegrity_eq_ok_iff, beq_iff_eq, orIntegrity_eq_ok] at built
  obtain ⟨_, ⟨-, model, -, -, -, -, -, -, _, reloaded, -⟩, _, -, _, _, -, _, -, _, _, ⟨_, each, -⟩,
    -⟩ := built
  refine List.forall_mem_cons.mpr ⟨laws.roundTrips model reloaded, fun child member => ?_⟩
  obtain ⟨_, -, made⟩ := Keyed.exists_of_forall₂_left (Except.mapM_eq_ok_iff.mp each) member
  simp only [Except.bind_eq_ok_iff, requireIntegrity_eq_ok_iff, beq_iff_eq, orIntegrity_eq_ok]
    at made
  obtain ⟨-, childModel, _, again, -⟩ := made
  exact laws.roundTrips childModel again

/-- What a row holds. -/
structure Entry where
  record : SourceRecord
  children : List SourceRecord := []
deriving DecidableEq

/-- A decoded record as an entry. -/
def entryOf (decoded : DecodedP0PersistenceRecord) : Entry :=
  ⟨decoded.sourceRecord, decoded.logicalChildren⟩

variable (library) in
/-- Read a row as its family is read. -/
def readRow (row : P0RecordModel) : Codec DecodedP0PersistenceRecord :=
  if row.recordCode = .requestUnderstandingRecord then
    decodePersistenceRecordVersioned library
      (.mapping (exactRunVersionedDecodeInput library row .requestUnderstandingRecord))
      .requestUnderstandingRecord requestUnderstandingV2Spec.recordSchemaVersion
  else decodePersistenceRecord library row.envelope row.recordCode

variable (library) in
def readEntry (row : P0RecordModel) : Option Entry := (readRow library row).toOption.map entryOf

theorem readEntry_eq_some {row : P0RecordModel} {entry : Entry} :
    readEntry library row = some entry ↔ ∃ decoded, readRow library row = .ok decoded ∧
    entryOf decoded = entry := by
  simp only [readEntry, Option.map_eq_some_iff, Except.toOption_eq_some_iff]

private theorem isNative_of_mem {fields : Fields} {field : String × Json}
    (native : Json.isNativeFields fields = true) (member : field ∈ fields) :
    field.2.isNative = true := by
  induction fields with
  | nil => cases member
  | cons first rest ih =>
    obtain ⟨here, later⟩ := Json.isNativeFields_cons.mp native
    rcases List.mem_cons.mp member with rfl | after
    · exact here
    · exact ih later after

private theorem keysDistinct_of_isNative {value : Json} (native : value.isNative = true) :
    KeysDistinct value := by
  induction value using json_induction with
  | step value ih =>
    cases value with
    | array items =>
      exact .array fun item member => ih item member (Json.isNativeItems_iff.mp native item member)
    | object fields =>
      obtain ⟨distinct, each⟩ := Json.isNative_object.mp native
      refine .object distinct fun field member =>
        ih _ (List.mem_map_of_mem (f := Prod.snd) member) ?_
      exact isNative_of_mem each member
    | _ => exact .scalar rfl

/-- A value is in its own order already. -/
private theorem reorder_self {value : Json} (distinct : KeysDistinct value) :
    exactRunReorderJsonLike value value = value := by
  induction value using json_induction with
  | step value ih =>
    cases value with
    | array items =>
      rw [exactRunReorderJsonLike, Json.array.injEq]
      refine List.ext_getElem? fun index => ?_
      rw [getElem?_reorderItems]
      cases found : items[index]? with
      | none => rfl
      | some item =>
        have listed := List.mem_of_getElem? found
        exact congrArg some (ih item listed (distinct.parts item listed))
    | object fields =>
      rw [exactRunReorderJsonLike_object, Json.object.injEq]
      refine (fields_ext ?_ distinct.nodup fun key => ?_).symm
      · have all : (fields.map Prod.fst).filter (· ∈ fields.map Prod.fst) = fields.map Prod.fst :=
          List.filter_eq_self.mpr fun key member => by simpa using member
        have rest : (fields.map Prod.fst).filter (· ∉ fields.map Prod.fst) = [] :=
          List.filter_eq_nil_iff.mpr fun key member => by simpa using member
        rw [keys_reordered, all, rest, List.append_nil]
      · rw [lookup_reordered]
        cases found : Json.lookup fields key with
        | none => rfl
        | some inner =>
          exact congrArg some (ih inner (mem_jsonParts_of_lookup found)
            (distinct.lookup found)).symm
    | _ => rfl

private theorem reorderedData_dump (laws : StoreLaws library) (undoes : library.RoundTrips record)
    {model : SourceModel} (same : record.sourceModel = model) :
    reorderedData library model (library.modelDump record) = some (library.modelDump record) := by
  rw [reorderedData, loadData_eq laws.texts undoes same, Option.bind_eq_bind, Option.bind_some,
    reorder_self (keysDistinct_of_isNative undoes.1)]
  rfl

/-- The family of a class of records. -/
theorem sourceModel_injective {left right : P0RecordCode}
    (same : (persistenceRegistry left).sourceModel = (persistenceRegistry right).sourceModel) :
    left = right := by
  cases left <;> cases right <;> first | rfl | cases same

/-- The Run that a record belongs to by a reference. -/
def ofRun : SourceRecord → Option Uuid
  | .toolCallRecord call => some call.runId
  | .runTaskLinkRecord link => some link.runId
  | _ => none

/-- A reference to a Run. -/
def TargetsRun (runId : Uuid) (reference : P0RecordReference) : Prop :=
  reference.targetRecordCode = .agentRunRecord ∧
    reference.targetLogicalIdentity.toJson = uuidIdentity "run_id" runId

variable (library) in
/-- An envelope is the encoding of an entry: a row with it reads as the entry, its identity is that
of the record, and it refers to the Run that the record belongs to. -/
structure Encodes (envelope : P0PersistenceEnvelope) (entry : Entry) : Prop where
  model : entry.record.sourceModel = (persistenceRegistry envelope.recordCode).sourceModel
  undoes : library.RoundTrips entry.record
  identified : ∃ identity, logicalIdentity library entry.record
    (persistenceRegistry envelope.recordCode).identityFields =
    .ok identity ∧ scalarIdentity identity = .ok envelope.logicalIdentity
  version : envelope.recordSchemaVersion =
    (persistenceRegistry envelope.recordCode).recordSchemaVersion
  refers : ∀ runId, ofRun entry.record = some runId → ∃ reference ∈ envelope.recordReferences,
    TargetsRun runId reference
  reads : ∀ row : P0RecordModel, row.recordCode = envelope.recordCode →
    row.envelope = envelope.modelDump → readRow library row =
      .ok ⟨envelope.recordCode, (persistenceRegistry envelope.recordCode).recordSchemaVersion,
        entry.record, entry.children⟩

/-- The parts of a generic envelope that come from its record. -/
private theorem identity_of_buildEnvelope (laws : StoreLaws library)
    (undoes : library.RoundTrips record)
    (built : buildEnvelope library code record externals children = .ok envelope) :
    ∃ identity, logicalIdentity library record (persistenceRegistry code).identityFields =
    .ok identity ∧ scalarIdentity identity = .ok envelope.logicalIdentity := by
  unfold buildEnvelope at built
  split at built
  · cases built
  · next spec registered =>
    obtain ⟨-, rfl⟩ := nonRuPersistenceRegistry_eq_some.mp registered
    simp only [assembleEnvelope, Except.bind_eq_ok_iff, Prod.exists,
      strictRecord_eq_ok laws.texts undoes, Except.pure_eq_ok_iff] at built
    obtain ⟨_, ⟨-, rfl⟩, identity, identified, _, _, -, _, -, _, _, -, _, -, scalars, made, rfl⟩ :=
      built
    exact ⟨identity, identified, made⟩

/-- The rule of a required reference to a Run projects it. -/
private theorem targetsRun_of_projectRule {data : Fields} {runId : Uuid} {owner : Option Text}
    {references : List P0RecordReference}
    (named : Json.lookup data "run_id" = some (uuidJson runId))
    (made : projectRule data (requiredReference "run_id" .agentRunRecord) =
      .ok (owner, references)) :
    ∃ reference ∈ references, TargetsRun runId reference := by
  have values : projectedValues (requiredReference "run_id" .agentRunRecord) data =
      .ok [uuidJson runId] := by
    simp only [projectedValues, requiredReference, one, getField, named]
    rfl
  have target : referenceForValue (requiredReference "run_id" .agentRunRecord) (uuidJson runId) =
      .ok ⟨"run_id", .agentRunRecord, [("run_id", ⟨uuidJson runId, rfl⟩)]⟩ := rfl
  rw [projectRule, values, Except.bind_ok, List.mapM_cons, target] at made
  obtain rfl := (Prod.mk.inj (Except.ok.inj made)).2
  exact ⟨_, List.mem_cons_self, rfl, rfl⟩

/-- Both families that belong to a Run have the same rule for it. -/
private theorem ruled_of_ofRun {runId : Uuid} (belongs : ofRun record = some runId)
    (model : record.sourceModel = (persistenceRegistry code).sourceModel) :
    requiredReference "run_id" .agentRunRecord ∈ (persistenceRegistry code).projectionDecisions ∧
      ("run_id", runId) ∈ uuidMembers record := by
  cases record <;> simp only [ofRun, Option.some.injEq, reduceCtorEq] at belongs
  case toolCallRecord call =>
    obtain rfl := belongs
    obtain rfl : P0RecordCode.toolCallRecord = code := sourceModel_injective model
    exact ⟨.head _, .tail _ (.head _)⟩
  case runTaskLinkRecord link =>
    obtain rfl := belongs
    obtain rfl : P0RecordCode.runTaskLinkRecord = code := sourceModel_injective model
    exact ⟨.head _, .head _⟩

private theorem ofRun_of_understanding
    (model : record.sourceModel = .requestUnderstandingRecordV2) :
    ofRun record = none := by
  cases record <;> first | rfl | cases model

/-- What belongs to a Run refers to it. -/
private theorem refers_of_buildEnvelope (laws : StoreLaws library)
    (undoes : library.RoundTrips record)
    (built : buildEnvelope library code record externals children = .ok envelope) {runId : Uuid}
    (belongs : ofRun record = some runId) : ∃ reference ∈ envelope.recordReferences,
    TargetsRun runId reference := by
  have accepted : (reload library record.sourceModel record).isSome = true := by
    rw [reload_eq laws.texts undoes rfl]
    rfl
  unfold buildEnvelope at built
  split at built
  · cases built
  · next spec registered =>
    obtain ⟨-, rfl⟩ := nonRuPersistenceRegistry_eq_some.mp registered
    simp only [Except.bind_eq_ok_iff, Prod.exists, strictRecord_eq_ok laws.texts undoes] at built
    obtain ⟨_, ⟨model, rfl⟩, _, _, owner, own, projected, external, -, _, childOnes, -, references,
      normal, assembled⟩ := built
    obtain ⟨-, -, -, kept, -⟩ := assembleEnvelope_spec assembled
    obtain ⟨-, rfl⟩ := (normalizeReferences_eq_ok_iff laws.texts).mp normal
    obtain ⟨ruled, named⟩ := ruled_of_ofRun belongs model.1
    simp only [topLevelProjection, Except.bind_eq_ok_iff, Except.pure_eq_ok_iff, Prod.mk.injEq,
      normalizeReferences_eq_ok_iff laws.texts] at projected
    obtain ⟨parts, each, _, ⟨-, rfl⟩, -, rfl⟩ := projected
    obtain ⟨⟨_, found⟩, listed, made⟩ :=
      Keyed.exists_of_forall₂_left (Except.mapM_eq_ok_iff.mp each) ruled
    obtain ⟨reference, member, targets⟩ :=
      targetsRun_of_projectRule (laws.names _ accepted _ named) made
    rw [kept]
    refine ⟨reference,
      mem_canonicalReferences.mpr (List.mem_append_left _ (List.mem_append_left _ ?_)), targets⟩
    exact mem_canonicalReferences.mpr (List.mem_flatMap.mpr ⟨_, listed, member⟩)

private theorem encodes_of_buildEnvelope (laws : StoreLaws library)
    (built : buildEnvelope library code record externals children = .ok envelope) :
    envelope.recordCode = code ∧ Encodes library envelope ⟨record, canonicalChildren children⟩ := by
  have undoes := laws.undoes_of_buildEnvelope built
  have recordUndoes := undoes record List.mem_cons_self
  have generic : code ≠ .requestUnderstandingRecord := by
    rintro rfl
    cases built
  obtain ⟨facts, loads, again⟩ := buildEnvelope_again laws.texts undoes built
  have sameCode : envelope.recordCode = code :=
    facts.codes.1.trans (recordCode_persistenceRegistry code)
  refine ⟨sameCode, ⟨sameCode ▸ facts.model, recordUndoes,
    sameCode ▸ identity_of_buildEnvelope laws recordUndoes built, sameCode ▸ facts.versions.1,
    fun runId belongs => refers_of_buildEnvelope laws recordUndoes built belongs,
    fun row rowCode rowEnvelope => ?_⟩⟩
  have form : .mapping envelope.modelDump ∈ formsOf library envelope := by simp [formsOf]
  obtain ⟨raw, given, spells⟩ := jsonInput_spells laws.texts facts.native form
  rw [readRow, rowCode, sameCode, if_neg generic, rowEnvelope, decodePersistenceRecord,
    if_neg generic, given]
  exact decode_of_again laws.texts recordUndoes generic spells facts loads again

/-- A child payload that holds a dump is in its own order. -/
private theorem reorderedChild_toJson (laws : StoreLaws library)
    (undoes : library.RoundTrips record) (model : record.sourceModel = .acceptedTaskDeltaV2)
    {payload : P0LogicalChildPayload} (data : payload.data = library.modelDump record) :
    reorderedChild library payload.toJson = some payload.toJson := by
  have same := reorderedData_dump laws undoes model
  rw [← data] at same
  simp [reorderedChild, P0LogicalChildPayload.toJson, readObject, Json.lookup, same]

/-- The envelope of a Request Understanding is in its own order. -/
private theorem decodeInput_of_modelDump (laws : StoreLaws library)
    (undoes : library.RoundTrips record)
    (model : record.sourceModel = .requestUnderstandingRecordV2)
    (data : envelope.payload.data = library.modelDump record)
    (payloads : ∀ payload ∈ envelope.payload.logicalChildren, ∃ child, library.RoundTrips child ∧
      child.sourceModel = .acceptedTaskDeltaV2 ∧ payload.data = library.modelDump child)
    {row : P0RecordModel} (rowEnvelope : row.envelope = envelope.modelDump) :
    exactRunVersionedDecodeInput library row .requestUnderstandingRecord = row.envelope := by
  have source := reorderedData_dump laws undoes model
  rw [← data] at source
  have each : (envelope.payload.logicalChildren.map (·.toJson)).mapM (reorderedChild library) =
      some (envelope.payload.logicalChildren.map (·.toJson)) := by
    generalize envelope.payload.logicalChildren = items at payloads
    induction items with
    | nil => rfl
    | cons payload rest ih =>
      obtain ⟨⟨child, childUndoes, childModel, childData⟩, others⟩ :=
        List.forall_mem_cons.mp payloads
      rw [List.map_cons, List.mapM_cons,
        reorderedChild_toJson laws childUndoes childModel childData, ih others]
      rfl
  simp [exactRunVersionedDecodeInput, rowEnvelope, P0PersistenceEnvelope.modelDump,
    P0VersionedPayload.toJson, readObject, readArray, reorderedPayload, childrenJson, Json.lookup,
    source, each]

private theorem encodes_of_buildRequestUnderstandingV2 (laws : StoreLaws library)
    (built : buildRequestUnderstandingV2Envelope library record externals children = .ok envelope) :
    envelope.recordCode = .requestUnderstandingRecord ∧
    Encodes library envelope ⟨record, canonicalChildren children⟩ := by
  have undoes := laws.undoes_of_buildRequestUnderstandingV2 built
  have recordUndoes := undoes record List.mem_cons_self
  obtain ⟨facts, loads, again⟩ := buildRequestUnderstandingV2Envelope_again laws.texts undoes built
  have sameCode : envelope.recordCode = .requestUnderstandingRecord := facts.codes.1
  have parts := built
  simp only [buildRequestUnderstandingV2Envelope, strictRequestUnderstandingV2,
    Except.bind_eq_ok_iff, Prod.exists,
    strictSelectedVersionedRecord_eq_ok laws.texts recordUndoes] at parts
  obtain ⟨_, ⟨-, rfl⟩, identity, identified, _, _, -, _, -, payloads, _, arranged, _, -,
    assembled⟩ := parts
  have held := (assembleEnvelope_spec assembled).2.2.2.2
  have scalars : scalarIdentity identity = .ok envelope.logicalIdentity := by
    simp only [assembleEnvelope, Except.bind_eq_ok_iff, Except.pure_eq_ok_iff] at assembled
    obtain ⟨found, made, rfl⟩ := assembled
    exact made
  obtain ⟨-, -, data⟩ := requestUnderstandingV2ChildPayloads_spec laws.texts
    (fun child member => undoes child (List.mem_cons_of_mem _ member)) arranged
  have models : ∀ child ∈ children, child.sourceModel = .acceptedTaskDeltaV2 := by
    simp only [requestUnderstandingV2ChildPayloads, Except.bind_eq_ok_iff] at arranged
    obtain ⟨_, each, -⟩ := arranged
    intro child member
    obtain ⟨_, -, made⟩ := Keyed.exists_of_forall₂_left (Except.mapM_eq_ok_iff.mp each) member
    exact ((strictVersionedModel_eq_ok laws.texts (undoes child (List.mem_cons_of_mem _ member))).mp
      made).1
  have aside := ofRun_of_understanding facts.model
  refine ⟨sameCode, ⟨sameCode ▸ facts.model, recordUndoes, ?_, sameCode ▸ facts.versions.1,
    fun runId belongs => absurd (aside.symm.trans belongs) (by simp),
    fun row rowCode rowEnvelope => ?_⟩⟩
  · rw [sameCode]
    exact ⟨identity, identified, scalars⟩
  have form : .mapping envelope.modelDump ∈ formsOf library envelope := by simp [formsOf]
  obtain ⟨raw, given, spells⟩ := jsonInput_spells laws.texts facts.native form
  have input :=
    decodeInput_of_modelDump laws recordUndoes facts.model facts.data (fun payload member => by
    obtain ⟨child, listed, same⟩ := data payload (held ▸ member)
    exact ⟨child, undoes child (List.mem_cons_of_mem _ listed), models child listed,
      same⟩) rowEnvelope
  have pair : versionedPairSpec .requestUnderstandingRecord
      requestUnderstandingV2Spec.recordSchemaVersion =
      .ok requestUnderstandingV2Spec := versionedPairSpec_eq_ok.mpr ⟨rfl, rfl⟩
  have isRu : requestUnderstandingV2Spec.recordCode = .requestUnderstandingRecord := rfl
  rw [readRow, if_pos (rowCode.trans sameCode), input, rowEnvelope,
    decodePersistenceRecordVersioned, pair, Except.bind_ok, if_pos isRu, sameCode]
  exact decodeRequestUnderstandingV2_of_again laws.texts recordUndoes given spells facts loads again

/-- What the store encodes for one of its families is the encoding of the record with its
children. -/
theorem encodes_of_encode (laws : StoreLaws library)
    (encoded : encodePersistenceRecord library code record externals children = .ok envelope) :
    envelope.recordCode = code ∧ Encodes library envelope ⟨record, canonicalChildren children⟩ :=
  encodes_of_buildEnvelope laws encoded

/-- The versioned encoder serves all families. -/
theorem encodes_of_encodeVersioned (laws : StoreLaws library) {version : String}
    (encoded : encodePersistenceRecordVersioned library code version record externals children =
      .ok envelope) :
    envelope.recordCode = code ∧ Encodes library envelope ⟨record, canonicalChildren children⟩ := by
  simp only [encodePersistenceRecordVersioned, Except.bind_eq_ok_iff, versionedPairSpec_eq_ok]
    at encoded
  obtain ⟨_, ⟨rfl, -⟩, encoded⟩ := encoded
  rw [recordCode_persistenceRegistry] at encoded
  split at encoded
  · next isRu =>
    obtain ⟨sameCode, encodes⟩ := encodes_of_buildRequestUnderstandingV2 laws encoded
    exact ⟨sameCode.trans isRu.symm, encodes⟩
  · simp only [Except.bind_eq_ok_iff, strictSelectedVersionedRecord, requireIntegrity_eq_ok_iff,
      beq_iff_eq] at encoded
    obtain ⟨validated, ⟨-, model, -, -, -, -, strict⟩, validatedChildren, each, built⟩ := encoded
    have undoes : library.RoundTrips record := by
      simp only [strictVersionedModel, Except.bind_eq_ok_iff, orIntegrity_eq_ok] at strict
      obtain ⟨-, -, _, reloaded, -⟩ := strict
      exact laws.roundTrips model reloaded
    have childUndoes : ∀ child ∈ children, library.RoundTrips child := by
      intro child member
      obtain ⟨_, -, made⟩ := Keyed.exists_of_forall₂_left (Except.mapM_eq_ok_iff.mp each) member
      simp only [strictSelectedVersionedChild, strictVersionedModel, Except.bind_eq_ok_iff,
        orIntegrity_eq_ok, requireIntegrity_eq_ok_iff, beq_iff_eq] at made
      obtain ⟨_, -, -, childModel, _, reloaded, -⟩ := made
      exact laws.roundTrips childModel reloaded
    obtain rfl := ((strictVersionedModel_eq_ok laws.texts undoes).mp strict).2
    obtain rfl := ((strictSelectedVersionedChildren_eq_ok laws.texts childUndoes).mp each).1
    exact encodes_of_buildEnvelope laws built

end MiniAgent.Infrastructure
