import MiniAgent.Application.CodecRoundTrip
import MiniAgent.Application.RecordSpelling

/-! # Which envelopes the decoder accepts

Decoding compares the envelope with the one that it rebuilds, so encoding the decoded record again
gives back every compared part. The generic decoder leaves out the record's own data: there the law
holds exactly for data that leaves out no member and spells identifiers and timestamps as a dump
does.
-/

namespace MiniAgent.Application

open MiniAgent.Core

/-- `left == right` of two envelopes, field by field. -/
structure SameEnvelope (left right : P0PersistenceEnvelope) : Prop where
  recordCode : left.recordCode = right.recordCode
  recordSchemaVersion : left.recordSchemaVersion = right.recordSchemaVersion
  logicalIdentity : left.logicalIdentity.toJson.norm = right.logicalIdentity.toJson.norm
  directOwnerCustomerId : left.directOwnerCustomerId = right.directOwnerCustomerId
  recordReferences : (referencesJson left.recordReferences).norm =
    (referencesJson right.recordReferences).norm
  payloadRecordCode : left.payload.recordCode = right.payload.recordCode
  payloadSchemaVersion : left.payload.recordSchemaVersion = right.payload.recordSchemaVersion
  data : (Json.object left.payload.data).norm = (Json.object right.payload.data).norm
  logicalChildren : (childrenJson left.payload.logicalChildren).norm =
    (childrenJson right.payload.logicalChildren).norm

section Canonicity

variable (library : ModelLibrary)

/-- The envelope that an input spells. -/
def envelopeOf (input : EnvelopeInput) : Option P0PersistenceEnvelope := do
  let raw ← (jsonInput library input).toOption
  readEnvelope (← library.readText raw)

/-- Encoding what was decoded, with the envelope's own external references, yields the envelope. -/
def EncodesBack (code : P0RecordCode) (version : String) (decoded : DecodedP0PersistenceRecord)
    (envelope : P0PersistenceEnvelope) : Prop :=
  ∃ again, encodePersistenceRecordVersioned library code version decoded.sourceRecord
    (externalReferencesOf (persistenceRegistry code) envelope) decoded.logicalChildren = .ok again ∧
      SameEnvelope again envelope

/-- Strict validation returns records of the asked class, which it reads back from their dumps, and
reads the declared members one by one; the text reader finds in a text what `json.loads` finds, in
values that can be written. -/
structure ModelLibrary.ValidationLaws (library : ModelLibrary) : Prop where
  validated : ∀ model value record, library.modelValidate model value = some record →
    record.sourceModel = model ∧ library.RoundTrips record
  reads : ∀ model value record, library.modelValidate model value = some record →
    model.spelling.Reads value (.object (library.modelDump record))
  agrees : ∀ raw value, library.readText raw = some value → Json.loads raw = some value
  native : ∀ raw value, library.readText raw = some value → value.isNative = true

variable {library} {code : P0RecordCode} {version : String}
  {envelope expected : P0PersistenceEnvelope}
  {raw : Text} {record : SourceRecord} {children : List SourceRecord}

private theorem loadData_validated (validation : library.ValidationLaws) {model : SourceModel}
    {data : Fields} (loaded : loadData library model data = some record) :
    record.sourceModel = model ∧ library.RoundTrips record := by
  obtain ⟨value, -, validated⟩ := Option.bind_eq_some_iff.mp loaded
  exact validation.validated model value record validated

private theorem isNative_of_lookup {fields : Fields} {key : String} {value : Json}
    (native : (Json.object fields).isNative = true) (found : Json.lookup fields key = some value) :
    value.isNative = true := by
  obtain ⟨distinct, natives⟩ := Json.isNative_object.mp native
  have present := (Json.lookup_eq_some_iff distinct).mp found
  clear found distinct native
  induction fields with
  | nil => cases present
  | cons field fields ih =>
    obtain ⟨first, rest⟩ := Json.isNativeFields_cons.mp natives
    rcases List.mem_cons.mp present with rfl | later
    · exact first
    · exact ih rest later

private theorem readFields_isNative {allowed : List String} {value : Json} {fields : Fields}
    (native : value.isNative = true) (read : readFields allowed value = some fields) :
    (Json.object fields).isNative = true := by
  cases value with
  | object given =>
    simp only [readFields] at read
    split_ifs at read
    exact Option.some.inj read ▸ native
  | _ => simp [readFields] at read

/-- The data of an envelope that was read can be written. -/
private theorem readEnvelope_data_isNative {value : Json} (native : value.isNative = true)
    (read : readEnvelope value = some envelope) :
    (Json.object envelope.payload.data).isNative = true := by
  simp only [readEnvelope, Option.bind_eq_bind, Option.bind_eq_some_iff, Option.pure_def,
    Option.some.injEq] at read
  obtain ⟨outer, outerFound, _, -, _, -, _, -, _, -, _, -, _, -, _, -, _, -, payload, payloadFound,
    read, readInner, rfl⟩ := read
  simp only [readPayload, Option.bind_eq_bind, Option.bind_eq_some_iff, Option.pure_def,
    Option.some.injEq] at readInner
  obtain ⟨inner, innerFound, data, dataFound, fields, object, _, -, _, -, _, -, _, -, _, -, rfl⟩ :=
    readInner
  have dataNative := isNative_of_lookup
    (readFields_isNative (isNative_of_lookup (readFields_isNative native outerFound) payloadFound)
      innerFound) dataFound
  cases data with
  | object given => exact Option.some.inj object ▸ dataNative
  | _ => simp [readObject] at object

/-- The dump of a loaded record is its data exactly when this is spelled out. -/
private theorem dump_eq_data_iff (laws : library.TextLaws) (validation : library.ValidationLaws)
    {model : SourceModel} {data : Fields} (native : (Json.object data).isNative = true)
    (loaded : loadData library model data = some record) :
    (Json.object (library.modelDump record)).norm = (Json.object data).norm ↔
    SpelledOut model data := by
  rw [loadData, laws.readText_compact _ native, Option.bind_some] at loaded
  exact model.spelling.norm_eq_iff (validation.reads model _ record loaded)

private theorem validateEnvelope_spec
    (success : validateEnvelope library raw code version = .ok envelope) :
    (∃ value, library.readText raw = some value ∧ readEnvelope value = some envelope) ∧
      envelope.payload.recordCode = code ∧ envelope.payload.recordSchemaVersion = version := by
  simp only [validateEnvelope, Except.bind_eq_ok_iff, orIntegrity_eq_ok, requireIntegrity_eq_ok_iff,
    Bool.and_eq_true, beq_iff_eq, Except.pure_eq_ok_iff] at success
  obtain ⟨value, found, envelope, read, -, ⟨codes, versions⟩, rfl⟩ := success
  exact ⟨⟨value, found, read⟩, codes, versions⟩

private theorem classifyCode_eq_readRecordCode (value : Json) :
    classifyCode value = readRecordCode value := by
  cases value <;> rfl

/-- Both classifications have read the outer code and version. -/
private theorem classifyOuterVersioned_spec {outer : Fields}
    (success : classifyOuterVersioned raw code version = .ok outer) :
    Json.loads raw = some (.object outer) ∧
    (Json.lookup outer "record_code").bind readRecordCode = some code ∧
      (Json.lookup outer "record_schema_version").bind readText = some version := by
  simp only [classifyOuterVersioned, classifyOuterCode, Except.bind_eq_ok_iff, orIntegrity_eq_ok,
    requireIntegrity_eq_ok_iff, beq_iff_eq, Except.pure_eq_ok_iff, exists_const] at success
  obtain ⟨fields, ⟨parsed, loaded, fields', object, rawCode, found, readCode, classified, rfl, rfl⟩,
    rawVersion, foundVersion, rfl, rfl⟩ := success
  have whole : parsed = .object fields' := by
    cases parsed <;> simp_all [readObject]
  refine ⟨whole ▸ loaded, ?_, ?_⟩
  · rw [found, Option.bind_some, ← classifyCode_eq_readRecordCode, classified]
  · rw [foundVersion, Option.bind_some, readText_ownText]

/-- Strict reading takes the outer code and version from the members of those names. -/
private theorem readEnvelope_metadata {outer : Fields}
    (read : readEnvelope (.object outer) = some envelope) :
    (Json.lookup outer "record_code").bind readRecordCode = some envelope.recordCode ∧
      (Json.lookup outer "record_schema_version").bind readText =
      some envelope.recordSchemaVersion := by
  simp only [readEnvelope, Option.bind_eq_bind, Option.bind_eq_some_iff, Option.pure_def,
    Option.some.injEq] at read
  obtain ⟨fields, found, codeValue, codeFound, code, codeRead, versionValue, versionFound, version,
    versionRead, _, -, _, -, _, -, _, -, _, -, _, -, rfl⟩ := read
  obtain rfl : outer = fields := by
    simp only [readFields] at found
    split_ifs at found
    exact Option.some.inj found
  simp only [codeFound, versionFound, Option.bind_some, codeRead, versionRead, and_self]

/-- The envelope carries the code and the version that the caller expects. -/
private theorem envelope_metadata (validation : library.ValidationLaws) {outer : Fields}
    (classified : classifyOuterVersioned raw code version = .ok outer)
    (validated : validateEnvelope library raw code version = .ok envelope) :
    envelope.recordCode = code ∧ envelope.recordSchemaVersion = version := by
  obtain ⟨loaded, codes, versions⟩ := classifyOuterVersioned_spec classified
  obtain ⟨⟨value, found, read⟩, -, -⟩ := validateEnvelope_spec validated
  have same := validation.agrees raw value found
  rw [loaded] at same
  obtain rfl := Option.some.inj same
  obtain ⟨readCode, readVersion⟩ := readEnvelope_metadata read
  exact ⟨Option.some.inj (readCode.symm.trans codes),
    Option.some.inj (readVersion.symm.trans versions)⟩

private theorem requireSameProjections_eq_ok :
    requireSameProjections expected envelope = .ok () ↔
      expected.logicalIdentity.toJson.norm = envelope.logicalIdentity.toJson.norm ∧
        expected.directOwnerCustomerId = envelope.directOwnerCustomerId ∧
        (referencesJson expected.recordReferences).norm =
        (referencesJson envelope.recordReferences).norm := by
  simp only [requireSameProjections, Except.bind_eq_ok_iff, requireIntegrity_eq_ok_iff, beq_iff_eq,
    exists_const]

private theorem requireSameChildren_eq_ok :
    requireSameChildren expected envelope = .ok () ↔
      (childrenJson expected.payload.logicalChildren).norm =
      (childrenJson envelope.payload.logicalChildren).norm := by
  simp only [requireSameChildren, requireIntegrity_eq_ok_iff, beq_iff_eq]

/-- The decoders' comparisons, and that of the data, cover the whole envelope. -/
private theorem sameEnvelope_of_checks
    (expectedCodes : expected.recordCode = code ∧ expected.payload.recordCode = code)
    (expectedVersions : expected.recordSchemaVersion = version ∧
      expected.payload.recordSchemaVersion = version)
    (codes : envelope.recordCode = code ∧ envelope.payload.recordCode = code)
    (versions : envelope.recordSchemaVersion = version ∧
      envelope.payload.recordSchemaVersion = version)
    (sameProjections : requireSameProjections expected envelope = .ok ())
    (sameChildren : requireSameChildren expected envelope = .ok ())
    (sameData : (Json.object expected.payload.data).norm =
      (Json.object envelope.payload.data).norm) :
    SameEnvelope expected envelope := by
  obtain ⟨identity, owner, references⟩ := requireSameProjections_eq_ok.mp sameProjections
  exact {
    recordCode := expectedCodes.1.trans codes.1.symm
    recordSchemaVersion := expectedVersions.1.trans versions.1.symm
    logicalIdentity := identity
    directOwnerCustomerId := owner
    recordReferences := references
    payloadRecordCode := expectedCodes.2.trans codes.2.symm
    payloadSchemaVersion := expectedVersions.2.trans versions.2.symm
    data := sameData
    logicalChildren := requireSameChildren_eq_ok.mp sameChildren }

/-- What a successful decoding has established about its envelope. -/
structure Decoded (library : ModelLibrary) (code : P0RecordCode) (version : String)
    (envelope expected : P0PersistenceEnvelope) (record : SourceRecord)
    (children : List SourceRecord) : Prop where
  current : version = (persistenceRegistry code).recordSchemaVersion
  loaded : loadData library (persistenceRegistry code).sourceModel envelope.payload.data =
    some record
  encoded : encodePersistenceRecordVersioned library code version record
    (externalReferencesOf (persistenceRegistry code) envelope) children = .ok expected
  expectedData : expected.payload.data = library.modelDump record
  same : (Json.object expected.payload.data).norm = (Json.object envelope.payload.data).norm →
    SameEnvelope expected envelope

private theorem allowedChildSpec_isSome {spec : P0RecordSchemaSpec} {child : SourceRecord}
    {childSpec : P0LogicalChildSchemaSpec} (found : childSpecOf child = some childSpec)
    (allowed : childSpec.childCode ∈ spec.allowedChildCodes) :
    (allowedChildSpec spec child).isSome = true := by
  obtain ⟨listed, model⟩ := childSpecOf_eq_some found
  rw [allowedChildSpec, List.find?_isSome]
  exact ⟨childSpec, List.mem_map.mpr ⟨childSpec.childCode, allowed, listed.symm⟩, by simp [model]⟩

/-- The versioned checks of the encoder hold for whatever the generic builder accepts. -/
private theorem encode_of_buildEnvelope (laws : library.TextLaws)
    {externals : List P0RecordReference}
    (undoes : ∀ model ∈ record :: children, library.RoundTrips model)
    (generic : code ≠ .requestUnderstandingRecord)
    (built : buildEnvelope library code record externals children = .ok expected) :
    encodePersistenceRecordVersioned library code
    (persistenceRegistry code).recordSchemaVersion record externals
      children = .ok expected := by
  have recordUndoes := undoes record (List.mem_cons_self ..)
  have childUndoes := fun child member => undoes child (List.mem_cons_of_mem record member)
  have pair : versionedPairSpec code (persistenceRegistry code).recordSchemaVersion =
      .ok (persistenceRegistry code) :=
    versionedPairSpec_eq_ok.mpr ⟨rfl, rfl⟩
  have unfolded := built
  rw [buildEnvelope, nonRuPersistenceRegistry_eq_some.mpr ⟨generic, rfl⟩] at unfolded
  simp only [Except.bind_eq_ok_iff, Prod.exists, strictRecord_eq_ok laws recordUndoes] at unfolded
  obtain ⟨validated, ⟨admitted, -⟩, identity, -, _, _, -, _, -, payloads, references, arranged,
    -⟩ := unfolded
  have allowed : ∀ child ∈ children,
      (allowedChildSpec (persistenceRegistry code) child).isSome = true := by
    simp only [childPayloads, Except.bind_eq_ok_iff] at arranged
    obtain ⟨pairs, each, -⟩ := arranged
    intro child member
    obtain ⟨checked, -, made⟩ := Keyed.exists_of_forall₂_left (Except.mapM_eq_ok_iff.mp each) member
    obtain ⟨found, -, codeAllowed, -⟩ :=
      (checkedChild_eq_ok laws (childUndoes child member)).mp made
    exact allowedChildSpec_isSome found codeAllowed
  simp only [encodePersistenceRecordVersioned, pair, Except.bind_ok, recordCode_persistenceRegistry,
    if_neg generic, (strictSelectedVersionedRecord_eq_ok laws recordUndoes).mpr ⟨admitted, rfl⟩,
    (strictSelectedVersionedChildren_eq_ok laws childUndoes).mpr ⟨rfl, allowed⟩, built]

private theorem buildEnvelope_assembled {externals : List P0RecordReference}
    (laws : library.TextLaws) (undoes : library.RoundTrips record)
    (built : buildEnvelope library code record externals children = .ok expected) :
    (expected.recordCode = code ∧ expected.payload.recordCode = code) ∧
      (expected.recordSchemaVersion = (persistenceRegistry code).recordSchemaVersion ∧
        expected.payload.recordSchemaVersion = (persistenceRegistry code).recordSchemaVersion) ∧
      expected.payload.data = library.modelDump record := by
  unfold buildEnvelope at built
  cases registered : nonRuPersistenceRegistry code with
  | none => simp [registered] at built
  | some spec =>
    obtain ⟨-, rfl⟩ := nonRuPersistenceRegistry_eq_some.mp registered
    simp only [registered, Except.bind_eq_ok_iff, Prod.exists, strictRecord_eq_ok laws undoes]
      at built
    obtain ⟨validated, ⟨-, rfl⟩, _, -, _, _, -, _, -, _, _, -, _, -, assembled⟩ := built
    obtain ⟨codes, versions, data, -, -⟩ := assembleEnvelope_spec assembled
    rw [recordCode_persistenceRegistry] at codes
    exact ⟨codes, versions, data⟩

/-- The generic decoder rebuilds all but the data. -/
private theorem decode_spec (laws : library.TextLaws) (validation : library.ValidationLaws)
    {outer : Fields} {decoded : DecodedP0PersistenceRecord}
    (generic : code ≠ .requestUnderstandingRecord)
    (classified : classifyOuterVersioned raw code (persistenceRegistry code).recordSchemaVersion =
      .ok outer)
    (success : decode library raw code = .ok decoded) :
    ∃ envelope expected, (library.readText raw).bind readEnvelope = some envelope ∧
      Decoded library code
      (persistenceRegistry code).recordSchemaVersion envelope expected decoded.sourceRecord
        decoded.logicalChildren := by
  have registered : nonRuPersistenceRegistry code = some (persistenceRegistry code) :=
    nonRuPersistenceRegistry_eq_some.mpr ⟨generic, rfl⟩
  simp only [decode, Except.bind_eq_ok_iff, Prod.exists, requireIntegrity_eq_ok_iff,
    orIntegrity_eq_ok, Except.pure_eq_ok_iff, exists_const] at success
  obtain ⟨spec, inner, reclassified, -, envelope, validated, record, loaded, children,
    childrenLoaded, expected, built, ⟨⟩, sameProjections, ⟨⟩, sameChildren, rfl⟩ := success
  obtain rfl : spec = persistenceRegistry code := by
    simp only [classifyOuter, registered, Except.bind_eq_ok_iff, Except.pure_eq_ok_iff,
      Prod.mk.injEq] at reclassified
    obtain ⟨_, -, _, -, -, -, same, -⟩ := reclassified
    exact same.symm
  obtain ⟨model, recordUndoes⟩ := loadData_validated validation loaded
  have undoes : ∀ model ∈ record :: children, library.RoundTrips model := by
    intro model member
    rcases List.mem_cons.mp member with rfl | member
    · exact recordUndoes
    · obtain ⟨payload, -, made⟩ :=
        Keyed.exists_of_forall₂_right (Except.mapM_eq_ok_iff.mp childrenLoaded) member
      exact (loadData_validated validation (orIntegrity_eq_ok.mp made)).2
  obtain ⟨⟨value, found, read⟩, payloadCode, payloadVersion⟩ := validateEnvelope_spec validated
  obtain ⟨codes, versions⟩ := envelope_metadata validation classified validated
  obtain ⟨expectedCodes, expectedVersions, data⟩ := buildEnvelope_assembled laws recordUndoes built
  refine ⟨envelope, expected, by rw [found, Option.bind_some, read], rfl, loaded,
    encode_of_buildEnvelope laws undoes generic built, data, fun sameData => ?_⟩
  exact sameEnvelope_of_checks expectedCodes expectedVersions ⟨codes, payloadCode⟩
    ⟨versions, payloadVersion⟩
    sameProjections sameChildren sameData

/-- The Request Understanding decoder rebuilds the data as well. -/
private theorem decodeRequestUnderstandingV2_spec (laws : library.TextLaws)
    (validation : library.ValidationLaws) {input : EnvelopeInput}
    {decoded : DecodedP0PersistenceRecord}
    (success : decodeRequestUnderstandingV2 library input .requestUnderstandingRecord
      requestUnderstandingV2Spec.recordSchemaVersion = .ok decoded) :
    ∃ envelope expected, envelopeOf library input = some envelope ∧
      Decoded library .requestUnderstandingRecord requestUnderstandingV2Spec.recordSchemaVersion
      envelope expected
        decoded.sourceRecord decoded.logicalChildren ∧
      (Json.object expected.payload.data).norm = (Json.object envelope.payload.data).norm := by
  simp only [decodeRequestUnderstandingV2, Except.bind_eq_ok_iff, requireIntegrity_eq_ok_iff,
    orIntegrity_eq_ok, Except.pure_eq_ok_iff, exists_const, beq_iff_eq] at success
  obtain ⟨raw, given, outer, classified, -, envelope, validated, record, loaded, children,
    childrenLoaded, expected, built, ⟨⟩, sameProjections, sameData, ⟨⟩, sameChildren,
    rfl⟩ := success
  obtain ⟨⟨value, found, read⟩, payloadCode, payloadVersion⟩ := validateEnvelope_spec validated
  obtain ⟨codes, versions⟩ := envelope_metadata validation classified validated
  obtain ⟨model, recordUndoes⟩ := loadData_validated validation loaded
  have assembled := built
  simp only [buildRequestUnderstandingV2Envelope, strictRequestUnderstandingV2,
    Except.bind_eq_ok_iff, Prod.exists,
    strictSelectedVersionedRecord_eq_ok laws recordUndoes] at assembled
  obtain ⟨same, ⟨-, rfl⟩, _, -, _, _, -, _, -, _, _, -, _, -, assembled⟩ := assembled
  obtain ⟨expectedCodes, expectedVersions, data, -, -⟩ := assembleEnvelope_spec assembled
  have noExternals :
      externalReferencesOf (persistenceRegistry .requestUnderstandingRecord) envelope = [] := by
    have noRules : externalRules (persistenceRegistry .requestUnderstandingRecord) = [] := by
      decide
    simp [externalReferencesOf, noRules]
  have pair : versionedPairSpec .requestUnderstandingRecord
      requestUnderstandingV2Spec.recordSchemaVersion =
      .ok (persistenceRegistry .requestUnderstandingRecord) :=
        versionedPairSpec_eq_ok.mpr ⟨rfl, rfl⟩
  refine ⟨envelope, expected, ?_, ⟨rfl, loaded, ?_, data, fun _ => ?_⟩,
    Json.norm_object_congr sameData⟩
  · simp [envelopeOf, given, Except.toOption, found, read]
  · simp only [encodePersistenceRecordVersioned, pair, Except.bind_ok,
      recordCode_persistenceRegistry, if_true, noExternals, built]
  · exact sameEnvelope_of_checks expectedCodes expectedVersions ⟨codes, payloadCode⟩
      ⟨versions, payloadVersion⟩
      sameProjections sameChildren (Json.norm_object_congr sameData)

/-- An envelope that decodes is the encoding of what it decodes to, exactly when its family compares
the data or its data is spelled out. -/
theorem decodes_canonically_iff (laws : library.TextLaws) (validation : library.ValidationLaws)
    {input : EnvelopeInput} {decoded : DecodedP0PersistenceRecord}
    (success : decodePersistenceRecordVersioned library input code version = .ok decoded)
    (spelled : envelopeOf library input = some envelope) :
    EncodesBack library code version decoded envelope ↔
      code = .requestUnderstandingRecord ∨
        SpelledOut (persistenceRegistry code).sourceModel envelope.payload.data := by
  simp only [decodePersistenceRecordVersioned, Except.bind_eq_ok_iff] at success
  obtain ⟨selected, pair, success⟩ := success
  obtain ⟨rfl, rfl⟩ := versionedPairSpec_eq_ok.mp pair
  rw [recordCode_persistenceRegistry] at success
  split_ifs at success with understanding
  · subst understanding
    obtain ⟨found, expected, read, facts, sameData⟩ :=
      decodeRequestUnderstandingV2_spec laws validation success
    obtain rfl := Option.some.inj (spelled.symm.trans read)
    exact ⟨fun _ => .inl rfl, fun _ => ⟨expected, facts.encoded, facts.same sameData⟩⟩
  · obtain ⟨raw, given, success⟩ := Except.bind_eq_ok_iff.mp success
    simp only [Except.bind_eq_ok_iff, Except.discard_eq_ok_iff] at success
    obtain ⟨⟨⟩, ⟨outer, classified⟩, success⟩ := success
    obtain ⟨found, expected, read, facts⟩ :=
      decode_spec laws validation understanding classified success
    have same : envelope = found := by
      simp only [envelopeOf, given, Except.toOption, Option.bind_eq_bind, Option.bind_some, read,
        Option.some.injEq] at spelled
      exact spelled.symm
    subst same
    obtain ⟨value, found, readValue⟩ := Option.bind_eq_some_iff.mp read
    have native := readEnvelope_data_isNative (validation.native raw value found) readValue
    have dumped := dump_eq_data_iff laws validation native facts.loaded
    rw [← facts.expectedData] at dumped
    constructor
    · rintro ⟨again, encoded, same⟩
      rw [facts.encoded] at encoded
      obtain rfl := Except.ok.inj encoded
      exact .inr (dumped.mp same.data)
    · rintro (understood | spelledOut)
      · exact absurd understood understanding
      · exact ⟨expected, facts.encoded, facts.same (dumped.mpr spelledOut)⟩

end Canonicity

def sampleLink : SourceRecord := .runTaskLinkRecord
  { schemaVersion := "run_task_link_record.p0.v1", runId := 1, taskId := 2 }

/-- The data without the two optional versions. -/
def bareLinkData : Fields :=
  [("schema_version", ownText "run_task_link_record.p0.v1"),
    ("run_id", ownText "00000000-0000-0000-0000-000000000001"),
    ("task_id", ownText "00000000-0000-0000-0000-000000000002")]

def fullLinkData : Fields :=
  bareLinkData ++ [("base_task_state_version", .null), ("result_task_state_version", .null)]

/-- The library of these two, which reads what can be written. -/
def linkLibrary : ModelLibrary :=
  { tableLibrary [(sampleLink, fullLinkData), (sampleLink, bareLinkData)] with
    readText := fun raw => (Json.loads raw).filter (·.isNative) }

private theorem linkLibrary_textLaws : linkLibrary.TextLaws where
  readText_writeText value native := by
    simp [linkLibrary, tableLibrary, Json.loads_compact native, native]
  readText_compact value native := by simp [linkLibrary, Json.loads_compact native, native]
  loads_writeText value native := Json.loads_compact native

private theorem link_reads {data : Fields} (known : data = fullLinkData ∨ data = bareLinkData) :
    SourceModel.runTaskLinkRecord.spelling.Reads (.object data) (.object fullLinkData) := by
  have identifier {text : Text} (formed : isUuidText text = true) :
      uuidSpelling.Reads (.string text) (.string text) :=
    ⟨text, rfl, formed, fun given same _ => (Json.string.inj same).symm⟩
  have runId :=
    identifier (show isUuidText "00000000-0000-0000-0000-000000000001".toList = true by
      decide)
  have taskId :=
    identifier (show isUuidText "00000000-0000-0000-0000-000000000002".toList = true by
      decide)
  refine ⟨data, fullLinkData, rfl, rfl, ?_, by decide, ?_, ?_⟩
  · rcases known with rfl | rfl <;> decide
  · rcases known with rfl | rfl <;> decide
  · rcases known with rfl | rfl
    all_goals
      refine .cons ⟨rfl, ?_⟩
        (.cons ⟨rfl, ?_⟩ (.cons ⟨rfl, ?_⟩ (.cons ⟨rfl, ?_⟩ (.cons ⟨rfl, ?_⟩ .nil))))
      all_goals
        intro given found
        simp [Json.lookup, fullLinkData, bareLinkData] at found
        try subst found
      · rfl
      · exact runId
      · exact taskId
    · rfl
    · rfl

/-- The library reads either data to the one link, which it dumps with both versions. -/
private theorem linkLibrary_validationLaws : linkLibrary.ValidationLaws where
  validated model value record found := by
    obtain ⟨entry, listed, rfl⟩ := Option.map_eq_some_iff.mp found
    have accepted := List.find?_some listed
    have undoes : linkLibrary.RoundTrips sampleLink := ⟨by decide, by decide⟩
    have same : entry.1 = sampleLink := by
      rcases List.mem_cons.mp (List.mem_of_find?_eq_some listed) with rfl | listed
      · rfl
      · rw [List.mem_singleton.mp listed]
    exact ⟨eq_of_beq (Bool.and_eq_true_iff.mp accepted).1, same ▸ undoes⟩
  reads model value record found := by
    obtain ⟨entry, listed, rfl⟩ := Option.map_eq_some_iff.mp found
    have accepted := List.find?_some listed
    obtain ⟨sameModel, sameData⟩ := Bool.and_eq_true_iff.mp accepted
    obtain rfl : entry.1.sourceModel = model := eq_of_beq sameModel
    obtain rfl : .object entry.2 = value := eq_of_beq sameData
    have dumped : linkLibrary.modelDump sampleLink = fullLinkData := by decide
    rcases List.mem_cons.mp (List.mem_of_find?_eq_some listed) with rfl | listed
    · exact dumped.symm ▸ link_reads (.inl rfl)
    · obtain rfl := List.mem_singleton.mp listed
      exact dumped.symm ▸ link_reads (.inr rfl)
  agrees raw value found := (Option.filter_eq_some_iff.mp found).1
  native raw value found := (Option.filter_eq_some_iff.mp found).2

/-- The envelope of the link, around the given data. -/
def linkEnvelope (data : Fields) : P0PersistenceEnvelope where
  recordCode := .runTaskLinkRecord
  recordSchemaVersion := "run_task_link_record.p0.v1"
  logicalIdentity := [("run_id", ⟨ownText "00000000-0000-0000-0000-000000000001", rfl⟩),
    ("task_id", ⟨ownText "00000000-0000-0000-0000-000000000002", rfl⟩)]
  recordReferences :=
    [⟨"run_id", .agentRunRecord,
      [("run_id", ⟨ownText "00000000-0000-0000-0000-000000000001", rfl⟩)]⟩, ⟨"task_id", .taskRecord,
      [("task_id", ⟨ownText "00000000-0000-0000-0000-000000000002", rfl⟩)]⟩]
  payload :=
    { data := data
      recordCode := .runTaskLinkRecord
      recordSchemaVersion := "run_task_link_record.p0.v1" }

def decodedLink : DecodedP0PersistenceRecord :=
  ⟨.runTaskLinkRecord, "run_task_link_record.p0.v1", sampleLink, []⟩

private theorem fullLink_decodes :
    decodePersistenceRecordVersioned linkLibrary
    (.envelope (linkEnvelope fullLinkData)) .runTaskLinkRecord
      "run_task_link_record.p0.v1" = .ok decodedLink := by decide +kernel

/-- Two different envelopes decode to one record, and encoding gives back only one of them. -/
theorem omitted_defaults_decode :
    decodePersistenceRecordVersioned linkLibrary
    (.envelope (linkEnvelope bareLinkData)) .runTaskLinkRecord
        "run_task_link_record.p0.v1" = .ok decodedLink ∧
      decodePersistenceRecordVersioned linkLibrary
      (.envelope (linkEnvelope fullLinkData)) .runTaskLinkRecord
        "run_task_link_record.p0.v1" = .ok decodedLink ∧
      ¬ SameEnvelope (linkEnvelope fullLinkData) (linkEnvelope bareLinkData) ∧
      ¬ EncodesBack linkLibrary .runTaskLinkRecord "run_task_link_record.p0.v1" decodedLink
        (linkEnvelope bareLinkData) := by
  have different : ¬ SameEnvelope (linkEnvelope fullLinkData) (linkEnvelope bareLinkData) :=
    fun same => absurd same.data (by decide)
  have encoded : encodePersistenceRecordVersioned linkLibrary .runTaskLinkRecord
      "run_task_link_record.p0.v1"
      sampleLink (externalReferencesOf (persistenceRegistry .runTaskLinkRecord)
        (linkEnvelope bareLinkData)) [] =
        .ok (linkEnvelope fullLinkData) := by decide +kernel
  refine ⟨by decide +kernel, fullLink_decodes, different, ?_⟩
  rintro ⟨again, encodedAgain, same⟩
  obtain rfl := Except.ok.inj (encoded.symm.trans encodedAgain)
  exact different same

/-- The envelope that spells its defaults is the encoding of what it decodes to. -/
theorem decodes_canonically_iff_full :
    EncodesBack linkLibrary .runTaskLinkRecord "run_task_link_record.p0.v1" decodedLink
      (linkEnvelope fullLinkData) := by
  have spelled : envelopeOf linkLibrary (.envelope (linkEnvelope fullLinkData)) =
      some (linkEnvelope fullLinkData) := by
    decide +kernel
  exact (decodes_canonically_iff linkLibrary_textLaws linkLibrary_validationLaws fullLink_decodes
    spelled).mpr
    (.inr (by decide))

end MiniAgent.Application
