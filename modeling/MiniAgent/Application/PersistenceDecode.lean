import MiniAgent.Application.Persistence

/-! # Decoding envelopes

Decoding reads the outer metadata, validates the envelope strictly, loads the record and its
children from their own data and rebuilds the whole envelope from them. The envelope is accepted
when its identity, owner, references and children are those of the rebuilt one. Only Request
Understanding also compares the record's data.
-/

namespace MiniAgent.Application

open MiniAgent.Core

/-- What a caller may hand to the decoder. -/
inductive EnvelopeInput
  | envelope (envelope : P0PersistenceEnvelope)
  | mapping (fields : Fields)
  | text (raw : Text)

structure DecodedP0PersistenceRecord where
  recordCode : P0RecordCode
  recordSchemaVersion : String
  sourceRecord : SourceRecord
  logicalChildren : List SourceRecord := []
deriving DecidableEq

section Decoding

variable (library : ModelLibrary)

/-- `_json_input` -/
def jsonInput : EnvelopeInput → Codec Text
  | .envelope envelope => do
    requireIntegrity (envelopeHasNativeJson envelope) .payloadValidationFailed
    return library.writeText envelope.toJson
  | .mapping fields => do
    requireIntegrity (Json.isNative (.object fields)) .payloadValidationFailed
    return (Json.object fields).compact
  | .text raw => return raw

/-- `P0RecordCode(raw_code)`, which only a string can satisfy. -/
def classifyCode (rawCode : Json) : Option P0RecordCode :=
  match rawCode with
  | .string value => P0RecordCode.ofValue (String.ofList value)
  | _ => none

/-- The outer members and the expected code, as both classifications read them first. -/
def classifyOuterCode (rawJson : Text) (expectedRecordCode : P0RecordCode) : Codec Fields := do
  let parsed ← orIntegrity .payloadValidationFailed (Json.loads rawJson)
  let fields ← orIntegrity .missingRecordCode (readObject parsed)
  let rawCode ← orIntegrity .missingRecordCode (Json.lookup fields "record_code")
  let code ← orIntegrity .unknownRecordCode (classifyCode rawCode)
  requireIntegrity (code == expectedRecordCode) .recordCodeMismatch
  return fields

/-- The category of a version that is not the expected one. -/
def versionCategory (known : List String) (rawVersion : Json) : P0PersistenceIntegrityCategory :=
  if rawVersion ∈ known.map ownText then .recordSchemaVersionMismatch
    else .unknownRecordSchemaVersion

/-- `_classify_outer_versioned` -/
def classifyOuterVersioned (rawJson : Text) (expectedRecordCode : P0RecordCode)
    (expectedSchemaVersion : String) : Codec Fields := do
  let fields ← classifyOuterCode rawJson expectedRecordCode
  let rawVersion ← orIntegrity .missingRecordSchemaVersion
    (Json.lookup fields "record_schema_version")
  requireIntegrity (rawVersion == ownText expectedSchemaVersion)
    (versionCategory (P0RecordCode.all.map fun code =>
      (persistenceRegistry code).recordSchemaVersion) rawVersion)
  return fields

/-- `_classify_outer`, which only the sixteen generic families reach. -/
def classifyOuter (rawJson : Text) (expectedRecordCode : P0RecordCode) :
    Codec (P0RecordSchemaSpec × Fields) := do
  let fields ← classifyOuterCode rawJson expectedRecordCode
  let rawVersion ← orIntegrity .missingRecordSchemaVersion
    (Json.lookup fields "record_schema_version")
  match nonRuPersistenceRegistry expectedRecordCode with
  | none => .error (.uncaught "KeyError")
  | some spec => do
    requireIntegrity (rawVersion == ownText spec.recordSchemaVersion)
      (versionCategory ((P0RecordCode.all.filterMap nonRuPersistenceRegistry).map
        (·.recordSchemaVersion))
        rawVersion)
    return (spec, fields)

/-- The payload's own metadata repeats the outer one, before any validation. -/
def innerMetadataMatches (outer : Fields) (code : P0RecordCode) (schemaVersion : String) : Bool :=
  match (Json.lookup outer "payload").bind readObject with
  | none => false
  | some inner =>
    Json.lookup inner "record_code" == some (ownText code.value) &&
      Json.lookup inner "record_schema_version" == some (ownText schemaVersion)

/-- Strict validation of the envelope's text. -/
def validateEnvelope (rawJson : Text) (code : P0RecordCode) (schemaVersion : String) :
    Codec P0PersistenceEnvelope := do
  let value ← orIntegrity .payloadValidationFailed (library.readText rawJson)
  let envelope ← orIntegrity (envelopeValidationCategory value) (readEnvelope value)
  requireIntegrity (envelope.payload.recordCode == code &&
    envelope.payload.recordSchemaVersion == schemaVersion) .metadataPayloadMismatch
  return envelope

/-- `model.model_validate_json(json.dumps(data), strict=True)` -/
def loadData (model : SourceModel) (data : Fields) : Option SourceRecord :=
  (library.readText (Json.object data).compact).bind (library.modelValidate model)

/-- The child that a payload carries, loaded by the class of its own code. -/
def loadChild (child : P0LogicalChildPayload) : Codec SourceRecord :=
  orIntegrity .childMismatch
    (loadData library (logicalChildSpecs child.childCode).sourceModel child.data)

/-- The references of an envelope that no rule can derive from its record. -/
def externalReferencesOf (spec : P0RecordSchemaSpec) (envelope : P0PersistenceEnvelope) :
    List P0RecordReference :=
  envelope.recordReferences.filter fun reference =>
    some reference.relation ∈ (externalRules spec).map (·.relation)

/-- The comparisons of the rebuilt envelope that both decoders make. -/
def requireSameProjections (expected envelope : P0PersistenceEnvelope) : Codec Unit := do
  requireIntegrity (expected.logicalIdentity.toJson.norm == envelope.logicalIdentity.toJson.norm)
    .identityMismatch
  requireIntegrity (expected.directOwnerCustomerId == envelope.directOwnerCustomerId)
    .ownerProjectionMismatch
  requireIntegrity ((referencesJson expected.recordReferences).norm ==
    (referencesJson envelope.recordReferences).norm) .linkProjectionMismatch

def requireSameChildren (expected envelope : P0PersistenceEnvelope) : Codec Unit :=
  requireIntegrity ((childrenJson expected.payload.logicalChildren).norm ==
    (childrenJson envelope.payload.logicalChildren).norm) .childMismatch

/-- `_decode` -/
def decode (rawJson : Text) (expectedRecordCode : P0RecordCode) :
    Codec DecodedP0PersistenceRecord := do
  let (spec, outer) ← classifyOuter rawJson expectedRecordCode
  requireIntegrity (innerMetadataMatches outer expectedRecordCode spec.recordSchemaVersion)
    .metadataPayloadMismatch
  let envelope ← validateEnvelope library rawJson expectedRecordCode spec.recordSchemaVersion
  let sourceRecord ← orIntegrity .payloadValidationFailed
    (loadData library spec.sourceModel envelope.payload.data)
  let children ← envelope.payload.logicalChildren.mapM (loadChild library)
  let expected ← buildEnvelope library expectedRecordCode sourceRecord
    (externalReferencesOf spec envelope)
    children
  requireSameProjections expected envelope
  requireSameChildren expected envelope
  return ⟨expectedRecordCode, spec.recordSchemaVersion, sourceRecord, children⟩

/-- The children of a Request Understanding envelope have one code. -/
def loadAcceptedChild (child : P0LogicalChildPayload) : Codec SourceRecord := do
  requireIntegrity (child.childCode == .acceptedTaskDelta) .childMismatch
  loadChild library child

/-- `_decode_request_understanding_v2`. Its comparison of the data is that of tuples: the members
have to stand in the same order. -/
def decodeRequestUnderstandingV2 (input : EnvelopeInput) (expectedRecordCode : P0RecordCode)
    (expectedSchemaVersion : String) : Codec DecodedP0PersistenceRecord := do
  let rawJson ← jsonInput library input
  let outer ← classifyOuterVersioned rawJson expectedRecordCode expectedSchemaVersion
  requireIntegrity (innerMetadataMatches outer expectedRecordCode expectedSchemaVersion)
    .metadataPayloadMismatch
  let envelope ← validateEnvelope library rawJson expectedRecordCode expectedSchemaVersion
  let sourceRecord ← orIntegrity .payloadValidationFailed
    (loadData library .requestUnderstandingRecordV2 envelope.payload.data)
  let children ← envelope.payload.logicalChildren.mapM (loadAcceptedChild library)
  let expected ← buildRequestUnderstandingV2Envelope library sourceRecord [] children
  requireSameProjections expected envelope
  requireIntegrity (Json.normFields expected.payload.data == Json.normFields envelope.payload.data)
    .payloadValidationFailed
  requireSameChildren expected envelope
  return ⟨expectedRecordCode, expectedSchemaVersion, sourceRecord, children⟩

/-- `decode_persistence_record_versioned` -/
def decodePersistenceRecordVersioned (input : EnvelopeInput) (expectedRecordCode : P0RecordCode)
    (expectedSchemaVersion : String) : Codec DecodedP0PersistenceRecord := do
  let selected ← versionedPairSpec expectedRecordCode expectedSchemaVersion
  if selected.recordCode = .requestUnderstandingRecord then
    decodeRequestUnderstandingV2 library input expectedRecordCode expectedSchemaVersion
  else
    let rawJson ← jsonInput library input
    discard (classifyOuterVersioned rawJson expectedRecordCode expectedSchemaVersion)
    decode library rawJson expectedRecordCode

end Decoding

end MiniAgent.Application
