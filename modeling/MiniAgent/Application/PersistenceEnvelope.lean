import MiniAgent.Application.PersistenceSchema
import MiniAgent.Library.JsonText

/-! # Persistence envelopes and their JSON form

An envelope carries the dumped record, its identity, its owner, its references and its logical
children. Reading one back is strict: a member that no field has, a missing required field or a
value of another kind is refused. Envelopes are compared as Python compares models, by their normal
forms.
-/

namespace MiniAgent.Application

open MiniAgent.Core

abbrev JsonScalar := {value : Json // value.isNativeScalar = true}

abbrev LogicalIdentity := List (String × JsonScalar)

structure P0RecordReference where
  relation : String
  targetRecordCode : P0RecordCode
  targetLogicalIdentity : LogicalIdentity
deriving DecidableEq

structure P0LogicalChildPayload where
  data : Fields
  childCode : P0LogicalChildCode
  parentRecordCode : P0RecordCode
  parentLogicalIdentity : LogicalIdentity
  logicalIdentity : LogicalIdentity
deriving DecidableEq

structure P0VersionedPayload where
  data : Fields
  recordCode : P0RecordCode
  recordSchemaVersion : String
  logicalChildren : List P0LogicalChildPayload := []
deriving DecidableEq

structure P0PersistenceEnvelope where
  recordCode : P0RecordCode
  recordSchemaVersion : String
  logicalIdentity : LogicalIdentity
  directOwnerCustomerId : Option Text := none
  recordReferences : List P0RecordReference := []
  payload : P0VersionedPayload
deriving DecidableEq

/-- The scalar check of a model that is built with an identity. -/
def scalarIdentity (identity : Fields) : Codec LogicalIdentity :=
  identity.mapM fun entry =>
    if scalar : entry.2.isNativeScalar = true then .ok (entry.1, ⟨entry.2, scalar⟩)
    else .error (.uncaught "ValidationError")

def ownText (text : String) : Json := .string text.toList

def LogicalIdentity.toJson (identity : LogicalIdentity) : Json :=
  .array (identity.map fun entry => .array [ownText entry.1, entry.2.1])

namespace P0RecordReference

def toJson (reference : P0RecordReference) : Json := .object
  [("relation", ownText reference.relation),
    ("target_record_code", ownText reference.targetRecordCode.value),
    ("target_logical_identity", reference.targetLogicalIdentity.toJson)]

end P0RecordReference

namespace P0LogicalChildPayload

def toJson (child : P0LogicalChildPayload) : Json := .object
  [("data", .object child.data),
    ("child_code", ownText child.childCode.value),
    ("parent_record_code", ownText child.parentRecordCode.value),
    ("parent_logical_identity", child.parentLogicalIdentity.toJson),
    ("logical_identity", child.logicalIdentity.toJson)]

end P0LogicalChildPayload

def referencesJson (references : List P0RecordReference) : Json :=
  .array (references.map (·.toJson))

def childrenJson (children : List P0LogicalChildPayload) : Json := .array (children.map (·.toJson))

namespace P0VersionedPayload

def toJson (payload : P0VersionedPayload) : Json := .object
  [("data", .object payload.data),
    ("record_code", ownText payload.recordCode.value),
    ("record_schema_version", ownText payload.recordSchemaVersion),
    ("logical_children", childrenJson payload.logicalChildren)]

end P0VersionedPayload

def ownerJson (owner : Option Text) : Json := owner.elim .null .string

namespace P0PersistenceEnvelope

/-- `envelope.model_dump(mode="json")` -/
def modelDump (envelope : P0PersistenceEnvelope) : Fields :=
  [("record_code", ownText envelope.recordCode.value),
    ("record_schema_version", ownText envelope.recordSchemaVersion),
    ("logical_identity", envelope.logicalIdentity.toJson),
    ("direct_owner_customer_id", ownerJson envelope.directOwnerCustomerId),
    ("record_references", referencesJson envelope.recordReferences),
    ("payload", envelope.payload.toJson)]

def toJson (envelope : P0PersistenceEnvelope) : Json := .object envelope.modelDump

end P0PersistenceEnvelope

/-- The members of an object that has no other keys than a model's fields. -/
def readFields (allowed : List String) : Json → Option Fields
  | .object fields => if fields.all fun field => field.1 ∈ allowed then some fields else none
  | _ => none

def readText : Json → Option String
  | .string value => some (String.ofList value)
  | _ => none

def readObject : Json → Option Fields
  | .object fields => some fields
  | _ => none

def readArray : Json → Option (List Json)
  | .array items => some items
  | _ => none

def readScalar (value : Json) : Option JsonScalar :=
  if scalar : value.isNativeScalar = true then some ⟨value, scalar⟩ else none

def readRecordCode (value : Json) : Option P0RecordCode :=
  (readText value).bind P0RecordCode.ofValue

def readChildCode (value : Json) : Option P0LogicalChildCode :=
  (readText value).bind P0LogicalChildCode.ofValue

/-- One entry of an identity: a name and a scalar. -/
def readIdentityEntry : Json → Option (String × JsonScalar)
  | .array [name, value] => do return (← readText name, ← readScalar value)
  | _ => none

def readIdentity (value : Json) : Option LogicalIdentity := do
    (← readArray value).mapM readIdentityEntry

def readReference (value : Json) : Option P0RecordReference := do
  let fields ← readFields ["relation", "target_record_code", "target_logical_identity"] value
  return {
    relation := ← readText (← Json.lookup fields "relation")
    targetRecordCode := ← readRecordCode (← Json.lookup fields "target_record_code")
    targetLogicalIdentity := ← readIdentity (← Json.lookup fields "target_logical_identity") }

def readReferences (value : Json) : Option (List P0RecordReference) := do
  (← readArray value).mapM readReference

def readChild (value : Json) : Option P0LogicalChildPayload := do
  let fields ← readFields
    ["data", "child_code", "parent_record_code", "parent_logical_identity",
      "logical_identity"] value
  return {
    data := ← readObject (← Json.lookup fields "data")
    childCode := ← readChildCode (← Json.lookup fields "child_code")
    parentRecordCode := ← readRecordCode (← Json.lookup fields "parent_record_code")
    parentLogicalIdentity := ← readIdentity (← Json.lookup fields "parent_logical_identity")
    logicalIdentity := ← readIdentity (← Json.lookup fields "logical_identity") }

def readChildren (value : Json) : Option (List P0LogicalChildPayload) := do
  (← readArray value).mapM readChild

/-- A field with a default may be left out. -/
def readDefaulted {α : Type} (read : Json → Option α) (default : α) (value : Option Json) :
    Option α :=
  value.elim (some default) read

def readPayload (value : Json) : Option P0VersionedPayload := do
  let fields ← readFields ["data", "record_code", "record_schema_version", "logical_children"] value
  return {
    data := ← readObject (← Json.lookup fields "data")
    recordCode := ← readRecordCode (← Json.lookup fields "record_code")
    recordSchemaVersion := ← readText (← Json.lookup fields "record_schema_version")
    logicalChildren := ← readDefaulted readChildren [] (Json.lookup fields "logical_children") }

def readOwner : Json → Option (Option Text)
  | .null => some none
  | .string value => some (some value)
  | _ => none

def readEnvelope (value : Json) : Option P0PersistenceEnvelope := do
  let fields ← readFields ["record_code", "record_schema_version", "logical_identity",
    "direct_owner_customer_id", "record_references", "payload"] value
  return {
    recordCode := ← readRecordCode (← Json.lookup fields "record_code")
    recordSchemaVersion := ← readText (← Json.lookup fields "record_schema_version")
    logicalIdentity := ← readIdentity (← Json.lookup fields "logical_identity")
    directOwnerCustomerId :=
      ← readDefaulted readOwner none (Json.lookup fields "direct_owner_customer_id")
    recordReferences := ← readDefaulted readReferences [] (Json.lookup fields "record_references")
    payload := ← readPayload (← Json.lookup fields "payload") }

/-- Some error of the strict reading lies inside `payload.logical_children`. -/
def childrenInvalid (value : Json) : Bool :=
  (do
    let payload ← readObject (← Json.lookup (← readObject value) "payload")
    let children ← Json.lookup payload "logical_children"
    return (readChildren children).isNone).getD false

/-- `_envelope_validation_category` -/
def envelopeValidationCategory (value : Json) : P0PersistenceIntegrityCategory :=
  if childrenInvalid value then .childMismatch else .payloadValidationFailed

theorem scalarIdentity_eq_ok {identity : Fields} {scalars : LogicalIdentity}
    (success : scalarIdentity identity = .ok scalars) :
    identity = scalars.map fun entry => (entry.1, entry.2.1) := by
  have aligned := Except.mapM_eq_ok_iff.mp success
  clear success
  induction aligned with
  | nil => rfl
  | cons related _ ih =>
    split_ifs at related with isScalar
    obtain rfl := Except.ok.inj related
    rw [List.map_cons, ← ih]

@[simp] theorem readText_ownText (text : String) : readText (ownText text) = some text := by
  simp [readText, ownText]

@[simp] theorem readRecordCode_value (code : P0RecordCode) :
    readRecordCode (ownText code.value) = some code := by
  simp [readRecordCode, P0RecordCode.ofValue_value]

@[simp] theorem readChildCode_value (code : P0LogicalChildCode) :
    readChildCode (ownText code.value) = some code := by
  simp [readChildCode, P0LogicalChildCode.ofValue_value]

theorem mapM_of_inverse {α β : Type} {write : α → β} {read : β → Option α}
    (inverse : ∀ item, read (write item) = some item) (items : List α) :
    (items.map write).mapM read = some items := by
  induction items with
  | nil => rfl
  | cons item items ih => simp [inverse, ih]

@[simp] theorem readIdentity_toJson (identity : LogicalIdentity) :
    readIdentity identity.toJson = some identity := by
  simp only [readIdentity, LogicalIdentity.toJson, readArray, Option.bind_eq_bind, Option.bind_some]
  refine mapM_of_inverse (fun entry => ?_) identity
  simp [readIdentityEntry, readScalar, entry.2.2]

@[simp] theorem readReference_toJson (reference : P0RecordReference) :
    readReference reference.toJson = some reference := by
  simp [readReference, P0RecordReference.toJson, readFields, Json.lookup]

@[simp] theorem readReferences_toJson (references : List P0RecordReference) :
    readReferences (referencesJson references) = some references := by
  simp only [readReferences, referencesJson, readArray, Option.bind_eq_bind, Option.bind_some]
  exact mapM_of_inverse readReference_toJson references

@[simp] theorem readChild_toJson (child : P0LogicalChildPayload) :
    readChild child.toJson = some child := by
  simp [readChild, P0LogicalChildPayload.toJson, readFields, readObject, Json.lookup]

@[simp] theorem readChildren_toJson (children : List P0LogicalChildPayload) :
    readChildren (childrenJson children) = some children := by
  simp only [readChildren, childrenJson, readArray, Option.bind_eq_bind, Option.bind_some]
  exact mapM_of_inverse readChild_toJson children

@[simp] theorem readPayload_toJson (payload : P0VersionedPayload) :
    readPayload payload.toJson = some payload := by
  simp [readPayload, P0VersionedPayload.toJson, readFields, readObject, readDefaulted, Json.lookup]

@[simp] theorem readOwner_ownerJson (owner : Option Text) :
    readOwner (ownerJson owner) = some owner := by
  cases owner <;> rfl

/-- Strict validation undoes the dump of an envelope. -/
theorem readEnvelope_toJson (envelope : P0PersistenceEnvelope) :
    readEnvelope envelope.toJson = some envelope := by
  simp [readEnvelope, P0PersistenceEnvelope.toJson, P0PersistenceEnvelope.modelDump, readFields,
    readDefaulted, Json.lookup]

/-- `_envelope_has_native_json`; identities are native by their type. -/
def envelopeHasNativeJson (envelope : P0PersistenceEnvelope) : Bool :=
  Json.isNative (.object envelope.payload.data) &&
    envelope.payload.logicalChildren.all fun child => Json.isNative (.object child.data)

@[simp] theorem ownText_isNative (text : String) : (ownText text).isNative = true := by
  simp [ownText, Json.isNative]

theorem isNative_of_isNativeScalar (value : JsonScalar) : value.1.isNative = true :=
  (Bool.and_eq_true_iff.mp value.2).2

@[simp] theorem identity_isNative (identity : LogicalIdentity) :
    identity.toJson.isNative = true := by
  refine Json.isNative_array.mpr fun item member => ?_
  obtain ⟨entry, present, rfl⟩ := List.mem_map.mp member
  simp [Json.isNative_array, isNative_of_isNativeScalar]

@[simp] theorem reference_isNative (reference : P0RecordReference) :
    reference.toJson.isNative = true := by
  simp [P0RecordReference.toJson, Json.isNative_object, Json.isNativeFields]

@[simp] theorem referencesJson_isNative (references : List P0RecordReference) :
    (referencesJson references).isNative = true := by
  refine Json.isNative_array.mpr fun item member => ?_
  obtain ⟨reference, present, rfl⟩ := List.mem_map.mp member
  exact reference_isNative reference

private theorem childrenJson_isNative {children : List P0LogicalChildPayload}
    (native : ∀ child ∈ children, Json.isNative (.object child.data) = true) :
    (childrenJson children).isNative = true := by
  refine Json.isNative_array.mpr fun item member => ?_
  obtain ⟨child, present, rfl⟩ := List.mem_map.mp member
  simp [P0LogicalChildPayload.toJson, Json.isNative_object, Json.isNativeFields,
    Json.isNative_object.mp (native child present)]

/-- The dump of a native envelope is a native JSON value. -/
theorem toJson_isNative {envelope : P0PersistenceEnvelope}
    (native : envelopeHasNativeJson envelope = true) :
    envelope.toJson.isNative = true := by
  simp only [envelopeHasNativeJson, Bool.and_eq_true, List.all_eq_true] at native
  obtain ⟨data, children⟩ := native
  have ownerNative : (ownerJson envelope.directOwnerCustomerId).isNative = true := by
    cases envelope.directOwnerCustomerId <;> rfl
  have payloadNative : envelope.payload.toJson.isNative = true := by
    simp [P0VersionedPayload.toJson, Json.isNative_object, Json.isNativeFields,
      Json.isNative_object.mp data, childrenJson_isNative children]
  simp [P0PersistenceEnvelope.toJson, P0PersistenceEnvelope.modelDump, Json.isNative_object,
    Json.isNativeFields, ownerNative, payloadNative]

end MiniAgent.Application
