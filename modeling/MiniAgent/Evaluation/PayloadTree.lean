import Mathlib.Algebra.Group.Int.Defs
import Mathlib.Data.Finset.Card
import Mathlib.Data.Rat.Defs
import MiniAgent.Library.TreeWalk

/-! # The object graph of a payload

Before evidence crosses the boundary of the system under test, its object graph is walked: objects
have an identity, a container may come up once, and no text in it may be an authenticated identity.
A heap gives the object behind every identity, so a graph may share objects and may be cyclic.
-/

namespace MiniAgent.Evaluation

open TreeWalk

/-- `id(value)` -/
abbrev Ref := ℕ

/-- A value of an exact scalar type. A float that is not finite has no value here. -/
inductive Scalar
  | none
  | bool (value : Bool)
  | int (value : ℤ)
  | float (value : Option ℚ)
  | str (value : String)
deriving DecidableEq, Repr

/-- What the storage of an enum member holds under a name. -/
inductive StoredValue
  | scalar (value : Scalar)
  | enumType (name : String)
  | other
deriving DecidableEq, Repr

inductive TimeZone
  | utc
  | tzInfo (utcoffset : Option ℤ)
  | other
deriving DecidableEq, Repr

/-- A model instance. Names that are not exact strings are `none`, as is a storage that is no `dict`
and a set of explicit fields that is no `set`. -/
structure ModelObject where
  modelType : String
  storage : Option (List (Option String × Ref))
  fieldsSet : Option (Finset (Option String))
  extraIsNone : Bool
  privateIsNone : Bool
  distinct : ∀ entries ∈ storage, (entries.map Prod.fst).Nodup

inductive PyObject
  | scalar (value : Scalar)
  | timedelta
  | datetime (tzinfo : TimeZone)
  | uuid (integer : Option ℤ) (isSafe : Ref)
  | enumMember (enumType : String) (storage : Option (List (Option String × StoredValue)))
  | model (object : ModelObject)
  | tuple (items : List Ref)
  | frozenJsonDict (items : List Ref)
  | frozenJsonList (items : List Ref)
  | other

/-- The state in which an enum member was found when the module was loaded. -/
structure CanonicalEnumMemberSnapshot where
  member : Ref
  storageItems : List (String × StoredValue)
  hasValue : (storageItems.lookup "_value_").isSome = true

/-- The classification of characters. -/
structure CharacterTables where
  isalnum : Char → Bool
  isupper : Char → Bool
  islower : Char → Bool
  isdigit : Char → Bool
  isspace : Char → Bool
  casefold : Char → List Char

/-- The classes that the module discovers when it is loaded: the fields of each canonical payload
model and the snapshots of each enum type with closed storage. -/
structure PayloadClasses where
  modelFields : String → Option (List String)
  enumMemberSnapshots : String → Option (List CanonicalEnumMemberSnapshot)
  characters : CharacterTables

/-- The keyword arguments of `_payload_tree_is_closed`. -/
structure PayloadRules where
  forbiddenIdentityValues : Finset String
  allowedSchemaIdentityValues : Option (String → Finset String) := none
  allowAnySchemaIdentityValue : Bool := false
  allowSemanticJsonKeys : Bool := false

def semanticSchemaIdentityFields : List String := ["case_id"]

def semanticIdentityEntities : List String := ["case", "script"]

def safeIdentityFieldTokenTuples : List (List String) :=
  [["case", "status"], ["casefold"], ["casestatus"], ["customer", "case", "id"], ["customercaseid"],
    ["description"], ["description", "code"], ["description", "id"], ["descriptioncode"],
    ["descriptionid"],
    ["javascript", "ref"], ["javascript", "uuid"], ["javascriptref"], ["javascriptuuid"],
    ["lowercase", "id"],
    ["lowercaseid"], ["script", "owner", "id"], ["script", "version"], ["scriptownerid"],
    ["scripture"],
    ["scriptversion"], ["show", "case", "id"], ["showcase", "code"], ["showcase", "id"],
    ["showcasecode"],
    ["showcaseid"], ["staircase", "key"], ["staircase", "number"], ["staircasekey"],
    ["staircasenumber"],
    ["transcript", "reference"], ["transcript", "uuid"], ["transcriptreference"],
    ["transcriptuuid"],
    ["uppercase", "reference"], ["uppercasereference"], ["use", "case", "id"],
    ["use", "case", "label"],
    ["usecaseid"], ["usecaselabel"]]

section Names

variable (tables : CharacterTables)

/-- The name with its words apart: the word changes at a character that is not alphanumeric and at a
capital after a small letter or a digit, or before a small letter. -/
def separated : Option Char → List Char → List Char
  | _, [] => []
  | previous, character :: rest =>
    if !tables.isalnum character then ' ' :: separated (some character) rest
    else
      let startsWord := tables.isupper character && previous.any tables.isalnum &&
        (previous.any tables.islower || previous.any tables.isdigit ||
          previous.any tables.isupper && rest.head?.any tables.islower)
      (if startsWord then [' '] else []) ++ tables.casefold character ++
        separated (some character) rest

def identityNameTokens (fieldName : String) : List String :=
  (((separated tables none fieldName.toList).splitOnP tables.isspace).filter (! ·.isEmpty)).map
    String.ofList

def isSemanticIdentityField (fieldName : String) : Bool :=
  let tokens := identityNameTokens tables fieldName
  if tokens.isEmpty then false
  else if tokens ∈ safeIdentityFieldTokenTuples then false
  else if tokens.any (· ∈ semanticIdentityEntities) then true
  else semanticIdentityEntities.any fun entity =>
    decide (entity.toList <:+: tokens.flatMap String.toList)

end Names

namespace ModelObject

/-- `dict.__getitem__` on the storage. -/
def stored (object : ModelObject) (fieldName : String) : Option Ref :=
  object.storage.bind (·.lookup (some fieldName))

/-- `_model_storage_is_closed`, for the object's own type. -/
def storageIsClosed (object : ModelObject) (fieldNames : List String) : Bool :=
  match object.storage, object.fieldsSet with
  | some storage, some fieldsSet =>
    if storage.length ≠ fieldNames.length || fieldNames.length < fieldsSet.card then false
    else if (storage.map Prod.fst).any (·.isNone) || decide (none ∈ fieldsSet) then false
    else (storage.map Prod.fst).toFinset == (fieldNames.map some).toFinset &&
      decide (fieldsSet ⊆ (fieldNames.map some).toFinset) && object.extraIsNone &&
        object.privateIsNone
  | _, _ => false

end ModelObject

def Scalar.isClosed : Scalar → Bool
  | .float value => value.isSome
  | _ => true

def datetimeIsClosed : TimeZone → Bool
  | .utc => true
  | .tzInfo utcoffset => utcoffset == some 0
  | .other => false

/-- `_canonical_enum_member_is_closed` -/
def canonicalEnumMemberIsClosed (classes : PayloadClasses) (ref : Ref) (enumType : String)
    (storage : Option (List (Option String × StoredValue))) : Bool :=
  match classes.enumMemberSnapshots enumType with
  | none => false
  | some snapshots =>
    match snapshots.find? (·.member == ref), storage with
    | some snapshot, some storage => storage == snapshot.storageItems.map fun item =>
      (some item.1, item.2)
    | _, _ => false

/-- The branch of `_payload_tree_is_closed` for an enum member. -/
def enumPayloadIsClosed (classes : PayloadClasses) (rules : PayloadRules) (ref : Ref)
    (enumType : String) (storage : Option (List (Option String × StoredValue))) : Bool :=
  canonicalEnumMemberIsClosed classes ref enumType storage &&
    match storage.bind (·.lookup (some "_value_")) with
    | some (.scalar (.str value)) => decide (value ∉ rules.forbiddenIdentityValues)
    | some (.scalar value) => value.isClosed
    | _ => false

/-- `_uuid_is_closed` -/
def uuidIsClosed (classes : PayloadClasses) (heap : Ref → PyObject) (integer : Option ℤ)
    (isSafe : Ref) : Bool :=
  integer.any (fun value => decide (0 ≤ value ∧ value < 2 ^ 128)) &&
    match heap isSafe with
    | .enumMember enumType storage =>
      enumType == "SafeUUID" && canonicalEnumMemberIsClosed classes isSafe enumType storage
    | _ => false

def maxPayloadDepth : ℕ := 64

def maxPayloadEdges : ℕ := 8192

section Walks

variable (classes : PayloadClasses) (rules : PayloadRules) (heap : Ref → PyObject)

/-- An object that passes a second time: the empty tuple. -/
def isEmptyTuple (ref : Ref) : Bool :=
  match heap ref with
  | .tuple items => items.isEmpty
  | _ => false

/-- The key and the item of a raw pair. -/
def pairOf (rawPair : Ref) : Option (Ref × Ref) :=
  match heap rawPair with
  | .tuple [key, item] => some (key, item)
  | _ => none

/-- A key that a mapping may have beside these keys. -/
def keyIsClosed (keys : List String) (key : String) : Bool :=
  !(decide (key ∈ keys) || decide (key ∈ rules.forbiddenIdentityValues) ||
    (!rules.allowSemanticJsonKeys && isSemanticIdentityField classes.characters key))

/-- The text and the item of a raw pair, if a mapping may have it beside these keys. -/
def closedPair (keys : List String) (rawPair : Ref) : Option (String × Ref) := do
  let (key, item) ← pairOf heap rawPair
  match heap key with
  | .scalar (.str name) => if keyIsClosed classes rules keys name then some (name, item) else none
  | _ => none

/-- The loop of `validate_mapping`; no state stands for `False`, after which none is looked at. -/
def validateMapping (levels : ℕ) (visit : Ref → State Ref → Option (State Ref)) :
    (keys : List String) → List Ref → State Ref → Option (State Ref)
  | _, [], s => some s
  | keys, rawPair :: rest, s => do
    let s ← consume maxPayloadEdges levels 2 s
    let (name, item) ← closedPair classes rules heap keys rawPair
    validateMapping levels visit (name :: keys) rest (← visit item s)

/-- `_json_payload_is_closed` on a level, counted from the last level up: the object is too deep
where no level is left. -/
def jsonPayloadIsClosed : (levels : ℕ) → Ref → State Ref → Option (State Ref)
  | 0, _, _ => none
  | levels + 1, ref, s =>
    match heap ref with
    | .scalar (.str value) => if value ∈ rules.forbiddenIdentityValues then none else some s
    | .scalar value => if value.isClosed then some s else none
    | .frozenJsonDict items =>
      validateNode (isEmptyTuple heap) ref
        (validateMapping classes rules heap levels (jsonPayloadIsClosed levels) [] items) s
    | .frozenJsonList items =>
      validateNode (isEmptyTuple heap) ref
        (visitAll maxPayloadEdges levels (jsonPayloadIsClosed levels) items) s
    | _ => none

/-- Whether a field of a canonical model may hold the object, and then whether that may be a
forbidden identity. -/
def fieldIdentity (fieldName : String) (field : Ref) : Option Bool :=
  if fieldName ∈ semanticSchemaIdentityFields then
    match heap field with
    | .scalar .none => some false
    | .scalar (.str value) =>
      let allowed := rules.allowedSchemaIdentityValues.any fun values =>
        decide (value ∈ values fieldName)
      if rules.allowAnySchemaIdentityValue || allowed then some true else none
    | _ => none
  else some false

/-- `_payload_tree_is_closed`. Whether the object itself may be a forbidden identity is decided by
the field that holds it. -/
def payloadTreeIsClosed : (levels : ℕ) → (allowCurrentIdentityValue : Bool) → Ref → State Ref →
    Option (State Ref)
  | 0, _, _, _ => none
  | levels + 1, allowCurrentIdentityValue, ref, s =>
    match heap ref with
    | .scalar (.str value) =>
      if value ∈ rules.forbiddenIdentityValues && !allowCurrentIdentityValue then none else some s
    | .scalar value => if value.isClosed then some s else none
    | .model object =>
      match classes.modelFields object.modelType with
      | none => none
      | some fieldNames =>
        validateNode (isEmptyTuple heap) ref (fun s =>
          if !object.storageIsClosed fieldNames then none
          else visitAll maxPayloadEdges levels (fun fieldName s => do
            let field ← object.stored fieldName
            payloadTreeIsClosed levels
              (← fieldIdentity rules heap fieldName field) field s) fieldNames s) s
    | .frozenJsonDict _ | .frozenJsonList _ =>
      jsonPayloadIsClosed classes rules heap (levels + 1) ref s
    | .tuple items =>
      validateNode (isEmptyTuple heap) ref
        (visitAll maxPayloadEdges levels (payloadTreeIsClosed levels false) items) s
    | .enumMember enumType storage => if enumPayloadIsClosed classes rules ref enumType storage then
        some s else none
    | .datetime tzinfo => if datetimeIsClosed tzinfo then some s else none
    | .uuid integer isSafe => if uuidIsClosed classes heap integer isSafe then some s else none
    | .timedelta => some s
    | .other => none

/-- The call of `_payload_tree_is_closed` on a root: the depth is zero and the traversal is new. -/
def payloadIsClosed (root : Ref) : Bool :=
  (payloadTreeIsClosed classes rules heap (maxPayloadDepth + 1) false root State.initial).isSome

end Walks

end MiniAgent.Evaluation
