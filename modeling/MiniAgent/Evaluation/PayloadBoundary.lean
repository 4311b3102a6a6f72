import MiniAgent.Evaluation.PayloadShape
import MiniAgent.Evaluation.StageCase
import MiniAgent.Library.Keyed

/-! # No identity crosses the boundary

Whatever can be reached from a closed payload carries no forbidden text, unless a field for case
identities holds one that the rules allow there. The result of the system under test is walked with
rules that allow none, before and after it is rebuilt, so evidence that is accepted carries none at
all.
-/

namespace MiniAgent.Evaluation

open TreeWalk

/-- The objects that an object holds. -/
def references : PyObject → List Ref
  | .model object => (object.storage.getD []).map Prod.snd
  | .tuple items | .frozenJsonDict items | .frozenJsonList items => items
  | _ => []

def Holds (heap : Ref → PyObject) (source target : Ref) : Prop := target ∈ references (heap source)

def Reaches (heap : Ref → PyObject) : Ref → Ref → Prop := Relation.ReflTransGen (Holds heap)

/-- The text of an object: of a string, and so of a mapping key, or of the value of an enum
member. -/
def textOf : PyObject → Option String
  | .scalar (.str value) => some value
  | .enumMember _ storage =>
    match storage.bind (·.lookup (some "_value_")) with
    | some (.scalar (.str value)) => some value
    | _ => none
  | _ => none

section Reachable

variable {classes : PayloadClasses} {rules : PayloadRules} {heap : Ref → PyObject}
  {root ref target : Ref}

variable (classes rules heap) in
/-- A name that a JSON mapping may have as a key. -/
def PermittedKey (name : String) : Prop :=
  name ∉ rules.forbiddenIdentityValues ∧
    (rules.allowSemanticJsonKeys = false → isSemanticIdentityField classes.characters name = false)

variable (rules heap) in
/-- A model that can be reached holds the text in a field for case identities, and the rules allow
it there. -/
def HeldAsIdentity (root ref : Ref) (text : String) : Prop :=
  ∃ holder object fieldName, Reaches heap root holder ∧ heap holder = .model object ∧
    fieldName ∈ semanticSchemaIdentityFields ∧ object.stored fieldName = some ref ∧
    (rules.allowAnySchemaIdentityValue = true ∨
      ∃ values ∈ rules.allowedSchemaIdentityValues, text ∈ values fieldName)

variable (classes rules heap) in
/-- The places of a closed payload. -/
inductive Inside (root : Ref) : Ref → Prop
  | payload {ref : Ref} {tree : WalkTree Ref}
      (payload : IsPayload classes rules heap false ref tree) : Inside root ref
  | identity {ref : Ref} {text : String} (found : heap ref = .scalar (.str text))
      (held : HeldAsIdentity rules heap root ref text) : Inside root ref
  | json {ref : Ref} {tree : WalkTree Ref}
      (json : IsJson classes rules heap ref tree) : Inside root ref
  | pair {ref key item : Ref} {name : String} {tree : WalkTree Ref}
      (opened : pairOf heap ref = some (key, item))
      (found : heap key = .scalar (.str name)) (permitted : PermittedKey classes rules name)
      (json : IsJson classes rules heap item tree) : Inside root ref
  | key {ref : Ref} {name : String} (found : heap ref = .scalar (.str name))
      (permitted : PermittedKey classes rules name) :
      Inside root ref

private theorem references_of_pairOf {key item : Ref}
    (opened : pairOf heap ref = some (key, item)) :
    references (heap ref) = [key, item] := by
  unfold pairOf at opened
  split at opened
  · rename_i found
    obtain ⟨rfl, rfl⟩ := Prod.mk.inj (Option.some.inj opened)
    rw [found]
    rfl
  · cases opened

/-- Nothing but the fields is in a closed storage. -/
private theorem ModelObject.field_of_stored {object : ModelObject} {fieldNames : List String}
    (closed : object.storageIsClosed fieldNames = true)
    (member : ref ∈ (object.storage.getD []).map Prod.snd) :
    ∃ fieldName ∈ fieldNames, object.stored fieldName = some ref := by
  obtain ⟨modelType, storage, fieldsSet, extraIsNone, privateIsNone, distinct⟩ := object
  cases storage with
  | none => cases member
  | some storage =>
    cases fieldsSet with
    | none => cases closed
    | some fieldsSet =>
      obtain ⟨⟨name, _⟩, inside, rfl⟩ := List.mem_map.mp member
      simp only [ModelObject.storageIsClosed] at closed
      split_ifs at closed
      simp only [Bool.and_eq_true, beq_iff_eq] at closed
      have known : name ∈ (fieldNames.map some).toFinset := by
        rw [← closed.1.1.1]
        exact List.mem_toFinset.mpr (List.mem_map_of_mem inside)
      obtain ⟨fieldName, listed, rfl⟩ := List.mem_map.mp (List.mem_toFinset.mp known)
      exact ⟨fieldName, listed, Keyed.lookup_of_distinct (distinct storage rfl) inside⟩

private theorem inside_of_isJson {tree : WalkTree Ref} (json : IsJson classes rules heap ref tree)
    (holds : Holds heap ref target) :
    Inside classes rules heap root target := by
  unfold Holds at holds
  cases json with
  | leaf closed => cases found : heap ref <;> simp [found, JsonLeaf, references] at closed holds
  | mapping found mapping all =>
    rw [found] at holds
    obtain ⟨entry, member, key, opened, text⟩ := Keyed.exists_of_forall₂_left mapping.pairs holds
    obtain ⟨tree, json⟩ := all.exists_of_mem (List.mem_map_of_mem member)
    exact .pair opened text ⟨mapping.permitted entry member, mapping.unrelated entry member⟩ json
  | list found all =>
    rw [found] at holds
    obtain ⟨tree, json⟩ := all.exists_of_mem holds
    exact .json json

/-- A field that may hold a forbidden text is one for identities, and the rules allow the text
there. -/
private theorem fieldIdentity_eq_true {fieldName : String} {field : Ref}
    (identity : fieldIdentity rules heap fieldName field = some true) :
    fieldName ∈ semanticSchemaIdentityFields ∧ ∃ text, heap field = .scalar (.str text) ∧
      (rules.allowAnySchemaIdentityValue = true ∨
        ∃ values ∈ rules.allowedSchemaIdentityValues, text ∈ values fieldName) := by
  unfold fieldIdentity at identity
  split_ifs at identity with named
  · refine ⟨named, ?_⟩
    split at identity
    · cases identity
    · rename_i text found
      refine ⟨text, found, ?_⟩
      dsimp only at identity
      split_ifs at identity with allowed
      simpa [Option.any_eq_true] using allowed
    · cases identity
  · cases identity

private theorem inside_of_isPayload {tree : WalkTree Ref}
    (payload : IsPayload classes rules heap false ref tree) (reached : Reaches heap root ref)
    (holds : Holds heap ref target) : Inside classes rules heap root target := by
  cases payload with
  | leaf closed =>
    unfold Holds at holds
    cases found : heap ref <;> simp [found, PayloadLeaf, references] at closed holds
  | json _ json => exact inside_of_isJson json holds
  | tuple found all =>
    unfold Holds at holds
    rw [found] at holds
    obtain ⟨tree, payload⟩ := all.exists_of_mem holds
    exact .payload payload
  | @model _ _ object fieldNames fields children found canonical closed named all =>
    unfold Holds at holds
    rw [found] at holds
    obtain ⟨fieldName, listed, stored⟩ := ModelObject.field_of_stored closed holds
    obtain ⟨⟨allow, field⟩, member, same, identity⟩ := Keyed.exists_of_forall₂_left named listed
    obtain rfl : target = field := Option.some.inj (stored.symm.trans same)
    obtain ⟨tree, payload⟩ := all.exists_of_mem member
    cases allow with
    | false => exact .payload payload
    | true =>
      obtain ⟨semantic, text, text_found, allowed⟩ := fieldIdentity_eq_true identity
      exact .identity text_found ⟨ref, object, fieldName, reached, found, semantic, stored, allowed⟩

/-- Every place that can be reached from a closed payload is one of these. -/
private theorem inside_of_reaches {tree : WalkTree Ref}
    (payload : IsPayload classes rules heap false root tree) (reached : Reaches heap root ref) :
    Inside classes rules heap root ref := by
  induction reached with
  | refl => exact .payload payload
  | tail before holds ih =>
    cases ih with
    | payload payload => exact inside_of_isPayload payload before holds
    | json json => exact inside_of_isJson json holds
    | identity found | key found => simp [Holds, found, references] at holds
    | pair opened found permitted json =>
      rw [Holds, references_of_pairOf opened] at holds
      obtain rfl | later := List.mem_cons.mp holds
      · exact .key found permitted
      · obtain rfl := List.mem_singleton.mp later
        exact .json json

private theorem scalar_isPayload {tree : WalkTree Ref} {value : Scalar}
    (payload : IsPayload classes rules heap false ref tree) (found : heap ref = .scalar value) :
    PayloadLeaf classes rules heap false ref (.scalar value) :=
  found ▸ ((isPayload_leaf_iff (by simp [found]) (by simp [found]) (by simp [found])
    (by simp [found]) tree).mp payload).2

private theorem enumMember_isPayload {tree : WalkTree Ref} {enumType : String}
    {storage : Option (List (Option String × StoredValue))}
    (payload : IsPayload classes rules heap false ref tree)
    (found : heap ref = .enumMember enumType storage) :
    enumPayloadIsClosed classes rules ref enumType storage = true := by
  have leaf :=
    (isPayload_leaf_iff (by simp [found]) (by simp [found]) (by simp [found]) (by simp [found])
      tree).mp payload
  simpa [found, PayloadLeaf] using leaf.2

/-- A place with a forbidden text is a field that may hold it. -/
private theorem Inside.heldAsIdentity {text : String} (inside : Inside classes rules heap root ref)
    (carries : textOf (heap ref) = some text) (forbidden : text ∈ rules.forbiddenIdentityValues) :
    HeldAsIdentity rules heap root ref text := by
  cases inside with
  | identity found held =>
    rw [found] at carries
    cases carries
    exact held
  | key found permitted =>
    rw [found] at carries
    cases carries
    exact absurd forbidden permitted.1
  | pair opened =>
    unfold pairOf at opened
    split at opened
    · rename_i found
      simp [found, textOf] at carries
    · cases opened
  | payload payload =>
    cases found : heap ref with
    | scalar value =>
      have leaf := scalar_isPayload payload found
      cases value with
      | str value =>
        rw [found] at carries
        cases carries
        cases leaf forbidden
      | none | bool | int | float => simp [found, textOf] at carries
    | enumMember enumType storage =>
      have closed := enumMember_isPayload payload found
      rw [found] at carries
      simp only [textOf] at carries
      split at carries
      · rename_i value stored
        cases carries
        simp [enumPayloadIsClosed, stored, forbidden] at closed
      · cases carries
    | timedelta | datetime | uuid | model | tuple | frozenJsonDict | frozenJsonList | other =>
      simp [found, textOf] at carries
  | json json =>
    cases json with
    | leaf closed =>
      cases found : heap ref with
      | scalar value =>
        cases value with
        | str value =>
          rw [found] at carries closed
          cases carries
          exact absurd forbidden closed
        | none | bool | int | float => simp [found, textOf] at carries
      | timedelta | datetime | uuid | enumMember | model | tuple | frozenJsonDict | frozenJsonList
          | other =>
        simp [found, JsonLeaf] at closed
    | mapping found => simp [found, textOf] at carries
    | list found => simp [found, textOf] at carries

/-- A forbidden text that can be reached from a closed payload is in a field that may hold it. -/
private theorem heldAsIdentity_of_reaches {text : String}
    (closed : payloadIsClosed classes rules heap root = true) (reached : Reaches heap root ref)
    (carries : textOf (heap ref) = some text) (forbidden : text ∈ rules.forbiddenIdentityValues) :
    HeldAsIdentity rules heap root ref text := by
  obtain ⟨tree, payload, _⟩ := payloadIsClosed_iff.mp closed
  exact (inside_of_reaches payload reached).heldAsIdentity carries forbidden

/-- A mapping that can be reached has no key that names a case or a script, unless the rules allow
that. -/
private theorem key_unrelated_of_reaches {items : List Ref} {rawPair key item : Ref} {name : String}
    (closed : payloadIsClosed classes rules heap root = true)
    (strict : rules.allowSemanticJsonKeys = false) (reached : Reaches heap root ref)
    (found : heap ref = .frozenJsonDict items) (member : rawPair ∈ items)
    (opened : pairOf heap rawPair = some (key, item)) (named : heap key = .scalar (.str name)) :
    isSemanticIdentityField classes.characters name = false := by
  obtain ⟨tree, payload, _⟩ := payloadIsClosed_iff.mp closed
  have mappingIn {tree : WalkTree Ref} (json : IsJson classes rules heap ref tree) :
      isSemanticIdentityField classes.characters name = false := by
    obtain ⟨_, _, entries, mapping, _⟩ := (isJson_mapping_iff found tree).mp json
    obtain ⟨entry, inside, other, same, text⟩ := Keyed.exists_of_forall₂_left mapping.pairs member
    obtain ⟨rfl, rfl⟩ := Prod.mk.inj (Option.some.inj (opened.symm.trans same))
    obtain rfl : name = entry.1 := Scalar.str.inj (PyObject.scalar.inj (named.symm.trans text))
    exact mapping.unrelated entry inside strict
  cases inside_of_reaches payload reached with
  | payload payload => exact mappingIn ((isPayload_json_iff (.inl found) _).mp payload)
  | json json => exact mappingIn json
  | identity other => simp [found] at other
  | key other => simp [found] at other
  | pair other => simp [pairOf, found] at other

end Reachable

/-- `_ExactTreeComparisonState` -/
structure ExactTreeComparisonState where
  activePairs : Finset (Ref × Ref) := ∅
  completedPairs : Finset (Ref × Ref) := ∅

namespace ExactTreeComparisonState

/-- Compare the parts of a pair that is not being compared already. -/
def enter (pair : Ref × Ref)
    (compareParts : ExactTreeComparisonState → Bool × ExactTreeComparisonState)
    (state : ExactTreeComparisonState) : Bool × ExactTreeComparisonState :=
  if pair ∈ state.completedPairs then (true, state)
  else if pair ∈ state.activePairs then (false, state)
  else
    let (valid, inside) := compareParts { state with activePairs := insert pair state.activePairs }
    let left := { inside with activePairs := inside.activePairs.erase pair }
    (valid, if valid then { left with completedPairs := insert pair left.completedPairs } else left)

/-- `all(...)` over pairs, up to the first that differs. -/
def compareAll (compare : Ref → Ref → ExactTreeComparisonState → Bool × ExactTreeComparisonState) :
    List (Ref × Ref) → ExactTreeComparisonState → Bool × ExactTreeComparisonState
  | [], state => (true, state)
  | (original, rebuilt) :: rest, state =>
    match compare original rebuilt state with
    | (true, after) => compareAll compare rest after
    | (false, after) => (false, after)

/-- The items of two tuples of one length. -/
def compareItems (compare : Ref → Ref → ExactTreeComparisonState → Bool × ExactTreeComparisonState)
    (original rebuilt : List Ref) (state : ExactTreeComparisonState) :
    Bool × ExactTreeComparisonState :=
  if original.length ≠ rebuilt.length then (false, state)
    else compareAll compare (original.zip rebuilt) state

end ExactTreeComparisonState

open ExactTreeComparisonState in
/-- `_same_exact_value_tree` down to a number of levels, of which a tree that was walked needs no
more than the walk. What a model holds is read field by field, and `==` of two objects is given. -/
def sameExactValueTree (classes : PayloadClasses) (heap : Ref → PyObject)
    (equal : Ref → Ref → Bool) :
    (levels : ℕ) → Ref → Ref → ExactTreeComparisonState → Bool × ExactTreeComparisonState
  | 0, _, _, state => (false, state)
  | levels + 1, original, rebuilt, state =>
    match heap original, heap rebuilt with
    | .enumMember .., .enumMember .. => (original == rebuilt, state)
    | .model left, .model right =>
      match left.modelType == right.modelType, classes.modelFields left.modelType with
      | true, some fieldNames =>
        match fieldNames.mapM left.stored, fieldNames.mapM right.stored with
        | some lefts, some rights => enter (original, rebuilt)
            (compareItems (sameExactValueTree classes heap equal levels) lefts rights) state
        | _, _ => (false, state)
      | _, _ => (false, state)
    | .tuple left, .tuple right | .frozenJsonDict left, .frozenJsonDict right
    | .frozenJsonList left, .frozenJsonList right =>
      enter (original, rebuilt)
        (compareItems (sameExactValueTree classes heap equal levels) left right) state
    | .datetime _, .datetime _ | .uuid .., .uuid .. =>
      (original != rebuilt && equal original rebuilt, state)
    | .timedelta, .timedelta => (equal original rebuilt, state)
    | .scalar left, .scalar right => (left == right, state)
    | _, _ => (false, state)

/-- The call on two roots. -/
def sameExactValue (classes : PayloadClasses) (heap : Ref → PyObject) (equal : Ref → Ref → Bool)
    (original rebuilt : Ref) : Bool :=
  (sameExactValueTree classes heap equal (maxPayloadDepth + 1) original rebuilt {}).1

/-- What canonicalization uses beside the walk: the state of the enum singletons before and after,
the value an object stands for, the JSON round trip, which fails where it raises or does not give a
string, and `==`. -/
structure ResultBoundary where
  classes : PayloadClasses
  heap : Ref → PyObject
  singletonsBefore : Bool
  singletonsAfter : Bool
  sutResult : Ref → EvalCaseSutResult
  roundTrip : Ref → Option Ref
  equal : Ref → Ref → Bool

namespace ResultBoundary

variable (boundary : ResultBoundary)

/-- `_model_storage_is_closed` -/
def modelStorageIsClosed (expectedType : String) (ref : Ref) : Bool :=
  match boundary.heap ref, boundary.classes.modelFields expectedType with
  | .model object, some fieldNames => object.modelType == expectedType &&
      object.storageIsClosed fieldNames
  | _, _ => false

/-- The same for what a model holds under a name. -/
def fieldStorageIsClosed (fieldName expectedType : String) (ref : Ref) : Bool :=
  match boundary.heap ref with
  | .model object => (object.stored fieldName).any (boundary.modelStorageIsClosed expectedType)
  | _ => false

/-- `_canonical_unbound_result`: the walks run with rules that allow no identity anywhere. -/
def canonicalUnboundResult (authenticatedIdentityValues : Finset String) (result : Ref) :
    Option Ref :=
  let closed :=
    payloadIsClosed boundary.classes
      { forbiddenIdentityValues := authenticatedIdentityValues } boundary.heap
  if !boundary.singletonsBefore || !boundary.modelStorageIsClosed "EvalCaseSutResult" result
    then none
  else if !closed result then none
  else match boundary.roundTrip result with
  | none => none
  | some rebuilt =>
    if !boundary.singletonsAfter ||
        !sameExactValue boundary.classes boundary.heap boundary.equal result rebuilt ||
        !boundary.equal rebuilt result ||
          !boundary.modelStorageIsClosed "EvalCaseSutResult" rebuilt || !closed rebuilt then none
    else if !boundary.fieldStorageIsClosed "evidence" "UnboundEvalEvidence" rebuilt ||
        !boundary.fieldStorageIsClosed "safe_observable" "UnboundSafeCaseObservable" rebuilt
          then none
    else if unboundResultIsCanonical (boundary.sutResult rebuilt) then some rebuilt else none

/-- Both the result and what it is rebuilt as have been walked. -/
private theorem closed_of_canonicalUnboundResult {identities : Finset String} {result rebuilt : Ref}
    (accepted : boundary.canonicalUnboundResult identities result = some rebuilt) :
    payloadIsClosed boundary.classes
    { forbiddenIdentityValues := identities } boundary.heap result = true ∧
      payloadIsClosed boundary.classes
      { forbiddenIdentityValues := identities } boundary.heap rebuilt = true := by
  unfold canonicalUnboundResult at accepted
  dsimp only at accepted
  split_ifs at accepted with _ closed
  split at accepted
  · cases accepted
  · split_ifs at accepted with checks
    obtain rfl := Option.some.inj accepted
    simp only [Bool.not_eq_true', Bool.or_eq_true, not_or, Bool.not_eq_false] at closed checks
    exact ⟨closed, checks.2⟩

/-- Where no schema identity is allowed no text that can be reached is forbidden. -/
private theorem not_forbidden_of_reaches {classes : PayloadClasses} {heap : Ref → PyObject}
    {identities : Finset String} {root ref : Ref} {text : String}
    (closed : payloadIsClosed classes { forbiddenIdentityValues := identities } heap root = true)
    (reached : Reaches heap root ref) (carries : textOf (heap ref) = some text) :
    text ∉ identities := by
  intro forbidden
  obtain ⟨_, _, _, _, _, _, _, allowed⟩ :=
    heldAsIdentity_of_reaches closed reached carries forbidden
  obtain anything | ⟨_, values, _⟩ := allowed
  · cases anything
  · cases values

end ResultBoundary

/-- The walk returns true exactly on the closed payloads. What can be reached from one carries a
forbidden text only where a field for case identities may hold it, and evidence that is accepted
carries no authenticated identity and no key that names a case or a script. -/
theorem no_identity_crosses (boundary : ResultBoundary) (rules : PayloadRules) (root : Ref) :
    (payloadIsClosed boundary.classes rules boundary.heap root = true ↔
      IsClosedPayload boundary.classes rules boundary.heap root) ∧
    (∀ ref text, payloadIsClosed boundary.classes rules boundary.heap root = true →
      Reaches boundary.heap root ref →
      textOf (boundary.heap ref) = some text → text ∈ rules.forbiddenIdentityValues →
      HeldAsIdentity rules boundary.heap root ref text) ∧
    ∀ identities rebuilt, boundary.canonicalUnboundResult identities root = some rebuilt →
      ∀ source ∈ [root, rebuilt], ∀ ref, Reaches boundary.heap source ref →
        (∀ text, textOf (boundary.heap ref) = some text → text ∉ identities) ∧
        ∀ items, boundary.heap ref = .frozenJsonDict items → ∀ rawPair ∈ items, ∀ key item name,
          pairOf boundary.heap rawPair = some (key, item) →
          boundary.heap key = .scalar (.str name) →
          isSemanticIdentityField boundary.classes.characters name = false := by
  refine ⟨payloadIsClosed_iff, fun ref text => heldAsIdentity_of_reaches, ?_⟩
  intro identities rebuilt accepted source walked ref reached
  have closed : payloadIsClosed boundary.classes
      { forbiddenIdentityValues := identities } boundary.heap source = true := by
    obtain ⟨first, second⟩ := boundary.closed_of_canonicalUnboundResult accepted
    obtain rfl | later := List.mem_cons.mp walked
    · exact first
    · obtain rfl := List.mem_singleton.mp later
      exact second
  refine ⟨fun text carries => ResultBoundary.not_forbidden_of_reaches closed reached carries, ?_⟩
  intro items found rawPair member key item name opened named
  exact key_unrelated_of_reaches closed rfl reached found member opened named

namespace SutResultGraph

def resultFields : List String := ["execution_ref", "evidence", "safe_observable"]

def evidenceFields : List String :=
  ["observed_outcome", "trace_ref", "trace_events", "schema_assertions_pass",
    "identity_boundary_assertions_pass", "request_understanding_assertions_pass",
    "input_binding_assertions_pass", "task_state_assertions_pass",
    "tool_call_assertions_pass", "observation_assertions_pass", "disclosure_assertions_pass",
    "renderer_fact_assertions_pass", "error_mapping_assertions_pass", "persistence_assertions_pass",
    "toolset_replay_assertions_pass", "run_record", "agent_result", "conversation_records",
    "message_records",
    "input_bindings", "task_records", "request_units", "conversation_task_links", "run_task_links",
    "gate_decisions", "tool_calls", "tool_attempts", "observations", "context_manifests",
    "model_visible_toolset_artifacts", "request_understanding_records_v2",
    "accepted_task_deltas_v2",
    "task_state_transitions"]

def observableFields : List String :=
  ["http_status", "user_outcome", "response_policy", "ordinary_trace_shape", "model_calls"]

def shapeEntryFields : List String := ["event_type", "count", "status", "reason"]

def traceEventFields : List String :=
  ["trace_event_id", "event_type", "occurred_at", "run_id", "case_id", "message_ref",
    "accepted_delta_ref", "task_id", "request_unit_id", "input_binding_ref", "model_call_id",
    "model_call_purpose",
    "context_manifest_id", "provider_name", "model_snapshot", "tool_registry_version",
    "model_visible_toolset_hash", "next_move_kind", "requested_tool_name",
    "proposed_base_task_state_version",
    "validated_task_state_version", "argument_binding_refs", "gate_decision", "gate_reason_code",
    "tool_call_id",
    "tool_call_terminal_status", "safe_tool_outcome", "observation_ref", "presentation_plan_ref",
    "user_outcome",
    "stop_reason", "timing_and_usage_summary"]

/-- The storage of an enum member. -/
def enumStorage (enumType name : String) (value : Scalar) (sortOrder : ℤ) :
    List (String × StoredValue) :=
  [("_value_", .scalar value), ("_name_", .scalar (.str name)),
    ("__objclass__", .enumType enumType), ("_sort_order_", .scalar (.int sortOrder))]

def completed : List (String × StoredValue) :=
  enumStorage "AgentOutcome" "COMPLETED" (.str "COMPLETED") 0

def messageAccepted : List (String × StoredValue) :=
  enumStorage "TraceEventType" "MESSAGE_ACCEPTED" (.str "MessageAccepted") 0

def safeUnknown : List (String × StoredValue) := enumStorage "SafeUUID" "unknown" .none 2

def asciiTables : CharacterTables where
  isalnum := Char.isAlphanum
  isupper := Char.isUpper
  islower := Char.isLower
  isdigit := Char.isDigit
  isspace := Char.isWhitespace
  casefold character := [character.toLower]

def classes : PayloadClasses where
  modelFields
    | "EvalCaseSutResult" => some resultFields
    | "UnboundEvalEvidence" => some evidenceFields
    | "UnboundSafeCaseObservable" => some observableFields
    | "SafeTraceShapeEntry" => some shapeEntryFields
    | "TraceEvent" => some traceEventFields
    | _ => none
  enumMemberSnapshots
    | "SafeUUID" => some [⟨4, safeUnknown, rfl⟩]
    | "AgentOutcome" => some [⟨10, completed, rfl⟩]
    | "TraceEventType" => some [⟨11, messageAccepted, rfl⟩]
    | _ => none
  characters := asciiTables

/-- An instance with all fields set. Fields that are not listed hold the object `0`, which is
`None`. -/
def instanceOf (modelType : String) (fieldNames : List String) (distinct : fieldNames.Nodup)
    (held : List (String × Ref)) : PyObject :=
  .model {
    modelType
    storage :=
      some (fieldNames.map fun fieldName => (some fieldName, (held.lookup fieldName).getD 0))
    fieldsSet := some ∅
    extraIsNone := true
    privateIsNone := true
    distinct := by
      intro entries same
      obtain rfl := Option.some.inj same
      rw [List.map_map]
      exact distinct.map (Option.some_injective String) }

def member (enumType : String) (storage : List (String × StoredValue)) : PyObject :=
  .enumMember enumType (some (storage.map fun item => (some item.1, item.2)))

/-- A result with one event, in which the empty tuple is shared, and from `100` on what it is
rebuilt as. -/
def heap (ref : Ref) : PyObject :=
  let copy (original : Ref) : Ref := if ref < 100 then original else original + 100
  match if ref < 100 then ref else ref - 100 with
  | 1 => .scalar (.bool true)
  | 2 => .tuple []
  | 3 => .uuid (some 5) 4
  | 4 => member "SafeUUID" safeUnknown
  | 5 => instanceOf "UnboundEvalEvidence" evidenceFields (by decide)
      [("observed_outcome", 10), ("trace_ref", copy 3), ("trace_events", copy 7), ("tool_calls", 2),
        ("observations", 2)]
  | 6 => instanceOf "UnboundSafeCaseObservable" observableFields (by decide)
      [("http_status", copy 13), ("user_outcome", 10), ("response_policy", copy 12),
        ("ordinary_trace_shape", copy 14), ("model_calls", copy 17)]
  | 7 => .tuple [copy 8]
  | 8 => instanceOf "TraceEvent" traceEventFields (by decide)
      [("trace_event_id", copy 3), ("event_type", 11), ("occurred_at", copy 9), ("run_id", copy 3),
        ("argument_binding_refs", 2)]
  | 9 => .datetime .utc
  | 10 => member "AgentOutcome" completed
  | 11 => member "TraceEventType" messageAccepted
  | 12 => .scalar (.str "DETERMINISTIC_ORDER_SUMMARY_V1")
  | 13 => .scalar (.int 200)
  | 14 => .tuple [copy 15]
  | 15 => instanceOf "SafeTraceShapeEntry" shapeEntryFields (by decide)
      [("event_type", 11), ("count", copy 16)]
  | 16 => .scalar (.int 1)
  | 17 => .scalar (.int 0)
  | 18 => instanceOf "EvalCaseSutResult" resultFields (by decide)
      [("execution_ref", copy 3), ("evidence", copy 5), ("safe_observable", copy 6)]
  | _ => .scalar .none

def boundary : ResultBoundary where
  classes
  heap
  singletonsBefore := true
  singletonsAfter := true
  sutResult _ :=
    let evidence : UnboundEvalEvidence :=
      { observedOutcome := .completed, traceRef := 5,
        traceEvents :=
          [{ traceEventId := 5, eventType := .messageAccepted, occurredAt := .utc 0, runId := 5 }] }
    { executionRef := 5, evidence
      safeObservable :=
        { httpStatus := 200, userOutcome := .completed,
          responsePolicy := "DETERMINISTIC_ORDER_SUMMARY_V1", ordinaryTraceShape :=
            ordinaryTraceShape evidence.traceEvents, modelCalls := 0 } }
  roundTrip result := if result = 18 then some 118 else none
  equal left right := left == right + 100 || right == left + 100

end SutResultGraph

/-- The result is accepted although its empty tuple is shared, and the case identity is nowhere in
it. -/
theorem no_identity_crosses_accepted :
    payloadIsClosed SutResultGraph.classes
    { forbiddenIdentityValues := {"E2E01-01"} } SutResultGraph.heap 18 = true ∧
      ∀ ref text, Reaches SutResultGraph.heap 118 ref →
      textOf (SutResultGraph.heap ref) = some text → text ∉ ({"E2E01-01"} : Finset String) := by
  have accepted : SutResultGraph.boundary.canonicalUnboundResult {"E2E01-01"} 18 = some 118 := by
    decide
  refine ⟨by decide, fun ref text reached carries => ?_⟩
  exact ((no_identity_crosses SutResultGraph.boundary { forbiddenIdentityValues := {"E2E01-01"} }
    18).2.2 _ _ accepted
    118 (by simp) ref reached).1 text carries

/-- A tuple that holds the empty tuple twice. -/
def sharingHeap : Ref → PyObject
  | 0 => .tuple [1, 1]
  | _ => .tuple []

/-- A field for case identities with a text that is not forbidden. -/
def otherCaseHeap : Ref → PyObject
  | 1 => .scalar (.str "E2E01-02")
  | 2 => SutResultGraph.instanceOf "TraceEvent" SutResultGraph.traceEventFields (by decide)
      [("case_id", 1)]
  | _ => .scalar .none

/-- A graph that is no tree can be accepted, and a tree within the limits in which no text is
forbidden can be refused. -/
theorem closed_payload_need_not_be_a_tree :
    (payloadIsClosed SutResultGraph.classes { forbiddenIdentityValues := ∅ } sharingHeap 0 = true ∧
      ∀ tree, IsPayload SutResultGraph.classes
      { forbiddenIdentityValues := ∅ } sharingHeap false 0 tree → ¬ tree.containers.Nodup) ∧
    payloadIsClosed SutResultGraph.classes
    { forbiddenIdentityValues := {"E2E01-01"} } otherCaseHeap 2 = false ∧
      IsClosedPayload SutResultGraph.classes
        { forbiddenIdentityValues := {"E2E01-01"},
          allowAnySchemaIdentityValue := true } otherCaseHeap 2 ∧
      ∀ ref text, textOf (otherCaseHeap ref) = some text →
      text ∉ ({"E2E01-01"} : Finset String) := by
  refine ⟨⟨by decide, fun tree payload => ?_⟩, by decide,
    payloadIsClosed_iff.mp (by decide), ?_⟩
  · obtain ⟨children, rfl, all⟩ :=
      (isPayload_tuple_iff (show sharingHeap 0 = .tuple [1, 1] from rfl) tree).mp payload
    cases all with
    | cons first rest =>
      obtain ⟨_, rfl, _⟩ :=
        (isPayload_tuple_iff (show sharingHeap 1 = .tuple [] from rfl) _).mp first
      cases rest with
      | cons second =>
        obtain ⟨_, rfl, _⟩ :=
          (isPayload_tuple_iff (show sharingHeap 1 = .tuple [] from rfl) _).mp second
        simp
  · intro ref text carries
    unfold otherCaseHeap at carries
    split at carries
    · cases carries
      simp
    · cases carries
    · cases carries

end MiniAgent.Evaluation
