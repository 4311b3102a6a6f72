import MiniAgent.Evaluation.PayloadTree

/-! # What a closed payload is

The trees that a payload may unfold to, by the kind of the object, without the state of a walk; and
the walks accept exactly these.
-/

namespace MiniAgent.Evaluation

open TreeWalk

section Shapes

variable (classes : PayloadClasses) (rules : PayloadRules) (heap : Ref → PyObject)

/-- A JSON value without children. -/
def JsonLeaf : PyObject → Prop
  | .scalar (.str value) => value ∉ rules.forbiddenIdentityValues
  | .scalar value => value.isClosed = true
  | _ => False

/-- Each raw pair is a text and an item; no text comes up twice, is forbidden or, unless the rules
allow that, names the identity of a case or a script. -/
structure MappingOf (keys : List String) (items : List Ref) (entries : List (String × Ref)) :
    Prop where
  pairs : List.Forall₂ (fun rawPair entry => ∃ key, pairOf heap rawPair = some (key, entry.2) ∧
    heap key = .scalar (.str entry.1)) items entries
  distinct : (entries.map Prod.fst).Nodup
  fresh : ∀ entry ∈ entries, entry.1 ∉ keys
  permitted : ∀ entry ∈ entries, entry.1 ∉ rules.forbiddenIdentityValues
  unrelated : ∀ entry ∈ entries, rules.allowSemanticJsonKeys = false →
    isSemanticIdentityField classes.characters entry.1 = false

inductive IsJson : Ref → WalkTree Ref → Prop
  | leaf {ref : Ref} (closed : JsonLeaf rules (heap ref)) : IsJson ref .leaf
  | mapping {ref : Ref} {items : List Ref} {entries : List (String × Ref)} {children : Forest Ref}
      (found : heap ref = .frozenJsonDict items)
      (mapping : MappingOf classes rules heap [] items entries)
      (all : PairsOf IsJson (entries.map Prod.snd) children) : IsJson ref (.node ref children)
  | list {ref : Ref} {items : List Ref} {children : Forest Ref}
      (found : heap ref = .frozenJsonList items)
      (all : AllOf IsJson items children) : IsJson ref (.node ref children)

/-- A payload value without children. A text may be a forbidden identity where the field that holds
it allows it. -/
def PayloadLeaf (allowCurrentIdentityValue : Bool) (ref : Ref) : PyObject → Prop
  | .scalar (.str value) => value ∈ rules.forbiddenIdentityValues → allowCurrentIdentityValue = true
  | .scalar value => value.isClosed = true
  | .timedelta => True
  | .datetime tzinfo => datetimeIsClosed tzinfo = true
  | .uuid integer isSafe => uuidIsClosed classes heap integer isSafe = true
  | .enumMember enumType storage => enumPayloadIsClosed classes rules ref enumType storage = true
  | _ => False

/-- What the fields of a model hold, each with whether that may be a forbidden identity. -/
def FieldsOf (object : ModelObject) : List String → List (Bool × Ref) → Prop :=
  List.Forall₂ fun fieldName field => object.stored fieldName = some field.2 ∧
    fieldIdentity rules heap fieldName field.2 = some field.1

inductive IsPayload : Bool → Ref → WalkTree Ref → Prop
  | leaf {allow : Bool} {ref : Ref} (closed : PayloadLeaf classes rules heap allow ref (heap ref)) :
      IsPayload allow ref .leaf
  | json {allow : Bool} {ref : Ref} {items : List Ref} {tree : WalkTree Ref}
      (found : heap ref = .frozenJsonDict items ∨ heap ref = .frozenJsonList items)
      (json : IsJson classes rules heap ref tree) : IsPayload allow ref tree
  | tuple {allow : Bool} {ref : Ref} {items : List Ref} {children : Forest Ref}
      (found : heap ref = .tuple items)
      (all : AllOf (IsPayload false) items children) : IsPayload allow ref (.node ref children)
  | model {allow : Bool} {ref : Ref} {object : ModelObject} {fieldNames : List String}
      {fields : List (Bool × Ref)}
      {children : Forest Ref} (found : heap ref = .model object)
      (canonical : classes.modelFields object.modelType = some fieldNames)
      (closed : object.storageIsClosed fieldNames = true)
      (holds : FieldsOf rules heap object fieldNames fields)
      (all : AllOf (fun field => IsPayload field.1 field.2) fields children) :
        IsPayload allow ref (.node ref children)

/-- The object is a payload, within the limits, in which nothing but leaves and the empty tuple
comes up twice. -/
def IsClosedPayload (root : Ref) : Prop :=
  ∃ tree, IsPayload classes rules heap false root tree ∧ tree.height ≤ maxPayloadDepth ∧
    tree.edges ≤ maxPayloadEdges ∧ (singles (isEmptyTuple heap) tree.containers).Nodup

end Shapes

variable {classes : PayloadClasses} {rules : PayloadRules} {heap : Ref → PyObject} {levels : ℕ}

private theorem keyIsClosed_iff {keys : List String} {key : String} :
    keyIsClosed classes rules keys key = true ↔ key ∉ keys ∧ key ∉ rules.forbiddenIdentityValues ∧
      (rules.allowSemanticJsonKeys = false →
        isSemanticIdentityField classes.characters key = false) := by
  unfold keyIsClosed
  cases rules.allowSemanticJsonKeys <;> simp [and_assoc]

private theorem mappingOf_nil {keys : List String} {entries : List (String × Ref)} :
    MappingOf classes rules heap keys [] entries ↔ entries = [] := by
  constructor
  · intro mapping
    cases mapping.pairs
    rfl
  · rintro rfl
    exact ⟨.nil, List.nodup_nil, by simp, by simp, by simp⟩

private theorem closedPair_eq_some_iff {keys : List String} {rawPair : Ref} {name : String}
    {item : Ref} :
    closedPair classes rules heap keys rawPair = some (name, item) ↔
      (∃ key, pairOf heap rawPair = some (key, item) ∧ heap key = .scalar (.str name)) ∧
        keyIsClosed classes rules keys name = true := by
  unfold closedPair
  constructor
  · intro closed
    obtain ⟨⟨key, other⟩, opened, closed⟩ := Option.bind_eq_some_iff.mp closed
    dsimp only at closed
    split at closed
    · rename_i text found
      split_ifs at closed with closes
      obtain ⟨rfl, rfl⟩ := Prod.mk.inj (Option.some.inj closed)
      exact ⟨⟨key, opened, found⟩, closes⟩
    · cases closed
  · rintro ⟨⟨key, opened, found⟩, closes⟩
    simp [opened, found, closes]

/-- The first pair of a mapping; its key is one of the keys before the others. -/
private theorem mappingOf_cons {keys : List String} {rawPair : Ref} {rest : List Ref}
    {entries : List (String × Ref)} :
    MappingOf classes rules heap keys (rawPair :: rest) entries ↔
      ∃ name item others, entries = (name, item) :: others ∧
        closedPair classes rules heap keys rawPair = some (name, item) ∧
        MappingOf classes rules heap (name :: keys) rest others := by
  constructor
  · rintro ⟨pairs, distinct, fresh, permitted, unrelated⟩
    cases pairs with
    | @cons _ entry _ others pair pairs =>
      obtain ⟨absent, distinct⟩ := List.nodup_cons.mp distinct
      obtain ⟨new, fresh⟩ := List.forall_mem_cons.mp fresh
      obtain ⟨here, permitted⟩ := List.forall_mem_cons.mp permitted
      obtain ⟨plain, unrelated⟩ := List.forall_mem_cons.mp unrelated
      refine ⟨entry.1, entry.2, others, rfl,
        closedPair_eq_some_iff.mpr ⟨pair, keyIsClosed_iff.mpr ⟨new, here, plain⟩⟩, pairs, distinct,
        fun other member => ?_, permitted, unrelated⟩
      rw [List.mem_cons, not_or]
      refine ⟨fun same => absent ?_, fresh other member⟩
      exact same ▸ List.mem_map_of_mem member
  · rintro ⟨name, item, others, rfl, closed, mapping⟩
    obtain ⟨pair, closes⟩ := closedPair_eq_some_iff.mp closed
    obtain ⟨new, here, plain⟩ := keyIsClosed_iff.mp closes
    refine ⟨.cons pair mapping.pairs, List.nodup_cons.mpr ⟨fun member => ?_, mapping.distinct⟩,
      List.forall_mem_cons.mpr ⟨new, fun other member => ?_⟩,
      List.forall_mem_cons.mpr ⟨here, mapping.permitted⟩,
      List.forall_mem_cons.mpr ⟨plain, mapping.unrelated⟩⟩
    · obtain ⟨other, inside, same⟩ := List.mem_map.mp member
      exact mapping.fresh other inside (same ▸ List.mem_cons_self)
    · exact fun known => mapping.fresh other member (List.mem_cons_of_mem _ known)

private theorem acceptsAll_validateMapping {visit : Ref → State Ref → Option (State Ref)}
    {admits : Ref → WalkTree Ref → Prop}
    (each : ∀ child, Accepts (isEmptyTuple heap) maxPayloadEdges levels (visit child)
      (admits child))
    (keys : List String) (items : List Ref) :
    AcceptsAll (isEmptyTuple heap) maxPayloadEdges levels
    (validateMapping classes rules heap levels visit keys items)
      fun forest => ∃ entries, MappingOf classes rules heap keys items entries ∧
        PairsOf admits (entries.map Prod.snd) forest := by
  induction items generalizing keys with
  | nil =>
    refine acceptsAll_nil fun forest => ⟨?_, ?_⟩
    · rintro ⟨entries, mapping, all⟩
      obtain rfl := mappingOf_nil.mp mapping
      cases all
      rfl
    · rintro rfl
      exact ⟨[], mappingOf_nil.mpr rfl, .nil⟩
  | cons rawPair rest ih =>
    cases closed : closedPair classes rules heap keys rawPair with
    | none =>
      have refuses : validateMapping classes rules heap levels visit keys (rawPair :: rest) =
          fun _ => none := by
        funext s
        cases consumed : consume maxPayloadEdges levels 2 s <;>
          simp [validateMapping, closed, consumed]
      rw [refuses]
      refine acceptsAll_none fun forest ⟨entries, mapping, _⟩ => ?_
      obtain ⟨name, item, _, _, found, _⟩ := mappingOf_cons.mp mapping
      simp [closed] at found
    | some pair =>
      obtain ⟨name, item⟩ := pair
      have unfolds : validateMapping classes rules heap levels visit keys (rawPair :: rest) =
          fun s =>
          ((consume maxPayloadEdges levels 2 s).bind (visit item)).bind
            (validateMapping classes rules heap levels visit (name :: keys) rest) := by
        funext s
        cases consumed : consume maxPayloadEdges levels 2 s <;>
          simp [validateMapping, closed, consumed]
      rw [unfolds]
      refine (acceptsAll_pair (each item) (ih (name :: keys))).congr fun forest => ⟨?_, ?_⟩
      · rintro ⟨tree, others, rfl, first, entries, mapping, all⟩
        exact ⟨(name, item) :: entries,
          mappingOf_cons.mpr ⟨name, item, entries, rfl, closed, mapping⟩, .cons first all⟩
      · rintro ⟨entries, mapping, all⟩
        obtain ⟨_, _, others, rfl, found, later⟩ := mappingOf_cons.mp mapping
        obtain ⟨rfl, rfl⟩ := Prod.mk.inj (Option.some.inj (closed.symm.trans found))
        cases all with
        | cons first all => exact ⟨_, _, rfl, first, others, later, all⟩

/-- An object that is no container is accepted as a leaf or not at all. -/
private theorem accepts_ite {condition : Prop} [Decidable condition] {admits : WalkTree Ref → Prop}
    {mayRepeat : Ref → Bool} (same : ∀ tree, admits tree ↔ tree = .leaf ∧ condition) :
    Accepts mayRepeat maxPayloadEdges (levels + 1)
    (fun s => if condition then some s else none) admits := by
  by_cases holds : condition
  · simp only [holds, if_true]
    exact accepts_leaf (Nat.succ_pos levels) fun tree => by simp [same, holds]
  · simp only [holds, if_false]
    exact accepts_none fun tree => by simp [same, holds]

private theorem isEmptyTuple_eq_false {ref : Ref} (other : ∀ items, heap ref ≠ .tuple items) :
    isEmptyTuple heap ref = false := by
  unfold isEmptyTuple
  split
  · rename_i items found
    exact absurd found (other items)
  · rfl

private theorem isJson_leaf_iff {ref : Ref} (mapping : ∀ items, heap ref ≠ .frozenJsonDict items)
    (list : ∀ items, heap ref ≠ .frozenJsonList items) (tree : WalkTree Ref) :
    IsJson classes rules heap ref tree ↔ tree = .leaf ∧ JsonLeaf rules (heap ref) := by
  constructor
  · intro json
    cases json with
    | leaf closed => exact ⟨rfl, closed⟩
    | mapping found => exact absurd found (mapping _)
    | list found => exact absurd found (list _)
  · rintro ⟨rfl, closed⟩
    exact .leaf closed

theorem isJson_mapping_iff {ref : Ref} {items : List Ref} (found : heap ref = .frozenJsonDict items)
    (tree : WalkTree Ref) :
    IsJson classes rules heap ref tree ↔ ∃ children, tree = .node ref children ∧
      ∃ entries, MappingOf classes rules heap [] items entries ∧
        PairsOf (IsJson classes rules heap) (entries.map Prod.snd) children := by
  constructor
  · intro json
    cases json with
    | leaf closed => simp [found, JsonLeaf] at closed
    | mapping same mapping all =>
      obtain rfl := PyObject.frozenJsonDict.inj (found.symm.trans same)
      exact ⟨_, rfl, _, mapping, all⟩
    | list other => simp [found] at other
  · rintro ⟨children, rfl, entries, mapping, all⟩
    exact .mapping found mapping all

private theorem isJson_list_iff {ref : Ref} {items : List Ref}
    (found : heap ref = .frozenJsonList items) (tree : WalkTree Ref) :
    IsJson classes rules heap ref tree ↔ ∃ children, tree = .node ref children ∧
      AllOf (IsJson classes rules heap) items children := by
  constructor
  · intro json
    cases json with
    | leaf closed => simp [found, JsonLeaf] at closed
    | mapping other => simp [found] at other
    | list same all =>
      obtain rfl := PyObject.frozenJsonList.inj (found.symm.trans same)
      exact ⟨_, rfl, all⟩
  · rintro ⟨children, rfl, all⟩
    exact .list found all

/-- The JSON walk accepts exactly the JSON trees. -/
private theorem accepts_json (levels : ℕ) (ref : Ref) :
    Accepts (isEmptyTuple heap) maxPayloadEdges levels
    (jsonPayloadIsClosed classes rules heap levels ref)
      (IsJson classes rules heap ref) := by
  classical
  induction levels generalizing ref with
  | zero => exact accepts_zero
  | succ levels ih =>
    have node : (∀ items, heap ref ≠ .tuple items) → isEmptyTuple heap ref = false :=
      isEmptyTuple_eq_false
    cases found : heap ref with
    | frozenJsonDict items =>
      have unfolds : jsonPayloadIsClosed classes rules heap (levels + 1) ref =
          validateNode (isEmptyTuple heap) ref
          (validateMapping classes rules heap levels (jsonPayloadIsClosed classes rules heap levels)
              [] items) := by
        funext s
        simp only [jsonPayloadIsClosed, found]
      rw [unfolds]
      refine (accepts_node (node (by simp [found])) (acceptsAll_validateMapping ih [] items)).congr
        fun tree => ?_
      exact (isJson_mapping_iff found tree).symm
    | frozenJsonList items =>
      have unfolds : jsonPayloadIsClosed classes rules heap (levels + 1) ref =
          validateNode (isEmptyTuple heap) ref
          (visitAll maxPayloadEdges levels (jsonPayloadIsClosed classes rules heap levels)
              items) := by
        funext s
        simp only [jsonPayloadIsClosed, found]
      rw [unfolds]
      refine (accepts_node (node (by simp [found])) (acceptsAll_visitAll ih items)).congr
        fun tree => ?_
      exact (isJson_list_iff found tree).symm
    | scalar value =>
      have same : ∀ tree, IsJson classes rules heap ref tree ↔
          tree = .leaf ∧ JsonLeaf rules (heap ref) :=
        isJson_leaf_iff (by simp [found]) (by simp [found])
      rw [found] at same
      have unfolds : jsonPayloadIsClosed classes rules heap (levels + 1) ref =
          fun s => if JsonLeaf rules (.scalar value) then some s else none := by
        funext s
        by_cases leaf : JsonLeaf rules (.scalar value) <;> cases value <;>
          simp_all [jsonPayloadIsClosed, JsonLeaf]
      rw [unfolds]
      exact accepts_ite same
    | timedelta | datetime | uuid | enumMember | model | tuple | other =>
      have unfolds : jsonPayloadIsClosed classes rules heap (levels + 1) ref = fun _ => none := by
        funext s
        simp only [jsonPayloadIsClosed, found]
      rw [unfolds]
      refine accepts_none fun tree json => ?_
      have leaf := (isJson_leaf_iff (by simp [found]) (by simp [found]) tree).mp json
      simp [found, JsonLeaf] at leaf

section Inversion

variable {ref : Ref} {allow : Bool} {items : List Ref} {object : ModelObject}

theorem isPayload_leaf_iff (mapping : ∀ items, heap ref ≠ .frozenJsonDict items)
    (list : ∀ items, heap ref ≠ .frozenJsonList items) (tuple : ∀ items, heap ref ≠ .tuple items)
    (model : ∀ object, heap ref ≠ .model object) (tree : WalkTree Ref) :
    IsPayload classes rules heap allow ref tree ↔
      tree = .leaf ∧ PayloadLeaf classes rules heap allow ref (heap ref) := by
  constructor
  · intro payload
    cases payload with
    | leaf closed => exact ⟨rfl, closed⟩
    | json found => exact absurd found (not_or.mpr ⟨mapping _, list _⟩)
    | tuple found => exact absurd found (tuple _)
    | model found => exact absurd found (model _)
  · rintro ⟨rfl, closed⟩
    exact .leaf closed

theorem isPayload_json_iff
    (found : heap ref = .frozenJsonDict items ∨ heap ref = .frozenJsonList items)
    (tree : WalkTree Ref) : IsPayload classes rules heap allow ref tree ↔
    IsJson classes rules heap ref tree := by
  constructor
  · intro payload
    cases payload with
    | leaf closed => obtain found | found := found <;> simp [found, PayloadLeaf] at closed
    | json _ json => exact json
    | tuple other => obtain found | found := found <;> simp [found] at other
    | model other => obtain found | found := found <;> simp [found] at other
  · exact .json found

theorem isPayload_tuple_iff (found : heap ref = .tuple items) (tree : WalkTree Ref) :
    IsPayload classes rules heap allow ref tree ↔ ∃ children, tree = .node ref children ∧
      AllOf (IsPayload classes rules heap false) items children := by
  constructor
  · intro payload
    cases payload with
    | leaf closed => simp [found, PayloadLeaf] at closed
    | json other => simp [found] at other
    | tuple same all =>
      obtain rfl := PyObject.tuple.inj (found.symm.trans same)
      exact ⟨_, rfl, all⟩
    | model other => simp [found] at other
  · rintro ⟨children, rfl, all⟩
    exact .tuple found all

private theorem isPayload_model_iff (found : heap ref = .model object) (tree : WalkTree Ref) :
    IsPayload classes rules heap allow ref tree ↔ ∃ children, tree = .node ref children ∧
      ∃ fieldNames fields, classes.modelFields object.modelType = some fieldNames ∧
        object.storageIsClosed fieldNames = true ∧ FieldsOf rules heap object fieldNames fields ∧
        AllOf (fun field => IsPayload classes rules heap field.1 field.2) fields children := by
  constructor
  · intro payload
    cases payload with
    | leaf closed => simp [found, PayloadLeaf] at closed
    | json other => simp [found] at other
    | tuple other => simp [found] at other
    | model same canonical closed holds all =>
      obtain rfl := PyObject.model.inj (found.symm.trans same)
      exact ⟨_, rfl, _, _, canonical, closed, holds, all⟩
  · rintro ⟨children, rfl, fieldNames, fields, canonical, closed, holds, all⟩
    exact .model found canonical closed holds all

end Inversion

/-- Visiting the fields by name is visiting what they hold. -/
private theorem allOf_fields_iff {admits : Bool → Ref → WalkTree Ref → Prop} {object : ModelObject}
    {fieldNames : List String} {children : Forest Ref} :
    AllOf (fun fieldName tree => ∃ field allow, object.stored fieldName = some field ∧
        fieldIdentity rules heap fieldName field = some allow ∧
        admits allow field tree) fieldNames children ↔
      ∃ fields, FieldsOf rules heap object fieldNames fields ∧
      AllOf (fun field => admits field.1 field.2) fields children := by
  constructor
  · intro all
    induction all with
    | nil => exact ⟨[], .nil, .nil⟩
    | cons first _ ih =>
      obtain ⟨field, allow, stored, identity, admitted⟩ := first
      obtain ⟨fields, holds, all⟩ := ih
      exact ⟨(allow, field) :: fields, .cons ⟨stored, identity⟩ holds, .cons admitted all⟩
  · rintro ⟨fields, holds, all⟩
    induction all generalizing fieldNames with
    | nil =>
      cases holds
      exact .nil
    | cons admitted _ ih =>
      cases holds with
      | cons first holds => exact .cons ⟨_, _, first.1, first.2, admitted⟩ (ih holds)

/-- What is visited for one field of a model. -/
private theorem accepts_field {visit : Bool → Ref → State Ref → Option (State Ref)}
    {admits : Bool → Ref → WalkTree Ref → Prop}
    (each : ∀ allow ref,
      Accepts (isEmptyTuple heap) maxPayloadEdges levels (visit allow ref) (admits allow ref))
    (object : ModelObject) (fieldName : String) :
    Accepts (isEmptyTuple heap) maxPayloadEdges levels
      (fun s => do
        let field ← object.stored fieldName
        visit (← fieldIdentity rules heap fieldName field) field s)
      fun tree => ∃ field allow, object.stored fieldName = some field ∧
        fieldIdentity rules heap fieldName field = some allow ∧ admits allow field tree := by
  cases stored : object.stored fieldName with
  | none => exact accepts_none fun tree => by simp
  | some field =>
    simp only [Option.bind_eq_bind, Option.bind_some]
    cases identity : fieldIdentity rules heap fieldName field with
    | none =>
      refine accepts_none fun tree => ?_
      rintro ⟨_, _, same, permitted, _⟩
      obtain rfl := Option.some.inj same
      simp [identity] at permitted
    | some allow =>
      simp only [Option.bind_some]
      refine (each allow field).congr fun tree =>
        ⟨fun admitted => ⟨field, allow, rfl, identity, admitted⟩, ?_⟩
      rintro ⟨_, _, same, found, admitted⟩
      obtain rfl := Option.some.inj same
      obtain rfl := Option.some.inj (identity.symm.trans found)
      exact admitted

/-- The payload walk accepts exactly the payload trees. -/
private theorem accepts_payload (levels : ℕ) (allow : Bool) (ref : Ref) :
    Accepts (isEmptyTuple heap) maxPayloadEdges levels
    (payloadTreeIsClosed classes rules heap levels allow ref)
      (IsPayload classes rules heap allow ref) := by
  classical
  induction levels generalizing allow ref with
  | zero => exact accepts_zero
  | succ levels ih =>
    have node : (∀ items, heap ref ≠ .tuple items) → isEmptyTuple heap ref = false :=
      isEmptyTuple_eq_false
    cases found : heap ref with
    | frozenJsonDict items | frozenJsonList items =>
      have unfolds : payloadTreeIsClosed classes rules heap (levels + 1) allow ref =
          jsonPayloadIsClosed classes rules heap (levels + 1) ref := by
        funext s
        simp only [payloadTreeIsClosed, found]
      rw [unfolds]
      have kind : heap ref = .frozenJsonDict items ∨ heap ref = .frozenJsonList items := by
        simp [found]
      exact (accepts_json (levels + 1) ref).congr fun tree => (isPayload_json_iff kind tree).symm
    | tuple items =>
      have unfolds : payloadTreeIsClosed classes rules heap (levels + 1) allow ref =
          validateNode (isEmptyTuple heap) ref
          (visitAll maxPayloadEdges levels (payloadTreeIsClosed classes rules heap levels false)
              items) := by
        funext s
        simp only [payloadTreeIsClosed, found]
      rw [unfolds]
      cases items with
      | nil =>
        have repeats : isEmptyTuple heap ref = true := by simp [isEmptyTuple, found]
        refine (accepts_repeated repeats (Nat.succ_pos levels)).congr fun tree => ?_
        rw [isPayload_tuple_iff found]
        constructor
        · rintro rfl
          exact ⟨.nil, rfl, .nil⟩
        · rintro ⟨children, rfl, all⟩
          cases all
          rfl
      | cons item rest =>
        have once : isEmptyTuple heap ref = false := by simp [isEmptyTuple, found]
        refine (accepts_node once (acceptsAll_visitAll (ih false) (item :: rest))).congr
          fun tree => ?_
        exact (isPayload_tuple_iff found tree).symm
    | model object =>
      have once := node (by simp [found])
      cases canonical : classes.modelFields object.modelType with
      | none =>
        have unfolds : payloadTreeIsClosed classes rules heap (levels + 1) allow ref = fun _ =>
          none := by
          funext s
          simp only [payloadTreeIsClosed, found, canonical]
        rw [unfolds]
        refine accepts_none fun tree payload => ?_
        obtain ⟨_, _, _, _, known, _⟩ := (isPayload_model_iff found tree).mp payload
        simp [canonical] at known
      | some fieldNames =>
        have children := acceptsAll_visitAll (@accepts_field rules _ _ _ _ ih object) fieldNames
        by_cases closed : object.storageIsClosed fieldNames = true
        · have unfolds : payloadTreeIsClosed classes rules heap (levels + 1) allow ref =
              validateNode (isEmptyTuple heap) ref
                  (visitAll maxPayloadEdges levels (fun fieldName s => do
                let field ← object.stored fieldName
                payloadTreeIsClosed classes rules heap levels
                  (← fieldIdentity rules heap fieldName field) field s)
                fieldNames) := by
            funext s
            simp only [payloadTreeIsClosed, found, canonical, closed, Bool.not_true,
              Bool.false_eq_true, if_false]
          rw [unfolds]
          refine (accepts_node once children).congr fun tree => ?_
          rw [isPayload_model_iff found]
          simp only [allOf_fields_iff, canonical, Option.some.injEq]
          constructor
          · rintro ⟨forest, rfl, fields, holds, all⟩
            exact ⟨forest, rfl, fieldNames, fields, rfl, closed, holds, all⟩
          · rintro ⟨forest, rfl, _, fields, rfl, _, holds, all⟩
            exact ⟨forest, rfl, fields, holds, all⟩
        · have unfolds : payloadTreeIsClosed classes rules heap (levels + 1) allow ref =
              validateNode (isEmptyTuple heap) ref fun _ => none := by
            funext s
            simp only [payloadTreeIsClosed, found, canonical, closed, Bool.not_false, if_true]
          rw [unfolds]
          have refuses : AcceptsAll (isEmptyTuple heap) maxPayloadEdges levels
              (fun _ => none) fun _ => False :=
            acceptsAll_none fun _ => id
          refine (accepts_node once refuses).congr fun tree => ?_
          rw [isPayload_model_iff found]
          simp only [and_false, exists_false, false_iff]
          rintro ⟨_, _, _, _, known, opens, _⟩
          obtain rfl := Option.some.inj (canonical.symm.trans known)
          exact closed opens
    | scalar value =>
      have same : ∀ tree, IsPayload classes rules heap allow ref tree ↔
          tree = .leaf ∧ PayloadLeaf classes rules heap allow ref (heap ref) :=
        isPayload_leaf_iff (by simp [found]) (by simp [found]) (by simp [found]) (by simp [found])
      rw [found] at same
      have unfolds : payloadTreeIsClosed classes rules heap (levels + 1) allow ref =
          fun s => if PayloadLeaf classes rules heap allow ref (.scalar value) then some s
              else none := by
        funext s
        by_cases leaf : PayloadLeaf classes rules heap allow ref (.scalar value) <;> cases value <;>
          simp_all [payloadTreeIsClosed, PayloadLeaf]
      rw [unfolds]
      exact accepts_ite same
    | timedelta | datetime | uuid | enumMember | other =>
      have same : ∀ tree, IsPayload classes rules heap allow ref tree ↔
          tree = .leaf ∧ PayloadLeaf classes rules heap allow ref (heap ref) :=
        isPayload_leaf_iff (by simp [found]) (by simp [found]) (by simp [found]) (by simp [found])
      have unfolds : payloadTreeIsClosed classes rules heap (levels + 1) allow ref =
          fun s => if PayloadLeaf classes rules heap allow ref (heap ref) then some s
              else none := by
        funext s
        by_cases leaf : PayloadLeaf classes rules heap allow ref (heap ref) <;>
          rw [found] at leaf <;>
          simp_all [payloadTreeIsClosed, PayloadLeaf]
      rw [unfolds]
      exact accepts_ite same

/-- The walk from a root returns true exactly on the closed payloads. -/
theorem payloadIsClosed_iff {root : Ref} :
    payloadIsClosed classes rules heap root = true ↔ IsClosedPayload classes rules heap root := by
  unfold payloadIsClosed IsClosedPayload
  rw [accepts_initial (accepts_payload (maxPayloadDepth + 1) false root)]
  simp only [Nat.lt_succ_iff]

end MiniAgent.Evaluation
