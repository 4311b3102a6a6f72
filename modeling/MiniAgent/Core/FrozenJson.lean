import MiniAgent.Core.Common
import MiniAgent.Core.ObjectGraph
import MiniAgent.Library.Outcome

/-! # Freezing, thawing and searching JSON values

`freeze_json_value` and `thaw_json_value` rebuild a value along its object graph and remember which
containers they are inside, so that only a container that holds itself is refused. What they build
are new objects. The search for trusted names follows the same structure without such a memory.
-/

namespace MiniAgent.Core

/-- What a recursion along an object graph can fail with. -/
inductive JsonFailure
  /-- `ValueError("cyclic JSON container is not supported")` -/
  | cyclicContainer
  /-- `ValueError("JSON numbers must be finite")` -/
  | notFinite
  /-- `RecursionError` -/
  | recursionDepth
deriving DecidableEq, Repr

/-- `dict[key] = value` -/
def setItem : List (PyKey × PyValue) → PyKey → PyValue → List (PyKey × PyValue)
  | [], key, value => [(key, value)]
  | (other, stored) :: rest, key, value =>
    if other = key then (other, value) :: rest else (other, stored) :: setItem rest key value

/-- A dict comprehension over keys and values. -/
def dictOf (keys : List PyKey) (values : List PyValue) : PyValue :=
  let entries := (keys.zip values).foldl (fun entries entry => setItem entries entry.1 entry.2) []
  .mapping .dict (entries.map Prod.fst) (entries.map Prod.snd)

/-- `tuple.__new__(FrozenJsonDict, ...)` over keys and values. -/
def frozenDictOf (keys : List PyKey) (values : List PyValue) : PyValue :=
  .mapping .frozenJsonDict keys values

section Recursion

variable {Ref : Type} [DecidableEq Ref] (graph : ObjectGraph Ref)

/-- Both recursions: they differ in what they build of the rebuilt values of a mapping and of a
sequence. -/
def rebuildJsonValue (mappingOf : List PyKey → List PyValue → PyValue)
    (sequenceOf : List PyValue → PyValue) :
    ℕ → Finset Ref → Ref → Except JsonFailure PyValue
  | 0, _, _ => .error .recursionDepth
  | depth + 1, activeContainerIds, value =>
    match graph value with
    | .leaf leaf => if leaf = .float none then .error .notFinite else .ok (.leaf leaf)
    | .mapping _ entries =>
      if value ∈ activeContainerIds then .error .cyclicContainer
      else do
        let values ← (entries.map Prod.snd).mapM
          (rebuildJsonValue mappingOf sequenceOf depth (insert value activeContainerIds))
        return mappingOf (entries.map Prod.fst) values
    | .sequence _ items =>
      if value ∈ activeContainerIds then .error .cyclicContainer
      else do
        let values ← items.mapM
          (rebuildJsonValue mappingOf sequenceOf depth (insert value activeContainerIds))
        return sequenceOf values

/-- `freeze_json_value`, within some depth of the recursion. -/
def freezeJsonValue (depth : ℕ) (value : Ref) : Except JsonFailure PyValue :=
  rebuildJsonValue graph frozenDictOf (.sequence .frozenJsonList) depth ∅ value

/-- `thaw_json_value`, within some depth of the recursion. -/
def thawJsonValue (depth : ℕ) (value : Ref) : Except JsonFailure PyValue :=
  rebuildJsonValue graph dictOf (.sequence .list) depth ∅ value

omit [DecidableEq Ref] in
/-- The loop over what a container holds: the first field that is found ends it, and so does a
failure. -/
def firstField {Item : Type} (visit : Item → Option (Option String)) :
    List Item → Option (Option String)
  | [] => some none
  | item :: rest =>
    match visit item with
    | none => none
    | some none => firstField visit rest
    | some (some found) => some (some found)

/-- `find_trusted_argument_field`, within some depth of the recursion. -/
def findTrustedArgumentFieldBelow : ℕ → Ref → Option (Option String)
  | 0, _ => none
  | depth + 1, value =>
    match graph value with
    | .leaf _ => some none
    | .mapping _ entries => firstField (fun (key, nestedValue) =>
        if casefold key.text ∈ trustedArgumentFields then some (some (casefold key.text))
        else findTrustedArgumentFieldBelow depth nestedValue) entries
    | .sequence _ items => firstField (findTrustedArgumentFieldBelow depth) items

end Recursion

namespace PyValue

mutual

/-- The value with containers of these types. -/
def retyped (mappingType : MappingType) (sequenceType : SequenceType) : PyValue → PyValue
  | .leaf value => .leaf value
  | .mapping _ keys values => .mapping mappingType keys (retypedAll mappingType sequenceType values)
  | .sequence _ items => .sequence sequenceType (retypedAll mappingType sequenceType items)

def retypedAll (mappingType : MappingType) (sequenceType : SequenceType) :
    List PyValue → List PyValue
  | [] => []
  | value :: rest =>
    retyped mappingType sequenceType value :: retypedAll mappingType sequenceType rest

end

private theorem retypedAll_eq_map (mappingType : MappingType) (sequenceType : SequenceType)
    (values : List PyValue) :
    retypedAll mappingType sequenceType values = values.map (retyped mappingType sequenceType) := by
  induction values with
  | nil => rfl
  | cons value rest ih => rw [retypedAll, ih, List.map_cons]

/-- The form that freezing gives. -/
def frozen (value : PyValue) : PyValue := value.retyped .frozenJsonDict .frozenJsonList

/-- The form that thawing gives. -/
def thawed (value : PyValue) : PyValue := value.retyped .dict .list

/-- The leaves are JSON scalars with finite numbers, and the keys of each mapping are distinct. -/
inductive IsPlain : PyValue → Prop
  | leaf {value : PyLeaf} (finite : value ≠ .float none) : IsPlain (.leaf value)
  | mapping {type : MappingType} {keys : List PyKey} {values : List PyValue} (distinct : keys.Nodup)
      (each : ∀ value ∈ values, IsPlain value) : IsPlain (.mapping type keys values)
  | sequence {type : SequenceType} {items : List PyValue} (each : ∀ item ∈ items, IsPlain item) :
      IsPlain (.sequence type items)

/-- Two values are equal entry by entry, whatever the types of their containers are. -/
def SameContents (left right : PyValue) : Prop := left.thawed = right.thawed

private theorem retyped_retyped (first last : MappingType) (start final : SequenceType)
    (value : PyValue) :
    (value.retyped first start).retyped last final = value.retyped last final := by
  induction value using parts_induction with
  | step value ih =>
    cases value with
    | leaf leaf => rfl
    | mapping type keys values =>
      simp only [retyped, retypedAll_eq_map, List.map_map]
      exact congrArg (mapping last keys) (List.map_congr_left ih)
    | sequence type items =>
      simp only [retyped, retypedAll_eq_map, List.map_map]
      exact congrArg (sequence final) (List.map_congr_left ih)

private theorem IsPlain.retyped {value : PyValue} (plain : value.IsPlain)
    (mappingType : MappingType) (sequenceType : SequenceType) :
    (value.retyped mappingType sequenceType).IsPlain := by
  induction plain with
  | leaf finite => exact .leaf finite
  | mapping distinct _ ih =>
    rw [PyValue.retyped, retypedAll_eq_map]
    exact .mapping distinct (List.forall_mem_map.mpr ih)
  | sequence _ ih =>
    rw [PyValue.retyped, retypedAll_eq_map]
    exact .sequence (List.forall_mem_map.mpr ih)

private theorem sameContents_retyped (mappingType : MappingType) (sequenceType : SequenceType)
    (value : PyValue) :
    (value.retyped mappingType sequenceType).SameContents value := retyped_retyped _ _ _ _ value

end PyValue

private theorem setItem_of_new {entries : List (PyKey × PyValue)} {key : PyKey} {value : PyValue}
    (absent : key ∉ entries.map Prod.fst) :
    setItem entries key value = entries ++ [(key, value)] := by
  induction entries with
  | nil => rfl
  | cons entry rest ih =>
    obtain ⟨other, stored⟩ := entry
    rw [List.map_cons, List.mem_cons, not_or] at absent
    rw [setItem, if_neg fun same => absent.1 same.symm, ih absent.2, List.cons_append]

private theorem foldl_setItem_of_distinct {entries known : List (PyKey × PyValue)}
    (distinct : (entries.map Prod.fst).Nodup)
    (apart : ∀ key ∈ entries.map Prod.fst, key ∉ known.map Prod.fst) :
    entries.foldl (fun entries entry => setItem entries entry.1 entry.2) known = known ++
    entries := by
  induction entries generalizing known with
  | nil => simp
  | cons entry rest ih =>
    obtain ⟨key, value⟩ := entry
    obtain ⟨outside, distinct⟩ := List.nodup_cons.mp distinct
    obtain ⟨new, apart⟩ := List.forall_mem_cons.mp apart
    rw [List.foldl_cons, setItem_of_new new, ih distinct, List.append_assoc, List.singleton_append]
    intro other member
    rw [List.map_append, List.mem_append, not_or]
    refine ⟨apart other member, ?_⟩
    rw [List.map_singleton, List.mem_singleton]
    rintro rfl
    exact outside member

/-- With distinct keys a comprehension keeps every entry in its place. -/
private theorem dictOf_of_distinct {keys : List PyKey} {values : List PyValue}
    (distinct : keys.Nodup) (paired : keys.length = values.length) :
    dictOf keys values = .mapping .dict keys values := by
  have names : (keys.zip values).map Prod.fst = keys := List.map_fst_zip paired.le
  have stored : (keys.zip values).map Prod.snd = values := List.map_snd_zip paired.ge
  have kept : (keys.zip values).foldl (fun entries entry => setItem entries entry.1 entry.2) [] =
      keys.zip values := by
    have apart : ∀ key ∈ (keys.zip values).map Prod.fst,
      key ∉ ([] : List (PyKey × PyValue)).map Prod.fst := by simp
    rw [foldl_setItem_of_distinct (names.symm ▸ distinct) apart, List.nil_append]
  simp only [dictOf, kept, names, stored]

section Rebuilding

variable {Ref : Type} [DecidableEq Ref] {graph : ObjectGraph Ref} {ref : Ref}
  {value built : PyValue} {depth : ℕ}
  {active : Finset Ref} {mappingOf : List PyKey → List PyValue → PyValue}
  {sequenceOf : List PyValue → PyValue}

/-- Every number below the object is finite. -/
def FiniteBelow (graph : ObjectGraph Ref) (root : Ref) : Prop :=
  ∀ ref, graph.Reaches root ref → graph ref ≠ .leaf (.float none)

private theorem children_rebuilt
    (success : rebuildJsonValue graph mappingOf sequenceOf (depth + 1) active ref = .ok built) :
    graph ref ≠ .leaf (.float none) ∧ ∀ child, graph.Holds ref child →
      ∃ part, rebuildJsonValue graph mappingOf sequenceOf depth (insert ref active) child =
      .ok part := by
  rw [rebuildJsonValue] at success
  cases found : graph ref with
  | leaf leaf =>
    simp only [found] at success
    split_ifs at success with finite
    refine ⟨fun same => finite (HeapObject.leaf.inj same), fun child held => ?_⟩
    simp [ObjectGraph.Holds, found, HeapObject.children] at held
  | mapping type entries =>
    simp only [found] at success
    split_ifs at success with entered
    obtain ⟨values, each, -⟩ := Except.bind_eq_ok_iff.mp success
    refine ⟨by simp, fun child held => ?_⟩
    rw [ObjectGraph.Holds, found] at held
    obtain ⟨part, -, made⟩ := Keyed.exists_of_forall₂_left (Except.mapM_eq_ok_iff.mp each) held
    exact ⟨part, made⟩
  | sequence type items =>
    simp only [found] at success
    split_ifs at success with entered
    obtain ⟨values, each, -⟩ := Except.bind_eq_ok_iff.mp success
    refine ⟨by simp, fun child held => ?_⟩
    rw [ObjectGraph.Holds, found] at held
    obtain ⟨part, -, made⟩ := Keyed.exists_of_forall₂_left (Except.mapM_eq_ok_iff.mp each) held
    exact ⟨part, made⟩

/-- A value that can be rebuilt has neither a cycle nor a number that is not finite. -/
private theorem sound_of_rebuilt
    (success : rebuildJsonValue graph mappingOf sequenceOf depth active ref = .ok built) :
    Acyclic.Ends graph.Holds ref ∧ FiniteBelow graph ref := by
  induction depth generalizing ref active built with
  | zero => cases success
  | succ depth ih =>
    obtain ⟨finite, each⟩ := children_rebuilt success
    constructor
    · refine ⟨_, fun child held => ?_⟩
      obtain ⟨part, made⟩ := each child held
      exact (ih made).1
    · intro other reaches
      rcases Relation.ReflTransGen.cases_head reaches with rfl | ⟨child, held, rest⟩
      · exact finite
      · obtain ⟨part, made⟩ := each child held
        exact (ih made).2 other rest

/-- The recursion goes no deeper than there are objects. -/
private theorem rebuild_ne_recursionDepth [Fintype Ref]
    (enough : Fintype.card Ref < depth + active.card) :
    rebuildJsonValue graph mappingOf sequenceOf depth active ref ≠ .error .recursionDepth := by
  suffices bounded : Except.ErrorsIn (· ≠ JsonFailure.recursionDepth)
      (rebuildJsonValue graph mappingOf sequenceOf depth active ref) from fun failed =>
        bounded _ failed rfl
  induction depth generalizing ref active with
  | zero =>
    have bound := Finset.card_le_univ active
    omega
  | succ depth ih =>
    have inside : ref ∉ active → ∀ child, Except.ErrorsIn (· ≠ JsonFailure.recursionDepth)
        (rebuildJsonValue graph mappingOf sequenceOf depth (insert ref active) child) := by
      intro outside child
      apply ih
      rw [Finset.card_insert_of_notMem outside]
      omega
    rw [rebuildJsonValue]
    cases graph ref with
    | leaf leaf =>
      dsimp only
      split_ifs
      · simp
      · exact Except.errorsIn_ok _
    | mapping type entries =>
      dsimp only
      split_ifs with entered
      · simp
      · refine (Except.ErrorsIn.mapM fun child _ => inside entered child).bind fun _ _ => ?_
        exact Except.errorsIn_ok _
    | sequence type items =>
      dsimp only
      split_ifs with entered
      · simp
      · refine (Except.ErrorsIn.mapM fun child _ => inside entered child).bind fun _ _ => ?_
        exact Except.errorsIn_ok _

/-- Rebuilding makes new containers of the same entries. -/
private theorem rebuild_stored {mappingType : MappingType} {sequenceType : SequenceType}
    (mappings : ∀ keys values, keys.Nodup → keys.length = values.length →
      mappingOf keys values = .mapping mappingType keys values)
    (sequences : ∀ items, sequenceOf items = .sequence sequenceType items)
    (stored : graph.Stores value ref) (plain : value.IsPlain) (enough : value.depth < depth)
    (apart : ∀ other ∈ active, ¬graph.Reaches ref other) :
    rebuildJsonValue graph mappingOf sequenceOf depth active ref =
    .ok (value.retyped mappingType sequenceType) := by
  induction value using PyValue.parts_induction generalizing ref depth active with
  | step value ih =>
    cases depth with
    | zero => exact absurd enough (Nat.not_lt_zero _)
    | succ depth =>
      have outside : ref ∉ active := fun met => apart ref met .refl
      have parts : ∀ part ∈ value.parts, part.IsPlain := by
        cases plain with
        | leaf _ => simp [PyValue.parts]
        | mapping _ each => exact each
        | sequence each => exact each
      have rebuilt : (graph ref).children.mapM
          (rebuildJsonValue graph mappingOf sequenceOf depth (insert ref active)) =
          .ok (value.parts.map (PyValue.retyped mappingType sequenceType)) := by
        rw [Except.mapM_eq_ok_iff, List.forall₂_map_right_iff]
        have held :=
          Keyed.forall₂_imp_of_mem_right stored.parts fun part child member
              (found : graph.Stores part child) =>
          And.intro (show graph.Holds ref child from member) found
        refine Keyed.forall₂_imp_of_mem_right held.flip fun child part member both => ?_
        obtain ⟨step, found⟩ := both
        refine ih part member found (parts part member) ?_ ?_
        · exact (PyValue.depth_lt_of_mem_parts member).trans_le (Nat.le_of_lt_succ enough)
        · intro other met back
          rcases Finset.mem_insert.mp met with rfl | earlier
          · exact stored.ends.not_cycle (Relation.TransGen.head' step back)
          · exact apart other earlier (.head step back)
      rw [rebuildJsonValue]
      cases stored with
      | leaf found =>
        rw [found]
        cases plain with
        | leaf finite => exact if_neg finite
      | mapping found each =>
        rw [found] at rebuilt ⊢
        dsimp only
        rw [if_neg outside]
        refine Except.bind_eq_ok_iff.mpr ⟨_, rebuilt, ?_⟩
        cases plain with
        | mapping distinct _ =>
          rw [mappings _ _ distinct, PyValue.retyped, PyValue.retypedAll_eq_map]
          · rfl
          · have paired := each.length_eq
            simp only [List.length_map, PyValue.parts] at paired ⊢
            exact paired.symm
      | sequence found each =>
        rw [found] at rebuilt ⊢
        dsimp only
        rw [if_neg outside]
        refine Except.bind_eq_ok_iff.mpr ⟨_, rebuilt, ?_⟩
        rw [sequences, PyValue.retyped, PyValue.retypedAll_eq_map]
        rfl

private theorem freeze_stored (stored : graph.Stores value ref) (plain : value.IsPlain)
    (enough : value.depth < depth) :
    freezeJsonValue graph depth ref = .ok value.frozen :=
  rebuild_stored (fun _ _ _ _ => rfl) (fun _ => rfl) stored plain enough (by simp)

private theorem thaw_stored (stored : graph.Stores value ref) (plain : value.IsPlain)
    (enough : value.depth < depth) :
    thawJsonValue graph depth ref = .ok value.thawed :=
  rebuild_stored (fun _ _ => dictOf_of_distinct) (fun _ => rfl) stored plain enough (by simp)

end Rebuilding

/-- A JSON scalar, a mapping with distinct strings as keys, or a list. -/
def isJsonObject {Ref : Type} : HeapObject Ref → Bool
  | .leaf value => value != .other
  | .mapping _ entries => (entries.map Prod.fst).all (·.isExactStr) &&
      decide (entries.map Prod.fst).Nodup
  | .sequence type _ => type != .other

/-- A graph of string-keyed mappings, lists and JSON scalars, perhaps with shared objects and
cycles. -/
structure JsonGraph (Ref : Type) where
  object : ObjectGraph Ref
  isJson : ∀ ref, isJsonObject (object ref) = true

theorem JsonGraph.plain {Ref : Type} (graph : JsonGraph Ref) {ref : Ref} {value : PyValue}
    (stored : graph.object.Stores value ref) (finite : FiniteBelow graph.object ref) :
    value.IsPlain := by
  induction value using PyValue.parts_induction generalizing ref with
  | step value ih =>
    have parts : ∀ part ∈ value.parts, part.IsPlain := by
      intro part member
      obtain ⟨child, held, found⟩ := stored.exists_child member
      exact ih part member found fun other reaches => finite other (.head held reaches)
    cases stored with
    | leaf found => exact .leaf fun same => finite ref .refl (found.trans (congrArg _ same))
    | mapping found each =>
      have json := graph.isJson ref
      rw [found, isJsonObject, Bool.and_eq_true, decide_eq_true_eq] at json
      exact .mapping json.2 parts
    | sequence found each => exact .sequence parts

namespace PyValue

mutual

/-- The value as JSON with nulls at its leaves: all that the search for names sees. -/
def outline : PyValue → Json
  | .leaf _ => .null
  | .mapping _ keys values => .object ((keys.map PyKey.text).zip (outlineAll values))
  | .sequence _ items => .array (outlineAll items)

def outlineAll : List PyValue → List Json
  | [] => []
  | value :: rest => outline value :: outlineAll rest

end

private theorem outline_retyped (mappingType : MappingType) (sequenceType : SequenceType)
    (value : PyValue) :
    (value.retyped mappingType sequenceType).outline = value.outline := by
  have each : ∀ values : List PyValue,
      (∀ value ∈ values, (value.retyped mappingType sequenceType).outline = value.outline) →
      outlineAll (values.map (retyped mappingType sequenceType)) = outlineAll values := by
    intro values same
    induction values with
    | nil => rfl
    | cons value rest ih =>
      obtain ⟨first, others⟩ := List.forall_mem_cons.mp same
      rw [List.map_cons, outlineAll, outlineAll, first, ih others]
  induction value using parts_induction with
  | step value ih =>
    cases value with
    | leaf leaf => rfl
    | mapping type keys values => rw [retyped, outline, outline, retypedAll_eq_map, each values ih]
    | sequence type items => rw [retyped, outline, outline, retypedAll_eq_map, each items ih]

end PyValue

section Searching

variable {Ref : Type} {graph : ObjectGraph Ref} {ref root : Ref} {value : PyValue} {depth : ℕ}

private theorem firstField_eq_none {Item : Type} {visit : Item → Option (Option String)}
    {items : List Item} :
    firstField visit items = some none ↔ ∀ item ∈ items, visit item = some none := by
  induction items with
  | nil => simp [firstField]
  | cons item rest ih =>
    rw [firstField, List.forall_mem_cons]
    rcases visit item with _ | _ | found <;> simp [ih]

private theorem exists_of_firstField {Item : Type} {visit : Item → Option (Option String)}
    {items : List Item} {found : String} (success : firstField visit items = some (some found)) :
    ∃ item ∈ items, visit item = some (some found) := by
  induction items with
  | nil => cases success
  | cons item rest ih =>
    rw [firstField] at success
    cases visited : visit item with
    | none => simp [visited] at success
    | some outcome =>
      cases outcome with
      | none =>
        obtain ⟨other, member, later⟩ := ih (by simpa [visited] using success)
        exact ⟨other, List.mem_cons_of_mem _ member, later⟩
      | some first => exact ⟨item, List.mem_cons_self, by simpa [visited] using success⟩

/-- The key is a trusted name up to case. -/
def IsTrustedName (key : PyKey) : Prop := ∃ name ∈ trustedArgumentFields,
    casefold key.text = casefold name

private theorem isTrustedName_iff {key : PyKey} : IsTrustedName key ↔
    casefold key.text ∈ trustedArgumentFields := by
  have folded : ∀ name ∈ trustedArgumentFields, casefold name = name := by decide
  constructor
  · rintro ⟨name, member, same⟩
    rwa [same, folded name member]
  · exact fun member => ⟨_, member, (folded _ member).symm⟩

/-- Some mapping at some depth has a trusted name as a key. -/
def NamesTrustedField (graph : ObjectGraph Ref) (root : Ref) : Prop :=
  ∃ ref type entries, graph.Reaches root ref ∧ graph ref = .mapping type entries ∧
    ∃ entry ∈ entries, IsTrustedName entry.1

private theorem NamesTrustedField.of_holds {child : Ref} (held : graph.Holds ref child)
    (names : NamesTrustedField graph child) :
    NamesTrustedField graph ref := by
  obtain ⟨other, type, entries, reaches, rest⟩ := names
  exact ⟨other, type, entries, .head held reaches, rest⟩

private theorem names_of_found {found : String}
    (success : findTrustedArgumentFieldBelow graph depth ref = some (some found)) :
    NamesTrustedField graph ref := by
  induction depth generalizing ref with
  | zero => cases success
  | succ depth ih =>
    rw [findTrustedArgumentFieldBelow] at success
    cases object : graph ref with
    | leaf leaf => simp [object] at success
    | mapping type entries =>
      simp only [object] at success
      obtain ⟨entry, member, visited⟩ := exists_of_firstField success
      split_ifs at visited with trusted
      · exact ⟨ref, type, entries, .refl, object, entry, member, isTrustedName_iff.mpr trusted⟩
      · refine (ih visited).of_holds ?_
        rw [ObjectGraph.Holds, object]
        exact List.mem_map_of_mem member
    | sequence type items =>
      simp only [object] at success
      obtain ⟨item, member, visited⟩ := exists_of_firstField success
      refine (ih visited).of_holds ?_
      rw [ObjectGraph.Holds, object]
      exact member

private theorem not_names_of_none
    (success : findTrustedArgumentFieldBelow graph depth ref = some none) :
    ¬NamesTrustedField graph ref := by
  induction depth generalizing ref with
  | zero => cases success
  | succ depth ih =>
    rw [findTrustedArgumentFieldBelow] at success
    rintro ⟨other, type, entries, reaches, found, entry, member, trusted⟩
    rw [isTrustedName_iff] at trusted
    cases object : graph ref with
    | leaf leaf =>
      rcases Relation.ReflTransGen.cases_head reaches with rfl | ⟨child, held, -⟩
      · cases object.symm.trans found
      · simp [ObjectGraph.Holds, object, HeapObject.children] at held
    | mapping first firstEntries =>
      simp only [object, firstField_eq_none] at success
      rcases Relation.ReflTransGen.cases_head reaches with rfl | ⟨child, held, rest⟩
      · obtain ⟨rfl, rfl⟩ := HeapObject.mapping.inj (object.symm.trans found)
        have visited := success entry member
        simp [trusted] at visited
      · rw [ObjectGraph.Holds, object] at held
        obtain ⟨holder, listed, rfl⟩ := List.mem_map.mp held
        have visited := success holder listed
        split_ifs at visited with own
        · cases visited
        · exact ih visited ⟨other, type, entries, rest, found, entry, member,
            isTrustedName_iff.mpr trusted⟩
    | sequence first items =>
      simp only [object, firstField_eq_none] at success
      rcases Relation.ReflTransGen.cases_head reaches with rfl | ⟨child, held, rest⟩
      · cases object.symm.trans found
      · rw [ObjectGraph.Holds, object] at held
        exact ih (success child held) ⟨other, type, entries, rest, found, entry, member,
          isTrustedName_iff.mpr trusted⟩

/-- Below an object the search is the search in its value. -/
private theorem find_stored (stored : graph.Stores value ref) (enough : value.depth < depth) :
    findTrustedArgumentFieldBelow graph depth ref =
    some (findTrustedArgumentField value.outline) := by
  induction value using PyValue.parts_induction generalizing ref depth with
  | step value ih =>
    cases depth with
    | zero => exact absurd enough (Nat.not_lt_zero _)
    | succ depth =>
      have inside : ∀ part ∈ value.parts, ∀ child, graph.Stores part child →
          findTrustedArgumentFieldBelow graph depth child =
              some (findTrustedArgumentField part.outline) :=
        fun part member child found =>
          ih part member found
            ((PyValue.depth_lt_of_mem_parts member).trans_le (Nat.le_of_lt_succ enough))
      rw [findTrustedArgumentFieldBelow]
      cases stored with
      | leaf found => simp [found, PyValue.outline, findTrustedArgumentField]
      | @mapping type entries values _ found each =>
        simp only [found, PyValue.outline, findTrustedArgumentField, PyValue.parts] at inside ⊢
        clear found enough ih
        induction entries generalizing values with
        | nil =>
          cases each
          rfl
        | cons entry rest onward =>
          cases each with
          | cons first others =>
            rename_i part parts
            obtain ⟨here, later⟩ := List.forall_mem_cons.mp inside
            simp only [firstField, List.map_cons, PyValue.outlineAll, List.zip_cons_cons,
              findTrustedArgumentFieldInFields]
            split_ifs with trusted
            · rfl
            · rw [here _ first]
              cases findTrustedArgumentField part.outline with
              | none => exact onward others later
              | some name => rfl
      | @sequence type items values _ found each =>
        simp only [found, PyValue.outline, findTrustedArgumentField, PyValue.parts] at inside ⊢
        clear found enough ih
        induction each with
        | nil => rfl
        | @cons part child parts rest first others onward =>
          obtain ⟨here, later⟩ := List.forall_mem_cons.mp inside
          rw [firstField, PyValue.outlineAll, findTrustedArgumentFieldInItems, here _ first]
          cases findTrustedArgumentField part.outline with
          | none => exact onward later
          | some name => rfl

end Searching

section Frozen

variable {Ref : Type} [Fintype Ref] [DecidableEq Ref] (graph : JsonGraph Ref) (root : Ref)

/-- Freezing fails for a cycle or for a number that is not finite, and for nothing else. -/
private theorem freeze_fails_iff {depth : ℕ} (enough : Fintype.card Ref < depth) :
    (∃ failure, freezeJsonValue graph.object depth root = .error failure) ↔
      ¬graph.object.AcyclicBelow root ∨ ∃ ref, graph.object.Reaches root ref ∧
      graph.object ref = .leaf (.float none) := by
  constructor
  · rintro ⟨failure, failed⟩
    by_contra sound
    push Not at sound
    obtain ⟨acyclic, finite⟩ := sound
    obtain ⟨value, stored⟩ := ObjectGraph.stores_iff_acyclicBelow.mpr acyclic
    have success :=
      freeze_stored stored (graph.plain stored finite) (stored.depth_le.trans_lt enough)
    cases failed.symm.trans success
  · intro unsound
    cases outcome : freezeJsonValue graph.object depth root with
    | error failure => exact ⟨failure, rfl⟩
    | ok frozen =>
      obtain ⟨ends, finite⟩ := sound_of_rebuilt outcome
      rcases unsound with cyclic | ⟨ref, reaches, infinite⟩
      · exact absurd ends.acyclicFrom cyclic
      · exact absurd infinite (finite ref reaches)

/-- A frozen value is the original with frozen containers. -/
private theorem exists_original {depth : ℕ} {frozen : PyValue} (enough : Fintype.card Ref < depth)
    (success : freezeJsonValue graph.object depth root = .ok frozen) :
    ∃ original, graph.object.Stores original root ∧ original.IsPlain ∧
    frozen = original.frozen := by
  obtain ⟨ends, finite⟩ := sound_of_rebuilt success
  obtain ⟨original, stored⟩ := ObjectGraph.exists_stores ends
  have plain := graph.plain stored finite
  have again := freeze_stored stored plain (stored.depth_le.trans_lt enough)
  exact ⟨original, stored, plain, Except.ok.inj (success.symm.trans again)⟩

/-- Wherever the frozen value is stored, it thaws to the original's contents and freezes to
itself. -/
def ThawsBack (original frozen : PyValue) : Prop :=
  ∀ (Place : Type) [DecidableEq Place] (heap : ObjectGraph Place) (place : Place),
    heap.Stores frozen place → ∀ depth, frozen.depth < depth →
      (∃ thawed, thawJsonValue heap depth place = .ok thawed ∧ thawed.SameContents original) ∧
        freezeJsonValue heap depth place = .ok frozen

/-- Wherever the value is stored, the search for trusted names in it ends with this answer. -/
def SearchAnswers (value : PyValue) (answer : Option String) : Prop :=
  ∀ (Place : Type) (heap : ObjectGraph Place) (place : Place), heap.Stores value place →
    ∀ depth, value.depth < depth → findTrustedArgumentFieldBelow heap depth place = some answer

private theorem thawsBack_frozen {original : PyValue} (plain : original.IsPlain) :
    ThawsBack original original.frozen := by
  intro Place _ heap place stored depth enough
  have frozenPlain : original.frozen.IsPlain := plain.retyped _ _
  refine ⟨⟨_, thaw_stored stored frozenPlain enough, ?_⟩, ?_⟩
  · exact (PyValue.sameContents_retyped _ _ _).trans (PyValue.sameContents_retyped _ _ _)
  · rw [freeze_stored stored frozenPlain enough]
    exact congrArg Except.ok (PyValue.retyped_retyped _ _ _ _ original)

private theorem searchAnswers_retyped (mappingType : MappingType) (sequenceType : SequenceType)
    (value : PyValue) :
    SearchAnswers (value.retyped mappingType sequenceType)
    (findTrustedArgumentField value.outline) := by
  intro Place heap place stored depth enough
  rw [find_stored stored enough, PyValue.outline_retyped]

/-- With more room for the recursion than there are objects, freezing ends, and it fails exactly
where a cycle or a number that is not finite can be reached. What it gives thaws to an equal value
and freezes to itself. The search for trusted names answers alike for an acyclic value, its frozen
form and what that thaws to: it finds one exactly when some mapping at some depth has one as a
key. -/
theorem freeze_thaw_spec :
    (∀ depth, Fintype.card Ref < depth →
      freezeJsonValue graph.object depth root ≠ .error .recursionDepth ∧
      ((∃ failure, freezeJsonValue graph.object depth root = .error failure) ↔
        ¬graph.object.AcyclicBelow root ∨
        ∃ ref, graph.object.Reaches root ref ∧ graph.object ref = .leaf (.float none))) ∧
    (∀ depth frozen, Fintype.card Ref < depth →
      freezeJsonValue graph.object depth root = .ok frozen →
      ∃ original, graph.object.Stores original root ∧ frozen.SameContents original ∧
      ThawsBack original frozen) ∧
    (graph.object.AcyclicBelow root → ∃ answer,
      (∀ depth, Fintype.card Ref < depth →
        findTrustedArgumentFieldBelow graph.object depth root = some answer) ∧
      (answer.isSome = true ↔ NamesTrustedField graph.object root) ∧
      ∀ depth frozen, Fintype.card Ref < depth →
      freezeJsonValue graph.object depth root = .ok frozen →
        SearchAnswers frozen answer ∧
        ∀ (Place : Type) [DecidableEq Place] (heap : ObjectGraph Place) (place : Place)
          deep thawed, heap.Stores frozen place → frozen.depth < deep →
          thawJsonValue heap deep place = .ok thawed → SearchAnswers thawed answer) := by
  refine ⟨fun depth enough => ⟨?_, freeze_fails_iff graph root enough⟩, ?_, ?_⟩
  · exact rebuild_ne_recursionDepth (by simpa using enough)
  · intro depth frozen enough success
    obtain ⟨original, stored, plain, rfl⟩ := exists_original graph root enough success
    exact ⟨original, stored, PyValue.sameContents_retyped _ _ _, thawsBack_frozen plain⟩
  · intro acyclic
    obtain ⟨original, stored⟩ := ObjectGraph.stores_iff_acyclicBelow.mpr acyclic
    have found : ∀ depth, Fintype.card Ref < depth →
        findTrustedArgumentFieldBelow graph.object depth root =
        some (findTrustedArgumentField original.outline) :=
      fun depth enough => find_stored stored (stored.depth_le.trans_lt enough)
    refine ⟨_, found, ?_, ?_⟩
    · have here := found _ (Nat.lt_succ_self _)
      cases answer : findTrustedArgumentField original.outline with
      | none =>
        rw [answer] at here
        simpa using not_names_of_none here
      | some name =>
        rw [answer] at here
        simpa using names_of_found here
    · intro depth frozen enough success
      have plain : original.IsPlain := graph.plain stored (sound_of_rebuilt success).2
      have again := freeze_stored stored plain (stored.depth_le.trans_lt enough)
      obtain rfl : frozen = original.frozen := Except.ok.inj (success.symm.trans again)
      refine ⟨searchAnswers_retyped _ _ original, ?_⟩
      intro Place _ heap place deep thawed kept room thaws
      obtain rfl : original.frozen.thawed = thawed :=
        Except.ok.inj ((thaw_stored kept (plain.retyped _ _) room).symm.trans thaws)
      have answers := searchAnswers_retyped .dict .list original.frozen
      rwa [show original.frozen.outline = original.outline from
        PyValue.outline_retyped _ _ original] at answers

end Frozen

/-- A list that holds one mapping twice, and a list that holds itself beside the first one. -/
def sharingGraph : JsonGraph (Fin 4) where
  object
    | 0 => .sequence .list [1, 1]
    | 1 => .mapping .dict [(.str "order_id", 2)]
    | 2 => .leaf (.str "O-1001")
    | 3 => .sequence .list [0, 3]
  isJson := by decide

/-- An object may be held twice; one that holds itself is refused. -/
theorem freeze_thaw_spec_shared :
    (∃ original frozen, freezeJsonValue sharingGraph.object 5 0 = .ok frozen ∧
      sharingGraph.object.Stores original 0 ∧
      frozen.SameContents original ∧ ThawsBack original frozen) ∧
    ∃ failure, freezeJsonValue sharingGraph.object 5 3 = .error failure := by
  constructor
  · obtain ⟨frozen, success⟩ : ∃ frozen, freezeJsonValue sharingGraph.object 5 0 = .ok frozen :=
      Except.exists_ok_of_isOk (by decide)
    obtain ⟨original, stored, same, thaws⟩ :=
      (freeze_thaw_spec sharingGraph 0).2.1 5 frozen (by decide) success
    exact ⟨original, frozen, success, stored, same, thaws⟩
  · refine ((freeze_thaw_spec sharingGraph 3).1 5 (by decide)).2.mpr (.inl fun acyclic => ?_)
    have cyclic : sharingGraph.object.Holds 3 3 :=
      List.mem_cons_of_mem _ (List.mem_singleton_self _)
    exact acyclic 3 .refl (.single cyclic)

end MiniAgent.Core
