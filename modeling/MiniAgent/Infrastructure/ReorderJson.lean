import MiniAgent.Library.Json
import Mathlib.Data.List.Forall2
import Mathlib.Data.List.Nodup

/-! # Stored JSON in the order of a template

A JSON column does not keep the order of the keys that were written. Before stored evidence is
decoded, its keys are put into the order of a template that the decoder expects, at every depth
where both have a mapping. Nothing but the order changes.
-/

namespace MiniAgent.Infrastructure

mutual

/-- `_exact_run_reorder_json_like` -/
def exactRunReorderJsonLike (raw template : Json) : Json :=
  match template with
  | .object templateFields =>
    match raw with
    | .object fields =>
      let result := reorderFields fields templateFields
      .object (result ++ fields.filter fun field => field.1 ∉ result.map Prod.fst)
    | raw => raw
  | .array templateItems =>
    match raw with
    | .array items => .array (reorderItems items templateItems)
    | raw => raw
  | _ => raw

/-- The fields of the template that the raw mapping has, in the order of the template. -/
def reorderFields (fields : List (String × Json)) : List (String × Json) → List (String × Json)
  | [] => []
  | (key, template) :: rest =>
    match Json.lookup fields key with
    | some value => (key, exactRunReorderJsonLike value template) :: reorderFields fields rest
    | none => reorderFields fields rest

/-- An element without a template is compared with `None`, and stays as it is. -/
def reorderItems : List Json → List Json → List Json
  | [], _ => []
  | items, [] => items
  | item :: rest, template :: templates =>
    exactRunReorderJsonLike item template :: reorderItems rest templates

end

/-- No mapping has a key twice, as Python's mappings have not. -/
inductive KeysDistinct : Json → Prop
  | scalar {value : Json} (scalar : value.isScalar = true) : KeysDistinct value
  | array {items : List Json} (each : ∀ item ∈ items, KeysDistinct item) : KeysDistinct
      (.array items)
  | object {fields : List (String × Json)} (distinct : (fields.map Prod.fst).Nodup)
      (each : ∀ field ∈ fields, KeysDistinct field.2) : KeysDistinct (.object fields)

/-- Equality of JSON values: mappings with the same keys and equal values, in any order; lists with
equal elements in the same places; the same scalars. -/
inductive EqualJson : Json → Json → Prop
  | scalar {value : Json} (scalar : value.isScalar = true) : EqualJson value value
  | array {left right : List Json} (each : List.Forall₂ EqualJson left right) : EqualJson
      (.array left) (.array right)
  | object {left right : List (String × Json)}
      (keys : (left.map Prod.fst).Perm (right.map Prod.fst))
      (each : ∀ key leftValue rightValue, Json.lookup left key = some leftValue →
        Json.lookup right key = some rightValue → EqualJson leftValue rightValue) :
      EqualJson (.object left) (.object right)

/-- Where the template has a mapping too, the keys that it has come in its order; and so on
below. -/
inductive FollowsTemplate : Json → Json → Prop
  | object {fields templateFields : List (String × Json)}
      (order : ((fields.map Prod.fst).filter (· ∈ templateFields.map Prod.fst)).Sublist
        (templateFields.map Prod.fst))
      (each : ∀ key value template, Json.lookup fields key = some value →
        Json.lookup templateFields key = some template → FollowsTemplate value template) :
      FollowsTemplate (.object fields) (.object templateFields)
  | array {items templates : List Json}
      (each : ∀ (index : ℕ) (value template : Json), items[index]? = some value →
      templates[index]? = some template → FollowsTemplate value template) :
      FollowsTemplate (.array items) (.array templates)
  | unlike {value template : Json}
      (mappings : ∀ fields templateFields, value = .object fields →
        template ≠ .object templateFields)
      (lists : ∀ items templates, value = .array items → template ≠ .array templates) :
        FollowsTemplate value template

variable {fields templateFields : List (String × Json)} {key : String} {value template raw : Json}

theorem mem_of_lookup (found : Json.lookup fields key = some value) : (key, value) ∈ fields := by
  obtain ⟨field, first, rfl⟩ := Option.map_eq_some_iff.mp found
  have same : field.1 = key := by simpa using List.find?_some first
  subst same
  exact List.mem_of_find?_eq_some first

theorem lookup_cons (other key : String) (value : Json) (rest : List (String × Json)) :
    Json.lookup ((other, value) :: rest) key = if other = key then some value
    else Json.lookup rest key := by
  by_cases same : other = key <;> simp [Json.lookup, same]

theorem lookup_eq_none_iff : Json.lookup fields key = none ↔ key ∉ fields.map Prod.fst := by
  induction fields with
  | nil => simp [Json.lookup]
  | cons field rest ih =>
    obtain ⟨other, stored⟩ := field
    rw [lookup_cons, List.map_cons, List.mem_cons, not_or, ← ih]
    split_ifs with same
    · simp [same]
    · simp [Ne.symm same]

private theorem exists_lookup (member : key ∈ fields.map Prod.fst) :
    ∃ value, Json.lookup fields key = some value := by
  rw [← Option.isSome_iff_exists, Option.isSome_iff_ne_none, ne_eq, lookup_eq_none_iff, not_not]
  exact member

private theorem lookup_of_mem (distinct : (fields.map Prod.fst).Nodup)
    (member : (key, value) ∈ fields) :
    Json.lookup fields key = some value := by
  obtain ⟨other, found⟩ := exists_lookup (List.mem_map_of_mem member)
  have pair := List.inj_on_of_nodup_map distinct (mem_of_lookup found) member rfl
  rw [found, (Prod.mk.inj pair).2]

private theorem lookup_append (left right : List (String × Json)) (key : String) :
    Json.lookup (left ++ right) key = (Json.lookup left key).or (Json.lookup right key) := by
  simp only [Json.lookup, List.find?_append]
  cases left.find? (·.1 == key) <;> rfl

/-- A filter on keys keeps what is stored under the keys that it keeps. -/
private theorem lookup_filter_key (fields : List (String × Json)) (keep : String → Bool)
    (key : String) :
    Json.lookup (fields.filter fun field => keep field.1) key = if keep key then
    Json.lookup fields key else none := by
  induction fields with
  | nil => simp [Json.lookup]
  | cons field rest ih =>
    obtain ⟨other, stored⟩ := field
    by_cases same : other = key
    · subst same
      cases kept : keep other <;> simp [kept, ih, lookup_cons]
    · cases kept : keep other <;> simp [kept, ih, lookup_cons, same]

theorem KeysDistinct.lookup (distinct : KeysDistinct (.object fields))
    (found : Json.lookup fields key = some value) :
    KeysDistinct value := by
  cases distinct with
  | scalar scalar => cases scalar
  | object _ each => exact each _ (mem_of_lookup found)

private theorem keys_reorderFields (fields templateFields : List (String × Json)) :
    (reorderFields fields templateFields).map Prod.fst =
      (templateFields.map Prod.fst).filter (· ∈ fields.map Prod.fst) := by
  induction templateFields with
  | nil => rfl
  | cons field rest ih =>
    obtain ⟨key, template⟩ := field
    rw [reorderFields, List.map_cons, List.filter_cons]
    cases found : Json.lookup fields key with
    | none =>
      rw [if_neg (by simpa using lookup_eq_none_iff.mp found)]
      exact ih
    | some value =>
      rw [if_pos (by simpa using List.mem_map_of_mem (f := Prod.fst) (mem_of_lookup found)), ← ih]
      rfl

private theorem lookup_reorderFields (fields templateFields : List (String × Json)) (key : String) :
    Json.lookup (reorderFields fields templateFields) key =
      (Json.lookup templateFields key).bind fun template =>
        (Json.lookup fields key).map fun value => exactRunReorderJsonLike value template := by
  induction templateFields with
  | nil => rfl
  | cons field rest ih =>
    obtain ⟨other, template⟩ := field
    rw [reorderFields, lookup_cons]
    by_cases same : other = key
    · subst same
      cases found : Json.lookup fields other with
      | none =>
        rw [if_pos rfl]
        refine lookup_eq_none_iff.mpr ?_
        rw [keys_reorderFields, List.mem_filter]
        simpa using fun _ _ => lookup_eq_none_iff.mp found
      | some value => simp [lookup_cons]
    · rw [if_neg same, ← ih]
      cases found : Json.lookup fields other with
      | none => rfl
      | some value => simp [lookup_cons, same]

/-- The reordered mapping: the fields of the template first, then the others as they were. -/
def reordered (fields templateFields : List (String × Json)) : List (String × Json) :=
  reorderFields fields templateFields ++ fields.filter fun field =>
    decide (field.1 ∉ templateFields.map Prod.fst)

theorem exactRunReorderJsonLike_object (fields templateFields : List (String × Json)) :
    exactRunReorderJsonLike (.object fields) (.object templateFields) =
    .object (reordered fields templateFields) := by
  rw [exactRunReorderJsonLike, reordered]
  congr 2
  refine List.filter_congr fun field member => ?_
  refine decide_eq_decide.mpr (not_congr ?_)
  rw [keys_reorderFields, List.mem_filter]
  simp [List.mem_map_of_mem (f := Prod.fst) member]

theorem lookup_reordered (fields templateFields : List (String × Json)) (key : String) :
    Json.lookup (reordered fields templateFields) key =
      (Json.lookup fields key).map fun value =>
        match Json.lookup templateFields key with
        | some template => exactRunReorderJsonLike value template
        | none => value := by
  rw [reordered, lookup_append, lookup_reorderFields,
    lookup_filter_key fields (fun key => decide (key ∉ templateFields.map Prod.fst))]
  cases wanted : Json.lookup templateFields key with
  | none =>
    rw [if_pos (by simpa using lookup_eq_none_iff.mp wanted)]
    cases Json.lookup fields key <;> rfl
  | some template =>
    rw [if_neg (by simpa using List.mem_map_of_mem (f := Prod.fst) (mem_of_lookup wanted))]
    cases Json.lookup fields key <;> rfl

theorem keys_reordered (fields templateFields : List (String × Json)) :
    (reordered fields templateFields).map Prod.fst =
      (templateFields.map Prod.fst).filter (· ∈ fields.map Prod.fst) ++
        (fields.map Prod.fst).filter (· ∉ templateFields.map Prod.fst) := by
  rw [reordered, List.map_append, keys_reorderFields]
  congr 1
  rw [List.filter_map]
  rfl

/-- The keys stay the same. -/
private theorem keys_perm (distinct : (fields.map Prod.fst).Nodup)
    (templateDistinct : (templateFields.map Prod.fst).Nodup) :
    (fields.map Prod.fst).Perm ((reordered fields templateFields).map Prod.fst) := by
  rw [keys_reordered]
  refine (List.perm_ext_iff_of_nodup distinct ?_).mpr fun key => ?_
  · refine (templateDistinct.filter _).append (distinct.filter _) fun key first second => ?_
    simp only [List.mem_filter, decide_eq_true_eq] at first second
    exact second.2 first.1
  · simp only [List.mem_append, List.mem_filter, decide_eq_true_eq]
    tauto

/-- The values directly inside. -/
def jsonParts : Json → List Json
  | .array items => items
  | .object fields => fields.map Prod.snd
  | _ => []

@[elab_as_elim]
theorem json_induction {motive : Json → Prop}
    (step : ∀ value, (∀ part ∈ jsonParts value, motive part) → motive value) (value : Json) :
    motive value :=
  @Json.rec motive (fun items => ∀ item ∈ items, motive item)
    (fun fields => ∀ part ∈ fields.map Prod.snd, motive part)
    (fun field => motive field.2) (step _ (by simp [jsonParts]))
      (fun _ => step _ (by simp [jsonParts]))
    (fun _ => step _ (by simp [jsonParts])) (fun _ _ => step _ (by simp [jsonParts]))
    (fun _ => step _ (by simp [jsonParts])) (fun _ _ _ => step _ (by simp [jsonParts]))
    (fun items each => step (.array items) each) (fun fields each => step (.object fields) each)
      (by simp)
    (fun _ _ first rest => List.forall_mem_cons.mpr ⟨first, rest⟩) (by simp)
    (fun _ _ first rest => List.forall_mem_cons.mpr ⟨first, rest⟩) (fun _ _ inside => inside) value

theorem mem_jsonParts_of_lookup (found : Json.lookup fields key = some value) :
    value ∈ jsonParts (.object fields) :=
  List.mem_map_of_mem (f := Prod.snd) (mem_of_lookup found)

theorem KeysDistinct.parts (distinct : KeysDistinct raw) :
    ∀ part ∈ jsonParts raw, KeysDistinct part := by
  cases distinct with
  | scalar scalar => cases raw <;> simp [jsonParts, Json.isScalar] at scalar ⊢
  | array each => exact each
  | object _ each => exact List.forall_mem_map.mpr each

theorem KeysDistinct.nodup (distinct : KeysDistinct (.object fields)) :
    (fields.map Prod.fst).Nodup := by
  cases distinct with
  | scalar scalar => cases scalar
  | object distinct _ => exact distinct

private theorem equalJson_refl (value : Json) : EqualJson value value := by
  induction value using json_induction with
  | step value ih =>
    cases value with
    | array items => exact .array (List.forall₂_same.mpr ih)
    | object fields =>
      refine .object (List.Perm.refl _) fun key left right found again => ?_
      obtain rfl := Option.some.inj (found.symm.trans again)
      exact ih left (mem_jsonParts_of_lookup found)
    | _ => exact .scalar rfl

/-- A template that is no container of the same sort leaves the value as it is. -/
private theorem reorder_of_unlike
    (mappings : ∀ fields templateFields, raw = .object fields → template ≠ .object templateFields)
    (lists : ∀ items templates, raw = .array items → template ≠ .array templates) :
    exactRunReorderJsonLike raw template = raw := by
  cases template with
  | object templateFields =>
    cases raw with
    | object fields => exact absurd rfl (mappings fields templateFields rfl)
    | _ => rfl
  | array templates =>
    cases raw with
    | array items => exact absurd rfl (lists items templates rfl)
    | _ => rfl
  | _ => rfl

theorem getElem?_reorderItems (items templates : List Json) (index : ℕ) :
    (reorderItems items templates)[index]? = items[index]?.map fun value =>
      match templates[index]? with
      | some template => exactRunReorderJsonLike value template
      | none => value := by
  induction items generalizing templates index with
  | nil => simp [reorderItems]
  | cons item rest ih =>
    cases templates with
    | nil => simp [reorderItems]
    | cons template templates =>
      cases index with
      | zero => simp [reorderItems]
      | succ index => simpa [reorderItems] using ih templates index

private theorem forall₂_reorderItems {items templates : List Json}
    (distinct : ∀ item ∈ items, KeysDistinct item)
    (each : ∀ template ∈ templates, ∀ item, KeysDistinct item →
      EqualJson item (exactRunReorderJsonLike item template)) :
    List.Forall₂ EqualJson items (reorderItems items templates) := by
  induction items generalizing templates with
  | nil =>
    rw [reorderItems]
    exact .nil
  | cons item rest ih =>
    cases templates with
    | nil => exact List.forall₂_same.mpr fun value _ => equalJson_refl value
    | cons template templates =>
      obtain ⟨itemDistinct, others⟩ := List.forall_mem_cons.mp distinct
      obtain ⟨first, later⟩ := List.forall_mem_cons.mp each
      rw [reorderItems]
      exact .cons (first item itemDistinct) (ih others later)

/-- What a template applies to: two mappings, two lists, or anything else. -/
private theorem reorder_cases (raw template : Json) :
    (∃ fields templateFields, raw = .object fields ∧ template = .object templateFields) ∨
      (∃ items templates, raw = .array items ∧ template = .array templates) ∨
      ((∀ fields templateFields, raw = .object fields → template ≠ .object templateFields) ∧
        ∀ items templates, raw = .array items → template ≠ .array templates) := by
  cases raw <;> cases template <;> simp

private theorem equalJson_reorder (templateDistinct : KeysDistinct template)
    (distinct : KeysDistinct raw) :
    EqualJson raw (exactRunReorderJsonLike raw template) := by
  induction template using json_induction generalizing raw with
  | step template ih =>
    rcases reorder_cases raw template with ⟨fields, templateFields, rfl, rfl⟩
        | ⟨items, templates, rfl, rfl⟩ |
        ⟨mappings, lists⟩
    · rw [exactRunReorderJsonLike_object]
      refine .object (keys_perm distinct.nodup templateDistinct.nodup) fun key left right found
        again => ?_
      rw [lookup_reordered, found, Option.map_some, Option.some.injEq] at again
      subst again
      cases wanted : Json.lookup templateFields key with
      | none => exact equalJson_refl left
      | some template =>
        exact ih template (mem_jsonParts_of_lookup wanted) (templateDistinct.lookup wanted)
          (distinct.lookup found)
    · refine .array (forall₂_reorderItems distinct.parts fun template member item itemDistinct =>
        ?_)
      exact ih template member (templateDistinct.parts template member) itemDistinct
    · rw [reorder_of_unlike mappings lists]
      exact equalJson_refl raw

private theorem followsTemplate_reorder (templateDistinct : KeysDistinct template) (raw : Json) :
    FollowsTemplate (exactRunReorderJsonLike raw template) template := by
  induction template using json_induction generalizing raw with
  | step template ih =>
    rcases reorder_cases raw template with ⟨fields, templateFields, rfl, rfl⟩
        | ⟨items, templates, rfl, rfl⟩ |
        ⟨mappings, lists⟩
    · rw [exactRunReorderJsonLike_object]
      refine .object ?_ fun key value template found wanted => ?_
      · have first : (((templateFields.map Prod.fst).filter (· ∈ fields.map Prod.fst)).filter
            (· ∈ templateFields.map Prod.fst)).Sublist (templateFields.map Prod.fst) :=
          (List.filter_sublist).trans List.filter_sublist
        have others : ((fields.map Prod.fst).filter (· ∉ templateFields.map Prod.fst)).filter
            (· ∈ templateFields.map Prod.fst) = [] := by
          simp
        rw [keys_reordered, List.filter_append, others, List.append_nil]
        exact first
      · rw [lookup_reordered, wanted] at found
        obtain ⟨stored, -, rfl⟩ := Option.map_eq_some_iff.mp found
        exact ih template (mem_jsonParts_of_lookup wanted) (templateDistinct.lookup wanted) stored
    · refine .array fun index value template found wanted => ?_
      rw [getElem?_reorderItems, wanted] at found
      obtain ⟨item, -, rfl⟩ := Option.map_eq_some_iff.mp found
      have member := List.mem_of_getElem? wanted
      exact ih template member (templateDistinct.parts template member) item
    · rw [reorder_of_unlike mappings lists]
      exact .unlike mappings lists

private theorem keysDistinct_reorder (templateDistinct : KeysDistinct template)
    (distinct : KeysDistinct raw) :
    KeysDistinct (exactRunReorderJsonLike raw template) := by
  induction template using json_induction generalizing raw with
  | step template ih =>
    rcases reorder_cases raw template with ⟨fields, templateFields, rfl, rfl⟩
        | ⟨items, templates, rfl, rfl⟩ |
        ⟨mappings, lists⟩
    · rw [exactRunReorderJsonLike_object]
      have nodup := (keys_perm distinct.nodup templateDistinct.nodup).nodup_iff.mp distinct.nodup
      refine .object nodup fun field member => ?_
      have found := lookup_of_mem nodup member
      rw [lookup_reordered] at found
      obtain ⟨stored, present, same⟩ := Option.map_eq_some_iff.mp found
      rw [← same]
      cases wanted : Json.lookup templateFields field.1 with
      | none => exact distinct.lookup present
      | some template =>
        exact ih template (mem_jsonParts_of_lookup wanted) (templateDistinct.lookup wanted)
          (distinct.lookup present)
    · refine .array fun item member => ?_
      obtain ⟨index, found⟩ := List.mem_iff_getElem?.mp member
      rw [getElem?_reorderItems] at found
      obtain ⟨stored, present, same⟩ := Option.map_eq_some_iff.mp found
      have storedDistinct := distinct.parts stored (List.mem_of_getElem? present)
      rw [← same]
      cases wanted : templates[index]? with
      | none => exact storedDistinct
      | some template =>
        have listed := List.mem_of_getElem? wanted
        exact ih template listed (templateDistinct.parts template listed) storedDistinct
    · rw [reorder_of_unlike mappings lists]
      exact distinct

/-- Fields are determined by their keys, in order, and by what is stored under them. -/
theorem fields_ext {left right : List (String × Json)}
    (keys : left.map Prod.fst = right.map Prod.fst) (distinct : (left.map Prod.fst).Nodup)
    (same : ∀ key, Json.lookup left key = Json.lookup right key) :
    left = right := by
  induction left generalizing right with
  | nil => exact (List.map_eq_nil_iff.mp keys.symm).symm
  | cons field rest ih =>
    cases right with
    | nil => cases keys
    | cons other others =>
      obtain ⟨key, value⟩ := field
      obtain ⟨otherKey, otherValue⟩ := other
      obtain ⟨rfl, restKeys⟩ := List.cons.inj keys
      obtain ⟨outside, distinct⟩ := List.nodup_cons.mp distinct
      have first := same key
      rw [lookup_cons, lookup_cons, if_pos rfl, if_pos rfl, Option.some.injEq] at first
      subst first
      rw [ih restKeys distinct fun wanted => ?_]
      by_cases here : key = wanted
      · subst here
        rw [lookup_eq_none_iff.mpr outside, lookup_eq_none_iff.mpr (restKeys ▸ outside)]
      · have later := same wanted
        rwa [lookup_cons, lookup_cons, if_neg here, if_neg here] at later

private theorem keys_reordered_again (distinct : (fields.map Prod.fst).Nodup)
    (templateDistinct : (templateFields.map Prod.fst).Nodup) :
    (reordered (reordered fields templateFields) templateFields).map Prod.fst =
      (reordered fields templateFields).map Prod.fst := by
  have kept : ∀ key, key ∈ (reordered fields templateFields).map Prod.fst ↔
      key ∈ fields.map Prod.fst :=
    fun key => (keys_perm distinct templateDistinct).mem_iff.symm
  have first : (templateFields.map Prod.fst).filter
      (· ∈ (reordered fields templateFields).map Prod.fst) =
      (templateFields.map Prod.fst).filter (· ∈ fields.map Prod.fst) :=
    List.filter_congr fun key _ => decide_eq_decide.mpr (kept key)
  have inside : ((templateFields.map Prod.fst).filter (· ∈ fields.map Prod.fst)).filter
      (· ∉ templateFields.map Prod.fst) = [] := by
    refine List.filter_eq_nil_iff.mpr fun key member => ?_
    simpa using (List.mem_filter.mp member).1
  have outside : ((fields.map Prod.fst).filter (· ∉ templateFields.map Prod.fst)).filter
      (· ∉ templateFields.map Prod.fst) = (fields.map Prod.fst).filter
          (· ∉ templateFields.map Prod.fst) :=
    List.filter_eq_self.mpr fun key member => (List.mem_filter.mp member).2
  rw [keys_reordered, first, keys_reordered fields templateFields, List.filter_append, inside,
    outside, List.nil_append]

private theorem reorder_reorder (templateDistinct : KeysDistinct template)
    (distinct : KeysDistinct raw) :
    exactRunReorderJsonLike (exactRunReorderJsonLike raw template) template =
    exactRunReorderJsonLike raw template := by
  induction template using json_induction generalizing raw with
  | step template ih =>
    rcases reorder_cases raw template with ⟨fields, templateFields, rfl, rfl⟩
        | ⟨items, templates, rfl, rfl⟩ |
        ⟨mappings, lists⟩
    · rw [exactRunReorderJsonLike_object, exactRunReorderJsonLike_object]
      have nodup := (keys_perm distinct.nodup templateDistinct.nodup).nodup_iff.mp distinct.nodup
      refine congrArg Json.object
        (fields_ext (keys_reordered_again distinct.nodup templateDistinct.nodup) ?_ fun key => ?_)
      · rw [keys_reordered_again distinct.nodup templateDistinct.nodup]
        exact nodup
      · rw [lookup_reordered (reordered fields templateFields), lookup_reordered]
        cases found : Json.lookup fields key with
        | none => rfl
        | some value =>
          cases wanted : Json.lookup templateFields key with
          | none => rfl
          | some template =>
            have again :=
              ih template (mem_jsonParts_of_lookup wanted) (templateDistinct.lookup wanted)
                (distinct.lookup found)
            exact congrArg some again
    · refine congrArg Json.array (List.ext_getElem? fun index => ?_)
      rw [getElem?_reorderItems (reorderItems items templates), getElem?_reorderItems]
      cases found : items[index]? with
      | none => rfl
      | some value =>
        cases wanted : templates[index]? with
        | none => rfl
        | some template =>
          have listed := List.mem_of_getElem? wanted
          have again := ih template listed (templateDistinct.parts template listed)
            (distinct.parts value (List.mem_of_getElem? found))
          exact congrArg some again
    · rw [reorder_of_unlike mappings lists, reorder_of_unlike mappings lists]

/-- Reordering gives an equal value, without a key twice, in the order of the template, and a second
time nothing changes. -/
theorem reorder_preserves_value (templateDistinct : KeysDistinct template)
    (distinct : KeysDistinct raw) :
    EqualJson raw (exactRunReorderJsonLike raw template) ∧
    KeysDistinct (exactRunReorderJsonLike raw template) ∧
      FollowsTemplate (exactRunReorderJsonLike raw template) template ∧
      exactRunReorderJsonLike (exactRunReorderJsonLike raw template) template =
      exactRunReorderJsonLike raw template :=
  ⟨equalJson_reorder templateDistinct distinct, keysDistinct_reorder templateDistinct distinct,
    followsTemplate_reorder templateDistinct raw, reorder_reorder templateDistinct distinct⟩

/-- A mapping with a key that the template lacks, and without one that it has. -/
theorem reorder_preserves_sample :
    let raw : Json := .object [("c", .null), ("b", .int 2), ("a", .array [.int 1])]
    let template : Json := .object [("a", .array []), ("d", .null), ("b", .object [])]
    exactRunReorderJsonLike raw template =
      .object [("a", .array [.int 1]), ("b", .int 2), ("c", .null)] ∧
      EqualJson raw (exactRunReorderJsonLike raw template) := by
  intro raw template
  have templateDistinct : KeysDistinct template := by
    refine .object (by decide) ?_
    simp only [List.mem_cons, List.not_mem_nil, or_false, forall_eq_or_imp, forall_eq]
    exact ⟨.array (by simp), .scalar rfl, .object (by simp) (by simp)⟩
  have distinct : KeysDistinct raw := by
    refine .object (by decide) ?_
    simp only [List.mem_cons, List.not_mem_nil, or_false, forall_eq_or_imp, forall_eq]
    exact ⟨.scalar rfl, .scalar rfl, .array (by simpa using KeysDistinct.scalar rfl)⟩
  exact ⟨by decide, (reorder_preserves_value templateDistinct distinct).1⟩

end MiniAgent.Infrastructure
