import MiniAgent.Library.Json
import Mathlib.Data.Int.Notation
import Mathlib.Data.List.Basic
import Mathlib.Data.List.Nodup

/-! # Shared primitives of the contract models

Every boundary object of the program is a frozen contract model: a record whose constructor
runs all of its validators and refuses anything else. `ContractModel` keeps the raw record and
its validators apart, so that the constructor (`construct`), the canonical re-validation and the
type of already validated values (`Validated`) all speak of the same checks.

A model's `validates` includes the validators of the models nested in it. Exact-type guards have
no counterpart: a value of a Lean structure has no other type, no undeclared attribute and no
missing field.
-/

namespace MiniAgent.Core

/-- An identity; only equality and the order of its canonical spelling are ever observed. -/
abbrev Uuid := ℕ

/-- A Python `str` whose code points are indexed, sliced or searched. -/
abbrev Text := List Char

/-- A `datetime`: the instant in microseconds, and the UTC offset when the value is aware. -/
structure Datetime where
  instant : ℤ
  utcOffset : Option ℤ
deriving DecidableEq, Repr

namespace Datetime

/-- The aware datetime at an instant with offset `+00:00`. -/
def utc (instant : ℤ) : Datetime := ⟨instant, some 0⟩

/-- Reject naive or non-UTC timestamps instead of silently normalizing them. -/
def requireUtc (value : Datetime) : Bool := value.utcOffset == some 0

@[simp] theorem requireUtc_utc (instant : ℤ) : (utc instant).requireUtc = true := rfl

end Datetime

/-- Two enum-like lists of the source are compared through `set(...)`. -/
def sameSet {α : Type*} [DecidableEq α] (left right : List α) : Bool :=
  left.all (· ∈ right) && right.all (· ∈ left)

@[simp] theorem sameSet_iff {α : Type*} [DecidableEq α] (left right : List α) :
    sameSet left right = true ↔ ∀ value, value ∈ left ↔ value ∈ right := by
  simp only [sameSet, Bool.and_eq_true, List.all_eq_true, decide_eq_true_eq]
  exact ⟨fun both value => ⟨both.1 value, both.2 value⟩,
    fun same => ⟨fun value => (same value).mp, fun value => (same value).mpr⟩⟩

/-- `len(values) == len(set(values))`. -/
def allDistinct {α : Type*} [DecidableEq α] (values : List α) : Bool := decide values.Nodup

@[simp] theorem allDistinct_iff {α : Type*} [DecidableEq α] (values : List α) :
    allDistinct values = true ↔ values.Nodup := decide_eq_true_iff

theorem sameSet_eq_of_perm {α : Type*} [DecidableEq α] {left right other : List α}
    (same : left.Perm right) :
    sameSet left other = sameSet right other ∧ sameSet other left = sameSet other right := by
  constructor <;> rw [Bool.eq_iff_iff] <;> simp only [sameSet_iff, same.mem_iff]

theorem allDistinct_eq_of_perm {α : Type*} [DecidableEq α] {left right : List α}
    (same : left.Perm right) :
    allDistinct left = allDistinct right := by
  rw [Bool.eq_iff_iff, allDistinct_iff, allDistinct_iff, same.nodup_iff]

/-- The validators of one model, those of its nested models included. -/
class ContractModel (Model : Type) where
  validates : Model → Bool

namespace ContractModel

variable {Model : Type} [ContractModel Model]

/-- The model's constructor; `none` is its `ValidationError`. -/
def construct (fields : Model) : Option Model :=
  if validates fields then some fields else none

theorem construct_eq_some {fields model : Model} :
    construct fields = some model ↔ validates fields = true ∧ model = fields := by
  unfold construct
  split
  · next valid => simp [valid, eq_comm]
  · next invalid => simp [invalid]

theorem construct_of_validates {fields : Model} (valid : validates fields = true) :
    construct fields = some fields := if_pos valid

/-- Dump the value, validate the dump again and compare: `_is_exact_canonical_model_v2`. -/
def isExactCanonicalModelV2 [DecidableEq Model] (value : Model) : Bool :=
  construct value == some value

@[simp] theorem isExactCanonicalModelV2_eq [DecidableEq Model] (value : Model) :
    isExactCanonicalModelV2 value = validates value := by
  unfold isExactCanonicalModelV2 construct
  cases validates value <;> simp

end ContractModel

/-- A model value that its constructor accepted. -/
structure Validated (Model : Type) [ContractModel Model] where
  value : Model
  valid : ContractModel.validates value = true

/-- The names that only the trusted runtime may supply. -/
def trustedArgumentFields : List String :=
  ["auth_scope", "auth_scopes", "authorization_scope", "customer_id", "idempotency_key",
    "owner_customer_id", "run_id", "session_id", "session_ref_hash", "subject_ref",
    "trusted_context_ref"]

/-- The case folding of one character. Only foldings that produce ASCII letters are spelled out:
no other character can make a folded name equal to a trusted one. -/
def casefoldChar (c : Char) : List Char :=
  if 'A' ≤ c ∧ c ≤ 'Z' then [Char.ofNat (c.toNat + 32)]
  else if c = '\u212a' then ['k']
  else if c = '\u017f' then ['s']
  else if c = '\u00df' ∨ c = '\u1e9e' then ['s', 's']
  else if c = '\ufb00' then ['f', 'f']
  else if c = '\ufb01' then ['f', 'i']
  else if c = '\ufb02' then ['f', 'l']
  else if c = '\ufb03' then ['f', 'f', 'i']
  else if c = '\ufb04' then ['f', 'f', 'l']
  else if c = '\ufb05' ∨ c = '\ufb06' then ['s', 't']
  else [c]

/-- `str.casefold`, as far as comparison with an ASCII name can tell. -/
def casefold (text : String) : String := String.ofList (text.toList.flatMap casefoldChar)

mutual

/-- Return the first runtime-private field found in model-proposed JSON. -/
def findTrustedArgumentField : Json → Option String
  | .object fields => findTrustedArgumentFieldInFields fields
  | .array items => findTrustedArgumentFieldInItems items
  | _ => none

def findTrustedArgumentFieldInItems : List Json → Option String
  | [] => none
  | item :: rest => (findTrustedArgumentField item).or (findTrustedArgumentFieldInItems rest)

def findTrustedArgumentFieldInFields : List (String × Json) → Option String
  | [] => none
  | (key, nestedValue) :: rest =>
    if casefold key ∈ trustedArgumentFields then some (casefold key)
    else (findTrustedArgumentField nestedValue).or (findTrustedArgumentFieldInFields rest)

end

mutual

/-- `==` of two frozen JSON values, which asks the left one. A `FrozenJsonList` compares its items
with what any other sequence iterates over, and a `FrozenJsonDict` is a sequence that iterates over
its keys; a `FrozenJsonDict` is equal to mappings only. -/
def frozenEq : Json → Json → Bool
  | .array items, .array others => frozenEqItems items others
  | .array items, .object fields =>
    frozenEqItems items (fields.map fun field => .string field.1.toList)
  | .object fields, .object others =>
    sameSet (fields.map (·.1)) (others.map (·.1)) && frozenEqMembers fields [] others
  | .array _, _ | .object _, _ => false
  | left, right => left.norm == right.norm

def frozenEqItems : List Json → List Json → Bool
  | [], [] => true
  | item :: rest, other :: others => frozenEq item other && frozenEqItems rest others
  | _, _ => false

/-- The members are found in the others; of a repeated key the first one counts. -/
def frozenEqMembers : List (String × Json) → List String → List (String × Json) → Bool
  | [], _, _ => true
  | (key, value) :: rest, seen, others =>
    (seen.contains key || (Json.lookup others key).any fun other => frozenEq value other) &&
      frozenEqMembers rest (key :: seen) others

end

mutual

theorem frozenEq_self (value : Json) : frozenEq value value = true := by
  cases value with
  | array items => rw [frozenEq, frozenEqItems_self]
  | object fields =>
    have members := frozenEqMembers_self fields [] [] (by simp)
    rw [frozenEq, Bool.and_eq_true, sameSet_iff]
    exact ⟨fun _ => Iff.rfl, members⟩
  | _ => simp [frozenEq]

private theorem frozenEqItems_self (items : List Json) : frozenEqItems items items = true := by
  cases items with
  | nil => rfl
  | cons item rest => rw [frozenEqItems, frozenEq_self, frozenEqItems_self, Bool.and_self]

/-- The members that stand after some others, whose keys were seen, are found among them all. -/
private theorem frozenEqMembers_self (rest before : List (String × Json)) (seen : List String)
    (same : ∀ key, key ∈ seen ↔ key ∈ before.map (·.1)) :
    frozenEqMembers rest seen (before ++ rest) = true := by
  cases rest with
  | nil => rfl
  | cons member rest =>
    obtain ⟨key, value⟩ := member
    have others :=
      frozenEqMembers_self rest (before ++ [(key, value)]) (key :: seen) (by simp [same, or_comm])
    rw [List.append_assoc, List.singleton_append] at others
    rw [frozenEqMembers, others, Bool.and_true, Bool.or_eq_true, List.contains_iff_mem,
      or_iff_not_imp_left]
    intro fresh
    have unseen : before.find? (·.1 == key) = none :=
      List.find?_eq_none.mpr fun member listed named =>
        fresh ((same key).mpr (List.mem_map.mpr ⟨member, listed, beq_iff_eq.mp named⟩))
    have found : ((key, value) :: rest).find? (·.1 == key) = some (key, value) := by simp
    rw [Json.lookup, List.find?_append, unseen, Option.none_or, found]
    exact frozenEq_self value

end

end MiniAgent.Core
