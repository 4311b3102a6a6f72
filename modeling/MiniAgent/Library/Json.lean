import Mathlib.Data.Int.Notation
import Mathlib.Data.List.Basic
import Mathlib.Data.Char
import Mathlib.Data.List.Lex
import Mathlib.Data.List.Sort
import Mathlib.Data.Rat.Defs

/-! # JSON values, their equality and their canonical text

An object is an association list, read by its first entry for a key. Two values can be spelled
differently and still be equal: members in another order, a number as an integer, as a float or
as a truth value. `norm` picks one spelling, so equality is equality of normal forms. `dumps` is
the compact canonical text: keys sorted by code point, no whitespace, non-ASCII characters kept.
A string may have lone surrogates, and then it is no Unicode text and cannot be encoded.
-/

/-- A native JSON value. A float is its exact value and its shortest round-trip literal. A string
with surrogates is what stands before the first of them, that surrogate, and the code points after
it. -/
inductive Json
  | null
  | bool (value : Bool)
  | int (value : ℤ)
  | float (value : ℚ) (literal : String)
  | string (value : List Char)
  | surrogates (before : List Char) (surrogate : Fin 0x800) (after : List (Fin 0x110000))
  | array (items : List Json)
  | object (fields : List (String × Json))
deriving Repr

namespace Json

mutual

/-- Equality of JSON values is decided along their structure. -/
def decEq : (left right : Json) → Decidable (left = right)
  | .null, .null => isTrue rfl
  | .bool left, .bool right => decidable_of_iff (left = right) (by simp)
  | .int left, .int right => decidable_of_iff (left = right) (by simp)
  | .float left leftLiteral, .float right rightLiteral =>
    decidable_of_iff (left = right ∧ leftLiteral = rightLiteral) (by simp)
  | .string left, .string right => decidable_of_iff (left = right) (by simp)
  | .surrogates before left after, .surrogates earlier right later =>
    decidable_of_iff (before = earlier ∧ left = right ∧ after = later) (by simp)
  | .array left, .array right =>
    have := decEqItems left right
    decidable_of_iff (left = right) (by simp)
  | .object left, .object right =>
    have := decEqFields left right
    decidable_of_iff (left = right) (by simp)
  | .null, .bool _ | .null, .int _ | .null, .float .. | .null, .string _ | .null, .surrogates ..
  | .null, .array _ | .null, .object _ | .bool _, .null | .bool _, .int _ | .bool _, .float ..
  | .bool _, .string _ | .bool _, .surrogates .. | .bool _, .array _ | .bool _, .object _
  | .int _, .null | .int _, .bool _ | .int _, .float .. | .int _, .string _
  | .int _, .surrogates .. | .int _, .array _ | .int _, .object _ | .float .., .null
  | .float .., .bool _ | .float .., .int _ | .float .., .string _ | .float .., .surrogates ..
  | .float .., .array _ | .float .., .object _ | .string _, .null | .string _, .bool _
  | .string _, .int _ | .string _, .float .. | .string _, .surrogates .. | .string _, .array _
  | .string _, .object _ | .surrogates .., .null | .surrogates .., .bool _
  | .surrogates .., .int _ | .surrogates .., .float .. | .surrogates .., .string _
  | .surrogates .., .array _ | .surrogates .., .object _ | .array _, .null | .array _, .bool _
  | .array _, .int _ | .array _, .float .. | .array _, .string _ | .array _, .surrogates ..
  | .array _, .object _ | .object _, .null | .object _, .bool _ | .object _, .int _
  | .object _, .float .. | .object _, .string _ | .object _, .surrogates .. | .object _, .array _ =>
    isFalse (by simp)

def decEqItems : (left right : List Json) → Decidable (left = right)
  | [], [] => isTrue rfl
  | [], _ :: _ | _ :: _, [] => isFalse (by simp)
  | left :: lefts, right :: rights =>
    have := decEq left right
    have := decEqItems lefts rights
    decidable_of_iff (left = right ∧ lefts = rights) (by simp)

def decEqFields : (left right : List (String × Json)) → Decidable (left = right)
  | [], [] => isTrue rfl
  | [], _ :: _ | _ :: _, [] => isFalse (by simp)
  | (leftKey, left) :: lefts, (rightKey, right) :: rights =>
    have := decEq left right
    have := decEqFields lefts rights
    decidable_of_iff ((leftKey = rightKey ∧ left = right) ∧ lefts = rights) (by simp)

end

instance : DecidableEq Json := decEq

/-- The value stored under a key of an object's fields. -/
def lookup (fields : List (String × Json)) (key : String) : Option Json :=
  (fields.find? (·.1 == key)).map (·.2)

/-- A string, a number, a truth value or null. -/
def isScalar : Json → Bool
  | .array _ | .object _ => false
  | _ => true

/-- Members in the order of their keys. -/
def sortMembers (fields : List (String × Json)) : List (String × Json) :=
  fields.insertionSort fun left right => left.1.toList ≤ right.1.toList

mutual

/-- The one spelling that equal values share. -/
def norm : Json → Json
  | .null => .null
  | .bool value => .int (if value then 1 else 0)
  | .int value => .int value
  | .float value _ => if value.den = 1 then .int value.num else .float value ""
  | .string value => .string value
  | .surrogates before surrogate after => .surrogates before surrogate after
  | .array items => .array (normItems items)
  | .object fields => .object (sortMembers (normFields fields))

def normItems : List Json → List Json
  | [] => []
  | item :: rest => norm item :: normItems rest

def normFields : List (String × Json) → List (String × Json)
  | [] => []
  | (key, value) :: rest => (key, norm value) :: normFields rest

end

mutual

/-- Every string is Unicode text, which UTF-8 encodes. -/
def isEncodable : Json → Bool
  | .surrogates .. => false
  | .array items => isEncodableItems items
  | .object fields => isEncodableFields fields
  | _ => true

def isEncodableItems : List Json → Bool
  | [] => true
  | item :: rest => isEncodable item && isEncodableItems rest

def isEncodableFields : List (String × Json) → Bool
  | [] => true
  | (_, value) :: rest => isEncodable value && isEncodableFields rest

end

/-- Objects with the same members in the same order are equal. -/
theorem norm_object_congr {left right : List (String × Json)}
    (same : normFields left = normFields right) :
    norm (.object left) = norm (.object right) := by
  rw [norm, norm, same]

def hexDigit (value : ℕ) : Char :=
  if value < 10 then Char.ofNat (48 + value) else Char.ofNat (87 + value)

/-- The escapes of `json.dumps(..., ensure_ascii=False)`. -/
def escapeChar (c : Char) : List Char :=
  if c = '"' then ['\\', '"']
  else if c = '\\' then ['\\', '\\']
  else if c = '\n' then ['\\', 'n']
  else if c = '\r' then ['\\', 'r']
  else if c = '\t' then ['\\', 't']
  else if c = '\x08' then ['\\', 'b']
  else if c = '\x0c' then ['\\', 'f']
  else if c.toNat < 32 then ['\\', 'u', '0', '0', hexDigit (c.toNat / 16), hexDigit (c.toNat % 16)]
  else [c]

def quote (text : List Char) : List Char := '"' :: text.flatMap escapeChar ++ ['"']

/-- A surrogate as text spells it. -/
def surrogateText (surrogate : ℕ) : List Char :=
  ['\\', 'u', 'd', hexDigit (8 + surrogate / 256), hexDigit (surrogate / 16 % 16),
    hexDigit (surrogate % 16)]

/-- A code point as text spells it. -/
def codePointText (code : Fin 0x110000) : List Char :=
  if 0xd800 ≤ code.1 ∧ code.1 < 0xe000 then surrogateText (code.1 - 0xd800)
    else escapeChar (Char.ofNat code.1)

/-- A string with surrogates; these are spelled by their escapes. -/
def quoteSurrogates (before : List Char) (surrogate : Fin 0x800) (after : List (Fin 0x110000)) :
    List Char :=
  '"' :: before.flatMap escapeChar ++ surrogateText surrogate.1 ++
    after.flatMap codePointText ++ ['"']

/-- Sort dumped members by key and write them in braces. -/
def dumpMembers (members : List (String × List Char)) : List Char :=
  let sorted := members.insertionSort fun left right => left.1.toList ≤ right.1.toList
  '{' :: List.intercalate [',']
    (sorted.map fun member => quote member.1.toList ++ ':' :: member.2) ++
    ['}']

mutual

/-- `json.dumps(value, ensure_ascii=False, separators=(",", ":"), sort_keys=True)` -/
def dumps : Json → List Char
  | .null => "null".toList
  | .bool value => (if value then "true" else "false").toList
  | .int value => (toString value).toList
  | .float _ literal => literal.toList
  | .string value => quote value
  | .surrogates before surrogate after => quoteSurrogates before surrogate after
  | .array items => '[' :: List.intercalate [','] (dumpItems items) ++ [']']
  | .object fields => dumpMembers (dumpFields fields)

def dumpItems : List Json → List (List Char)
  | [] => []
  | item :: rest => dumps item :: dumpItems rest

def dumpFields : List (String × Json) → List (String × List Char)
  | [] => []
  | (key, value) :: rest => (key, dumps value) :: dumpFields rest

end

end Json
