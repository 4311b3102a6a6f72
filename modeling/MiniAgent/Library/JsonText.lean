import MiniAgent.Library.Json
import Mathlib.Algebra.Group.Int.Defs
import Mathlib.Algebra.Group.Nat.Defs
import Mathlib.Data.List.TakeWhile

/-! # JSON text: written without whitespace and read back

`compact` is `json.dumps` with the members in the order they stand in, and `loads` is `json.loads`.
The reader takes whitespace, every escape and repeated keys, of which the last value counts. A float
is read to its nearest double, with the shortest literal of that, which is also how it is written.
Reading what was written gives the value again, for every value whose objects have distinct keys.
-/

namespace Json

/-- The decimal spelling of an integer. -/
def intText (value : ℤ) : List Char :=
  if value < 0 then '-' :: Nat.toDigits 10 value.natAbs else Nat.toDigits 10 value.natAbs

mutual

/-- `json.dumps(value, allow_nan=False, ensure_ascii=False, separators=(",", ":"))` -/
def compact : Json → List Char
  | .null => ['n', 'u', 'l', 'l']
  | .bool value => if value then ['t', 'r', 'u', 'e'] else ['f', 'a', 'l', 's', 'e']
  | .int value => intText value
  | .float _ literal => literal.toList
  | .string value => quote value
  | .surrogates before surrogate after => quoteSurrogates before surrogate after
  | .array [] => ['[', ']']
  | .array (item :: rest) => '[' :: (compact item ++ compactItems rest)
  | .object [] => ['{', '}']
  | .object ((key, value) :: rest) =>
    '{' :: (quote key.toList ++ ':' :: (compact value ++ compactMembers rest))

/-- The items after the first one, and the bracket that closes them. -/
def compactItems : List Json → List Char
  | [] => [']']
  | item :: rest => ',' :: (compact item ++ compactItems rest)

/-- The members after the first one, and the brace that closes them. -/
def compactMembers : List (String × Json) → List Char
  | [] => ['}']
  | (key, value) :: rest =>
    ',' :: (quote key.toList ++ ':' :: (compact value ++ compactMembers rest))

end

/-- The quotient, rounded to the nearest integer and to the even one of two. -/
def roundHalfEven (numerator denominator : ℕ) : ℕ :=
  let quotient := numerator / denominator
  let remainder := numerator % denominator
  if 2 * remainder < denominator then quotient
  else if denominator < 2 * remainder then quotient + 1
  else quotient + quotient % 2

/-- The double that is nearest to a non-negative quotient, unless it overflows. -/
def nearestDouble (numerator denominator : ℕ) : Option ℚ :=
  if numerator = 0 then some 0
  else
    let estimate : ℤ := numerator.log2 - denominator.log2
    let below := numerator * 2 ^ (-estimate).toNat < denominator * 2 ^ estimate.toNat
    let binade := if below then estimate - 1 else estimate
    let unit := max (binade - 52) (-1074)
    let significand := roundHalfEven (numerator * 2 ^ (-unit).toNat) (denominator * 2 ^ unit.toNat)
    if 2 ^ 1024 ≤ significand * 2 ^ unit.toNat then none
    else some (mkRat (significand * 2 ^ unit.toNat) (2 ^ (-unit).toNat))

/-- `float(literal)` for decimal digits with a power of ten. -/
def decimalDouble (negative : Bool) (digits : List Char) (exponent : ℤ) : Option ℚ := do
  let value ← nearestDouble (Nat.ofDigitChars 10 digits 0 * 10 ^ exponent.toNat)
    (10 ^ (-exponent).toNat)
  return if negative then -value else value

/-- The power of ten of the first decimal digit of a positive double. -/
def firstPlace (numerator denominator : ℕ) : ℤ :=
  if denominator ≤ numerator then (Nat.toDigits 10 (numerator / denominator)).length - 1
  else -((List.range 324).findIdx fun places => decide (denominator ≤ numerator * 10 ^ places) : ℕ)

/-- The fewest digits that are read to a positive double, and the power of ten of the last one. -/
def shortestDigits (numerator denominator : ℕ) : Option (ℕ × ℤ) :=
  (List.range 17).findSome? fun more =>
    let place := firstPlace numerator denominator - more
    let nearest := roundHalfEven (numerator * 10 ^ (-place).toNat) (denominator * 10 ^ place.toNat)
    ([nearest, nearest + 1, nearest - 1].find? fun digits =>
      nearestDouble (digits * 10 ^ place.toNat) (10 ^ (-place).toNat) ==
        some (mkRat numerator denominator)).map
        (·, place)

/-- Digits with a point before the one at `point`, or with an exponent where the point is far from
them. -/
def pointedText (digits : List Char) (point : ℤ) : List Char :=
  if point ≤ -4 ∨ 16 < point then
    let exponent := Nat.toDigits 10 (point - 1).natAbs
    digits.take 1 ++ (if digits.length ≤ 1 then [] else '.' :: digits.drop 1) ++
      'e' :: (if point ≤ 0 then '-' else '+') :: (List.replicate (2 - exponent.length) '0' ++
        exponent)
  else if point ≤ 0 then '0' :: '.' :: (List.replicate (-point).toNat '0' ++ digits)
  else if digits.length ≤ point.toNat then
    digits ++ List.replicate (point.toNat - digits.length) '0' ++ ['.', '0']
  else digits.take point.toNat ++ '.' :: digits.drop point.toNat

/-- `repr` of a double, of which the sign is given apart. -/
def doubleText (negative : Bool) (value : ℚ) : List Char :=
  (if negative then ['-'] else []) ++
    if value = 0 then ['0', '.', '0']
    else
      let (shortest, place) := (shortestDigits value.num.natAbs value.den).getD (0, 0)
      let digits := Nat.toDigits 10 shortest
      pointedText (digits.reverse.dropWhile (· == '0')).reverse (place + digits.length)

/-- The digits that a text starts with, and the text behind them. -/
def cutDigits (text : List Char) : List Char × List Char :=
  (text.takeWhile Char.isDigit, text.dropWhile Char.isDigit)

def cutSign : List Char → Bool × List Char
  | [] => (false, [])
  | c :: text => if c = '-' then (true, text) else if c = '+' then (false, text)
      else (false, c :: text)

def signed (negative : Bool) (digits : List Char) : ℤ :=
  if negative then -(Nat.ofDigitChars 10 digits 0 : ℤ) else Nat.ofDigitChars 10 digits 0

/-- An optional point with digits; `none` is a point without digits. -/
def readFraction : List Char → Option (List Char × List Char)
  | [] => some ([], [])
  | c :: text =>
    if c ≠ '.' then some ([], c :: text)
    else if (cutDigits text).1 = [] then none
    else some (cutDigits text)

/-- An optional exponent; `none` is a letter without digits. -/
def readExponent : List Char → Option (Option ℤ × List Char)
  | [] => some (none, [])
  | c :: text =>
    if c ≠ 'e' ∧ c ≠ 'E' then some (none, c :: text)
    else if (cutDigits (cutSign text).2).1 = [] then none
    else some (some (signed (cutSign text).1 (cutDigits (cutSign text).2).1),
      (cutDigits (cutSign text).2).2)

/-- The value of a number token: an integer when it has neither fraction nor exponent. -/
def numberValue (negative : Bool) (whole fraction : List Char) (exponent : Option ℤ) :
    Option Json :=
  if fraction = [] ∧ exponent = none then some (.int (signed negative whole))
  else (decimalDouble negative (whole ++ fraction) (exponent.getD 0 - fraction.length)).map
    fun value => .float value (String.ofList (doubleText negative value))

/-- A number whose sign was cut off. -/
def readUnsigned (negative : Bool) (unsigned : List Char) : Option (Json × List Char) := do
  let whole := (cutDigits unsigned).1
  if whole = [] ∨ (whole.head? = some '0' ∧ 1 < whole.length) then none
  else do
    let (fraction, afterFraction) ← readFraction (cutDigits unsigned).2
    let (exponent, rest) ← readExponent afterFraction
    let value ← numberValue negative whole fraction exponent
    return (value, rest)

def readNumber : List Char → Option (Json × List Char)
  | [] => none
  | c :: text =>
    if c = '-' then readUnsigned true text else readUnsigned false (c :: text)

def isBlank (c : Char) : Bool := c == ' ' || c == '\t' || c == '\n' || c == '\r'

def skipBlanks (text : List Char) : List Char := text.dropWhile isBlank

def hexValue (c : Char) : Option ℕ :=
  if '0' ≤ c ∧ c ≤ '9' then some (c.toNat - '0'.toNat)
  else if 'a' ≤ c ∧ c ≤ 'f' then some (c.toNat - 'a'.toNat + 10)
  else if 'A' ≤ c ∧ c ≤ 'F' then some (c.toNat - 'A'.toNat + 10)
  else none

/-- Four hexadecimal digits and the text behind them. -/
def readCodeUnit : List Char → Option (ℕ × List Char)
  | a :: b :: c :: d :: rest => do
    return (4096 * (← hexValue a) + 256 * (← hexValue b) + 16 * (← hexValue c) + (← hexValue d),
      rest)
  | _ => none

/-- The character of an escape, read behind the backslash. -/
def readEscape : List Char → Option (Char × List Char)
  | '"' :: rest => some ('"', rest)
  | '\\' :: rest => some ('\\', rest)
  | '/' :: rest => some ('/', rest)
  | 'b' :: rest => some ('\x08', rest)
  | 'f' :: rest => some ('\x0c', rest)
  | 'n' :: rest => some ('\n', rest)
  | 'r' :: rest => some ('\r', rest)
  | 't' :: rest => some ('\t', rest)
  | 'u' :: text => do
    let (unit, rest) ← readCodeUnit text
    if 0xd800 ≤ unit ∧ unit < 0xdc00 then
      -- a high surrogate needs its partner; Python would keep it alone, a `Char` cannot
      match rest with
      | '\\' :: 'u' :: text =>
        let (low, rest) ← readCodeUnit text
        if 0xdc00 ≤ low ∧ low < 0xe000 then
          return (Char.ofNat (0x10000 + 1024 * (unit - 0xd800) + (low - 0xdc00)), rest)
        else none
      | _ => none
    else if 0xdc00 ≤ unit ∧ unit < 0xe000 then none
    else return (Char.ofNat unit, rest)
  | _ => none

/-- A string body up to its closing quote. -/
def readString : ℕ → List Char → Option (List Char × List Char)
  | 0, _ => none
  | _ + 1, [] => none
  | fuel + 1, c :: text =>
    if c = '"' then some ([], text)
    else if c = '\\' then do
      let (first, text) ← readEscape text
      let (value, rest) ← readString fuel text
      return (first :: value, rest)
    else if c.toNat < 32 then none
    else do
      let (value, rest) ← readString fuel text
      return (c :: value, rest)

/-- `dict(pairs)`: a repeated key keeps its place and takes the later value. -/
def insertMember (fields : List (String × Json)) (member : String × Json) : List (String × Json) :=
  if member.1 ∈ fields.map (·.1) then
    fields.map fun field => if field.1 = member.1 then member else field
  else fields ++ [member]

mutual

def readValue : ℕ → List Char → Option (Json × List Char)
  | 0, _ => none
  | fuel + 1, text =>
    match skipBlanks text with
    | 'n' :: 'u' :: 'l' :: 'l' :: rest => some (.null, rest)
    | 't' :: 'r' :: 'u' :: 'e' :: rest => some (.bool true, rest)
    | 'f' :: 'a' :: 'l' :: 's' :: 'e' :: rest => some (.bool false, rest)
    | '"' :: rest => do
      let (value, rest) ← readString fuel rest
      return (.string value, rest)
    | '[' :: rest =>
      match skipBlanks rest with
      | ']' :: rest => some (.array [], rest)
      | items => do
        let (items, rest) ← readItems fuel items
        return (.array items, rest)
    | '{' :: rest =>
      match skipBlanks rest with
      | '}' :: rest => some (.object [], rest)
      | members => do
        let (members, rest) ← readMembers fuel members
        return (.object (members.foldl insertMember []), rest)
    | number => readNumber number

/-- Items up to the closing bracket. -/
def readItems : ℕ → List Char → Option (List Json × List Char)
  | 0, _ => none
  | fuel + 1, text => do
    let (item, text) ← readValue fuel text
    match skipBlanks text with
    | ',' :: text => do
      let (items, rest) ← readItems fuel text
      return (item :: items, rest)
    | ']' :: rest => return ([item], rest)
    | _ => none

/-- Members up to the closing brace. -/
def readMembers : ℕ → List Char → Option (List (String × Json) × List Char)
  | 0, _ => none
  | fuel + 1, text =>
    match skipBlanks text with
    | '"' :: text => do
      let (key, text) ← readString fuel text
      match skipBlanks text with
      | ':' :: text => do
        let (value, text) ← readValue fuel text
        match skipBlanks text with
        | ',' :: text => do
          let (members, rest) ← readMembers fuel text
          return ((String.ofList key, value) :: members, rest)
        | '}' :: rest => return ([(String.ofList key, value)], rest)
        | _ => none
      | _ => none
    | _ => none

end

/-- `json.loads(text)` -/
def loads (text : List Char) : Option Json := do
  let (value, rest) ← readValue (text.length + 1) text
  if rest.all isBlank then return value else none

mutual

/-- No object has two members of one key, no string has a surrogate, and a float is what its literal
is read to. -/
def isNative : Json → Bool
  | .surrogates .. => false
  | .float value literal => readNumber literal.toList == some (.float value literal, [])
  | .array items => isNativeItems items
  | .object fields => decide (fields.map (·.1)).Nodup && isNativeFields fields
  | _ => true

def isNativeItems : List Json → Bool
  | [] => true
  | item :: rest => isNative item && isNativeItems rest

def isNativeFields : List (String × Json) → Bool
  | [] => true
  | (_, value) :: rest => isNative value && isNativeFields rest

end

/-- A scalar that JSON text spells and gives back. -/
def isNativeScalar (value : Json) : Bool := value.isScalar && value.isNative

/-- Text that neither continues a number nor starts with whitespace. -/
def Closed (rest : List Char) : Prop :=
  ∀ c ∈ rest.head?, c.isDigit = false ∧ c ≠ '.' ∧ c ≠ 'e' ∧ c ≠ 'E' ∧ isBlank c = false

variable {rest : List Char}

private theorem cutDigits_append (closed : Closed rest) (text : List Char) :
    cutDigits (text ++ rest) = ((cutDigits text).1, (cutDigits text).2 ++ rest) := by
  unfold cutDigits
  induction text with
  | nil =>
    cases rest with
    | nil => rfl
    | cons c _ => simp [(closed c (by simp)).1]
  | cons c text ih =>
    cases digit : c.isDigit with
    | true => simpa [digit] using ih
    | false => simp [digit]

private theorem cutSign_append {text : List Char} (nonempty : text ≠ []) :
    cutSign (text ++ rest) = ((cutSign text).1, (cutSign text).2 ++ rest) := by
  cases text with
  | nil => exact absurd rfl nonempty
  | cons c text =>
    simp only [cutSign, List.cons_append]
    split_ifs <;> rfl

private theorem readFraction_append (closed : Closed rest) {text digits after : List Char}
    (read : readFraction text = some (digits, after)) :
    readFraction (text ++ rest) = some (digits, after ++ rest) := by
  cases text with
  | nil =>
    obtain ⟨rfl, rfl⟩ : [] = digits ∧ [] = after := by simpa [readFraction] using read
    cases rest with
    | nil => rfl
    | cons c _ =>
      have noPoint : c ≠ '.' := (closed c (by simp)).2.1
      simp [readFraction, noPoint]
  | cons c text =>
    simp only [readFraction, List.cons_append, cutDigits_append closed] at read ⊢
    split_ifs at read ⊢ with point empty
    · obtain ⟨rfl, rfl⟩ : [] = digits ∧ c :: text = after := by simpa using read
      rfl
    · rw [Option.some.inj read]

private theorem readExponent_append (closed : Closed rest) {text after : List Char}
    {exponent : Option ℤ} (read : readExponent text = some (exponent, after)) :
    readExponent (text ++ rest) = some (exponent, after ++ rest) := by
  cases text with
  | nil =>
    obtain ⟨rfl, rfl⟩ : none = exponent ∧ [] = after := by simpa [readExponent] using read
    cases rest with
    | nil => rfl
    | cons c _ =>
      obtain ⟨-, -, lower, upper, -⟩ := closed c (by simp)
      simp [readExponent, lower, upper]
  | cons c text =>
    simp only [readExponent] at read
    split_ifs at read with letter empty
    · obtain ⟨rfl, rfl⟩ : none = exponent ∧ c :: text = after := by simpa using read
      simp [readExponent, letter]
    · have nonempty : text ≠ [] := by
        rintro rfl
        exact empty rfl
      obtain ⟨rfl, rfl⟩ : some _ = exponent ∧ _ = after := Prod.mk.inj (Option.some.inj read)
      simp only [readExponent, List.cons_append, cutSign_append nonempty, cutDigits_append closed,
        if_neg letter, if_neg empty]

private theorem readUnsigned_append (closed : Closed rest) {negative : Bool} {unsigned : List Char}
    {value : Json} (read : readUnsigned negative unsigned = some (value, [])) :
    readUnsigned negative (unsigned ++ rest) = some (value, rest) := by
  simp only [readUnsigned, cutDigits_append closed] at read ⊢
  split_ifs at read ⊢ with malformed
  simp only [Option.bind_eq_bind, Option.bind_eq_some_iff, Prod.exists, Option.pure_def,
    Option.some.injEq, Prod.mk.injEq] at read ⊢
  obtain ⟨fraction, afterFraction, fractionRead, exponent, after, exponentRead, same, valued, rfl,
    rfl⟩ := read
  refine ⟨fraction, _, readFraction_append closed fractionRead, exponent, _,
    readExponent_append closed exponentRead, same, valued, rfl, rfl⟩

private theorem readNumber_append (closed : Closed rest) {text : List Char} {value : Json}
    (read : readNumber text = some (value, [])) :
    readNumber (text ++ rest) = some (value, rest) := by
  cases text with
  | nil => simp [readNumber] at read
  | cons c text =>
    simp only [readNumber, List.cons_append] at read ⊢
    by_cases minus : c = '-'
    · rw [if_pos minus] at read ⊢
      exact readUnsigned_append closed read
    · rw [if_neg minus] at read ⊢
      have appended := readUnsigned_append closed read
      rwa [List.cons_append] at appended

/-- No decimal spelling of a positive number starts with a zero. -/
private theorem toDigits_head_ne_zero {value : ℕ} (positive : 0 < value) :
    (Nat.toDigits 10 value).head? ≠ some '0' := by
  induction value using Nat.strong_induction_on with
  | _ value ih =>
    rcases Nat.lt_or_ge value 10 with small | large
    · rw [Nat.toDigits_of_lt_base small]
      have apart : ∀ digit < 10, 0 < digit → [digit.digitChar].head? ≠ some '0' := by decide
      exact apart value small positive
    · rw [Nat.toDigits_of_base_le (by decide) large,
        List.head?_append_of_ne_nil _ Nat.toDigits_ne_nil]
      exact ih (value / 10) (by omega) (by omega)

private theorem isDigit_of_mem_toDigits {value : ℕ} :
    ∀ c ∈ Nat.toDigits 10 value, c.isDigit = true :=
  fun _ member => Nat.isDigit_of_mem_toDigits (by decide) (by decide) member

private theorem readUnsigned_toDigits (negative : Bool) (value : ℕ) :
    readUnsigned negative (Nat.toDigits 10 value) =
      some (.int (if negative then -(value : ℤ) else value), []) := by
  have cut : cutDigits (Nat.toDigits 10 value) = (Nat.toDigits 10 value, []) := by
    rw [cutDigits, List.takeWhile_eq_self_iff.mpr isDigit_of_mem_toDigits,
      List.dropWhile_eq_nil_iff.mpr isDigit_of_mem_toDigits]
  have canonical : ¬ (Nat.toDigits 10 value = [] ∨
      ((Nat.toDigits 10 value).head? = some '0' ∧ 1 < (Nat.toDigits 10 value).length)) := by
    rintro (empty | ⟨zero, long⟩)
    · exact Nat.toDigits_ne_nil empty
    · rcases Nat.eq_zero_or_pos value with rfl | positive
      · simp at long
      · exact toDigits_head_ne_zero positive zero
  simp only [readUnsigned, cut, if_neg canonical]
  simp [readFraction, readExponent, numberValue, signed, Nat.ofDigitChars_toDigits]

private theorem readNumber_intText (value : ℤ) :
    readNumber (intText value) = some (.int value, []) := by
  unfold intText
  split_ifs with negative
  · have magnitude : -(value.natAbs : ℤ) = value := by omega
    rw [readNumber, if_pos rfl, readUnsigned_toDigits]
    simp only [if_true, magnitude]
  · have magnitude : (value.natAbs : ℤ) = value := by omega
    have unsigned := readUnsigned_toDigits false value.natAbs
    cases spelled : Nat.toDigits 10 value.natAbs with
    | nil => exact absurd spelled Nat.toDigits_ne_nil
    | cons c text =>
      have digit : c.isDigit = true := isDigit_of_mem_toDigits c (spelled ▸ List.mem_cons_self ..)
      have noMinus : c ≠ '-' := fun same => absurd (same ▸ digit) (by decide)
      rw [spelled] at unsigned
      rw [readNumber, if_neg noMinus, unsigned]
      simp [magnitude]

private theorem hexValue_hexDigit : ∀ digit < 16, hexValue (hexDigit digit) = some digit := by
  decide

private theorem readCodeUnit_control {c : Char} (control : c.toNat < 32) :
    readCodeUnit ('0' :: '0' :: hexDigit (c.toNat / 16) :: hexDigit (c.toNat % 16) :: rest) =
      some (c.toNat, rest) := by
  have zero : hexValue '0' = some 0 := by decide
  simp only [readCodeUnit, zero, hexValue_hexDigit (c.toNat / 16) (by omega),
    hexValue_hexDigit (c.toNat % 16) (by omega), Option.bind_eq_bind, Option.bind_some,
    Option.pure_def,
    Option.some.injEq, Prod.mk.injEq, and_true]
  omega

private theorem readString_escapeChar (fuel : ℕ) (c : Char) (text : List Char) :
    readString (fuel + 1) (escapeChar c ++ text) =
      (readString fuel text).map fun read => (c :: read.1, read.2) := by
  have spelled : ∀ escape first after, readEscape (escape ++ text) = some (first, after) →
      readString (fuel + 1) ('\\' :: escape ++ text) =
        (readString fuel after).map fun read => (first :: read.1, read.2) := by
    intro escape first after read
    rw [List.cons_append, readString, if_neg (by decide), if_pos rfl, read]
    simp only [Option.bind_eq_bind, Option.bind_some]
    cases readString fuel after <;> rfl
  by_cases control : c.toNat < 32
  · unfold escapeChar
    split_ifs with quotes backslash newline carriage tab backspace feed
    · exact spelled ['"'] c text (by rw [quotes]; rfl)
    · exact spelled ['\\'] c text (by rw [backslash]; rfl)
    · exact spelled ['n'] c text (by rw [newline]; rfl)
    · exact spelled ['r'] c text (by rw [carriage]; rfl)
    · exact spelled ['t'] c text (by rw [tab]; rfl)
    · exact spelled ['b'] c text (by rw [backspace]; rfl)
    · exact spelled ['f'] c text (by rw [feed]; rfl)
    · refine spelled ['u', '0', '0', _, _] c text ?_
      simp only [List.cons_append, List.nil_append, readEscape, readCodeUnit_control control]
      have low : ¬ (0xd800 ≤ c.toNat ∧ c.toNat < 0xdc00) := by omega
      have notLow : ¬ (0xdc00 ≤ c.toNat ∧ c.toNat < 0xe000) := by omega
      simp [low, notLow, Char.ofNat_toNat]
  · unfold escapeChar
    split_ifs with quotes backslash newline carriage tab backspace feed
    · exact spelled ['"'] c text (by rw [quotes]; rfl)
    · exact spelled ['\\'] c text (by rw [backslash]; rfl)
    · exact spelled ['n'] c text (by rw [newline]; rfl)
    · exact spelled ['r'] c text (by rw [carriage]; rfl)
    · exact spelled ['t'] c text (by rw [tab]; rfl)
    · exact spelled ['b'] c text (by rw [backspace]; rfl)
    · exact spelled ['f'] c text (by rw [feed]; rfl)
    · rw [List.cons_append, List.nil_append, readString, if_neg quotes, if_neg backslash,
        if_neg control]
      cases readString fuel text <;> rfl

private theorem readString_quote (value : List Char) {fuel : ℕ}
    (enough : (value.flatMap escapeChar).length < fuel) :
    readString fuel (value.flatMap escapeChar ++ '"' :: rest) = some (value, rest) := by
  induction value generalizing fuel with
  | nil =>
    obtain ⟨fuel, rfl⟩ : ∃ less, fuel = less + 1 := ⟨fuel - 1, by simp at enough; omega⟩
    simp [readString]
  | cons c value ih =>
    have written : 0 < (escapeChar c).length := by
      unfold escapeChar
      split_ifs <;> simp
    rw [List.flatMap_cons, List.length_append] at enough
    obtain ⟨fuel, rfl⟩ : ∃ less, fuel = less + 1 := ⟨fuel - 1, by omega⟩
    rw [List.flatMap_cons, List.append_assoc, readString_escapeChar, ih (by omega)]
    rfl

@[simp] theorem skipBlanks_cons {c : Char} {text : List Char} (solid : isBlank c = false) :
    skipBlanks (c :: text) = c :: text := by
  simp [skipBlanks, solid]

private theorem closed_cons {c : Char} {text : List Char}
    (punctuation : c = ',' ∨ c = ']' ∨ c = '}') :
    Closed (c :: text) := by
  intro first member
  obtain rfl : c = first := by simpa using member
  rcases punctuation with rfl | rfl | rfl <;> decide

/-- A key that is not there yet is added behind the others. -/
private theorem insertMember_of_fresh {fields : List (String × Json)} {member : String × Json}
    (fresh : member.1 ∉ fields.map (·.1)) : insertMember fields member = fields ++ [member] :=
  if_neg fresh

/-- Distinct members make the dictionary that lists them. -/
private theorem foldl_insertMember {fields members : List (String × Json)}
    (distinct : ((fields ++ members).map (·.1)).Nodup) :
    members.foldl insertMember fields = fields ++ members := by
  induction members generalizing fields with
  | nil => simp
  | cons member members ih =>
    have fresh : member.1 ∉ fields.map (·.1) := by
      intro present
      rw [List.map_append, List.nodup_append'] at distinct
      exact distinct.2.2 present (List.mem_cons_self ..)
    rw [List.foldl_cons, insertMember_of_fresh fresh, ih (by simpa using distinct)]
    simp

/-- A character that a number can start with. -/
def NumberHead (c : Char) : Prop := c = '-' ∨ c.isDigit = true

private theorem numberHead_of_readNumber {text : List Char} {read : Json × List Char}
    (success : readNumber text = some read) : ∃ c after, text = c :: after ∧ NumberHead c := by
  cases text with
  | nil => simp [readNumber] at success
  | cons c after =>
    refine ⟨c, after, rfl, ?_⟩
    by_contra other
    obtain ⟨noMinus, noDigit⟩ := not_or.mp other
    have cut : (cutDigits (c :: after)).1 = [] := by simp [cutDigits, noDigit]
    rw [readNumber, if_neg noMinus, readUnsigned, if_pos (Or.inl cut)] at success
    exact absurd success (by simp)

private theorem readValue_number {c : Char} {text : List Char} (numeric : NumberHead c) (fuel : ℕ) :
    readValue (fuel + 1) (c :: text) = readNumber (c :: text) := by
  have solid : isBlank c = false := by
    rcases numeric with rfl | digit
    · decide
    · by_contra blank
      simp only [isBlank, Bool.not_eq_false, Bool.or_eq_true, beq_iff_eq] at blank
      rcases blank with ((rfl | rfl) | rfl) | rfl <;> exact absurd digit (by decide)
  rw [readValue, skipBlanks_cons solid]
  split
  case h_7 => rfl
  all_goals
    obtain rfl := (List.cons.inj ‹_›).1
    exact absurd numeric (by unfold NumberHead; decide)

/-- A number is read up to the text that closes it. -/
private theorem readValue_number_append {text : List Char} {value : Json} (closed : Closed rest)
    (read : readNumber text = some (value, [])) {fuel : ℕ} (enough : text.length ≤ fuel) :
    readValue fuel (text ++ rest) = some (value, rest) := by
  obtain ⟨c, after, rfl, numeric⟩ := numberHead_of_readNumber read
  obtain ⟨fuel, rfl⟩ : ∃ less, fuel = less + 1 := ⟨fuel - 1, by simp at enough; omega⟩
  rw [List.cons_append, readValue_number numeric, ← List.cons_append, readNumber_append closed read]

/-- Written values start with something else than whitespace or a closing bracket. -/
private theorem compact_head (value : Json) (native : value.isNative = true) :
    ∃ c text, compact value = c :: text ∧ c ≠ ']' ∧ isBlank c = false := by
  have number : ∀ {text read}, readNumber text = some read →
      ∃ c after, text = c :: after ∧ c ≠ ']' ∧ isBlank c = false := by
    intro text read success
    obtain ⟨c, after, rfl, numeric⟩ := numberHead_of_readNumber success
    refine ⟨c, after, rfl, ?_, ?_⟩
    · rintro rfl
      exact absurd numeric (by unfold NumberHead; decide)
    · by_contra blank
      simp only [isBlank, Bool.not_eq_false, Bool.or_eq_true, beq_iff_eq] at blank
      rcases blank with ((rfl | rfl) | rfl) | rfl <;>
        exact absurd numeric (by unfold NumberHead; decide)
  cases value with
  | null => exact ⟨_, _, rfl, by decide, by decide⟩
  | bool value => cases value <;> exact ⟨_, _, rfl, by decide, by decide⟩
  | int value => exact number (readNumber_intText value)
  | float value literal => exact number (by simpa [isNative, compact] using native)
  | string value => exact ⟨_, _, rfl, by decide, by decide⟩
  | surrogates before surrogate after => exact absurd native Bool.false_ne_true
  | array items => cases items <;> exact ⟨_, _, rfl, by decide, by decide⟩
  | object fields => cases fields <;> exact ⟨_, _, rfl, by decide, by decide⟩

private theorem closed_compactItems (items : List Json) (rest : List Char) :
    Closed (compactItems items ++ rest) := by
  cases items <;> exact closed_cons (by simp)

private theorem closed_compactMembers (members : List (String × Json)) (rest : List Char) :
    Closed (compactMembers members ++ rest) := by
  cases members <;> exact closed_cons (by simp)

private theorem isNativeItems_cons {item : Json} {items : List Json} :
    isNativeItems (item :: items) = true ↔ item.isNative = true ∧ isNativeItems items = true := by
  rw [isNativeItems, Bool.and_eq_true]

theorem isNativeFields_cons {key : String} {value : Json} {members : List (String × Json)} :
    isNativeFields ((key, value) :: members) = true ↔
      value.isNative = true ∧ isNativeFields members = true := by
  rw [isNativeFields, Bool.and_eq_true]

theorem isNativeItems_iff {items : List Json} :
    isNativeItems items = true ↔ ∀ item ∈ items, item.isNative = true := by
  induction items with
  | nil => simp [isNativeItems]
  | cons item items ih => rw [isNativeItems_cons, ih, List.forall_mem_cons]

theorem isNative_array {items : List Json} :
    (Json.array items).isNative = true ↔ ∀ item ∈ items, item.isNative = true := by
  rw [isNative, isNativeItems_iff]

theorem isNative_object {fields : List (String × Json)} :
    (Json.object fields).isNative = true ↔
      (fields.map (·.1)).Nodup ∧ isNativeFields fields = true := by
  rw [isNative, Bool.and_eq_true, decide_eq_true_eq]

private theorem length_quote (text : List Char) :
    (quote text).length = (text.flatMap escapeChar).length + 2 := by
  simp [quote]

/-- The written items of an array, its brackets apart from the closing one. -/
def itemsText : List Json → List Char
  | [] => [']']
  | item :: items => compact item ++ compactItems items

def membersText : List (String × Json) → List Char
  | [] => ['}']
  | (key, value) :: members => quote key.toList ++ ':' :: (compact value ++ compactMembers members)

private theorem compactItems_eq {items : List Json} (more : items ≠ []) :
    compactItems items = ',' :: itemsText items := by
  cases items with
  | nil => exact absurd rfl more
  | cons item items => rfl

private theorem compactMembers_eq {members : List (String × Json)} (more : members ≠ []) :
    compactMembers members = ',' :: membersText members := by
  cases members with
  | nil => exact absurd rfl more
  | cons member members => rfl

mutual

/-- Reading a written value stops exactly behind it. -/
private theorem readValue_compact (value : Json) (native : value.isNative = true) (rest : List Char)
    (closed : Closed rest) (fuel : ℕ) (enough : (compact value).length ≤ fuel) :
    readValue fuel (compact value ++ rest) = some (value, rest) := by
  cases value with
  | int value => exact readValue_number_append closed (readNumber_intText value) enough
  | float value literal =>
    exact readValue_number_append closed (by simpa [isNative, compact] using native) enough
  | null =>
    obtain ⟨fuel, rfl⟩ : ∃ less, fuel = less + 1 := ⟨fuel - 1, by simp [compact] at enough; omega⟩
    simp [compact, readValue, isBlank]
  | bool value =>
    obtain ⟨fuel, rfl⟩ : ∃ less, fuel = less + 1 :=
      ⟨fuel - 1, by cases value <;> simp [compact] at enough <;> omega⟩
    cases value <;> simp [compact, readValue, isBlank]
  | string value =>
    rw [compact, length_quote] at enough
    obtain ⟨fuel, rfl⟩ : ∃ less, fuel = less + 1 := ⟨fuel - 1, by omega⟩
    simp only [compact, quote, List.cons_append, List.append_assoc, List.nil_append]
    rw [readValue, skipBlanks_cons (by decide)]
    simp only [readString_quote value (show _ < fuel by omega), Option.bind_eq_bind,
      Option.bind_some, Option.pure_def]
  | surrogates before surrogate after => exact absurd native Bool.false_ne_true
  | array items =>
    rw [isNative] at native
    cases items with
    | nil =>
      obtain ⟨fuel, rfl⟩ : ∃ less, fuel = less + 1 := ⟨fuel - 1, by simp [compact] at enough; omega⟩
      simp [compact, readValue, isBlank]
    | cons item items =>
      simp only [compact, List.length_cons] at enough
      obtain ⟨fuel, rfl⟩ : ∃ less, fuel = less + 1 := ⟨fuel - 1, by omega⟩
      have read := readItems_compact (item :: items) (by simp) native rest fuel
        (by simpa [itemsText] using enough)
      obtain ⟨c, text, head, opening, solid⟩ := compact_head item (isNativeItems_cons.mp native).1
      simp only [itemsText, head, List.cons_append, List.append_assoc] at read
      simp only [compact, head, List.cons_append, List.append_assoc]
      rw [readValue, skipBlanks_cons (by decide)]
      simp only [skipBlanks_cons solid]
      split
      · exact absurd (List.cons.inj ‹_›).1 opening
      · rw [read]
        rfl
  | object fields =>
    simp only [isNative, Bool.and_eq_true, decide_eq_true_eq] at native
    cases fields with
    | nil =>
      obtain ⟨fuel, rfl⟩ : ∃ less, fuel = less + 1 := ⟨fuel - 1, by simp [compact] at enough; omega⟩
      simp [compact, readValue, isBlank]
    | cons member members =>
      obtain ⟨key, value⟩ := member
      simp only [compact, List.length_cons] at enough
      obtain ⟨fuel, rfl⟩ : ∃ less, fuel = less + 1 := ⟨fuel - 1, by omega⟩
      have read := readMembers_compact ((key, value) :: members) (by simp) native.2 rest fuel
        (by simpa [membersText] using enough)
      simp only [membersText, quote, List.cons_append, List.append_assoc] at read
      have solid : isBlank '"' = false := by decide
      simp only [compact, quote, List.cons_append, List.append_assoc]
      rw [readValue, skipBlanks_cons (by decide)]
      simp only [skipBlanks_cons solid]
      split
      · exact absurd (List.cons.inj ‹_›).1 (by decide)
      · rw [read]
        simp only [Option.bind_eq_bind, Option.bind_some]
        rw [foldl_insertMember (by simpa using native.1)]
        rfl

private theorem readItems_compact (items : List Json) (nonempty : items ≠ [])
    (native : isNativeItems items = true) (rest : List Char) (fuel : ℕ)
    (enough : (itemsText items).length ≤ fuel) :
    readItems fuel (itemsText items ++ rest) = some (items, rest) := by
  cases items with
  | nil => exact absurd rfl nonempty
  | cons item items =>
    obtain ⟨itemNative, itemsNative⟩ := isNativeItems_cons.mp native
    rw [itemsText, List.length_append] at enough
    have closing : 0 < (compactItems items).length := by cases items <;> simp [compactItems]
    obtain ⟨fuel, rfl⟩ : ∃ less, fuel = less + 1 := ⟨fuel - 1, by omega⟩
    have written : 0 < (compact item).length := by
      obtain ⟨c, text, head, -, -⟩ := compact_head item itemNative
      simp [head]
    have first := readValue_compact item itemNative (compactItems items ++ rest)
      (closed_compactItems items rest) fuel (by omega)
    rw [itemsText, List.append_assoc, readItems, first]
    simp only [Option.bind_eq_bind, Option.bind_some]
    by_cases last : items = []
    · simp [last, compactItems, isBlank]
    · rw [compactItems_eq last, List.length_cons] at enough
      have others := readItems_compact items last itemsNative rest fuel (by omega)
      rw [compactItems_eq last, List.cons_append, skipBlanks_cons (by decide)]
      simp only [others, Option.bind_some, Option.pure_def]

private theorem readMembers_compact (members : List (String × Json)) (nonempty : members ≠ [])
    (native : isNativeFields members = true) (rest : List Char) (fuel : ℕ)
    (enough : (membersText members).length ≤ fuel) :
    readMembers fuel (membersText members ++ rest) = some (members, rest) := by
  match members with
  | [] => exact absurd rfl nonempty
  | (key, value) :: members =>
    obtain ⟨valueNative, membersNative⟩ := isNativeFields_cons.mp native
    simp only [membersText, List.length_append, List.length_cons, length_quote] at enough
    obtain ⟨fuel, rfl⟩ : ∃ less, fuel = less + 1 := ⟨fuel - 1, by omega⟩
    have first := readValue_compact value valueNative (compactMembers members ++ rest)
      (closed_compactMembers members rest) fuel (by omega)
    simp only [membersText, quote, List.cons_append, List.append_assoc, List.nil_append]
    rw [readMembers, skipBlanks_cons (by decide)]
    simp only [readString_quote key.toList (show _ < fuel by omega), Option.bind_eq_bind,
      Option.bind_some]
    rw [skipBlanks_cons (by decide)]
    simp only [first, Option.bind_some, String.ofList_toList]
    by_cases last : members = []
    · simp [last, compactMembers, isBlank]
    · rw [compactMembers_eq last, List.length_cons] at enough
      have others := readMembers_compact members last membersNative rest fuel (by omega)
      rw [compactMembers_eq last, List.cons_append, skipBlanks_cons (by decide)]
      simp only [others, Option.bind_some, Option.pure_def]

end

/-- `json.loads(json.dumps(value))` is the value. -/
theorem loads_compact {value : Json} (native : value.isNative = true) :
    loads (compact value) = some value := by
  have closed : Closed [] := fun c member => by simp at member
  have read := readValue_compact value native [] closed ((compact value).length + 1) (Nat.le_succ _)
  rw [List.append_nil] at read
  rw [loads, read]
  rfl

/-- Different native values are written differently. -/
theorem compact_injective {left right : Json} (leftNative : left.isNative = true)
    (rightNative : right.isNative = true) (same : compact left = compact right) : left = right := by
  have read := loads_compact leftNative
  rw [same, loads_compact rightNative] at read
  exact (Option.some.inj read).symm

end Json
