import MiniAgent.Core.Common
import Mathlib.Data.List.DropRight
import Mathlib.Data.List.Infix
import Mathlib.Data.List.TakeWhile

/-! # Order identifiers: the normal form and the in-text pattern

`normalizeOrderId` is the only way an order id enters a trusted record. `orderIdsIn` searches a
text with the two look-arounds of the source's pattern: a match is neither preceded nor followed
by an ASCII letter or digit. The pattern backtracks over the number of digits and the search goes
on after each match; `mem_orderIdsIn` shows that this finds exactly the whole tokens of the text.
-/

namespace MiniAgent.Core

/-- `[0-9]` -/
def isAsciiDigit (c : Char) : Bool := '0' ≤ c && c ≤ '9'

/-- `[A-Za-z0-9]` -/
def isAsciiAlnum (c : Char) : Bool := ('A' ≤ c && c ≤ 'Z') || ('a' ≤ c && c ≤ 'z') || isAsciiDigit c

/-- `str.isspace` on one character. -/
def isSpace (c : Char) : Bool :=
  let point := c.toNat
  (9 ≤ point && point ≤ 13) || (28 ≤ point && point ≤ 32) || point == 0x85 || point == 0xa0 ||
    point == 0x1680 || (0x2000 ≤ point && point ≤ 0x200a) || point == 0x2028 || point == 0x2029 ||
    point == 0x202f || point == 0x205f || point == 0x3000

/-- `str.strip()` -/
def strip (text : Text) : Text := (text.dropWhile isSpace).rdropWhile isSpace

private theorem isAsciiAlnum_of_isAsciiDigit {c : Char} (digit : isAsciiDigit c = true) :
    isAsciiAlnum c = true := by
  simp [isAsciiAlnum, digit]

private theorem not_isSpace_of_isAsciiDigit {c : Char} (digit : isAsciiDigit c = true) :
    isSpace c = false := by
  simp only [isAsciiDigit, Bool.and_eq_true, decide_eq_true_eq, Char.le_def, UInt32.le_iff_toNat_le]
    at digit
  have lower : 48 ≤ c.toNat := digit.1
  have upper : c.toNat ≤ 57 := digit.2
  simp only [isSpace, Bool.or_eq_false_iff, Bool.and_eq_false_iff, decide_eq_false_iff_not,
    beq_eq_false_iff_ne]
  omega

private theorem ne_letter_of_isAsciiDigit {c : Char} (digit : isAsciiDigit c = true) :
    c ≠ 'O' ∧ c ≠ 'o' := by
  constructor <;> rintro rfl <;> exact absurd digit (by decide)

/-- `^O-[0-9]{4,20}$`, matched against the whole text. -/
def isOrderId : Text → Bool
  | 'O' :: '-' :: digits => 4 ≤ digits.length && digits.length ≤ 20 && digits.all isAsciiDigit
  | _ => false

/-- Strip, raise the leading letter and require the exact form; `none` is the bounded error. -/
def normalizeOrderId (value : Text) : Option Text :=
  let stripped := strip value
  let normalized :=
    if (stripped.take 2).flatMap casefoldChar = ['o', '-'] then 'O' :: '-' :: stripped.drop 2
    else stripped
  if isOrderId normalized then some normalized else none

theorem isOrderId_iff (text : Text) : isOrderId text = true ↔
    ∃ digits, text = 'O' :: '-' :: digits ∧ 4 ≤ digits.length ∧ digits.length ≤ 20 ∧
      digits.all isAsciiDigit = true := by
  unfold isOrderId
  split
  · next digits => simp [and_assoc]
  · next other =>
    simp only [Bool.false_eq_true, false_iff, not_exists]
    rintro digits ⟨rfl, -⟩
    exact other digits rfl

theorem isOrderId_of_normalizeOrderId {value normalized : Text}
    (success : normalizeOrderId value = some normalized) : isOrderId normalized = true := by
  simp only [normalizeOrderId, Option.ite_none_right_eq_some, Option.some.injEq] at success
  obtain ⟨normal, rfl⟩ := success
  exact normal

/-- One spelling of an order id: a letter O of either case, a hyphen and four to twenty digits. -/
def IsOrderIdToken (token : Text) : Prop :=
  ∃ letter digits, token = letter :: '-' :: digits ∧ (letter = 'O' ∨ letter = 'o') ∧
    4 ≤ digits.length ∧ digits.length ≤ 20 ∧ digits.all isAsciiDigit = true

private theorem strip_token {letter : Char} {digits : Text} (isLetter : letter = 'O' ∨ letter = 'o')
    (long : 4 ≤ digits.length) (numeric : digits.all isAsciiDigit = true) :
    strip (letter :: '-' :: digits) = letter :: '-' :: digits := by
  have head : isSpace letter = false := by rcases isLetter with rfl | rfl <;> decide
  have nonempty : digits ≠ [] := by rintro rfl; simp at long
  have last : isSpace (digits.getLast nonempty) = false :=
    not_isSpace_of_isAsciiDigit (List.all_eq_true.mp numeric _ (List.getLast_mem nonempty))
  unfold strip
  rw [List.dropWhile_cons_of_neg (by simp [head]), List.rdropWhile_eq_self_iff]
  intro _
  simp only [List.getLast_cons (List.cons_ne_nil _ _), List.getLast_cons nonempty, last,
    Bool.false_eq_true, not_false_eq_true]

/-- Every spelling normalises to the upper-case one with the same digits. -/
theorem normalizeOrderId_token {letter : Char} {digits : Text}
    (isLetter : letter = 'O' ∨ letter = 'o') (long : 4 ≤ digits.length) (short : digits.length ≤ 20)
    (numeric : digits.all isAsciiDigit = true) :
    normalizeOrderId (letter :: '-' :: digits) = some ('O' :: '-' :: digits) := by
  have folded : ([letter, '-'].flatMap casefoldChar) = ['o', '-'] := by
    rcases isLetter with rfl | rfl <;> decide
  have normal : isOrderId ('O' :: '-' :: digits) = true :=
    (isOrderId_iff _).mpr ⟨digits, rfl, long, short, numeric⟩
  simp only [normalizeOrderId, strip_token isLetter long numeric, List.take_succ_cons,
    List.take_zero, folded, ↓reduceIte, List.drop_succ_cons, List.drop_zero, normal]

theorem IsOrderIdToken.normalizes {token : Text} (spelled : IsOrderIdToken token) :
    ∃ normalized, normalizeOrderId token = some normalized := by
  obtain ⟨letter, digits, rfl, isLetter, long, short, numeric⟩ := spelled
  exact ⟨_, normalizeOrderId_token isLetter long short numeric⟩

/-- The character class of a neighbouring position, if there is one. -/
def isAlnumNeighbour (neighbour : Option Char) : Bool := neighbour.any isAsciiAlnum

/-- `[0-9]{count}(?![A-Za-z0-9])` at the start of the text. -/
def isDigitRun (text : Text) (count : ℕ) : Bool :=
  (text.take count).length == count && (text.take count).all isAsciiDigit &&
    !isAlnumNeighbour (text.drop count).head?

/-- `(?:O|o)-[0-9]{4,20}(?![A-Za-z0-9])` at the start of the text, longest digit run first. -/
def orderIdAt : Text → Option Text
  | letter :: '-' :: rest =>
    if letter = 'O' ∨ letter = 'o' then
      ((List.range' 4 17).reverse.find? (isDigitRun rest)).map fun count =>
        letter :: '-' :: rest.take count
    else none
  | _ => none

/-- `finditer`: `prior` is the character before the text, `skip` the rest of the last match. -/
def orderIdsIn (skip : ℕ) (prior : Option Char) : Text → List Text
  | [] => []
  | c :: rest =>
    match skip with
    | skipped + 1 => orderIdsIn skipped (some c) rest
    | 0 =>
      match if isAlnumNeighbour prior then none else orderIdAt (c :: rest) with
      | some token => token :: orderIdsIn (token.length - 1) (some c) rest
      | none => orderIdsIn 0 (some c) rest

/-- Some order id spelled in the quote, seen from the quote alone, normalises to the given one. -/
def sourceQuoteContainsExactOrderId (sourceQuote normalizedOrderId : Text) : Bool :=
  (orderIdsIn 0 none sourceQuote).any fun token => normalizeOrderId token == some normalizedOrderId

/-- `token` stands in `text` with no letter or digit on either side; `prior` precedes the text. -/
def WholeTokenIn (prior : Option Char) (text token : Text) : Prop :=
  IsOrderIdToken token ∧ ∃ before after, text = before ++ token ++ after ∧
    isAlnumNeighbour (before.getLast?.or prior) = false ∧ isAlnumNeighbour after.head? = false

private theorem isDigitRun_append {digits after : Text} (numeric : digits.all isAsciiDigit = true)
    (boundary : isAlnumNeighbour after.head? = false) :
    isDigitRun (digits ++ after) digits.length = true := by
  simp only [isDigitRun, List.take_left', List.drop_left', beq_self_eq_true, numeric, boundary,
    Bool.not_false, Bool.and_self]

/-- Giving back a digit leaves a digit behind, so backtracking never finds a second run. -/
private theorem isDigitRun_unique {text : Text} {left right : ℕ}
    (leftRun : isDigitRun text left = true) (rightRun : isDigitRun text right = true) :
    left = right := by
  have ordered {shorter longer : ℕ} (short : isDigitRun text shorter = true)
      (long : isDigitRun text longer = true) : ¬ shorter < longer := by
    intro less
    simp only [isDigitRun, Bool.and_eq_true, beq_iff_eq, List.length_take, Bool.not_eq_true']
      at short long
    have bound : shorter < text.length := by omega
    have digit : isAsciiDigit text[shorter] = true :=
      List.all_eq_true.mp long.1.2 _ (List.mem_take_iff_getElem.mpr ⟨shorter, by omega, rfl⟩)
    have boundary := short.2
    rw [List.head?_drop, List.getElem?_eq_getElem bound] at boundary
    simp [isAlnumNeighbour, isAsciiAlnum_of_isAsciiDigit digit] at boundary
  exact le_antisymm (not_lt.mp (ordered rightRun leftRun)) (not_lt.mp (ordered leftRun rightRun))

private theorem orderIdAt_eq_some {text token : Text} : orderIdAt text = some token ↔
    IsOrderIdToken token ∧ ∃ after, text = token ++ after ∧
    isAlnumNeighbour after.head? = false := by
  constructor
  · intro found
    unfold orderIdAt at found
    split at found
    · next letter rest =>
      split at found
      · next isLetter =>
        obtain ⟨count, run, rfl⟩ := Option.map_eq_some_iff.mp found
        have range := List.mem_range'_1.mp (List.mem_reverse.mp (List.mem_of_find?_eq_some run))
        have matched := List.find?_some run
        simp only [isDigitRun, Bool.and_eq_true, beq_iff_eq, Bool.not_eq_true'] at matched
        refine ⟨⟨letter, rest.take count, rfl, isLetter, by omega, by omega, matched.1.2⟩,
          rest.drop count, ?_, matched.2⟩
        simp only [List.cons_append, List.take_append_drop]
      · exact absurd found (Option.some_ne_none _).symm
    · exact absurd found (Option.some_ne_none _).symm
  · rintro ⟨⟨letter, digits, rfl, isLetter, long, short, numeric⟩, after, rfl, boundary⟩
    have run := isDigitRun_append numeric boundary
    simp only [List.cons_append, orderIdAt, if_pos isLetter]
    cases search : (List.range' 4 17).reverse.find? (isDigitRun (digits ++ after)) with
    | none =>
      have reached : digits.length ∈ (List.range' 4 17).reverse :=
        List.mem_reverse.mpr (List.mem_range'_1.mpr ⟨long, by omega⟩)
      exact absurd run (List.find?_eq_none.mp search _ reached)
    | some count =>
      obtain rfl := isDigitRun_unique (List.find?_some search) run
      simp only [Option.map_some, List.take_left']

/-- Inside a spelling only its first character is a letter O. -/
private theorem IsOrderIdToken.tail_ne_letter {token : Text} (spelled : IsOrderIdToken token) :
    ∀ c ∈ token.tail, c ≠ 'O' ∧ c ≠ 'o' := by
  obtain ⟨letter, digits, rfl, -, -, -, numeric⟩ := spelled
  intro c member
  rcases List.mem_cons.mp member with rfl | member
  · decide
  · exact ne_letter_of_isAsciiDigit (List.all_eq_true.mp numeric c member)

private theorem not_wholeTokenIn_nil (prior : Option Char) (token : Text) :
    ¬ WholeTokenIn prior [] token := by
  rintro ⟨⟨letter, digits, rfl, -⟩, before, after, split, -⟩
  simp at split

/-- A whole token of a non-empty text starts at its head or is one of the tail. -/
private theorem wholeTokenIn_cons {prior : Option Char} {c : Char} {rest token : Text} :
    WholeTokenIn prior (c :: rest) token ↔
      (isAlnumNeighbour prior = false ∧ orderIdAt (c :: rest) = some token) ∨
        WholeTokenIn (some c) rest token := by
  rw [orderIdAt_eq_some]
  constructor
  · rintro ⟨spelled, before, after, split, left, right⟩
    cases before with
    | nil => exact .inl ⟨left, spelled, after, split, right⟩
    | cons head before =>
      obtain ⟨rfl, rfl⟩ := List.cons.inj split
      refine .inr ⟨spelled, before, after, rfl, ?_, right⟩
      cases last : before.getLast? <;> simpa [List.getLast?_cons, last] using left
  · rintro (⟨left, spelled, after, split, right⟩ | ⟨spelled, before, after, split, left, right⟩)
    · exact ⟨spelled, [], after, split, left, right⟩
    · refine ⟨spelled, c :: before, after, by rw [split]; rfl, ?_, right⟩
      cases last : before.getLast? <;> simpa [List.getLast?_cons, last] using left

/-- The search finds exactly the whole tokens: what it skips after a match starts no token. -/
theorem mem_orderIdsIn {skip : ℕ} {prior : Option Char} {text token : Text}
    (skipped : ∀ c ∈ text.take skip, c ≠ 'O' ∧ c ≠ 'o') :
    token ∈ orderIdsIn skip prior text ↔ WholeTokenIn prior text token := by
  induction text generalizing skip prior with
  | nil => simp [orderIdsIn, not_wholeTokenIn_nil]
  | cons c rest ih =>
    rw [wholeTokenIn_cons]
    cases skip with
    | succ skip =>
      have notLetter := skipped c (List.mem_cons_self ..)
      have noMatch : orderIdAt (c :: rest) ≠ some token := by
        intro found
        obtain ⟨⟨letter, digits, rfl, isLetter, -⟩, after, split, -⟩ := orderIdAt_eq_some.mp found
        obtain ⟨rfl, -⟩ := List.cons.inj split
        exact isLetter.elim notLetter.1 notLetter.2
      simp only [orderIdsIn, noMatch, and_false, false_or]
      exact ih (fun other member => skipped other (List.mem_cons_of_mem _ member))
    | zero =>
      cases left : isAlnumNeighbour prior with
      | true =>
        simp only [orderIdsIn, left, ↓reduceIte, Bool.true_eq_false, false_and, false_or]
        exact ih (by simp)
      | false =>
        cases found : orderIdAt (c :: rest) with
        | none =>
          simp only [orderIdsIn, left, Bool.false_eq_true, ↓reduceIte, found, true_and,
            reduceCtorEq, false_or]
          exact ih (by simp)
        | some first =>
          obtain ⟨spelled, after, split, -⟩ := orderIdAt_eq_some.mp found
          have consumed : rest.take (first.length - 1) = first.tail := by
            obtain ⟨letter, digits, rfl, -⟩ := spelled
            obtain ⟨-, rfl⟩ := List.cons.inj split
            simp
          have later : token ∈ orderIdsIn (first.length - 1) (some c) rest ↔
              WholeTokenIn (some c) rest token :=
                ih (by rw [consumed]; exact spelled.tail_ne_letter)
          simp only [orderIdsIn, left, Bool.false_eq_true, ↓reduceIte, found, List.mem_cons, later,
            true_and, Option.some.injEq, eq_comm (a := token)]

theorem sourceQuoteContainsExactOrderId_iff {sourceQuote normalized : Text} :
    sourceQuoteContainsExactOrderId sourceQuote normalized = true ↔
      ∃ token, WholeTokenIn none sourceQuote token ∧ normalizeOrderId token = some normalized := by
  have found (token : Text) : token ∈ orderIdsIn 0 none sourceQuote ↔
      WholeTokenIn none sourceQuote token :=
    mem_orderIdsIn (by simp)
  simp only [sourceQuoteContainsExactOrderId, List.any_eq_true, beq_iff_eq, found]

end MiniAgent.Core
