import MiniAgent.Core.ControlGateway

/-! # One normal form of order ids

Order ids are normalised in three places: when a candidate is reduced, when a quote is searched for
an id, and when the gateway checks the arguments of a call. All of them agree on which order a text
names.
-/

namespace MiniAgent.Core

variable {value left right normal leftNormal rightNormal : Text}

private theorem casefoldChar_ne_nil (c : Char) : casefoldChar c ≠ [] := by
  unfold casefoldChar
  split_ifs <;> simp

/-- The small letter of a capital one. -/
private theorem toNat_lowered {c : Char} (capital : 'A' ≤ c ∧ c ≤ 'Z') :
    (Char.ofNat (c.toNat + 32)).toNat = c.toNat + 32 ∧ 65 ≤ c.toNat ∧ c.toNat ≤ 90 := by
  have lower : 65 ≤ c.toNat := capital.1
  have upper : c.toNat ≤ 90 := capital.2
  have valid : (c.toNat + 32).isValidChar := Or.inl (by omega)
  exact ⟨by rw [Char.ofNat, dif_pos valid]; rfl, lower, upper⟩

/-- Only the two spellings of a letter O fold to a small one. -/
private theorem casefoldChar_eq_o {c : Char} (folded : casefoldChar c = ['o']) :
    c = 'O' ∨ c = 'o' := by
  unfold casefoldChar at folded
  split_ifs at folded with capital
  · have same : Char.ofNat (c.toNat + 32) = 'o' := (List.cons.inj folded).1
    have code := (toNat_lowered capital).1
    rw [same] at code
    have letter : c.toNat = 'O'.toNat := by
      have small : 'o'.toNat = 111 := rfl
      have large : 'O'.toNat = 79 := rfl
      omega
    exact .inl (Char.toNat_inj.mp letter)
  all_goals simp_all

private theorem casefoldChar_eq_hyphen {c : Char} (folded : casefoldChar c = ['-']) : c = '-' := by
  unfold casefoldChar at folded
  split_ifs at folded with capital
  · have same : Char.ofNat (c.toNat + 32) = '-' := (List.cons.inj folded).1
    obtain ⟨code, lower, -⟩ := toNat_lowered capital
    rw [same] at code
    have small : '-'.toNat = 45 := rfl
    omega
  all_goals simp_all

/-- A prefix of two characters that folds to `o-`: every character folds to something, so it is a
letter O and a hyphen. -/
private theorem folds_to_prefix_iff : (value.take 2).flatMap casefoldChar = ['o', '-'] ↔
    ∃ letter rest, value = letter :: '-' :: rest ∧ (letter = 'O' ∨ letter = 'o') := by
  constructor
  · intro folds
    rcases value with _ | ⟨letter, _ | ⟨second, rest⟩⟩
    · simp at folds
    · -- no character folds to both
      rw [List.take_of_length_le (by simp), List.flatMap_singleton] at folds
      unfold casefoldChar at folds
      split_ifs at folds <;> simp_all
    · rw [show (letter :: second :: rest).take 2 = [letter, second] from rfl, List.flatMap_cons,
        List.flatMap_singleton] at folds
      rcases first : casefoldChar letter with _ | ⟨head, _ | ⟨next, more⟩⟩
      · exact absurd first (casefoldChar_ne_nil letter)
      · rw [first, List.singleton_append] at folds
        obtain ⟨rfl, hyphen⟩ := List.cons.inj folds
        rw [casefoldChar_eq_hyphen hyphen]
        exact ⟨letter, rest, rfl, casefoldChar_eq_o first⟩
      · rw [first, List.cons_append, List.cons_append] at folds
        obtain ⟨-, folds⟩ := List.cons.inj folds
        have nothing := (List.append_eq_nil_iff.mp (List.cons.inj folds).2).2
        exact absurd nothing (casefoldChar_ne_nil second)
  · rintro ⟨letter, rest, rfl, rfl | rfl⟩
    · exact (show ['O', '-'].flatMap casefoldChar = ['o', '-'] by decide)
    · exact (show ['o', '-'].flatMap casefoldChar = ['o', '-'] by decide)

/-- A text has a normal form when it is a spelling of an order id, up to surrounding whitespace. -/
private theorem normalizeOrderId_eq_some_iff : normalizeOrderId value = some normal ↔
    ∃ letter digits, strip value = letter :: '-' :: digits ∧ (letter = 'O' ∨ letter = 'o') ∧
    4 ≤ digits.length ∧
      digits.length ≤ 20 ∧ digits.all isAsciiDigit = true ∧ normal = 'O' :: '-' :: digits := by
  simp only [normalizeOrderId, Option.ite_none_right_eq_some, Option.some.injEq]
  constructor
  · rintro ⟨normalForm, rfl⟩
    obtain ⟨digits, same, long, short, numeric⟩ := (isOrderId_iff _).mp normalForm
    rw [same]
    split_ifs at same with folds
    · obtain ⟨letter, rest, stripped, isLetter⟩ := folds_to_prefix_iff.mp folds
      rw [stripped] at same ⊢
      obtain rfl : rest = digits := by simpa using same
      exact ⟨letter, rest, rfl, isLetter, long, short, numeric, rfl⟩
    · exact ⟨'O', digits, same, .inl rfl, long, short, numeric, rfl⟩
  · rintro ⟨letter, digits, stripped, isLetter, long, short, numeric, rfl⟩
    have folds : ((strip value).take 2).flatMap casefoldChar = ['o', '-'] :=
      folds_to_prefix_iff.mpr ⟨letter, digits, stripped, isLetter⟩
    rw [if_pos folds, stripped]
    exact ⟨(isOrderId_iff _).mpr ⟨digits, rfl, long, short, numeric⟩, rfl⟩

/-- After stripping, two texts differ at most in the case of their first letter. -/
def SameUpToSpaceAndCase (left right : Text) : Prop :=
  ∃ leftLetter rightLetter rest, strip left = leftLetter :: rest ∧
    strip right = rightLetter :: rest ∧ casefoldChar leftLetter = casefoldChar rightLetter

private theorem normalizeOrderId_idempotent (success : normalizeOrderId value = some normal) :
    normalizeOrderId normal = some normal := by
  obtain ⟨-, digits, -, -, long, short, numeric, rfl⟩ := normalizeOrderId_eq_some_iff.mp success
  exact normalizeOrderId_token (.inl rfl) long short numeric

private theorem normal_eq_iff (leftSuccess : normalizeOrderId left = some leftNormal)
    (rightSuccess : normalizeOrderId right = some rightNormal) :
    leftNormal = rightNormal ↔ SameUpToSpaceAndCase left right := by
  obtain ⟨leftLetter, leftDigits, leftStripped, leftIs, -, -, -, rfl⟩ :=
    normalizeOrderId_eq_some_iff.mp leftSuccess
  obtain ⟨rightLetter, rightDigits, rightStripped, rightIs, -, -, -, rfl⟩ :=
    normalizeOrderId_eq_some_iff.mp rightSuccess
  constructor
  · intro same
    obtain rfl : leftDigits = rightDigits := by simpa using same
    refine ⟨leftLetter, rightLetter, _, leftStripped, rightStripped, ?_⟩
    rcases leftIs with rfl | rfl <;> rcases rightIs with rfl | rfl <;> decide
  · rintro ⟨first, second, rest, leftSame, rightSame, -⟩
    rw [leftStripped] at leftSame
    rw [rightStripped] at rightSame
    obtain ⟨-, rfl⟩ := List.cons.inj leftSame
    obtain ⟨-, same⟩ := List.cons.inj rightSame
    rw [List.cons_inj_right] at same
    rw [same]

/-- A spelling of a normal form stands in the quote with no ASCII letter or digit next to it. -/
def SpelledIn (quote normal : Text) : Prop :=
  ∃ before token after, quote = before ++ token ++ after ∧ IsOrderIdToken token ∧
    normalizeOrderId token = some normal ∧ isAlnumNeighbour before.getLast? = false ∧
    isAlnumNeighbour after.head? = false

private theorem sourceQuoteContainsExactOrderId_iff_spelledIn {quote : Text} :
    sourceQuoteContainsExactOrderId quote normal = true ↔ SpelledIn quote normal := by
  rw [sourceQuoteContainsExactOrderId_iff]
  constructor
  · rintro ⟨token, ⟨spelled, before, after, split, left, right⟩, normalizes⟩
    exact ⟨before, token, after, split, spelled, normalizes, by simpa using left, right⟩
  · rintro ⟨before, token, after, split, spelled, normalizes, left, right⟩
    exact ⟨token, ⟨spelled, before, after, split, by simpa using left, right⟩, normalizes⟩

private theorem normalizes_of_mem_orderIdsIn {text token : Text}
    (member : token ∈ orderIdsIn 0 none text) :
    (normalizeOrderId token).isSome = true := by
  have whole : WholeTokenIn none text token := (mem_orderIdsIn (by simp)).mp member
  obtain ⟨normalized, success⟩ := whole.1.normalizes
  rw [success]
  rfl

variable {arguments : List (String × Json)} {registration : ToolRegistration}
  {visibleSpec : ToolSpec}

/-- For a tool that is the order tool, the gateway's schema check with the reducer's own candidate
only asks whether there is one. -/
private theorem closedGetOrderSchemaIsValid_iff
    (isGetOrder : registration.toolSpec.sameAs getOrderToolSpec = true)
    (matched : registrationMatchesVisibleSpec (some registration) (some visibleSpec) = true) :
    closedGetOrderSchemaIsValid arguments (candidateOrderIdOrNone arguments) (some registration)
    (some visibleSpec) =
        true ↔ (candidateOrderIdOrNone arguments).isSome = true := by
  simp only [closedGetOrderSchemaIsValid, candidateOrderIdOrNone, Option.any_some, isGetOrder,
    matched, Bool.true_and]
  cases names : namesOnlyOrderId arguments with
  | false => simp
  | true =>
    rw [if_pos rfl, Bool.true_and]
    rcases Json.lookup arguments "order_id" with _ | candidate
    · simp
    · cases candidate with
      | string rawOrderId =>
        simp only [normalizeOrderId]
        split_ifs <;> simp_all
      | _ => simp

/-- The normal form of an order id is one: normalising again changes nothing; two texts share it
when they differ only in surrounding whitespace and the case of the letter; every id that is found
in a text has one; a quote contains an id exactly when a spelling stands in it by itself; and the
gateway accepts the arguments from which the reducer reads an id. -/
theorem one_normal_form :
    (∀ value normal, normalizeOrderId value = some normal → normalizeOrderId normal = some normal) ∧
    (∀ left right leftNormal rightNormal, normalizeOrderId left = some leftNormal →
      normalizeOrderId right = some rightNormal →
      (leftNormal = rightNormal ↔ SameUpToSpaceAndCase left right)) ∧
    (∀ text, ∀ token ∈ orderIdsIn 0 none text, (normalizeOrderId token).isSome = true) ∧
    (∀ quote normal, sourceQuoteContainsExactOrderId quote normal = true ↔ SpelledIn quote normal) ∧
    ∀ (arguments : List (String × Json)) (registration : ToolRegistration) (visibleSpec : ToolSpec),
      registration.toolSpec.sameAs getOrderToolSpec = true →
      registrationMatchesVisibleSpec (some registration) (some visibleSpec) = true →
      (closedGetOrderSchemaIsValid arguments (candidateOrderIdOrNone arguments) (some registration)
        (some visibleSpec) =
        true ↔ (candidateOrderIdOrNone arguments).isSome = true) :=
  ⟨fun _ _ => normalizeOrderId_idempotent, fun _ _ _ _ => normal_eq_iff,
    fun _ _ => normalizes_of_mem_orderIdsIn, fun _ _ =>
      sourceQuoteContainsExactOrderId_iff_spelledIn, fun _ _ _ => closedGetOrderSchemaIsValid_iff⟩

/-- The order tool as one provider may name it. -/
def renamedRegistration : ToolRegistration where
  toolSpec := getOrderToolSpec
  providerVisibleName := "lookup_order"
  effect := .read
  risk := "LOW"
  idempotency := "IDEMPOTENT"
  handlerRef := "get_order_handler"
  executionPolicy :=
    { timeoutMs := 1000, maxAttempts := 1, interruptBehavior := "MARK_INTERRUPTED" }

/-- Two spellings of one id, of which the renamed order tool takes either. -/
theorem one_normal_form_renamed :
    normalizeOrderId " o-1001".toList = normalizeOrderId "O-1001 ".toList ∧
      closedGetOrderSchemaIsValid [("order_id", .string " o-1001".toList)]
        (candidateOrderIdOrNone [("order_id", .string " o-1001".toList)])
        (some renamedRegistration)
        (some { getOrderToolSpec with name := "lookup_order" }) = true := by
  obtain ⟨-, same, -, -, accepts⟩ := one_normal_form
  have left : normalizeOrderId " o-1001".toList = some "O-1001".toList := by decide
  have right : normalizeOrderId "O-1001 ".toList = some "O-1001".toList := by decide
  exact ⟨left.trans right.symm,
    (accepts _ _ _ (by decide) (by decide)).mpr (by decide)⟩

end MiniAgent.Core
