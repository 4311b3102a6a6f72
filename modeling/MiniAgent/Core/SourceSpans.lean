import MiniAgent.Core.ReducerClosure

/-! # Source spans

The reducer accepts a quote that occurs exactly once in its message and is not the whole message,
and keeps the span and the hash of that slice. The occurrence search is a loop with overlapping
restarts and an early exit; here it is read as what it finds.
-/

namespace MiniAgent.Core

/-- The part stands at a position of the text. -/
def OccursAt (text part : Text) (position : ℕ) : Prop := part <+: text.drop position

theorem OccursAt.within {text part : Text} {position : ℕ} (occurs : OccursAt text part position)
    (some_part : part ≠ []) :
    position + part.length ≤ text.length := by
  have short := occurs.length_le
  rw [List.length_drop] at short
  have positive := List.length_pos_of_ne_nil some_part
  omega

/-- What stands at a position is the slice from there. -/
private theorem OccursAt.slice {text part : Text} {position : ℕ}
    (occurs : OccursAt text part position) :
    (text.take (position + part.length)).drop position = part := by
  rw [List.drop_take, Nat.add_sub_cancel_left]
  exact (List.prefix_iff_eq_take.mp occurs).symm

private theorem not_isPrefixOf_iff {text part : Text} {position : ℕ} :
    (!part.isPrefixOf (text.drop position)) = true ↔ ¬OccursAt text part position := by
  rw [Bool.not_eq_true', ← Bool.not_eq_true, List.isPrefixOf_iff_prefix]
  rfl

theorem findText_eq_none_iff {text part : Text} {start : ℕ} (some_part : part ≠ []) :
    findText text part start = none ↔ ∀ position, start ≤ position →
    ¬OccursAt text part position := by
  simp only [findText, List.find?_range'_eq_none, not_isPrefixOf_iff]
  constructor
  · intro absent position from_start occurs
    have within := occurs.within some_part
    exact absent position from_start (by omega) occurs
  · intro absent position from_start _
    exact absent position from_start

/-- A search finds the first occurrence from its start on. -/
private theorem findText_eq_some_iff {text part : Text} {start position : ℕ}
    (some_part : part ≠ []) :
    findText text part start = some position ↔ start ≤ position ∧ OccursAt text part position ∧
      ∀ earlier, start ≤ earlier → earlier < position → ¬OccursAt text part earlier := by
  simp only [findText, List.find?_range'_eq_some, not_isPrefixOf_iff, List.isPrefixOf_iff_prefix,
    List.mem_range'_1]
  constructor
  · rintro ⟨occurs, ⟨from_start, -⟩, first⟩
    exact ⟨from_start, occurs, first⟩
  · rintro ⟨from_start, occurs, first⟩
    have within := occurs.within some_part
    exact ⟨occurs, ⟨from_start, by omega⟩, first⟩

/-- The search loop ends with one position exactly when the part occurs there and nowhere else,
overlapping occurrences counted. -/
private theorem firstOccurrences_eq_singleton {text part : Text} {start : ℕ}
    (some_part : part ≠ []) :
    firstOccurrences text part = [start] ↔ ∀ position, OccursAt text part position ↔
    position = start := by
  unfold firstOccurrences
  cases found : findText text part 0 with
  | none =>
    have absent := (findText_eq_none_iff some_part).mp found
    constructor
    · intro impossible
      exact absurd impossible (List.cons_ne_nil _ _).symm
    · intro unique
      exact absurd ((unique start).mpr rfl) (absent start (Nat.zero_le _))
  | some first =>
    obtain ⟨-, occurs, earliest⟩ := (findText_eq_some_iff some_part).mp found
    cases again : findText text part (first + 1) with
    | none =>
      have absent := (findText_eq_none_iff some_part).mp again
      have unique : ∀ position, OccursAt text part position ↔ position = first := by
        intro position
        constructor
        · intro other
          rcases Nat.lt_trichotomy position first with before | same | after
          · exact absurd other (earliest position (Nat.zero_le _) before)
          · exact same
          · exact absurd other (absent position after)
        · rintro rfl
          exact occurs
      simp only [again]
      constructor
      · intro same
        rwa [← (List.cons.inj same).1]
      · intro other
        rw [(other first).mp occurs]
    | some second =>
      obtain ⟨later, occursAgain, -⟩ := (findText_eq_some_iff some_part).mp again
      simp only [again]
      constructor
      · intro same
        exact absurd (List.cons.inj same).2 (List.cons_ne_nil _ _)
      · intro unique
        have one := (unique first).mp occurs
        have two := (unique second).mp occursAgain
        omega

/-- A quote has a span exactly when it is a proper part of the message that occurs once and proves
its candidate value. -/
theorem exactSourceSpanV2_eq_ok_iff {message quote value : Text} {start stop : ℕ}
    {quoteHash : Text} :
    exactSourceSpanV2 message quote value = .ok (start, stop, quoteHash) ↔
      quote ≠ [] ∧ quote ≠ message ∧
      (∀ position, OccursAt message quote position ↔ position = start) ∧
        quoteProvesCandidate quote value = true ∧ stop = start + quote.length ∧
        quoteHash = sha256Hexdigest quote := by
  constructor
  · intro success
    simp only [exactSourceSpanV2, Except.bind_eq_ok_iff, Except.require_eq_ok_iff,
      Bool.not_eq_true', List.isEmpty_eq_false_iff, bne_iff_ne] at success
    obtain ⟨-, some_quote, -, proper, success⟩ := success
    split at success
    · next first single =>
      have unique := (firstOccurrences_eq_singleton some_quote).mp single
      simp only [Except.bind_eq_ok_iff, Except.require_eq_ok_iff, Except.pure_eq_ok_iff,
        Prod.mk.injEq] at success
      obtain ⟨-, proves, rfl, rfl, rfl⟩ := success
      exact ⟨some_quote, proper, unique, proves, rfl, by rw [((unique _).mpr rfl).slice]⟩
    · exact absurd success Except.throw_ne_ok
  · rintro ⟨some_quote, proper, unique, proves, rfl, rfl⟩
    have single := (firstOccurrences_eq_singleton some_quote).mpr unique
    have slice := ((unique start).mpr rfl).slice
    simp only [exactSourceSpanV2,
      Except.require_of (show (!quote.isEmpty) = true by simpa using some_quote),
      Except.require_of (bne_iff_ne.mpr proper), single, Except.require_of proves,
      Except.bind_ok, slice]
    rfl

/-- What a span says about its quote. -/
structure SpanOf (message quote : Text) (start stop : ℕ) (quoteHash : Text) : Prop where
  nonempty : start < stop
  within : stop ≤ message.length
  slice : (message.take stop).drop start = quote
  /-- A proper part of the message. -/
  proper : quote.length < message.length
  /-- It stands at no other position. -/
  unique : ∀ position, OccursAt message quote position ↔ position = start
  hash : quoteHash = sha256Hexdigest ((message.take stop).drop start)

theorem spanOf_of_eq_ok {message quote value : Text} {start stop : ℕ} {quoteHash : Text}
    (success : exactSourceSpanV2 message quote value = .ok (start, stop, quoteHash)) :
    SpanOf message quote start stop quoteHash := by
  obtain ⟨some_quote, different, unique, -, rfl, rfl⟩ := exactSourceSpanV2_eq_ok_iff.mp success
  have occurs := (unique start).mpr rfl
  have slice := occurs.slice
  have within := occurs.within some_quote
  have positive := List.length_pos_of_ne_nil some_quote
  have proper : quote.length < message.length := by
    apply Nat.lt_of_le_of_ne (by omega)
    intro same
    obtain rfl : start = 0 := by omega
    exact different (occurs.eq_of_length (by simpa using same))
  exact ⟨by omega, within, slice, proper, unique, by rw [slice]⟩

end MiniAgent.Core
