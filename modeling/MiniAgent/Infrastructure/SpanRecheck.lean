import MiniAgent.Application.Persistence
import MiniAgent.Core.SourceSpans

/-! # The recheck of source spans

The evidence loader slices the stored message again. It finds the text that the reducer found, so
that its recheck cannot fail on what the reducer has projected.
-/

namespace MiniAgent.Infrastructure

open MiniAgent.Core MiniAgent.Application

/-- What the loader reads of a durable candidate. -/
structure SourceSpan where
  sourceRef : Uuid
  sourceSpanStart : ℕ
  sourceSpanEndExclusive : ℕ
  sourceQuoteSha256 : Text
deriving DecidableEq, Repr

def ofResolvedReference (candidate : DurableResolvedReferenceCandidateV2) : SourceSpan :=
  ⟨candidate.sourceRef, candidate.sourceSpanStart, candidate.sourceSpanEndExclusive,
    candidate.sourceQuoteSha256⟩

def ofInputCandidate (candidate : DurableInputCandidateV2) : SourceSpan :=
  ⟨candidate.sourceRef, candidate.sourceSpanStart, candidate.sourceSpanEndExclusive,
    candidate.sourceQuoteSha256⟩

/-- One pass of the loop over `provenance_candidates`. -/
def recheckSourceSpan (messages : List MessageRecord) (span : SourceSpan) : Codec Unit := do
  let message ← orIntegrity .linkProjectionMismatch
    (Keyed.lastByKey (·.messageId) messages span.sourceRef)
  requireIntegrity (decide (span.sourceSpanStart < span.sourceSpanEndExclusive) &&
    decide (span.sourceSpanEndExclusive ≤ message.content.length)) .linkProjectionMismatch
  requireIntegrity (sha256Hexdigest
    ((message.content.take span.sourceSpanEndExclusive).drop span.sourceSpanStart) ==
    span.sourceQuoteSha256) .linkProjectionMismatch

private theorem recheckSourceSpan_eq_ok {messages : List MessageRecord} {record : MessageRecord}
    {sourceRef start stop : ℕ} {quote quoteHash : Text}
    (stored : Keyed.lastByKey (·.messageId) messages sourceRef = some record)
    (span : SpanOf record.content quote start stop quoteHash) :
    recheckSourceSpan messages ⟨sourceRef, start, stop, quoteHash⟩ = .ok () := by
  have ordered := span.nonempty
  have within := span.within
  simp only [recheckSourceSpan, stored, orIntegrity, Except.bind_ok, ordered, within, decide_true,
    Bool.and_self, span.hash, beq_self_eq_true]
  rfl

/-- A span is sound, it is found for no other quote, and the loader's recheck of a durable candidate
that was built from it cannot fail on the stored message. -/
theorem source_span_sound :
    (∀ (message quote value : Text) (start stop : ℕ) (quoteHash : Text),
      exactSourceSpanV2 message quote value = .ok (start, stop, quoteHash) →
        SpanOf message quote start stop quoteHash) ∧
    (∀ message quote value : Text, (∃ span, exactSourceSpanV2 message quote value = .ok span) ↔
      quote ≠ [] ∧ quote ≠ message ∧ (∃! position, OccursAt message quote position) ∧
        quoteProvesCandidate quote value = true) ∧
    ∀ (authoritativeMessages : AuthoritativeMessages) (stored : List MessageRecord)
    (record : MessageRecord),
      (∀ candidate durable,
        projectResolvedReferenceV2 authoritativeMessages candidate = .ok durable →
        Keyed.lastByKey (·.messageId) stored candidate.sourceRef = some record →
        authoritativeMessages candidate.sourceRef = some record.content →
        recheckSourceSpan stored (ofResolvedReference durable) = .ok ()) ∧
      ∀ candidate durable, projectInputCandidateV2 authoritativeMessages candidate = .ok durable →
        Keyed.lastByKey (·.messageId) stored candidate.sourceRef = some record →
        authoritativeMessages candidate.sourceRef = some record.content →
        recheckSourceSpan stored (ofInputCandidate durable) = .ok () := by
  refine ⟨fun _ _ _ _ _ _ => spanOf_of_eq_ok, ?_, ?_⟩
  · intro message quote value
    constructor
    · rintro ⟨⟨start, stop, quoteHash⟩, success⟩
      obtain ⟨some_quote, different, unique, proves, -⟩ := exactSourceSpanV2_eq_ok_iff.mp success
      exact ⟨some_quote, different,
        ⟨start, (unique start).mpr rfl, fun other => (unique other).mp⟩, proves⟩
    · rintro ⟨some_quote, different, ⟨start, occurs, only⟩, proves⟩
      refine ⟨(start, start + quote.length, sha256Hexdigest quote), exactSourceSpanV2_eq_ok_iff.mpr
        ⟨some_quote, different, ?_, proves, rfl, rfl⟩⟩
      intro position
      exact ⟨only position, fun same => same ▸ occurs⟩
  · intro authoritativeMessages stored record
    constructor
    · intro candidate durable projected found same
      simp only [projectResolvedReferenceV2, Except.bind_eq_ok_iff, constructOr_eq_ok_iff]
        at projected
      obtain ⟨message, authoritative, ⟨start, stop, quoteHash⟩, located, -, rfl⟩ := projected
      obtain ⟨known, -⟩ := authoritativeMessageV2_eq_ok_iff.mp authoritative
      obtain rfl := Option.some.inj (known.symm.trans same)
      exact recheckSourceSpan_eq_ok found (spanOf_of_eq_ok located)
    · intro candidate durable projected found same
      simp only [projectInputCandidateV2, Except.bind_eq_ok_iff, constructOr_eq_ok_iff] at projected
      obtain ⟨message, authoritative, ⟨start, stop, quoteHash⟩, located, -, rfl⟩ := projected
      obtain ⟨known, -⟩ := authoritativeMessageV2_eq_ok_iff.mp authoritative
      obtain rfl := Option.some.inj (known.symm.trans same)
      exact recheckSourceSpan_eq_ok found (spanOf_of_eq_ok located)

/-- A message that repeats a part of the quote. -/
def spanMessage : MessageRecord where
  schemaVersion := "message_record.p0.v1"
  messageId := 1
  conversationId := 2
  direction := .user
  content := "O-100 or O-1001".toList
  receivedAt := .utc 0

def spanCandidate : InputCandidate where
  name := "order_id"
  candidateValue := " o-1001".toList
  semanticRole := "TARGET_RESOURCE_IDENTIFIER"
  authority := .userClaim
  sourceKind := .currentMessage
  sourceRef := 1
  sourceQuote := "O-1001".toList
  confidence := 1

/-- The quote of the example stands once in its message, and its candidate passes the recheck. -/
theorem source_span_sound_example :
    SpanOf spanMessage.content "O-1001".toList 9 15 (sha256Hexdigest "O-1001".toList) ∧
      ∃ durable, projectInputCandidateV2 (fun _ => some spanMessage.content) spanCandidate =
      .ok durable ∧ recheckSourceSpan [spanMessage] (ofInputCandidate durable) = .ok () := by
  have located : exactSourceSpanV2 spanMessage.content "O-1001".toList
      spanCandidate.candidateValue =
      .ok (9, 15, sha256Hexdigest "O-1001".toList) := by decide +kernel
  obtain ⟨durable, projected⟩ := Except.exists_ok_of_isOk (show (projectInputCandidateV2
    (fun _ => some spanMessage.content) spanCandidate).isOk = true by decide +kernel)
  have rechecked :=
    (source_span_sound.2.2 _ [spanMessage] spanMessage).2 spanCandidate durable projected
    (by decide) rfl
  exact ⟨source_span_sound.1 _ _ _ _ _ _ located, durable, projected, rechecked⟩

end MiniAgent.Infrastructure
