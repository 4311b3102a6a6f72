import MiniAgent.Infrastructure.InsertOnly
import MiniAgent.Infrastructure.TableGrowth

/-! # Inserting again changes nothing

Once a call has stored its envelopes, they are settled: each is held by a row that passes every
check of the store. That stays so while other rows join the table, and a call whose envelopes are
all settled changes nothing and reports each of them as already existing.
-/

namespace MiniAgent.Infrastructure

open MiniAgent.Core MiniAgent.Application

variable {library : ModelLibrary} {table written grown : RecordTable} {stamps : ℕ → RowStamp}
  {envelope : P0PersistenceEnvelope} {envelopes : List P0PersistenceEnvelope} {inserted : List Bool}

theorem Settled.lift (within : table.rows ⊆ grown.rows) {row : table.Row}
    (settled : Settled library table envelope row) :
    Settled library grown envelope (RecordTable.lift within row) where
  holds := settled.holds
  valid := by
    obtain ⟨decoded, valid⟩ := settled.valid
    exact ⟨decoded, validatePhysicalProjection_lift within valid⟩
  owned := settled.owned

/-- A valid row has the owner that the walk derives. -/
theorem owner_of_valid {row : table.Row} {decoded : DecodedP0PersistenceRecord}
    (valid : validatePhysicalProjection library table none row = .ok decoded) :
    deriveOwnerFromGraph library table none false row = .ok row.1.scopeOwnerCustomerId := by
  simp only [validatePhysicalProjection, requireProjection, Except.bind_eq_ok_iff,
    requireIntegrity_eq_ok_iff, beq_iff_eq] at valid
  obtain ⟨parsed, -, derived, derives, expected, projected, -, ⟨-, -, -, owner, -⟩, -⟩ := valid
  obtain ⟨_, -, rfl⟩ := projectionValues_eq_ok projected
  rw [owner]
  exact deriveOwner_unchecked derives

variable (library) in
/-- An envelope that has columns and is settled. -/
def Known (table : RecordTable) (envelope : P0PersistenceEnvelope) : Prop :=
  (∃ values, projectionValues library envelope envelope.directOwnerCustomerId = .ok values) ∧
    ∃ row, Settled library table envelope row

theorem Known.lift (within : table.rows ⊆ grown.rows) (known : Known library table envelope) :
    Known library grown envelope := by
  obtain ⟨projects, row, settled⟩ := known
  exact ⟨projects, _, settled.lift within⟩

/-- The envelopes of a call, none of which was inserted. -/
def noneInserted (items : List (P0PersistenceEnvelope × ℕ)) : List PersistedEnvelope :=
  items.map fun item => ⟨item.1, item.2, false⟩

private theorem persistEach_of_known {items : List (P0PersistenceEnvelope × ℕ)}
    (known : ∀ item ∈ items, Known library table item.1) :
    persistEach library stamps items table = .ok (table, noneInserted items) := by
  induction items with
  | nil => rfl
  | cons item rest ih =>
    obtain ⟨⟨⟨values, projected⟩, row, settled⟩, known⟩ := List.forall_mem_cons.mp known
    have present : values.key ∈ table.rows.map P0RecordModel.key := by
      rw [key_of_projectionValues projected, ← settled.holds.1]
      exact row_covered table row
    simp only [persistEach, persistOneEnvelope, projected, Except.bind_ok, present, if_true,
      pure_bind, ih known]
    rfl

private theorem checkStored_of_settled {index : ℕ} {row : table.Row}
    (settled : Settled library table envelope row) :
    checkStored library table ⟨envelope, index, false⟩ = .ok () := by
  obtain ⟨key, content, references, normalized, same⟩ := settled.holds
  have found : rowOf table envelope = .ok row := rowOf_eq_ok_iff.mpr key
  simp only [checkStored, found, Except.bind_ok, content, normalized, same, beq_self_eq_true]
  rfl

private theorem settleOwner_of_settled {index : ℕ} {row : table.Row}
    (settled : Settled library table envelope row) :
    settleOwner library table ⟨envelope, index, false⟩ = .ok table := by
  obtain ⟨decoded, valid⟩ := settled.valid
  have found : rowOf table envelope = .ok row := rowOf_eq_ok_iff.mpr settled.holds.1
  have named : (!(isPrivate envelope.recordCode && row.1.scopeOwnerCustomerId.isNone)) = true := by
    cases owned : isPrivate envelope.recordCode with
    | false => rfl
    | true => simpa using settled.owned owned
  simp only [settleOwner, found, Except.bind_ok, owner_of_valid valid, named, beq_self_eq_true]
  rfl

private theorem validatePersisted_of_settled {index : ℕ} {row : table.Row}
    (settled : Settled library table envelope row) :
    validatePersisted library table ⟨envelope, index, false⟩ = .ok () := by
  obtain ⟨decoded, valid⟩ := settled.valid
  have found : rowOf table envelope = .ok row := rowOf_eq_ok_iff.mpr settled.holds.1
  simp only [validatePersisted, found, Except.bind_ok, valid]
  rfl

/-- A call whose envelopes are all settled changes nothing and reports none as inserted. -/
theorem persistEnvelopes_of_known (known : ∀ envelope ∈ envelopes, Known library table envelope) :
    persistEnvelopes library stamps table envelopes =
    .ok (table, List.replicate envelopes.length false) := by
  have each : ∀ item ∈ orderedEnvelopes envelopes, Known library table item.1 := by
    rintro ⟨envelope, index⟩ member
    exact known envelope (List.mem_of_getElem? (mem_orderedEnvelopes.mp member))
  have settled : ∀ entry ∈ noneInserted (orderedEnvelopes envelopes), ∃ envelope index row,
      entry = ⟨envelope, index, false⟩ ∧ Settled library table envelope row := by
    intro entry member
    obtain ⟨item, given, rfl⟩ := List.mem_map.mp member
    obtain ⟨-, row, settled⟩ := each item given
    exact ⟨item.1, item.2, row, rfl, settled⟩
  have stored : (noneInserted (orderedEnvelopes envelopes)).forM (checkStored library table) =
      .ok () := by
    refine Except.forM_eq_ok_iff.mpr fun entry member => ?_
    obtain ⟨envelope, index, row, rfl, settled⟩ := settled entry member
    exact checkStored_of_settled settled
  have references : (noneInserted (orderedEnvelopes envelopes)).foldlM writeReferences table =
      .ok table := by
    refine Except.foldlM_eq_self fun entry member => ?_
    obtain ⟨envelope, index, row, rfl, -⟩ := settled entry member
    rfl
  have owners : (noneInserted (orderedEnvelopes envelopes)).foldlM (settleOwner library) table =
      .ok table := by
    refine Except.foldlM_eq_self fun entry member => ?_
    obtain ⟨envelope, index, row, rfl, settled⟩ := settled entry member
    exact settleOwner_of_settled settled
  have valid : (noneInserted (orderedEnvelopes envelopes)).forM (validatePersisted library table) =
      .ok () := by
    refine Except.forM_eq_ok_iff.mpr fun entry member => ?_
    obtain ⟨envelope, index, row, rfl, settled⟩ := settled entry member
    exact validatePersisted_of_settled settled
  have answers : ((List.range envelopes.length).map fun index =>
    (noneInserted (orderedEnvelopes envelopes)).any
      fun entry => entry.index == index &&
          entry.wasInserted) = List.replicate envelopes.length false := by
    refine List.eq_replicate_iff.mpr ⟨by simp, fun answer member => ?_⟩
    obtain ⟨index, -, rfl⟩ := List.mem_map.mp member
    rw [List.any_eq_false]
    intro entry given
    obtain ⟨envelope, position, row, rfl, -⟩ := settled entry given
    simp
  unfold persistEnvelopes
  change (persistEach library stamps (orderedEnvelopes envelopes) table >>= _) = _
  rw [persistEach_of_known each]
  simp only [Except.bind_ok, stored, references, owners, valid, answers]
  rfl

/-- After a call that succeeded, its envelopes are known. -/
theorem known_of_persistEnvelopes (laws : library.TextLaws)
    (success : persistEnvelopes library stamps table envelopes = .ok (written, inserted)) :
    ∀ envelope ∈ envelopes, Known library written envelope := by
  intro envelope member
  obtain ⟨persisted, entered, linked, added, spec, -⟩ := persistEnvelopes_eq_ok success
  obtain ⟨index, given⟩ := List.getElem?_of_mem member
  have ordered := mem_orderedEnvelopes.mpr given
  rw [← spec.first.given] at ordered
  obtain ⟨entry, present, same⟩ := List.mem_map.mp ordered
  obtain ⟨rfl, rfl⟩ := Prod.mk.inj same
  exact ⟨spec.first.projects entry present, spec.settled_of_mem laws present⟩

/-- The keys of the rows of a table. -/
def RecordTable.keys (table : RecordTable) : List RecordKey := table.rows.map P0RecordModel.key

variable (library) in
/-- What a call has done that inserted envelopes and succeeded. -/
structure InsertsOnly (table written : RecordTable) (envelopes : List P0PersistenceEnvelope)
    (inserted : List Bool) :
    Prop where
  /-- No row is overwritten. -/
  keeps : table.rows <+: written.rows
  /-- A row that is new holds one of the envelopes. -/
  adds : ∀ row ∈ written.rows, row.key ∉ table.keys → ∃ envelope ∈ envelopes,
    Holds library envelope row
  /-- Each envelope is stored in exactly one row. -/
  stores : ∀ envelope ∈ envelopes, ∃ row ∈ written.rows, Holds library envelope row ∧
    ∀ other ∈ written.rows, other.key = recordKey envelope → other = row
  /-- There is one answer for each envelope. -/
  answers : inserted.length = envelopes.length
  /-- An envelope whose identity was there is not reported as inserted. -/
  existing : ∀ (index : ℕ) envelope, envelopes[index]? = some envelope →
    recordKey envelope ∈ table.keys → inserted[index]? = some false
  /-- Of the envelopes of one new identity exactly one is. -/
  isNew : ∀ envelope ∈ envelopes, recordKey envelope ∉ table.keys →
    ∃! index : ℕ, inserted[index]? = some true ∧
    envelopes[index]?.map recordKey = some (recordKey envelope)

section Answers

variable {persisted : List PersistedEnvelope} {entered linked : RecordTable}
  {added : List P0RecordModel}

/-- The answers of a call. -/
def answersOf (count : ℕ) (persisted : List PersistedEnvelope) : List Bool :=
  (List.range count).map fun index => persisted.any fun entry =>
    entry.index == index && entry.wasInserted

private theorem getElem?_answersOf {count index : ℕ} {answer : Bool} :
    (answersOf count persisted)[index]? = some answer ↔
      index < count ∧ (persisted.any fun entry => entry.index == index && entry.wasInserted) =
      answer := by
  rw [answersOf, List.getElem?_map]
  by_cases within : index < count
  · simp [within]
  · simp [within]

variable (spec : Persists library stamps envelopes table written persisted entered linked added)
include spec

private theorem Persists.getElem?_of_mem {entry : PersistedEnvelope} (member : entry ∈ persisted) :
    envelopes[entry.index]? = some entry.envelope := by
  apply mem_orderedEnvelopes.mp
  rw [← spec.first.given]
  exact List.mem_map_of_mem member

private theorem Persists.exists_entry {index : ℕ} (given : envelopes[index]? = some envelope) :
    ∃ entry ∈ persisted, entry.envelope = envelope ∧ entry.index = index := by
  have ordered := mem_orderedEnvelopes.mpr given
  rw [← spec.first.given] at ordered
  obtain ⟨entry, member, same⟩ := List.mem_map.mp ordered
  exact ⟨entry, member, Prod.mk.inj same⟩

/-- Two entries of one identity cannot both be inserted. -/
private theorem Persists.inserted_unique {left right : PersistedEnvelope}
    (leftMember : left ∈ persisted) (rightMember : right ∈ persisted)
    (leftInserted : left.wasInserted = true) (rightInserted : right.wasInserted = true)
    (same : recordKey left.envelope = recordKey right.envelope) : left = right := by
  let apart (earlier later : PersistedEnvelope) : Prop :=
    earlier.wasInserted = true → later.wasInserted = true →
    recordKey earlier.envelope = recordKey later.envelope → earlier = later
  have forwards : persisted.Pairwise apart := spec.first.once.imp fun only _ chosen clash =>
    absurd chosen (by simp [only clash])
  have backwards : persisted.Pairwise (flip apart) := spec.first.once.imp fun only chosen _ clash =>
    absurd chosen (by simp [only clash.symm])
  exact List.Pairwise.forall_of_forall_of_flip
    (fun entry _ _ _ _ => rfl) forwards backwards leftMember rightMember
    leftInserted rightInserted same

/-- What a call that succeeds has done. -/
private theorem Persists.insertsOnly (laws : library.TextLaws) :
    InsertsOnly library table written envelopes (answersOf envelopes.length persisted) := by
  obtain ⟨appended, rows, given⟩ := spec.appends
  have held : ∀ entry ∈ persisted, ∃ row : written.Row, Holds library entry.envelope row.1 := by
    intro entry member
    obtain ⟨row, settled⟩ := spec.settled_of_mem laws member
    exact ⟨row, settled.holds⟩
  refine ⟨⟨appended, rows.symm⟩, fun row member fresh => ?_,
    fun envelope member => ?_, by simp [answersOf], ?_, ?_⟩
  · rw [rows] at member
    rcases List.mem_append.mp member with old | later
    · exact absurd (List.mem_map_of_mem old) fresh
    · obtain ⟨entry, chosen, key, -⟩ := Keyed.exists_of_forall₂_right given later
      have present := (List.mem_filter.mp chosen).1
      obtain ⟨other, holds⟩ := held entry present
      have same : ⟨row, rows ▸ member⟩ = other := RecordTable.key_injective (key.trans holds.1.symm)
      rw [← same] at holds
      exact ⟨entry.envelope, List.mem_of_getElem? (spec.getElem?_of_mem present), holds⟩
  · obtain ⟨index, position⟩ := List.getElem?_of_mem member
    obtain ⟨entry, present, rfl, -⟩ := spec.exists_entry position
    obtain ⟨row, holds⟩ := held entry present
    refine ⟨row.1, row.2, holds, fun other stored key => ?_⟩
    exact congrArg Subtype.val (show ⟨other, stored⟩ = row from
      RecordTable.key_injective (key.trans holds.1.symm))
  · intro index envelope position known
    obtain ⟨within, -⟩ := List.getElem?_eq_some_iff.mp position
    refine getElem?_answersOf.mpr ⟨within, List.any_eq_false.mpr fun entry member both => ?_⟩
    simp only [Bool.and_eq_true, beq_iff_eq] at both
    obtain ⟨rfl, chosen⟩ := both
    have same := spec.getElem?_of_mem member
    rw [position] at same
    exact spec.first.absent entry member chosen (Option.some.inj same ▸ known)
  · intro envelope member fresh
    obtain ⟨index, position⟩ := List.getElem?_of_mem member
    obtain ⟨first, present, rfl, -⟩ := spec.exists_entry position
    obtain ⟨row, holds⟩ := held first present
    -- the row is new, so one of the entries was inserted with it
    have later : row.1 ∈ appended := by
      have stored : row.1 ∈ table.rows ++ appended := rows ▸ row.2
      rcases List.mem_append.mp stored with old | later
      · exact absurd (holds.1 ▸ List.mem_map_of_mem old) fresh
      · exact later
    obtain ⟨entry, chosen, key, -⟩ := Keyed.exists_of_forall₂_right given later
    obtain ⟨given, new⟩ := List.mem_filter.mp chosen
    have position := spec.getElem?_of_mem given
    obtain ⟨within, -⟩ := List.getElem?_eq_some_iff.mp position
    have sameKey : recordKey entry.envelope = recordKey first.envelope := key.symm.trans holds.1
    refine ⟨entry.index,
      ⟨getElem?_answersOf.mpr ⟨within, List.any_eq_true.mpr ⟨entry, given, by simp [new]⟩⟩, by
        rw [position, Option.map_some, sameKey]⟩, fun other both => ?_⟩
    obtain ⟨answer, otherKey⟩ := both
    obtain ⟨-, reported⟩ := getElem?_answersOf.mp answer
    obtain ⟨also, alsoGiven, both⟩ := List.any_eq_true.mp reported
    simp only [Bool.and_eq_true, beq_iff_eq] at both
    obtain ⟨rfl, alsoNew⟩ := both
    rw [spec.getElem?_of_mem alsoGiven, Option.map_some] at otherKey
    rw [spec.inserted_unique alsoGiven given alsoNew new
      ((Option.some.inj otherKey).trans sameKey.symm)]

end Answers

theorem insertsOnly_of_persistEnvelopes (laws : library.TextLaws)
    (success : persistEnvelopes library stamps table envelopes = .ok (written, inserted)) :
    InsertsOnly library table written envelopes inserted := by
  obtain ⟨persisted, entered, linked, added, spec, rfl⟩ := persistEnvelopes_eq_ok success
  exact spec.insertsOnly laws

/-- The same call again, on a table that has grown or not. -/
theorem persistEnvelopes_again (laws : library.TextLaws)
    (success : persistEnvelopes library stamps table envelopes = .ok (written, inserted))
    (within : written.rows ⊆ grown.rows) {later : ℕ → RowStamp} :
    persistEnvelopes library later grown envelopes =
    .ok (grown, List.replicate envelopes.length false) :=
  persistEnvelopes_of_known fun envelope member =>
    (known_of_persistEnvelopes laws success envelope member).lift within

/-- Where an identity has other content, the call fails. -/
theorem persistEnvelopes_conflict (laws : library.TextLaws) {row : P0RecordModel}
    (member : envelope ∈ envelopes) (stored : row ∈ table.rows)
    (same : row.key = recordKey envelope) (differs : ¬Holds library envelope row) :
    persistEnvelopes library stamps table envelopes ≠ .ok (written, inserted) := by
  intro success
  have spec := insertsOnly_of_persistEnvelopes laws success
  obtain ⟨held, -, holds, only⟩ := spec.stores envelope member
  rw [only row (spec.keeps.subset stored) same] at differs
  exact differs holds

end MiniAgent.Infrastructure
