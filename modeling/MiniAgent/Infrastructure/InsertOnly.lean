import MiniAgent.Infrastructure.EnvelopeWrites
import MiniAgent.Infrastructure.OwnerDerivation
import MiniAgent.Library.Spelling

/-! # Inserting never overwrites

A call that inserts envelopes keeps every row that was there and appends one row for each identity
that is new. It fails where an identity is there with other content, and after it has succeeded the
same call changes nothing.
-/

namespace MiniAgent.Infrastructure

open MiniAgent.Core MiniAgent.Application

variable {library : ModelLibrary} {table written : RecordTable} {stamps : ℕ → RowStamp}
  {envelope : P0PersistenceEnvelope} {persisted : List PersistedEnvelope}

theorem ofRows_eq_ok_iff {rows : List P0RecordModel} : RecordTable.ofRows rows = .ok table ↔
    table.rows = rows := by
  unfold RecordTable.ofRows
  constructor
  · intro made
    split_ifs at made
    rw [← Except.ok.inj made]
  · rintro rfl
    rw [dif_pos ⟨table.uniqueRecordIds, table.uniqueIdentities⟩]

private theorem rowForIdentity_eq_some_iff {row : table.Row} :
    rowForIdentity table envelope.recordCode envelope.logicalIdentity.toJson = some row ↔
      row.1.key = recordKey envelope := by
  constructor
  · intro found
    exact hasIdentity_iff.mp (RecordTable.selectOne_eq_some found)
  · intro same
    cases found : rowForIdentity table envelope.recordCode envelope.logicalIdentity.toJson with
    | none =>
      have absent := RecordTable.selectOne_eq_none.mp found row.1 row.2
      rw [hasIdentity_iff.mpr same] at absent
      cases absent
    | some other =>
      have otherKey := hasIdentity_iff.mp (RecordTable.selectOne_eq_some found)
      rw [RecordTable.key_injective (otherKey.trans same.symm)]

theorem rowOf_eq_ok_iff {row : table.Row} : rowOf table envelope = .ok row ↔
    row.1.key = recordKey envelope := by
  rw [rowOf, orIntegrity_eq_ok, rowForIdentity_eq_some_iff]

theorem projectionValues_eq_ok {owner : Option Text} {values : Projection}
    (projected : projectionValues library envelope owner = .ok values) :
    ∃ decoded, decodePersistenceRecord library envelope.modelDump envelope.recordCode =
    .ok decoded ∧ values = projectionOf envelope decoded.sourceRecord owner := by
  simp only [projectionValues, Except.bind_eq_ok_iff, Except.pure_eq_ok_iff] at projected
  obtain ⟨decoded, found, same⟩ := projected
  exact ⟨decoded, found, same.symm⟩

theorem key_projectionOf (record : SourceRecord) (owner : Option Text) :
    (projectionOf envelope record owner).key = recordKey envelope := rfl

theorem key_of_projectionValues {owner : Option Text} {values : Projection}
    (projected : projectionValues library envelope owner = .ok values) :
    values.key = recordKey envelope := by
  obtain ⟨_, _, rfl⟩ := projectionValues_eq_ok projected
  rfl

variable (library stamps) in
/-- The row that an inserted envelope gets first. -/
def FreshRow (entry : PersistedEnvelope) (row : P0RecordModel) : Prop :=
  ∃ values, projectionValues library entry.envelope entry.envelope.directOwnerCustomerId =
    .ok values ∧
    row = { toProjection := values, toRowStamp := stamps entry.index, references := [] }

theorem FreshRow.key {entry : PersistedEnvelope} {row : P0RecordModel}
    (fresh : FreshRow library stamps entry row) :
    row.key = recordKey entry.envelope := by
  obtain ⟨values, projected, rfl⟩ := fresh
  exact key_of_projectionValues projected

variable (library stamps) in
/-- What the first loop leaves. -/
structure PersistedFrom (items : List (P0PersistenceEnvelope × ℕ)) (table written : RecordTable)
    (persisted : List PersistedEnvelope) (added : List P0RecordModel) : Prop where
  given : persisted.map (fun entry => (entry.envelope, entry.index)) = items
  rows : written.rows = table.rows ++ added
  fresh : List.Forall₂ (FreshRow library stamps) (persisted.filter (·.wasInserted)) added
  projects : ∀ entry ∈ persisted, ∃ values,
    projectionValues library entry.envelope entry.envelope.directOwnerCustomerId = .ok values
  present : ∀ entry ∈ persisted, recordKey entry.envelope ∈ written.rows.map P0RecordModel.key
  absent : ∀ entry ∈ persisted, entry.wasInserted = true →
    recordKey entry.envelope ∉ table.rows.map P0RecordModel.key
  once : persisted.Pairwise fun earlier later =>
    recordKey earlier.envelope = recordKey later.envelope → later.wasInserted = false

private theorem persistEach_eq_ok {items : List (P0PersistenceEnvelope × ℕ)}
    (success : persistEach library stamps items table = .ok (written, persisted)) :
    ∃ added, PersistedFrom library stamps items table written persisted added := by
  induction items generalizing table persisted with
  | nil =>
    simp only [persistEach, Except.pure_eq_ok_iff, Prod.mk.injEq] at success
    obtain ⟨rfl, rfl⟩ := success
    exact ⟨[], ⟨rfl, by simp, .nil, by simp, by simp, by simp, .nil⟩⟩
  | cons item rest ih =>
    obtain ⟨envelope, index⟩ := item
    simp only [persistEach, persistOneEnvelope, Except.bind_eq_ok_iff] at success
    obtain ⟨⟨middle, inserted⟩, ⟨values, projected, first⟩, ⟨final, others⟩, later, same⟩ := success
    simp only [Except.pure_eq_ok_iff, Prod.mk.injEq] at same
    obtain ⟨rfl, rfl⟩ := same
    obtain ⟨added, spec⟩ := ih later
    have key := key_of_projectionValues projected
    rw [key] at first
    split_ifs at first with known
    · -- the identity is there, so nothing is inserted
      simp only [Except.pure_eq_ok_iff, Prod.mk.injEq] at first
      obtain ⟨rfl, rfl⟩ := first
      refine ⟨added, ⟨by simp [spec.given], spec.rows, by simpa using spec.fresh, ?_, ?_, ?_,
        List.pairwise_cons.mpr ⟨fun later member same => ?_, spec.once⟩⟩⟩
      · exact List.forall_mem_cons.mpr ⟨⟨values, projected⟩, spec.projects⟩
      · refine List.forall_mem_cons.mpr ⟨?_, spec.present⟩
        rw [spec.rows, List.map_append]
        exact List.mem_append_left _ known
      · exact List.forall_mem_cons.mpr ⟨by simp, spec.absent⟩
      · rw [Bool.eq_false_iff]
        exact fun chosen => spec.absent later member chosen (same ▸ known)
    · simp only [Except.bind_eq_ok_iff, Except.pure_eq_ok_iff, Prod.mk.injEq, ofRows_eq_ok_iff]
        at first
      obtain ⟨extended, extends_, rfl, rfl⟩ := first
      have all : final.rows = table.rows ++
          ({ toProjection := values, toRowStamp := stamps index, references := [] } :: added) := by
        rw [spec.rows, extends_, List.append_assoc]
        rfl
      have entered : recordKey envelope ∈ extended.rows.map P0RecordModel.key := by
        rw [extends_, List.map_append]
        exact List.mem_append_right _ (key ▸ List.mem_cons_self)
      refine ⟨_ :: added, ⟨by simp [spec.given], all, ?_, ?_, ?_, ?_,
        List.pairwise_cons.mpr ⟨fun later member same => ?_, spec.once⟩⟩⟩
      · rw [List.filter_cons_of_pos rfl]
        exact .cons ⟨values, projected, rfl⟩ spec.fresh
      · exact List.forall_mem_cons.mpr ⟨⟨values, projected⟩, spec.projects⟩
      · refine List.forall_mem_cons.mpr ⟨?_, spec.present⟩
        rw [all, List.map_append, List.map_cons]
        exact List.mem_append_right _ (key ▸ List.mem_cons_self)
      · refine List.forall_mem_cons.mpr
          ⟨fun _ => known, fun entry member chosen before => spec.absent entry member chosen ?_⟩
        rw [extends_, List.map_append]
        exact List.mem_append_left _ before
      · rw [Bool.eq_false_iff]
        exact fun chosen => spec.absent later member chosen (same ▸ entered)

/-- The references that an inserted row gets. -/
def withReferences (persisted : List PersistedEnvelope) (row : P0RecordModel) : P0RecordModel :=
  persisted.foldl (fun row entry =>
    if entry.wasInserted ∧ row.key = recordKey entry.envelope then
      { row with references := referenceModels entry.envelope }
    else row) row

theorem key_withReferences (persisted : List PersistedEnvelope) (row : P0RecordModel) :
    (withReferences persisted row).key = row.key := by
  induction persisted generalizing row with
  | nil => rfl
  | cons entry rest ih =>
    rw [withReferences, List.foldl_cons, ← withReferences, ih]
    split_ifs <;> rfl

/-- Nothing but the references changes. -/
theorem withReferences_eq (persisted : List PersistedEnvelope) (row : P0RecordModel) :
    withReferences persisted row =
    { row with references := (withReferences persisted row).references } := by
  induction persisted generalizing row with
  | nil => rfl
  | cons entry rest ih =>
    rw [withReferences, List.foldl_cons, ← withReferences]
    rw [ih]
    split_ifs <;> rfl

theorem withReferences_of_others {row : P0RecordModel}
    (others : ∀ entry ∈ persisted, entry.wasInserted = true → row.key ≠ recordKey entry.envelope) :
    withReferences persisted row = row := by
  induction persisted with
  | nil => rfl
  | cons entry rest ih =>
    obtain ⟨other, others⟩ := List.forall_mem_cons.mp others
    rw [withReferences, List.foldl_cons, ← withReferences, if_neg fun both => other both.1 both.2]
    exact ih others

theorem modify_eq_ok_iff {change : P0RecordModel → P0RecordModel} :
    table.modify envelope change = .ok written ↔
      written.rows = table.rows.map fun row => if row.key = recordKey envelope then change row
      else row :=
  ofRows_eq_ok_iff

theorem foldlM_writeReferences (success : persisted.foldlM writeReferences table = .ok written) :
    written.rows = table.rows.map (withReferences persisted) := by
  induction persisted generalizing table with
  | nil =>
    rw [List.foldlM_nil, Except.pure_eq_ok_iff] at success
    subst success
    exact (List.map_id _).symm
  | cons entry rest ih =>
    rw [List.foldlM_cons, Except.bind_eq_ok_iff] at success
    obtain ⟨middle, first, later⟩ := success
    rw [ih later]
    unfold writeReferences at first
    split_ifs at first with inserted unique
    · rw [modify_eq_ok_iff.mp first, List.map_map]
      refine List.map_congr_left fun row _ => ?_
      rw [Function.comp_apply, withReferences, withReferences, List.foldl_cons]
      simp [inserted]
    · obtain rfl := Except.ok.inj first
      refine List.map_congr_left fun row _ => ?_
      rw [withReferences, withReferences, List.foldl_cons, if_neg fun both => inserted both.1]

/-- The third loop changes scope owners of inserted rows only. -/
private theorem foldlM_settleOwner
    (success : persisted.foldlM (settleOwner library) table = .ok written) :
    ∃ change : P0RecordModel → P0RecordModel, written.rows = table.rows.map change ∧
      ∀ row, (∃ owner, change row = { row with scopeOwnerCustomerId := owner }) ∧
        ((∀ entry ∈ persisted, entry.wasInserted = true → row.key ≠ recordKey entry.envelope) →
          change row = row) := by
  induction persisted generalizing table with
  | nil =>
    rw [List.foldlM_nil, Except.pure_eq_ok_iff] at success
    subst success
    exact ⟨id, (List.map_id _).symm, fun row => ⟨⟨_, rfl⟩, fun _ => rfl⟩⟩
  | cons entry rest ih =>
    rw [List.foldlM_cons, Except.bind_eq_ok_iff] at success
    obtain ⟨middle, first, later⟩ := success
    obtain ⟨change, rows, others⟩ := ih later
    simp only [settleOwner, Except.bind_eq_ok_iff] at first
    obtain ⟨row, -, derived, -, -, -, first⟩ := first
    split_ifs at first with inserted
    · refine ⟨fun row => change (if row.key = recordKey entry.envelope then
        { row with scopeOwnerCustomerId := derived } else row), ?_, fun row => ⟨?_, ?_⟩⟩
      · rw [rows, modify_eq_ok_iff.mp first, List.map_map]
        rfl
      · dsimp only
        split_ifs with same
        · obtain ⟨owner, changed⟩ := (others { row with scopeOwnerCustomerId := derived }).1
          exact ⟨owner, changed⟩
        · exact (others row).1
      · intro apart
        obtain ⟨here, apart⟩ := List.forall_mem_cons.mp apart
        dsimp only
        rw [if_neg (here inserted)]
        exact (others row).2 apart
    · simp only [Except.bind_eq_ok_iff, Except.pure_eq_ok_iff] at first
      obtain ⟨_, _, rfl⟩ := first
      exact ⟨change, rows, fun row =>
        ⟨(others row).1, fun apart => (others row).2 (List.forall_mem_cons.mp apart).2⟩⟩

/-- Where one step of the third loop has settled a private row, the row has an owner. -/
private theorem owner_of_settleOwner {entry : PersistedEnvelope}
    (success : settleOwner library table entry = .ok written)
    (owned : isPrivate entry.envelope.recordCode = true) {row : P0RecordModel}
    (present : row ∈ written.rows) (same : row.key = recordKey entry.envelope) :
    row.scopeOwnerCustomerId.isSome = true := by
  simp only [settleOwner, Except.bind_eq_ok_iff, rowOf_eq_ok_iff, requireIntegrity_eq_ok_iff]
    at success
  obtain ⟨stored, key, derived, -, -, named, success⟩ := success
  have known : derived.isSome = true := by simpa [owned] using named
  split_ifs at success with inserted
  · rw [modify_eq_ok_iff.mp success] at present
    obtain ⟨before, -, rfl⟩ := List.mem_map.mp present
    split_ifs at same ⊢ with here
    · exact known
    · exact absurd same here
  · simp only [Except.bind_eq_ok_iff, requireIntegrity_eq_ok_iff, beq_iff_eq, Except.pure_eq_ok_iff]
      at success
    obtain ⟨-, agrees, rfl⟩ := success
    have this : (⟨row, present⟩ : table.Row) = stored :=
      RecordTable.key_injective (same.trans key.symm)
    rw [← this] at agrees
    rw [agrees, known]

private theorem owner_of_settled (once : persisted.Pairwise fun earlier later =>
      recordKey earlier.envelope = recordKey later.envelope → later.wasInserted = false)
    (success : persisted.foldlM (settleOwner library) table = .ok written)
    {entry : PersistedEnvelope} (member : entry ∈ persisted)
    (owned : isPrivate entry.envelope.recordCode = true) {row : P0RecordModel}
    (present : row ∈ written.rows) (same : row.key = recordKey entry.envelope) :
    row.scopeOwnerCustomerId.isSome = true := by
  induction persisted generalizing table with
  | nil => cases member
  | cons first rest ih =>
    rw [List.foldlM_cons, Except.bind_eq_ok_iff] at success
    obtain ⟨middle, here, later⟩ := success
    obtain ⟨apart, once⟩ := List.pairwise_cons.mp once
    obtain rfl | member := List.mem_cons.mp member
    · -- what comes later does not touch the row again
      obtain ⟨change, rows, changes⟩ := foldlM_settleOwner later
      rw [rows] at present
      obtain ⟨before, stored, rfl⟩ := List.mem_map.mp present
      obtain ⟨⟨owner, changed⟩, untouched⟩ := changes before
      have key : before.key = recordKey entry.envelope := by
        rw [changed] at same
        exact same
      have kept : change before = before := by
        refine untouched fun other after chosen clash => ?_
        rw [apart other after (key.symm.trans clash)] at chosen
        cases chosen
      rw [kept]
      exact owner_of_settleOwner here owned stored key
    · exact ih once later member

variable {envelopes : List P0PersistenceEnvelope} {inserted : List Bool}

/-- The envelopes of a call, each with its position, in the order in which they are written. -/
def orderedEnvelopes (envelopes : List P0PersistenceEnvelope) : List (P0PersistenceEnvelope × ℕ) :=
  Keyed.sortByKey (fun item => envelopeKey item.1) envelopes.zipIdx

theorem mem_orderedEnvelopes {index : ℕ} :
    (envelope, index) ∈ orderedEnvelopes envelopes ↔ envelopes[index]? = some envelope := by
  rw [orderedEnvelopes, (Keyed.sortByKey_perm _ _).mem_iff, List.mem_zipIdx_iff_getElem?]

variable (library stamps) in
/-- What the loops of a call leave, one after the other. -/
structure Persists (envelopes : List P0PersistenceEnvelope) (table written : RecordTable)
    (persisted : List PersistedEnvelope) (entered linked : RecordTable)
    (added : List P0RecordModel) : Prop where
  first : PersistedFrom library stamps (orderedEnvelopes envelopes) table entered persisted added
  stored : ∀ entry ∈ persisted, checkStored library entered entry = .ok ()
  references : persisted.foldlM writeReferences entered = .ok linked
  settled : persisted.foldlM (settleOwner library) linked = .ok written
  valid : ∀ entry ∈ persisted, validatePersisted library written entry = .ok ()

theorem persistEnvelopes_eq_ok
    (success : persistEnvelopes library stamps table envelopes = .ok (written, inserted)) :
    ∃ persisted entered linked added,
    Persists library stamps envelopes table written persisted entered linked added ∧
      inserted = (List.range envelopes.length).map fun index =>
        persisted.any fun entry => entry.index == index && entry.wasInserted := by
  simp only [persistEnvelopes, Except.bind_eq_ok_iff, Except.forM_eq_ok_iff, Except.pure_eq_ok_iff,
    Prod.mk.injEq] at success
  obtain ⟨⟨entered, persisted⟩, first, -, stored, linked, references, settled, owners, -, valid,
    rfl, rfl⟩ := success
  obtain ⟨added, spec⟩ := persistEach_eq_ok first
  exact ⟨persisted, entered, linked, added, ⟨spec, stored, references, owners, valid⟩, rfl⟩

namespace Persists

variable {entered linked : RecordTable} {added : List P0RecordModel}
  (spec : Persists library stamps envelopes table written persisted entered linked added)
include spec

/-- The later loops change references and scope owners of inserted rows. -/
theorem rows : ∃ final : P0RecordModel → P0RecordModel,
    written.rows = entered.rows.map final ∧ ∀ row,
    (∃ references owner,
      final row = { row with references := references, scopeOwnerCustomerId := owner }) ∧
      ((∀ entry ∈ persisted, entry.wasInserted = true → row.key ≠ recordKey entry.envelope) →
        final row = row) := by
  obtain ⟨change, rows, changes⟩ := foldlM_settleOwner spec.settled
  refine ⟨change ∘ withReferences persisted, ?_, fun row => ⟨?_, fun others => ?_⟩⟩
  · rw [rows, foldlM_writeReferences spec.references, List.map_map]
  · obtain ⟨owner, changed⟩ := (changes (withReferences persisted row)).1
    refine ⟨(withReferences persisted row).references, owner, ?_⟩
    rw [Function.comp_apply, changed, withReferences_eq]
  · rw [Function.comp_apply, withReferences_of_others others]
    exact (changes row).2 others

/-- The rows that were there are kept, and one is appended for each envelope that was inserted. -/
theorem appends : ∃ appended, written.rows = table.rows ++ appended ∧
    List.Forall₂ (fun entry row => row.key = recordKey entry.envelope ∧
      row.envelope = entry.envelope.modelDump)
      (persisted.filter (·.wasInserted)) appended := by
  obtain ⟨final, rows, changes⟩ := spec.rows
  refine ⟨added.map final, ?_,
    List.forall₂_map_right_iff.mpr (spec.first.fresh.imp fun entry row fresh => ?_)⟩
  · rw [rows, spec.first.rows, List.map_append]
    congr 1
    refine (List.map_congr_left fun row member => ?_).trans (List.map_id _)
    refine (changes row).2 fun entry present chosen clash => ?_
    exact spec.first.absent entry present chosen (clash ▸ List.mem_map_of_mem member)
  · obtain ⟨references, owner, changed⟩ := (changes row).1
    have key := fresh.key
    obtain ⟨values, projected, rfl⟩ := fresh
    obtain ⟨decoded, -, rfl⟩ := projectionValues_eq_ok projected
    rw [changed]
    exact ⟨key, rfl⟩

end Persists

/-- The content of an envelope determines its references. -/
private theorem references_norm_eq {left right : P0PersistenceEnvelope}
    (same : left.toJson.norm = right.toJson.norm) :
    (referencesJson left.recordReferences).norm = (referencesJson right.recordReferences).norm := by
  have member : ("record_references", (referencesJson left.recordReferences).norm) ∈
      Json.normFields left.modelDump := by
    simp [P0PersistenceEnvelope.modelDump, Json.normFields]
  simpa [P0PersistenceEnvelope.modelDump, Json.normFields]
    using Json.mem_normFields_of_norm same member

/-- An envelope with columns is native, and it is read back from its own fields. -/
theorem parseEnvelope_modelDump (laws : library.TextLaws) {owner : Option Text}
    {values : Projection} (projected : projectionValues library envelope owner = .ok values) :
    parseEnvelope library envelope.modelDump = .ok envelope := by
  obtain ⟨decoded, found, -⟩ := projectionValues_eq_ok projected
  unfold decodePersistenceRecord at found
  split_ifs at found
  simp only [jsonInput, Except.bind_eq_ok_iff, requireIntegrity_eq_ok_iff] at found
  obtain ⟨-, ⟨-, native, -⟩, -⟩ := found
  rw [parseEnvelope, orIntegrity_eq_ok, laws.readText_compact _ native]
  exact readEnvelope_toJson envelope

variable (library) in
/-- A row holds an envelope: its identity, its content and its references. -/
def Holds (envelope : P0PersistenceEnvelope) (row : P0RecordModel) : Prop :=
  row.key = recordKey envelope ∧ (Json.object row.envelope).norm = envelope.toJson.norm ∧
    ∃ references, normalizedReferences library row = .ok references ∧
      (referencesJson references).norm = (referencesJson envelope.recordReferences).norm

variable (library) in
/-- A row holds an envelope and passes every check of the store. -/
structure Settled (table : RecordTable) (envelope : P0PersistenceEnvelope) (row : table.Row) :
    Prop where
  holds : Holds library envelope row.1
  valid : ∃ decoded, validatePhysicalProjection library table none row = .ok decoded
  owned : isPrivate envelope.recordCode = true → row.1.scopeOwnerCustomerId.isSome = true

private theorem checkStored_eq_ok {entry : PersistedEnvelope}
    (success : checkStored library table entry = .ok ()) :
    ∃ row : table.Row, row.1.key = recordKey entry.envelope ∧
      (Json.object row.1.envelope).norm = entry.envelope.toJson.norm ∧
      (entry.wasInserted = false → Holds library entry.envelope row.1) := by
  simp only [checkStored, Except.bind_eq_ok_iff, rowOf_eq_ok_iff, requireIntegrity_eq_ok_iff,
    beq_iff_eq] at success
  obtain ⟨row, key, -, same, rest⟩ := success
  refine ⟨row, key, same, fun present => ⟨key, same, ?_⟩⟩
  simpa [present, Except.bind_eq_ok_iff, requireIntegrity_eq_ok_iff] using rest

/-- A row that is valid has the references that its envelope names. -/
private theorem references_of_valid {row : table.Row} {decoded : DecodedP0PersistenceRecord}
    (valid : validatePhysicalProjection library table none row = .ok decoded)
    (parsed : parseEnvelope library row.1.envelope = .ok envelope) :
    ∃ references, normalizedReferences library row.1 = .ok references ∧
      (referencesJson references).norm = (referencesJson envelope.recordReferences).norm := by
  simp only [validatePhysicalProjection, decodeRow, Except.bind_eq_ok_iff,
    requireIntegrity_eq_ok_iff, Bool.and_eq_true, beq_iff_eq] at valid
  obtain ⟨-, -, -, -, -, -, -, -, -, -, again, found, -, -, references, normalized, -, same, -⟩ :=
    valid
  obtain rfl := Except.ok.inj (parsed.symm.trans found)
  exact ⟨references, normalized, same⟩

/-- After a call that succeeded, each of its envelopes is settled. -/
theorem Persists.settled_of_mem {entered linked : RecordTable} {added : List P0RecordModel}
    (spec : Persists library stamps envelopes table written persisted entered linked added)
    (laws : library.TextLaws) {entry : PersistedEnvelope} (member : entry ∈ persisted) :
    ∃ row, Settled library written entry.envelope row := by
  have validated := spec.valid entry member
  simp only [validatePersisted, Except.bind_eq_ok_iff, rowOf_eq_ok_iff, Except.discard_eq_ok_iff]
    at validated
  obtain ⟨row, key, decoded, valid⟩ := validated
  refine ⟨row, ?_, ⟨decoded, valid⟩,
    fun owned => owner_of_settled spec.first.once spec.settled member owned row.2 key⟩
  obtain ⟨final, rows, changes⟩ := spec.rows
  obtain ⟨before, stored, changed⟩ : ∃ before ∈ entered.rows, final before = row.1 := by
    rw [← List.mem_map, ← rows]
    exact row.2
  obtain ⟨⟨references, owner, updated⟩, untouched⟩ := changes before
  have content : row.1.envelope = before.envelope := by rw [← changed, updated]
  have beforeKey : before.key = recordKey entry.envelope := by
    rw [← key, ← changed, updated]
    rfl
  obtain ⟨found, foundKey, same, held⟩ := checkStored_eq_ok (spec.stored entry member)
  obtain rfl : ⟨before, stored⟩ = found := RecordTable.key_injective (beforeKey.trans foundKey.symm)
  by_cases new : ∃ other ∈ persisted, other.wasInserted = true ∧
    before.key = recordKey other.envelope
  · -- the row is of this call, so its envelope is one that was given
    obtain ⟨other, given, chosen, otherKey⟩ := new
    have fresh : ∃ other ∈ persisted, FreshRow library stamps other before := by
      rw [spec.first.rows] at stored
      rcases List.mem_append.mp stored with old | appended
      · exact absurd (List.mem_map_of_mem old) (otherKey ▸ spec.first.absent other given chosen)
      · obtain ⟨source, found, fresh⟩ := Keyed.exists_of_forall₂_right spec.first.fresh appended
        exact ⟨source, (List.mem_filter.mp found).1, fresh⟩
    obtain ⟨source, -, values, projected, rfl⟩ := fresh
    obtain ⟨decoded, -, rfl⟩ := projectionValues_eq_ok projected
    have parsed : parseEnvelope library row.1.envelope = .ok source.envelope := by
      rw [content]
      exact parseEnvelope_modelDump laws projected
    obtain ⟨references, normalized, agree⟩ := references_of_valid valid parsed
    exact ⟨key, content ▸ same, references, normalized, agree.trans (references_norm_eq same)⟩
  · have kept : row.1 = before := by
      rw [← changed]
      exact untouched fun other given chosen clash => new ⟨other, given, chosen, clash⟩
    have present : entry.wasInserted = false := by
      rw [Bool.eq_false_iff]
      exact fun chosen => new ⟨entry, member, chosen, beforeKey⟩
    rw [kept]
    exact held present

end MiniAgent.Infrastructure
