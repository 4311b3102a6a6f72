import MiniAgent.Infrastructure.StoredEntries
import MiniAgent.Library.KeyedStore

/-! # Tables as keyed stores

A sound table is a store of entries under the keys of their records. Replacing a row is a swap in
it, and inserting envelopes enters their entries; whatever a call writes, the owner of a row stays
what it was.
-/

namespace MiniAgent.Infrastructure

open MiniAgent.Core MiniAgent.Application KeyedStore

variable {library : ModelLibrary} {table written : RecordTable} {row : P0RecordModel}
  {entry : Entry}
  {envelope : P0PersistenceEnvelope} {key : RecordKey}

variable (library) in
/-- A row as the store writes it: the encoding of its entry, with the columns of the entry. -/
def SoundRow (row : P0RecordModel) (entry : Entry) : Prop :=
  ∃ envelope, Encodes library envelope entry ∧
    row.toProjection = projectionOf envelope entry.record row.scopeOwnerCustomerId

variable (library) in
def Sound (table : RecordTable) : Prop := ∀ row ∈ table.rows, ∃ entry, SoundRow library row entry

namespace SoundRow

variable (sound : SoundRow library row entry)
include sound

private theorem readRow_eq_ok : readRow library row =
    .ok ⟨row.recordCode, (persistenceRegistry row.recordCode).recordSchemaVersion, entry.record,
      entry.children⟩ := by
  obtain ⟨envelope, encodes, columns⟩ := sound
  have code : row.recordCode = envelope.recordCode := congrArg Projection.recordCode columns
  rw [encodes.reads row code (congrArg Projection.envelope columns), code]

theorem reads : readEntry library row = some entry :=
  readEntry_eq_some.mpr ⟨_, sound.readRow_eq_ok, rfl⟩

theorem model : entry.record.sourceModel = (persistenceRegistry row.recordCode).sourceModel := by
  obtain ⟨envelope, encodes, columns⟩ := sound
  rw [encodes.model, show row.recordCode = envelope.recordCode from
    congrArg Projection.recordCode columns]

theorem runId : row.runId = entry.record.runId := by
  obtain ⟨_, _, columns⟩ := sound
  exact congrArg Projection.runId columns

theorem lifecycleStatus : row.lifecycleStatus = entry.record.lifecycleStatus := by
  obtain ⟨_, _, columns⟩ := sound
  exact congrArg Projection.lifecycleStatus columns

end SoundRow

/-- A row that is valid reads as what was decoded. -/
theorem readEntry_of_valid {expectedOwner : Option Text} {row : table.Row}
    {decoded : DecodedP0PersistenceRecord}
    (valid : validatePhysicalProjection library table expectedOwner row = .ok decoded) :
    readEntry library row.1 = some (entryOf decoded) := by
  have decodes := decodeRow_of_valid valid
  simp only [decodeRow, Except.bind_eq_ok_iff, Except.pure_eq_ok_iff] at decodes
  obtain ⟨_, found, _, -, -, -, _, -, -, -, rfl⟩ := decodes
  have generic : row.1.recordCode ≠ .requestUnderstandingRecord := by
    intro isRu
    rw [decodePersistenceRecord, if_pos isRu] at found
    cases found
  refine readEntry_eq_some.mpr ⟨_, ?_, rfl⟩
  rw [readRow, if_neg generic]
  exact found

/-- An identity of identifiers, as it is stored. -/
def uuidsIdentity (members : List (String × Uuid)) : Json :=
  .array (members.map fun member => .array [ownText member.1, uuidJson member.2])

def taskKey (taskId : Uuid) : RecordKey := (.taskRecord, (uuidIdentity "task_id" taskId).norm)

def unitKey (requestUnitId : Uuid) : RecordKey :=
  (.requestUnitRecord, (uuidIdentity "request_unit_id" requestUnitId).norm)

def toolCallKey (toolCallId : Uuid) : RecordKey :=
  (.toolCallRecord, (uuidIdentity "tool_call_id" toolCallId).norm)

def linkKey (runId taskId : Uuid) : RecordKey :=
  (.runTaskLinkRecord, (uuidsIdentity [("run_id", runId), ("task_id", taskId)]).norm)

/-- The keys of the records that are replaced. -/
def replacedKey : SourceRecord → Option RecordKey
  | .agentRunRecord run => some (runKey run.runId)
  | .taskRecord task => some (taskKey task.taskId)
  | .requestUnitRecord unit => some (unitKey unit.requestUnitId)
  | .toolCallRecord call => some (toolCallKey call.toolCallId)
  | .runTaskLinkRecord link => some (linkKey link.runId link.taskId)
  | _ => none

variable (library) in
/-- The key of a record, from the members of its dump. -/
def entryKey (code : P0RecordCode) (record : SourceRecord) : RecordKey :=
  (code, ((logicalIdentity library record (persistenceRegistry code).identityFields).toOption.elim
      Json.null fun identity =>
    .array (identity.map fun member => .array [ownText member.1, member.2])).norm)

theorem Encodes.recordKey_eq (encodes : Encodes library envelope entry) :
    recordKey envelope = entryKey library envelope.recordCode entry.record := by
  obtain ⟨identity, identified, scalars⟩ := encodes.identified
  rw [recordKey, entryKey, identified, scalarIdentity_eq_ok scalars, Except.toOption,
    Option.elim_some, List.map_map, LogicalIdentity.toJson]
  rfl

private theorem SoundRow.key_eq (sound : SoundRow library row entry) :
    row.key = entryKey library row.recordCode entry.record := by
  obtain ⟨envelope, encodes, columns⟩ := sound
  rw [P0RecordModel.key, columns, key_projectionOf, encodes.recordKey_eq]
  rfl

/-- What the dump says under each of these members is the identity. -/
private theorem logicalIdentity_of_names {record : SourceRecord} {members : List (String × Uuid)}
    (named : ∀ member ∈ members,
      Json.lookup (library.modelDump record) member.1 = some (uuidJson member.2)) :
    logicalIdentity library record (members.map Prod.fst) =
    .ok (members.map fun member => (member.1, uuidJson member.2)) := by
  rw [logicalIdentity, Except.mapM_eq_ok_iff, List.forall₂_map_left_iff, List.forall₂_map_right_iff,
    List.forall₂_same]
  intro member listed
  rw [getField, named member listed]
  rfl

private theorem entryKey_of_names {code : P0RecordCode} {record : SourceRecord}
    (members : List (String × Uuid))
    (fields : (persistenceRegistry code).identityFields = members.map Prod.fst)
    (named : ∀ member ∈ members,
      Json.lookup (library.modelDump record) member.1 = some (uuidJson member.2)) :
    entryKey library code record = (code, (uuidsIdentity members).norm) := by
  rw [entryKey, fields, logicalIdentity_of_names named, Except.toOption, Option.elim_some,
    List.map_map, uuidsIdentity]
  rfl

/-- The key of a record that is replaced is made of its identifiers. -/
private theorem entryKey_of_replacedKey (laws : StoreLaws library) {code : P0RecordCode}
    {record : SourceRecord} (undoes : library.RoundTrips record)
    (model : record.sourceModel = (persistenceRegistry code).sourceModel)
    (replaced : replacedKey record = some key) : entryKey library code record = key := by
  have accepted : (reload library record.sourceModel record).isSome = true := by
    rw [reload_eq laws.texts undoes rfl]
    rfl
  have names := laws.names record accepted
  have family : ∀ other, (persistenceRegistry other).sourceModel = record.sourceModel →
      other = code :=
    fun other same => sourceModel_injective (same.trans model)
  cases record <;> simp only [replacedKey, Option.some.injEq, reduceCtorEq] at replaced
  case agentRunRecord run =>
    obtain rfl := family .agentRunRecord rfl
    exact replaced ▸ entryKey_of_names [("run_id", run.runId)] rfl names
  case taskRecord task =>
    obtain rfl := family .taskRecord rfl
    exact replaced ▸ entryKey_of_names [("task_id", task.taskId)] rfl names
  case requestUnitRecord unit =>
    obtain rfl := family .requestUnitRecord rfl
    exact replaced ▸ entryKey_of_names [("request_unit_id", unit.requestUnitId)] rfl names
  case toolCallRecord call =>
    obtain rfl := family .toolCallRecord rfl
    exact replaced ▸ entryKey_of_names [("tool_call_id", call.toolCallId)] rfl
      fun member listed => names member (List.mem_cons.mpr (.inl (List.mem_singleton.mp listed)))
  case runTaskLinkRecord link =>
    obtain rfl := family .runTaskLinkRecord rfl
    exact replaced ▸ entryKey_of_names [("run_id", link.runId), ("task_id", link.taskId)] rfl names

theorem SoundRow.key_of_replacedKey (laws : StoreLaws library) (sound : SoundRow library row entry)
    (replaced : replacedKey entry.record = some key) : row.key = key := by
  have model := sound.model
  rw [sound.key_eq]
  obtain ⟨envelope, encodes, -⟩ := sound
  exact entryKey_of_replacedKey laws encodes.undoes model replaced

/-- The row under a key. -/
def RecordTable.rowAt (table : RecordTable) (key : RecordKey) : Option table.Row :=
  table.selectOne (·.key == key)

private theorem rowAt_eq_some {row : table.Row} : table.rowAt key = some row ↔ row.1.key = key := by
  constructor
  · intro found
    simpa using RecordTable.selectOne_eq_some found
  · rintro rfl
    cases found : table.rowAt row.1.key with
    | none =>
      have absent := RecordTable.selectOne_eq_none.mp found row.1 row.2
      simp at absent
    | some other =>
      have same := RecordTable.selectOne_eq_some found
      exact congrArg some (RecordTable.key_injective (by simpa using same))

private theorem rowAt_eq_none : table.rowAt key = none ↔ ∀ row ∈ table.rows, row.key ≠ key := by
  rw [RecordTable.rowAt, RecordTable.selectOne_eq_none]
  simp

variable (library) in
/-- What a table holds under each key. -/
def contents (table : RecordTable) : Store RecordKey Entry := fun key =>
  (table.rowAt key).bind fun row => readEntry library row.1

/-- The owner column of the row under a key. -/
def RecordTable.ownerAt (table : RecordTable) (key : RecordKey) : Option (Option Text) :=
  (table.rowAt key).map fun row => row.1.scopeOwnerCustomerId

theorem contents_eq_some : contents library table key = some entry ↔
    ∃ row ∈ table.rows, row.key = key ∧ readEntry library row = some entry := by
  simp only [contents, Option.bind_eq_some_iff, rowAt_eq_some, Subtype.exists, exists_prop]

theorem ownerAt_eq_some {owner : Option Text} : table.ownerAt key = some owner ↔
    ∃ row ∈ table.rows, row.key = key ∧ row.scopeOwnerCustomerId = owner := by
  simp only [RecordTable.ownerAt, Option.map_eq_some_iff, rowAt_eq_some, Subtype.exists,
    exists_prop]

private theorem contents_eq_none (sound : Sound library table) : contents library table key = none ↔
    ∀ row ∈ table.rows, row.key ≠ key := by
  rw [← rowAt_eq_none, contents, Option.bind_eq_none_iff]
  constructor
  · intro empty
    cases found : table.rowAt key with
    | none => rfl
    | some row =>
      obtain ⟨entry, reads⟩ := sound row.1 row.2
      have absent := empty row found
      rw [reads.reads] at absent
      cases absent
  · rintro absent row found
    rw [absent] at found
    cases found

/-- What a sound table holds is in a sound row. -/
theorem Sound.exists_row (sound : Sound library table)
    (held : contents library table key = some entry) :
    ∃ row ∈ table.rows, row.key = key ∧ SoundRow library row entry := by
  obtain ⟨row, member, same, reads⟩ := contents_eq_some.mp held
  obtain ⟨other, soundRow⟩ := sound row member
  obtain rfl := Option.some.inj (soundRow.reads.symm.trans reads)
  exact ⟨row, member, same, soundRow⟩

/-- Two stores that hold the same entries are the same. -/
private theorem store_ext {left right : Store RecordKey Entry}
    (same : ∀ key entry, left key = some entry ↔ right key = some entry) : left = right :=
  funext fun key => Option.ext (same key)

variable (library) in
/-- What a call does to a sound table: it stays sound, the writes are made, and every row keeps its
identifier, its key and its owner. -/
structure Effects (table written : RecordTable) (writes : List (Write RecordKey Entry)) : Prop where
  sound : Sound library written
  commits : Commits (contents library table) writes (contents library written)
  keeps : ∀ row ∈ table.rows, ∃ after ∈ written.rows, after.recordId = row.recordId ∧
    after.key = row.key ∧ after.scopeOwnerCustomerId = row.scopeOwnerCustomerId

theorem Effects.refl (sound : Sound library table) : Effects library table table [] :=
  ⟨sound, .nil, fun row member => ⟨row, member, rfl, rfl, rfl⟩⟩

theorem Effects.append {middle : RecordTable} {writes others : List (Write RecordKey Entry)}
    (first : Effects library table middle writes) (second : Effects library middle written others) :
    Effects library table written (writes ++ others) := by
  refine ⟨second.sound, first.commits.append second.commits, fun row member => ?_⟩
  obtain ⟨between, present, sameId, sameKey, sameOwner⟩ := first.keeps row member
  obtain ⟨after, there, afterId, afterKey, afterOwner⟩ := second.keeps between present
  exact ⟨after, there, afterId.trans sameId, afterKey.trans sameKey, afterOwner.trans sameOwner⟩

/-- No row changes its owner. -/
theorem Effects.ownerAt_eq {writes : List (Write RecordKey Entry)} {owner : Option Text}
    (effects : Effects library table written writes) (owned : table.ownerAt key = some owner) :
    written.ownerAt key = some owner := by
  obtain ⟨row, member, rfl, rfl⟩ := ownerAt_eq_some.mp owned
  obtain ⟨after, present, -, sameKey, sameOwner⟩ := effects.keeps row member
  exact ownerAt_eq_some.mpr ⟨after, present, sameKey, sameOwner⟩

/-- Appending rows enters their entries. -/
theorem effects_append {table : RecordTable} (sound : Sound library table)
    {added : List (RecordKey × Entry)} {rows : List P0RecordModel}
    (all : written.rows = table.rows ++ rows)
    (each : List.Forall₂ (fun item row => row.key = item.1 ∧
      SoundRow library row item.2) added rows) :
    Effects library table written (added.map fun item => .insert item.1 item.2) := by
  induction each generalizing table with
  | nil =>
    obtain rfl : written = table := by
      cases written
      cases table
      simpa using all
    exact .refl sound
  | @cons item row added rows facts others ih =>
    obtain ⟨sameKey, soundRow⟩ := facts
    have split : written.rows = (table.rows ++ [row]) ++ rows := by rw [all, List.append_assoc]; rfl
    have sublist : (table.rows ++ [row]).Sublist written.rows := split ▸ List.sublist_append_left ..
    let middle : RecordTable :=
      ⟨table.rows ++ [row], written.uniqueRecordIds.sublist (sublist.map _),
        written.uniqueIdentities.sublist (sublist.map _)⟩
    have fresh : ∀ other ∈ table.rows, other.key ≠ item.1 := by
      have distinct := middle.uniqueIdentities
      simp only [middle, List.map_append, List.nodup_append] at distinct
      exact fun other member same =>
        distinct.2.2 _ (List.mem_map_of_mem member) _ (by simp) (same.trans sameKey.symm)
    have soundMiddle : Sound library middle := by
      intro other member
      rcases List.mem_append.mp member with old | new
      · exact sound other old
      · obtain rfl := List.mem_singleton.mp new
        exact ⟨item.2, soundRow⟩
    have entered :
        contents library middle = (Write.insert item.1 item.2).apply (contents library table) := by
      refine store_ext fun key entry => ?_
      by_cases same : key = item.1
      · subst same
        have applied : (Write.insert item.1 item.2).apply (contents library table) item.1 =
          some item.2 := Write.apply_self
        rw [applied, contents_eq_some]
        constructor
        · rintro ⟨other, member, here, reads⟩
          rcases List.mem_append.mp member with old | new
          · exact absurd here (fresh other old)
          · obtain rfl := List.mem_singleton.mp new
            exact soundRow.reads.symm.trans reads
        · intro wanted
          obtain rfl := Option.some.inj wanted
          exact ⟨row, by simp [middle], sameKey, soundRow.reads⟩
      · have kept : (Write.insert item.1 item.2).apply (contents library table) key =
            contents library table key :=
          Write.apply_of_ne (Ne.symm same)
        rw [kept, contents_eq_some, contents_eq_some]
        simp only [middle, List.mem_append, List.mem_singleton, or_and_right, exists_or,
          exists_eq_left]
        refine or_iff_left fun both => same (both.1.symm.trans sameKey)
    have first : Effects library table middle [.insert item.1 item.2] := by
      refine ⟨soundMiddle, entered ▸ .single ((contents_eq_none sound).mpr fresh),
        fun other member => ?_⟩
      exact ⟨other, List.mem_append_left _ member, rfl, rfl, rfl⟩
    exact first.append (ih soundMiddle split)

/-- The columns of an encoded entry. -/
private theorem projectionValues_of_encodes (encodes : Encodes library envelope entry)
    {owner : Option Text} {values : Projection}
    (projects : projectionValues library envelope owner = .ok values) :
    values = projectionOf envelope entry.record owner := by
  obtain ⟨decoded, decodes, rfl⟩ := projectionValues_eq_ok projects
  have generic : envelope.recordCode ≠ .requestUnderstandingRecord := by
    intro isRu
    rw [decodePersistenceRecord, if_pos isRu] at decodes
    cases decodes
  have reads := encodes.reads
    { toProjection := projectionOf envelope entry.record owner, recordId := 0, storedAt := .utc 0,
      references := [] } rfl rfl
  rw [readRow] at reads
  simp only [projectionOf, if_neg generic, decodes, Except.ok.injEq] at reads
  rw [reads]

/-- Replacing a row is a swap under its key. -/
theorem effects_replaceRowEnvelope (laws : StoreLaws library) (sound : Sound library table)
    {row : table.Row} {expected next : SourceRecord} {children nextChildren : List SourceRecord}
    {code : P0RecordCode}
    (encoded : encodePersistenceRecord library code next [] nextChildren = .ok envelope)
    (sameKey : replacedKey next = some row.1.key)
    (replaced : replaceRowEnvelope library table row expected children envelope =
      .ok (some written)) :
    Effects library table written
    [.swap row.1.key ⟨expected, children⟩ ⟨next, canonicalChildren nextChildren⟩] := by
  obtain ⟨values, replaces⟩ := replaceRowEnvelope_eq_ok replaced
  obtain ⟨-, encodes⟩ := encodes_of_encode laws encoded
  have columns := projectionValues_of_encodes encodes replaces.projects
  have soundNext :
      SoundRow library (replacedRow values envelope row.1) ⟨next, canonicalChildren nextChildren⟩ :=
    ⟨envelope, encodes, by rw [replacedRow, columns]; rfl⟩
  have keyNext : (replacedRow values envelope row.1).key = row.1.key :=
    soundNext.key_of_replacedKey laws sameKey
  have ownerNext : (replacedRow values envelope row.1).scopeOwnerCustomerId =
      row.1.scopeOwnerCustomerId := by
    rw [replacedRow, columns]
    rfl
  have rowsOf : ∀ other, other ∈ written.rows ↔
      other = replacedRow values envelope row.1 ∨ (other ∈ table.rows ∧ other.key ≠ row.1.key) := by
    intro other
    rw [replaces.rows, List.mem_map]
    constructor
    · rintro ⟨before, member, rfl⟩
      split_ifs with same
      · rw [List.inj_on_of_nodup_map table.uniqueRecordIds member row.2 same]
        exact .inl rfl
      · exact .inr ⟨member, fun clash =>
          same (by rw [List.inj_on_of_nodup_map table.uniqueIdentities member row.2 clash])⟩
    · rintro (rfl | ⟨member, apart⟩)
      · exact ⟨row.1, row.2, if_pos rfl⟩
      · exact ⟨other, member, if_neg fun same =>
          apart (by rw [List.inj_on_of_nodup_map table.uniqueRecordIds member row.2 same])⟩
  have held : contents library table row.1.key = some ⟨expected, children⟩ := by
    obtain ⟨decoded, valid, rfl, rfl⟩ := replaces.valid
    exact contents_eq_some.mpr ⟨row.1, row.2, rfl, readEntry_of_valid valid⟩
  have left : contents library written =
      (Write.swap row.1.key ⟨expected, children⟩ ⟨next, canonicalChildren nextChildren⟩).apply
          (contents library table) := by
    refine store_ext fun key entry => ?_
    rw [contents_eq_some]
    by_cases same : key = row.1.key
    · subst same
      have applied : (Write.swap row.1.key ⟨expected, children⟩ ⟨next,
        canonicalChildren nextChildren⟩).apply
          (contents library table) row.1.key = some ⟨next, canonicalChildren nextChildren⟩ :=
            Write.apply_self
      rw [applied, ← soundNext.reads]
      constructor
      · rintro ⟨other, member, here, reads⟩
        rcases (rowsOf other).mp member with rfl | ⟨-, apart⟩
        · exact reads
        · exact absurd here apart
      · exact fun reads => ⟨_, (rowsOf _).mpr (.inl rfl), keyNext, reads⟩
    · have kept : (Write.swap row.1.key ⟨expected, children⟩ ⟨next,
        canonicalChildren nextChildren⟩).apply
          (contents library table) key = contents library table key :=
            Write.apply_of_ne (Ne.symm same)
      rw [kept, contents_eq_some]
      constructor
      · rintro ⟨other, member, here, reads⟩
        rcases (rowsOf other).mp member with rfl | ⟨before, -⟩
        · exact absurd (here.symm.trans keyNext) same
        · exact ⟨other, before, here, reads⟩
      · rintro ⟨other, member, here, reads⟩
        exact ⟨other, (rowsOf other).mpr (.inr ⟨member, here ▸ same⟩), here, reads⟩
  refine ⟨fun other member => ?_, left ▸ .single held, fun other member => ?_⟩
  · rcases (rowsOf other).mp member with rfl | ⟨before, -⟩
    · exact ⟨_, soundNext⟩
    · exact sound other before
  · by_cases same : other.key = row.1.key
    · obtain rfl := List.inj_on_of_nodup_map table.uniqueIdentities member row.2 same
      exact ⟨_, (rowsOf _).mpr (.inl rfl), rfl, keyNext, ownerNext⟩
    · exact ⟨other, (rowsOf other).mpr (.inr ⟨member, same⟩), rfl, rfl, rfl⟩

/-- An envelope encodes one entry only. -/
theorem Encodes.unique {other : Entry} (left : Encodes library envelope entry)
    (right : Encodes library envelope other) :
    entry = other := by
  let row : P0RecordModel :=
    { toProjection := projectionOf envelope entry.record none, recordId := 0, storedAt := .utc 0,
      references := [] }
  have same := (left.reads row rfl rfl).symm.trans (right.reads row rfl rfl)
  simp only [Except.ok.injEq, DecodedP0PersistenceRecord.mk.injEq] at same
  obtain ⟨record, children⟩ := entry
  obtain ⟨otherRecord, otherChildren⟩ := other
  obtain ⟨-, -, rfl, rfl⟩ := same
  rfl

/-- An entry that a call has inserted, under its key. -/
def InsertedAs (library : ModelLibrary) (persisted : PersistedEnvelope)
    (item : RecordKey × Entry) : Prop :=
  item.1 = recordKey persisted.envelope ∧ Encodes library persisted.envelope item.2

/-- What lies between the items of two lists is a list as well. -/
theorem forall₂_middle {α β γ : Type} {R : α → β → Prop} {S : β → γ → Prop} {lefts : List α}
    {rights : List γ} (each : List.Forall₂ (fun left right => ∃ middle, R left middle ∧
      S middle right) lefts rights) :
    ∃ middles, List.Forall₂ R lefts middles ∧ List.Forall₂ S middles rights := by
  induction each with
  | nil => exact ⟨[], .nil, .nil⟩
  | cons first _ ih =>
    obtain ⟨middle, before, after⟩ := first
    obtain ⟨middles, earlier, later⟩ := ih
    exact ⟨middle :: middles, .cons before earlier, .cons after later⟩

/-- The rows that a call appends are sound. -/
theorem effects_persists (sound : Sound library table) {stamps : ℕ → RowStamp}
    {envelopes : List P0PersistenceEnvelope} {persisted : List PersistedEnvelope}
    {entered linked : RecordTable} {rows : List P0RecordModel}
    (encodes : ∀ envelope ∈ envelopes, ∃ entry, Encodes library envelope entry)
    (spec : Persists library stamps envelopes table written persisted entered linked rows) :
    ∃ added, List.Forall₂ (InsertedAs library) (persisted.filter (·.wasInserted)) added ∧
      Effects library table written (added.map fun item => .insert item.1 item.2) := by
  obtain ⟨final, allRows, changes⟩ := spec.rows
  have appended : ∃ appendedRows, written.rows = table.rows ++ appendedRows ∧
      List.Forall₂ (fun entry row => ∃ item, InsertedAs library entry item ∧ row.key = item.1 ∧
        SoundRow library row item.2)
        (persisted.filter (·.wasInserted)) appendedRows := by
    refine ⟨rows.map final, ?_, List.forall₂_map_right_iff.mpr ?_⟩
    · rw [allRows, spec.first.rows, List.map_append]
      congr 1
      refine (List.map_congr_left fun row member => ?_).trans (List.map_id _)
      exact (changes row).2 fun entry present chosen clash =>
        spec.first.absent entry present chosen (clash ▸ List.mem_map_of_mem member)
    · refine (Keyed.forall₂_imp_of_mem_right spec.first.fresh.flip fun row entry member fresh =>
        ?_).flip
      obtain ⟨values, projects, rfl⟩ := fresh
      have listed :=
        List.mem_map_of_mem (f := fun entry => (entry.envelope, entry.index))
          (List.mem_filter.mp member).1
      rw [spec.first.given, mem_orderedEnvelopes] at listed
      obtain ⟨held, encoding⟩ := encodes _ (List.mem_of_getElem? listed)
      obtain rfl := projectionValues_of_encodes encoding projects
      refine ⟨(recordKey entry.envelope, held), ⟨rfl, encoding⟩, ?_⟩
      obtain ⟨references, owner, changed⟩ := (changes _).1
      rw [changed]
      exact ⟨rfl, entry.envelope, encoding, rfl⟩
  obtain ⟨appendedRows, all, each⟩ := appended
  obtain ⟨added, inserted, rowsOf⟩ := forall₂_middle each
  exact ⟨added, inserted, effects_append sound all rowsOf⟩

/-- Under a key that is taken, nothing is entered. -/
private theorem apply_ensure_of_taken {store : Store RecordKey Entry} {held : Entry}
    (taken : store key = some held) :
    (Write.ensure key entry).apply store = store := by
  rw [Write.apply, Write.leaves, Write.key, taken]
  exact Function.update_eq_self_iff.mpr taken.symm

/-- Entering where nothing is. -/
private theorem Effects.ensure_of_insert
    (effects : Effects library table written [.insert key entry]) :
    contents library table key = none ∧ Effects library table written [.ensure key entry] := by
  obtain ⟨free, left⟩ := Commits.cons_iff.mp effects.commits
  rw [Commits.nil_iff] at left
  have same : (Write.insert key entry).apply (contents library table) =
      (Write.ensure key entry).apply (contents library table) := by
    simp only [Write.apply, Write.key, Write.leaves, show contents library table key = none from
      free, Option.getD_none]
  refine ⟨free, effects.sound, ?_, effects.keeps⟩
  rw [left, same]
  exact .single trivial

/-- A call with one envelope enters its entry unless the key is taken, and tells which it was. -/
theorem effects_persistOne (sound : Sound library table) {stamps : ℕ → RowStamp}
    {inserted : List Bool} (encodes : Encodes library envelope entry)
    (success : persistEnvelopes library stamps table [envelope] = .ok (written, inserted)) :
    Effects library table written [.ensure (recordKey envelope) entry] ∧
      (inserted = [true] ↔ contents library table (recordKey envelope) = none) := by
  obtain ⟨persisted, entered, linked, rows, spec, answers⟩ := persistEnvelopes_eq_ok success
  obtain ⟨added, asInserted, effects⟩ :=
    effects_persists sound (by simpa using ⟨entry, encodes⟩) spec
  have given := spec.first.given
  rw [show orderedEnvelopes [envelope] = [(envelope, 0)] from rfl] at given
  obtain ⟨only, rest, rfl, first, others⟩ := List.map_eq_cons_iff.mp given
  obtain rfl := List.map_eq_nil_iff.mp others
  obtain ⟨same, index⟩ := Prod.mk.inj first
  have told : inserted = [only.wasInserted] := by
    rw [answers]
    simp [index]
  rw [told]
  cases chosen : only.wasInserted with
  | true =>
    rw [List.filter_cons_of_pos chosen, List.filter_nil] at asInserted
    obtain ⟨item, _, made, noMore, rfl⟩ := List.forall₂_cons_left_iff.mp asInserted
    obtain rfl := List.forall₂_nil_left_iff.mp noMore
    obtain ⟨itemKey, held⟩ := item
    obtain ⟨sameKey, encoding⟩ := made
    dsimp only at sameKey encoding
    rw [same] at sameKey encoding
    obtain rfl := encoding.unique encodes
    rw [← sameKey]
    obtain ⟨free, ensures⟩ := effects.ensure_of_insert
    exact ⟨ensures, iff_of_true rfl free⟩
  | false =>
    rw [List.filter_cons_of_neg (by simp [chosen]), List.filter_nil] at asInserted
    obtain rfl := List.forall₂_nil_left_iff.mp asInserted
    have unchanged : contents library written = contents library table :=
      Commits.nil_iff.mp effects.commits
    have taken : ∃ held, contents library table (recordKey envelope) = some held := by
      have present := spec.first.present only List.mem_cons_self
      have none_added : rows = [] := by
        have fresh := spec.first.fresh
        rw [List.filter_cons_of_neg (by simp [chosen]), List.filter_nil] at fresh
        exact List.forall₂_nil_left_iff.mp fresh
      rw [spec.first.rows, none_added, List.append_nil, same, List.mem_map] at present
      obtain ⟨row, member, sameKey⟩ := present
      obtain ⟨held, soundRow⟩ := sound row member
      exact ⟨held, contents_eq_some.mpr ⟨row, member, sameKey, soundRow.reads⟩⟩
    obtain ⟨held, taken⟩ := taken
    refine ⟨⟨effects.sound, ?_, effects.keeps⟩, iff_of_false (by simp) (by simp [taken])⟩
    rw [unchanged]
    have entering : Commits (contents library table) [.ensure (recordKey envelope) entry] _ :=
      .single trivial
    rwa [apply_ensure_of_taken taken] at entering

end MiniAgent.Infrastructure
