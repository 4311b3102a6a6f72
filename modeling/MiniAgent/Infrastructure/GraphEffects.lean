import MiniAgent.Infrastructure.RunOwners
import MiniAgent.Infrastructure.WriteEffects

/-! # What writing a Request Understanding does

The targets of such a write are all new, or all there as they would be written. They are entered in
the scope of one owner, which is that of the Run as well.
-/

namespace MiniAgent.Infrastructure

open MiniAgent.Core MiniAgent.Application KeyedStore

variable {library : ModelLibrary} {table written : RecordTable} {stamps : ℕ → RowStamp}
  {owner : Text}
  {envelope : P0PersistenceEnvelope}

private theorem requireNoConflict_eq_ok {condition : Bool} {done : Unit} :
    requireNoConflict condition = .ok done ↔ condition = true :=
  Except.require_eq_ok_iff

/-- The versioned decoder reads a stored row as every other reader does. -/
private theorem readRow_of_versioned {row : P0RecordModel} {code : P0RecordCode} {version : String}
    {decoded : DecodedP0PersistenceRecord} (same : row.recordCode = code)
    (success : decodePersistenceRecordVersioned library
      (.mapping (exactRunVersionedDecodeInput library row code)) code
      version = .ok decoded) : readRow library row = .ok decoded := by
  subst same
  rw [readRow]
  split_ifs with understanding
  · rw [understanding] at success
    have selected := success
    simp only [decodePersistenceRecordVersioned, Except.bind_eq_ok_iff, versionedPairSpec_eq_ok]
      at selected
    obtain ⟨_, ⟨rfl, rfl⟩, -⟩ := selected
    exact success
  · simp only [decodePersistenceRecordVersioned, Except.bind_eq_ok_iff, versionedPairSpec_eq_ok]
      at success
    obtain ⟨_, ⟨rfl, -⟩, success⟩ := success
    rw [recordCode_persistenceRegistry, if_neg understanding] at success
    simp only [Except.bind_eq_ok_iff] at success
    obtain ⟨rawJson, raw, -, -, decodes⟩ := success
    rw [exactRunVersionedDecodeInput, if_pos understanding] at raw
    rw [decodePersistenceRecord, if_neg understanding, raw]
    exact decodes

/-- A row that passes is in scope, and holds what it decodes as. -/
private theorem validateRow_eq_ok {row : table.Row} {code : P0RecordCode}
    {decoded : DecodedP0PersistenceRecord}
    (success : ruV2WriteValidateRow library row.1 code owner = .ok (decoded, envelope)) :
    row.1.scopeOwnerCustomerId = some owner ∧
    contents library table row.1.key = some (entryOf decoded) := by
  simp only [ruV2WriteValidateRow, Except.bind_eq_ok_iff, requireIntegrity_eq_ok_iff, beq_iff_eq,
    Except.pure_eq_ok_iff, Prod.mk.injEq] at success
  obtain ⟨version, -, -, same, -, -, -, scope, _, -, _, decodes, _, -, -, -, _, -, -, -, rfl, -⟩ :=
    success
  exact ⟨scope, contents_eq_some.mpr ⟨row.1, row.2, rfl,
    readEntry_eq_some.mpr ⟨_, readRow_of_versioned same decodes, rfl⟩⟩⟩

private theorem key_of_scopedRowForIdentity {code : P0RecordCode} {identity : Json}
    {row : table.Row} (found : scopedRowForIdentity table owner code identity = some row) :
    row.1.key = (code, identity.norm) ∧ row.1.scopeOwnerCustomerId = some owner := by
  have both := RecordTable.selectOne_eq_some found
  rw [Bool.and_eq_true, hasIdentity_iff, beq_iff_eq] at both
  exact both

/-- The Run stands as it is expected, in the scope of the owner. -/
private theorem run_of_lockRoots {conversation : ConversationRecord} {messages : List MessageRecord}
    {run : AgentRunRecord} {roots : List table.Row}
    (success : ruV2WriteLockRoots library table owner conversation messages run = .ok roots) :
    contents library table (runKey run.runId) = some ⟨.agentRunRecord run, []⟩ ∧
      table.ownerAt (runKey run.runId) = some (some owner) := by
  simp only [ruV2WriteLockRoots, Except.mapM_eq_ok_iff] at success
  have listed : (P0RecordCode.agentRunRecord, uuidIdentity "run_id" run.runId,
    SourceRecord.agentRunRecord run) ∈
      Keyed.sortByKey (fun root : P0RecordCode × Json × SourceRecord =>
        [root.1.value.toList, root.2.1.compact])
        (ruV2WriteRoots conversation messages run) := by
    rw [(Keyed.sortByKey_perm _ _).mem_iff]
    simp [ruV2WriteRoots]
  obtain ⟨row, -, locked⟩ := Keyed.exists_of_forall₂_left success listed
  unfold ruV2WriteLockRoot at locked
  split at locked
  · cases locked
  · next found selected =>
    obtain ⟨key, scope⟩ := key_of_scopedRowForIdentity selected
    simp only [Except.bind_eq_ok_iff, requireNoConflict_eq_ok, Bool.and_eq_true, beq_iff_eq,
      List.isEmpty_iff, Prod.exists] at locked
    obtain ⟨decoded, _, valid, -, ⟨isRun, noChildren⟩, -⟩ := locked
    have held := (validateRow_eq_ok valid).2
    rw [key, entryOf, isRun, noChildren] at held
    exact ⟨held, ownerAt_eq_some.mpr ⟨found.1, found.2, key, scope⟩⟩

/-- Rows that pass are one at most, under the identity that is allowed. -/
private theorem checkMetadataRows_eq_ok {rows : List table.Row} {code : P0RecordCode}
    {allowedIdentity : Option Json} {done : Unit}
    (success : ruV2WriteCheckMetadataRows table rows code owner allowedIdentity = .ok done) :
    rows.length ≤ 1 ∧ ∀ row ∈ rows, ∃ identity, allowedIdentity = some identity ∧
      row.1.logicalIdentity.norm = identity.norm := by
  unfold ruV2WriteCheckMetadataRows at success
  simp only [Except.bind_eq_ok_iff, requireNoConflict_eq_ok, decide_eq_true_eq] at success
  obtain ⟨-, -, -, short, success⟩ := success
  refine ⟨short, fun row member => ?_⟩
  cases rows with
  | nil => cases member
  | cons first rest =>
    obtain rfl : rest = [] := List.length_eq_zero_iff.mp (by simpa using short)
    obtain rfl := List.mem_singleton.mp member
    simp only [Except.bind_eq_ok_iff] at success
    obtain ⟨version, -, success⟩ := success
    split_ifs at success
    · simp only [Except.bind_eq_ok_iff, reduceCtorEq, false_and, exists_false, and_false] at success
    · simp only [Except.bind_eq_ok_iff, requireNoConflict_eq_ok, Option.any_eq_true, beq_iff_eq]
        at success
      obtain ⟨-, -, identity, allowed, same⟩ := success
      exact ⟨identity, allowed, same⟩

/-- All rows that a Run has of one family. -/
private theorem mem_metadataForRun {code : P0RecordCode} {runId : Uuid} {row : table.Row}
    (short : (ruV2WriteMetadataForRun table code runId).length ≤ 1)
    (isCode : row.1.recordCode = code) (column : row.1.runId = some runId) :
    row ∈ ruV2WriteMetadataForRun table code runId := by
  unfold ruV2WriteMetadataForRun at short ⊢
  rw [take_two_of_short short, (Keyed.sortByKey_perm _ _).mem_iff, RecordTable.mem_select]
  simp [isCode, column]

/-- A Run that passes has the allowed Request Understanding and the allowed link, and no other. -/
private theorem only_of_checkSameRun (sound : Sound library table) {runId : Uuid}
    {ruIdentity : Json} {linkIdentity : Option Json} {done : Unit}
    (success : ruV2WriteCheckSameRun table runId owner (some ruIdentity) linkIdentity = .ok done) :
    UnderstandingAt (contents library table) runId (.requestUnderstandingRecord, ruIdentity.norm) ∧
      LinksAt (contents library table) runId
        (linkIdentity.toList.map fun identity => (.runTaskLinkRecord, identity.norm)) := by
  simp only [ruV2WriteCheckSameRun, Except.forM_eq_ok_iff, List.forall_mem_cons] at success
  obtain ⟨understanding, links, -⟩ := success
  obtain ⟨short, allowed⟩ := checkMetadataRows_eq_ok understanding
  obtain ⟨linkShort, linkAllowed⟩ := checkMetadataRows_eq_ok links
  constructor
  · intro key record children held ofRun
    obtain ⟨row, present, rfl, soundRow⟩ := sound.exists_row held
    have isCode : row.recordCode = .requestUnderstandingRecord := soundRow.recordCode_eq rfl
    obtain ⟨identity, same, content⟩ := allowed ⟨row, present⟩ (mem_metadataForRun short isCode
      (soundRow.runId.trans (congrArg some ofRun)))
    obtain rfl := Option.some.inj same
    exact Prod.ext isCode content
  · intro key link children held ofRun
    obtain ⟨row, present, rfl, soundRow⟩ := sound.exists_row held
    have isCode : row.recordCode = .runTaskLinkRecord := soundRow.recordCode_eq rfl
    obtain ⟨identity, rfl, content⟩ :=
      linkAllowed ⟨row, present⟩ (mem_metadataForRun linkShort isCode
      (soundRow.runId.trans (congrArg some ofRun)))
    exact List.mem_singleton.mpr (Prod.ext isCode content)

/-- An envelope is encoded from an entry, and decodes as that. -/
structure Target (library : ModelLibrary) (envelope : P0PersistenceEnvelope)
    (write : Write RecordKey Entry) : Prop where
  inserts : InsertsEnvelope library envelope write
  decodes : ∀ version decoded, ruV2WriteVersion envelope.recordCode = .ok version →
    decodePersistenceRecordVersioned library (.envelope envelope) envelope.recordCode version =
      .ok decoded → entryOf decoded = write.value

/-- No child, or one, is in order. -/
private theorem canonicalChildren_of_short {children : List SourceRecord}
    (short : children.length ≤ 1) :
    canonicalChildren children = children := by
  cases children with
  | nil => rfl
  | cons child rest =>
    obtain rfl : rest = [] := List.length_eq_zero_iff.mp (by simpa using short)
    rfl

private theorem target_of_encode (laws : StoreLaws library) {code : P0RecordCode}
    {record : SourceRecord} {externals : List P0RecordReference} {children : List SourceRecord}
    (short : children.length ≤ 1)
    (encoded : ruV2WriteEncode library code record externals children = .ok envelope) :
    envelope.recordCode = code ∧
    Target library envelope (inserting library code record children) := by
  simp only [ruV2WriteEncode, Except.bind_eq_ok_iff, requireIntegrity_eq_ok_iff, Bool.and_eq_true,
    beq_iff_eq, Except.pure_eq_ok_iff] at encoded
  obtain ⟨version, isVersion, _, built, decoded, decodes, -, ⟨same, sameChildren⟩, rfl⟩ := encoded
  obtain ⟨rfl, encodes⟩ := encodes_of_encodeVersioned laws built
  rw [canonicalChildren_of_short short] at encodes
  refine ⟨rfl, ⟨_, encodes, by rw [encodes.recordKey_eq]; rfl⟩,
    fun other again isOther decodesAgain => ?_⟩
  obtain rfl := Except.ok.inj (isVersion.symm.trans isOther)
  obtain rfl := Except.ok.inj (decodes.symm.trans decodesAgain)
  rw [entryOf, same, sameChildren]
  rfl

/-- The rows that are inserted for targets. -/
structure EntersTargets (library : ModelLibrary) (owner : Text)
    (targets : List (P0PersistenceEnvelope × ℕ)) (table entered : RecordTable)
    (rows : List P0RecordModel) : Prop where
  all : entered.rows = table.rows ++ rows
  each : List.Forall₂ (fun target row => row.key = recordKey target.1 ∧
    row.scopeOwnerCustomerId = some owner ∧
    ∃ entry, Encodes library target.1 entry ∧ SoundRow library row entry) targets rows
  fresh : ∀ target ∈ targets, recordKey target.1 ∉ table.rows.map P0RecordModel.key

private theorem insertTargets_eq_ok {targets : List (P0PersistenceEnvelope × ℕ)}
    {entered : RecordTable} (known : ∀ target ∈ targets, ∃ write, Target library target.1 write)
    (success : targets.foldlM (ruV2WriteInsertTarget library stamps owner) table = .ok entered) :
    ∃ rows, EntersTargets library owner targets table entered rows := by
  induction targets generalizing table with
  | nil =>
    obtain rfl := Except.pure_eq_ok_iff.mp success
    exact ⟨[], by simp, .nil, by simp⟩
  | cons target rest ih =>
    rw [List.foldlM_cons, Except.bind_eq_ok_iff] at success
    obtain ⟨middle, first, later⟩ := success
    obtain ⟨⟨write, isTarget⟩, known⟩ := List.forall_mem_cons.mp known
    obtain ⟨rows, enters⟩ := ih known later
    simp only [ruV2WriteInsertTarget, ruV2WriteProjectionValues, Except.bind_eq_ok_iff,
      requireNoConflict_eq_ok, Bool.not_eq_true', List.contains_eq_mem, decide_eq_false_iff_not,
      ofRows_eq_ok_iff, Except.pure_eq_ok_iff] at first
    obtain ⟨version, isVersion, decoded, decodes, _, ⟨_, -, -, -, rfl⟩, -, fresh, made⟩ := first
    obtain ⟨entry, encodes, rfl⟩ := isTarget.inserts
    have same := isTarget.decodes version decoded isVersion decodes
    have record : decoded.sourceRecord = entry.record := congrArg Entry.record same
    rw [key_projectionOf] at fresh
    refine ⟨_ :: rows, by rw [enters.all, made, List.append_assoc]; rfl,
      .cons ⟨rfl, rfl, entry, encodes, target.1, encodes, ?_⟩
      enters.each, List.forall_mem_cons.mpr
        ⟨fresh, fun other member before => enters.fresh other member ?_⟩⟩
    · rw [record]
      rfl
    · rw [made, List.map_append]
      exact List.mem_append_left _ before

/-- Flushing the references changes nothing else. -/
private theorem insertReferences_eq_ok {targets : List (P0PersistenceEnvelope × ℕ)}
    {entered : RecordTable} {rows : List P0RecordModel}
    (enters : EntersTargets library owner targets table entered rows)
    (success : targets.foldlM ruV2WriteInsertReferences entered = .ok written) :
    ∃ linked, EntersTargets library owner targets table written linked := by
  have folded : (targets.map fun target => (⟨target.1, target.2, true⟩ : PersistedEnvelope)).foldlM
      writeReferences entered =
      .ok written := by
    rw [List.foldlM_map]
    exact success
  have changed := foldlM_writeReferences folded
  refine ⟨rows.map (withReferences (targets.map fun target => ⟨target.1, target.2, true⟩)), ?_, ?_,
    enters.fresh⟩
  · rw [changed, enters.all, List.map_append]
    congr 1
    refine (List.map_congr_left fun row member => ?_).trans (List.map_id _)
    refine withReferences_of_others fun entry listed _ clash => ?_
    obtain ⟨target, isTarget, rfl⟩ := List.mem_map.mp listed
    exact enters.fresh target isTarget (clash ▸ List.mem_map_of_mem member)
  · rw [List.forall₂_map_right_iff]
    refine enters.each.imp fun target row facts => ?_
    obtain ⟨key, scope, entry, encodes, soundRow⟩ := facts
    refine ⟨(key_withReferences _ _).trans key, ?_, entry, encodes, ?_⟩
    · rw [withReferences_eq]
      exact scope
    · rw [withReferences_eq]
      exact soundRow

/-- Inserting all targets makes their writes, in the scope of the owner. -/
private theorem effects_insertTargets (sound : Sound library table)
    {envelopes : List P0PersistenceEnvelope} {writes : List (Write RecordKey Entry)}
    (targets : List.Forall₂ (Target library) envelopes writes)
    (success : ruV2WriteInsertTargets library stamps table owner envelopes = .ok written) :
    (∃ journal, journal.Perm writes ∧ Effects library table written journal) ∧
      ∀ write ∈ writes, written.ownerAt write.key = some (some owner) := by
  simp only [ruV2WriteInsertTargets, Except.bind_eq_ok_iff] at success
  obtain ⟨entered, inserted, referenced⟩ := success
  have listed : ∀ target ∈ orderedTargets envelopes, target.1 ∈ envelopes := by
    intro target member
    have present := ((Keyed.sortByKey_perm _ _).mem_iff).mp member
    exact List.mem_of_getElem? (List.mem_zipIdx_iff_getElem?.mp present)
  have known : ∀ target ∈ orderedTargets envelopes, ∃ write, Target library target.1 write := by
    intro target member
    obtain ⟨write, -, isTarget⟩ := Keyed.exists_of_forall₂_left targets (listed target member)
    exact ⟨write, isTarget⟩
  obtain ⟨_, enters⟩ := insertTargets_eq_ok known inserted
  obtain ⟨rows, enters⟩ := insertReferences_eq_ok enters referenced
  have inserts : List.Forall₂ (InsertsEnvelope library) envelopes writes :=
    targets.imp fun _ _ isTarget => isTarget.inserts
  have order : ((orderedTargets envelopes).map (·.1)).Perm envelopes :=
    ((Keyed.sortByKey_perm _ _).map _).trans (by rw [List.zipIdx_map_fst])
  obtain ⟨added, asInserted, rowsOf⟩ := forall₂_middle
    (R := fun (target : P0PersistenceEnvelope × ℕ) (item : RecordKey × Entry) =>
      item.1 = recordKey target.1 ∧ Encodes library target.1 item.2)
    (S := fun (item : RecordKey × Entry) (row : P0RecordModel) => row.key = item.1 ∧
      SoundRow library row item.2)
    (enters.each.imp fun target row facts => by
      obtain ⟨key, -, entry, encodes, soundRow⟩ := facts
      exact ⟨(_, entry), ⟨rfl, encodes⟩, key, soundRow⟩)
  have made : List.Forall₂ (InsertsEnvelope library) ((orderedTargets envelopes).map (·.1))
      (added.map fun item => .insert item.1 item.2) := by
    rw [List.forall₂_map_left_iff, List.forall₂_map_right_iff]
    exact asInserted.imp fun target item facts => ⟨item.2, facts.2, by rw [facts.1]⟩
  refine ⟨⟨_, List.rel_perm_imp insertsEnvelope_rightUnique made inserts order,
    effects_append sound enters.all rowsOf⟩, ?_⟩
  intro write member
  obtain ⟨envelope, present, entry, encodes, rfl⟩ := Keyed.exists_of_forall₂_right inserts member
  obtain ⟨target, isTarget, rfl⟩ := List.mem_map.mp ((order.mem_iff).mpr present)
  obtain ⟨row, appended, key, scope, -⟩ := Keyed.exists_of_forall₂_left enters.each isTarget
  exact ownerAt_eq_some.mpr ⟨row, enters.all ▸ List.mem_append_right _ appended, key, scope⟩

private theorem found_of_targetRows {envelopes : List P0PersistenceEnvelope}
    {writes : List (Write RecordKey Entry)} {rows : List table.Row}
    (targets : List.Forall₂ (Target library) envelopes writes)
    (success : ruV2WriteTargetRows library table envelopes owner = .ok (some rows)) :
    ∀ write ∈ writes, contents library table write.key = some write.value := by
  simp only [ruV2WriteTargetRows, Except.bind_eq_ok_iff] at success
  obtain ⟨-, -, success⟩ := success
  split_ifs at success
  · cases Except.ok.inj success
  · simp only [Except.bind_eq_ok_iff, Except.mapM_eq_ok_iff] at success
    obtain ⟨-, -, loaded, each, -⟩ := success
    intro write member
    obtain ⟨envelope, present, isTarget⟩ := Keyed.exists_of_forall₂_right targets member
    obtain ⟨row, -, found⟩ :=
      Keyed.exists_of_forall₂_left each (((Keyed.sortByKey_perm _ _).mem_iff).mpr present)
    simp only [ruV2WriteTargetRow, Except.bind_eq_ok_iff, orIntegrity_eq_ok,
      requireNoConflict_eq_ok, Bool.and_eq_true, beq_iff_eq, Except.pure_eq_ok_iff,
      Prod.exists] at found
    obtain ⟨_, selected, decoded, persisted, valid, version, isVersion, desired, decodes, -,
      ⟨-, same⟩, rfl⟩ := found
    have held := (validateRow_eq_ok valid).2
    rw [(key_of_scopedRowForIdentity selected).1, same,
      isTarget.decodes version desired isVersion decodes] at held
    obtain ⟨entry, encodes, rfl⟩ := isTarget.inserts
    exact held

/-- What a write of Request Understanding does: it has seen its Run and what the Run already has,
and its targets are entered in the scope of the Run, or there already. -/
structure UnderstandingWrite (library : ModelLibrary) (table written : RecordTable)
    (run : AgentRunRecord) (only : RecordKey) (allowedLinks : List RecordKey)
    (writes : List (Write RecordKey Entry)) : Prop where
  stands : contents library table (runKey run.runId) = some ⟨.agentRunRecord run, []⟩
  understanding : UnderstandingAt (contents library table) run.runId only
  links : LinksAt (contents library table) run.runId allowedLinks
  makes : (∃ journal, journal.Perm writes ∧ Effects library table written journal) ∧
      (∀ made ∈ writes, OwnedLikeRun written made.key run.runId) ∨
    written = table ∧ ∀ made ∈ writes, contents library table made.key = some made.value

private theorem ruV2WriteApply_eq_ok (sound : Sound library table) {write : RuV2Write}
    {writes : List (Write RecordKey Entry)}
    (targets : List.Forall₂ (Target library) write.envelopes writes)
    (success : ruV2WriteApply library stamps table write = .ok written) :
    UnderstandingWrite library table written write.run
    (.requestUnderstandingRecord, write.expectedRuIdentity.norm)
      (write.expectedRunLinkIdentity.toList.map fun identity => (.runTaskLinkRecord, identity.norm))
      writes := by
  simp only [ruV2WriteApply, Except.bind_eq_ok_iff] at success
  obtain ⟨roots, rootsLocked, _, sameRun, existing, loaded, success⟩ := success
  obtain ⟨run, runOwner⟩ := run_of_lockRoots rootsLocked
  obtain ⟨understanding, links⟩ := only_of_checkSameRun sound sameRun
  refine ⟨run, understanding, links, ?_⟩
  cases existing with
  | some rows =>
    simp only [Except.bind_eq_ok_iff, Except.pure_eq_ok_iff] at success
    obtain ⟨-, -, rfl⟩ := success
    exact .inr ⟨rfl, found_of_targetRows targets loaded⟩
  | none =>
    simp only [Except.bind_eq_ok_iff, Except.pure_eq_ok_iff] at success
    obtain ⟨final, inserted, -, -, -, -, -, -, rfl⟩ := success
    obtain ⟨⟨journal, same, effects⟩, owned⟩ := effects_insertTargets sound targets inserted
    exact .inl ⟨⟨journal, same, effects⟩, fun made member =>
      ⟨_, effects.ownerAt_eq runOwner, owned made member⟩⟩

private theorem key_of_target {code : P0RecordCode} {record : SourceRecord}
    {children : List SourceRecord} (sameCode : envelope.recordCode = code)
    (isTarget : Target library envelope (inserting library code record children)) :
    (code, envelope.logicalIdentity.toJson.norm) = entryKey library code record := by
  obtain ⟨_, -, same⟩ := isTarget.inserts
  have keys := congrArg Write.key same
  rw [← sameCode]
  exact keys.symm.trans (by rw [sameCode]; rfl)

/-- A write that has gone through in its transaction. -/
theorem inRuV2Transaction_eq_ok {write : Codec RecordTable} {result : ConditionalWriteResult}
    (success : inRuV2Transaction table write = .ok (written, result)) :
    if result = .applied then write = .ok written else written = table := by
  unfold inRuV2Transaction at success
  cases write with
  | ok after =>
    obtain ⟨rfl, rfl⟩ := Prod.mk.inj (Except.ok.inj success)
    rfl
  | error failure =>
    dsimp only at success
    split_ifs at success
    · obtain ⟨rfl, rfl⟩ := Prod.mk.inj (Except.ok.inj success)
      rfl
    · obtain ⟨rfl, rfl⟩ := Prod.mk.inj (Except.ok.inj success)
      rfl
    · unfold boundedDatabaseFailures at success
      split at success
      · cases success
      · cases success

theorem UnderstandingWrite.admits {run : AgentRunRecord} {record : RequestUnderstandingRecordV2}
    {links : List RecordKey} {writes : List (Write RecordKey Entry)}
    (spec : UnderstandingWrite library table written run
      (entryKey library .requestUnderstandingRecord (.requestUnderstandingRecordV2 record))
      links writes)
    (running : run.status = .running) (ofRun : record.runId = run.runId) :
    AdmitsUnderstanding library (contents library table) record links := by
  rw [AdmitsUnderstanding, ofRun]
  exact ⟨⟨run, [], spec.stands, running⟩, spec.understanding, spec.links⟩

theorem noTask_eq_ok (laws : StoreLaws library) (sound : Sound library table)
    {command : SaveRequestUnderstandingV2NoTaskCommand}
    (success : saveRequestUnderstandingV2NoTaskIfCurrent library stamps table command =
      .ok (written, .applied)) :
    UnderstandingWrite library table written command.expectedActiveRunRecord
      (entryKey library .requestUnderstandingRecord
        (.requestUnderstandingRecordV2 command.requestUnderstandingRecord)) []
      ((StoreCommand.saveRequestUnderstandingV2NoTaskIfCurrent command).writes library
        (contents library table)) := by
  have applied := inRuV2Transaction_eq_ok success
  rw [if_pos rfl] at applied
  obtain ⟨envelope, encoded, applied⟩ := Except.bind_eq_ok_iff.mp applied
  obtain ⟨sameCode, isTarget⟩ := target_of_encode laws (by simp) encoded
  have spec := ruV2WriteApply_eq_ok sound (.cons isTarget .nil) applied
  dsimp only at spec
  rwa [key_of_target sameCode isTarget] at spec

theorem taskGraph_eq_ok (laws : StoreLaws library) (sound : Sound library table)
    {command : CreateInitialTaskGraphV2Command}
    (success : createInitialTaskGraphV2IfCurrent library stamps table command =
      .ok (written, .applied)) :
    UnderstandingWrite library table written command.expectedActiveRunRecord
      (entryKey library .requestUnderstandingRecord
        (.requestUnderstandingRecordV2 command.requestUnderstanding.record))
      [entryKey library .runTaskLinkRecord (.runTaskLinkRecord command.runTaskLink.activeRecord)]
      ((StoreCommand.createInitialTaskGraphV2IfCurrent command).writes library
        (contents library table)) := by
  have applied := inRuV2Transaction_eq_ok success
  rw [if_pos rfl] at applied
  simp only [Except.bind_eq_ok_iff, taskGraphTargets, Except.mapM_eq_ok_iff, Except.pure_eq_ok_iff]
    at applied
  obtain ⟨_, ⟨_, -, rfl⟩, envelopes, encoded, ruIdentity, ruFound, linkIdentity, linkFound,
    applied⟩ := applied
  simp only [List.forall₂_cons_left_iff, List.forall₂_nil_left_iff] at encoded
  obtain ⟨task, _, taskEncoded,
    ⟨unit, _, unitEncoded,
      ⟨binding, _, bindingEncoded,
        ⟨understanding, _, ruEncoded,
          ⟨conversation, _, conversationEncoded, ⟨link, _, linkEncoded, rfl, rfl⟩, rfl⟩,
          rfl⟩, rfl⟩, rfl⟩, rfl⟩ := encoded
  obtain ⟨taskCode, taskTarget⟩ := target_of_encode laws (by simp) taskEncoded
  obtain ⟨unitCode, unitTarget⟩ := target_of_encode laws (by simp) unitEncoded
  obtain ⟨bindingCode, bindingTarget⟩ := target_of_encode laws (by simp) bindingEncoded
  obtain ⟨ruCode, ruTarget⟩ := target_of_encode laws (by simp) ruEncoded
  obtain ⟨conversationCode, conversationTarget⟩ :=
    target_of_encode laws (by simp) conversationEncoded
  obtain ⟨linkCode, linkTarget⟩ := target_of_encode laws (by simp) linkEncoded
  have spec :=
    ruV2WriteApply_eq_ok sound
      (.cons taskTarget (.cons unitTarget (.cons bindingTarget (.cons ruTarget
    (.cons conversationTarget (.cons linkTarget .nil)))))) applied
  obtain rfl : understanding.logicalIdentity.toJson = ruIdentity := by
    simpa [identityOfFamily, taskCode, unitCode, bindingCode, ruCode] using ruFound
  obtain rfl : link.logicalIdentity.toJson = linkIdentity := by
    simpa [identityOfFamily, taskCode, unitCode, bindingCode, ruCode, conversationCode, linkCode]
      using linkFound
  simp only [Option.toList_some, List.map_cons, List.map_nil, key_of_target ruCode ruTarget,
    key_of_target linkCode linkTarget] at spec
  exact spec

end MiniAgent.Infrastructure
