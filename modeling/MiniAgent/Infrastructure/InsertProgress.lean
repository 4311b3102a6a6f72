import MiniAgent.Infrastructure.InsertReplay

/-! # A new record is stored

One envelope is inserted when its identity is new, its references lead to valid rows, and what these
rows and the envelope say of the owner is one answer. The row that it gets passes every check of the
store, so that the call does not fail.
-/

namespace MiniAgent.Infrastructure

open MiniAgent.Core MiniAgent.Application

variable {library : ModelLibrary} {table grown : RecordTable} {stamps : ℕ → RowStamp}
  {stamp : RowStamp}
  {envelope : P0PersistenceEnvelope} {owner : Option Text} {record : SourceRecord}

/-- The row of an envelope, with its references and an owner. -/
def settledRow (envelope : P0PersistenceEnvelope) (record : SourceRecord) (stamp : RowStamp)
    (owner : Option Text) : P0RecordModel :=
  ⟨projectionOf envelope record owner, stamp, referenceModels envelope⟩

/-- The owner column that a row has below an owner. -/
def columnBelow (owner : Option Text) (row : P0RecordModel) : Option Text :=
  if isPrivate row.recordCode then owner else none

section Asking

variable (library) (table)

/-- A valid row from which the references lead to rows of one owner only. -/
structure TargetBelow (owner : Option Text) (target : table.Row) : Prop where
  valid : ∃ decoded, validatePhysicalProjection library table none target = .ok decoded
  below : ∀ row, Leads library table target row →
    row.1.scopeOwnerCustomerId = columnBelow owner row.1

/-- An envelope that the store can take in, and the owner of its row. -/
structure Insertable (stamp : RowStamp) (envelope : P0PersistenceEnvelope) (owner : Option Text) :
    Prop where
  projects : ∃ values, projectionValues library envelope none = .ok values
  absent : recordKey envelope ∉ table.keys
  freshId : stamp.recordId ∉ table.rows.map (·.recordId)
  unique : referencesAreUnique (referenceModels envelope) = true
  targets : ∀ reference ∈ envelope.recordReferences, ∃ target : table.Row,
    IsTarget reference target.1 ∧ TargetBelow library table owner target
  named : ∀ name, owner = some name ↔ envelope.directOwnerCustomerId = some name ∨
    ∃ reference ∈ envelope.recordReferences, ∃ target : table.Row,
      IsTarget reference target.1 ∧ target.1.scopeOwnerCustomerId = some name
  owned : isPrivate envelope.recordCode = owner.isSome

end Asking

/-- Below a target every row is valid for the owner too. -/
theorem TargetBelow.columns {target row : table.Row}
    (below : TargetBelow library table owner target) (leads : Leads library table target row) :
    validateColumns library (columnBelow owner row.1) row.1 = .ok () := by
  obtain ⟨decoded, valid⟩ := below.valid
  simp only [validatePhysicalProjection, Except.bind_eq_ok_iff] at valid
  obtain ⟨-, -, derived, derives, -⟩ := valid
  have checked := (meetsExpectation_of_deriveOwner derives).columns rfl row leads
  rwa [← scopeOwner_of_validateColumns checked, below.below row leads] at checked

private theorem TargetBelow.ownerOf {target : table.Row}
    (below : TargetBelow library table owner target) :
    OwnerOf library table target target.1.scopeOwnerCustomerId := by
  obtain ⟨decoded, valid⟩ := below.valid
  exact ownerOf_of_deriveOwner (owner_of_valid valid)

private theorem normalizedReferences_settledRow (laws : library.TextLaws) :
    normalizedReferences library (settledRow envelope record stamp owner) =
    .ok envelope.recordReferences := by
  have ordinals : (referenceModels envelope).map (·.ordinal) =
      List.range (referenceModels envelope).length := by
    simp [referenceModels, List.map_map, Function.comp_def, List.range_eq_range']
  have rows : (referenceModels envelope).map P0RecordReferenceModel.toJson =
      envelope.recordReferences.map P0RecordReference.toJson := by
    rw [referenceModels, List.map_map, ← List.zipIdx_map_fst 0 envelope.recordReferences,
      List.map_map]
    simp [Function.comp_def, P0RecordReferenceModel.toJson, P0RecordReference.toJson]
  have each : ∀ reference : P0RecordReference,
      (library.readText reference.toJson.compact).bind readReference = some reference := by
    intro reference
    rw [laws.readText_compact _ (reference_isNative reference), Option.bind_some,
      readReference_toJson]
  have read : (envelope.recordReferences.map P0RecordReference.toJson).mapM
      (fun json => (library.readText (Json.compact json)).bind readReference) =
          some envelope.recordReferences :=
    mapM_of_inverse each envelope.recordReferences
  rw [← rows, List.mapM_map] at read
  simp only [normalizedReferences, settledRow, ordinals, beq_self_eq_true, requireIntegrity]
  exact orIntegrity_eq_ok.mpr read

theorem Refers.lift (within : table.rows ⊆ grown.rows) {row target : table.Row}
    (refers : Refers library table row target) :
    Refers library grown (RecordTable.lift within row) (RecordTable.lift within target) := refers

/-- A row without dangling references refers to nothing that has joined the table. -/
private theorem refers_of_lift (within : table.rows ⊆ grown.rows) {row : table.Row}
    {target : grown.Row} (complete : ¬Dangles library table row)
    (refers : Refers library grown (RecordTable.lift within row) target) :
    ∃ old, Refers library table row old ∧ target = RecordTable.lift within old := by
  obtain ⟨reference, held, isTarget⟩ := refers
  by_contra absent
  refine complete ⟨reference, held, fun old member alike =>
    absent ⟨⟨old, member⟩, ⟨reference, held, alike⟩, ?_⟩⟩
  exact RecordTable.key_injective
    ((hasIdentity_iff.mp isTarget).trans (hasIdentity_iff.mp alike).symm)

section Grown

variable (laws : library.TextLaws) (insertable : Insertable library table stamp envelope owner)
  {decoded : DecodedP0PersistenceRecord} {column : Option Text} (within : table.rows ⊆ grown.rows)
  {new : grown.Row}
  (found : decodePersistenceRecord library envelope.modelDump envelope.recordCode = .ok decoded)
  (isNew : new.1 = settledRow envelope decoded.sourceRecord stamp column)
include laws insertable isNew

private theorem parses_new : parseEnvelope library new.1.envelope = .ok envelope := by
  obtain ⟨values, projected⟩ := insertable.projects
  rw [isNew]
  exact parseEnvelope_modelDump laws projected

include found in
private theorem decodes_new : decodeRow library new.1 = .ok decoded := by
  have parsed := parses_new laws insertable isNew
  have references : normalizedReferences library
      (settledRow envelope decoded.sourceRecord stamp column) =
      .ok envelope.recordReferences := normalizedReferences_settledRow laws
  rw [isNew] at parsed ⊢
  simp only [decodeRow, parsed, references, Except.bind_ok]
  simp only [settledRow, projectionOf, found, Except.bind_ok, beq_self_eq_true, Bool.and_self]
  rfl

include within

/-- What the new row refers to was there before. -/
private theorem target_of_refers_new {row : grown.Row} (refers : Refers library grown new row) :
    ∃ reference ∈ envelope.recordReferences, ∃ target : table.Row, IsTarget reference target.1 ∧
      TargetBelow library table owner target ∧ row = RecordTable.lift within target := by
  obtain ⟨reference, ⟨held, parsed, member⟩, isTarget⟩ := refers
  obtain rfl := Except.ok.inj ((parses_new laws insertable isNew).symm.trans parsed)
  obtain ⟨target, alike, below⟩ := insertable.targets reference member
  refine ⟨reference, member, target, alike, below, ?_⟩
  exact RecordTable.key_injective
    ((hasIdentity_iff.mp isTarget).trans (hasIdentity_iff.mp alike).symm)

/-- The references from the new row lead to it and to what its targets led to before. -/
private theorem leads_new {row : grown.Row} (leads : Leads library grown new row) :
    row = new ∨ ∃ reference ∈ envelope.recordReferences, ∃ target :
    table.Row, IsTarget reference target.1 ∧ TargetBelow library table owner target ∧
        ∃ old, Leads library table target old ∧ row = RecordTable.lift within old := by
  induction leads with
  | refl => exact .inl rfl
  | tail _ refers ih =>
    right
    rcases ih with rfl | ⟨reference, member, target, isTarget, below, old, leads, rfl⟩
    · obtain ⟨reference, member, target, isTarget, below, rfl⟩ :=
        target_of_refers_new laws insertable within isNew refers
      exact ⟨reference, member, target, isTarget, below, target, .refl, rfl⟩
    · obtain ⟨next, onward, rfl⟩ := refers_of_lift within (below.ownerOf.complete old leads) refers
      exact ⟨reference, member, target, isTarget, below, next, leads.tail onward, rfl⟩

include found

/-- From the new row the references lead to one owner. -/
private theorem ownerOf_new : OwnerOf library grown new owner := by
  have parsed := parses_new laws insertable isNew
  constructor
  · intro row leads
    rcases leads_new laws insertable within isNew leads with
      rfl | ⟨_, -, target, -, below, old, onward, rfl⟩
    · exact ⟨decoded, decodes_new laws insertable found isNew⟩
    · exact below.ownerOf.decodes old onward
  · intro row leads
    rcases leads_new laws insertable within isNew leads with
      rfl | ⟨_, -, target, -, below, old, onward, rfl⟩
    · rintro ⟨reference, ⟨held, again, member⟩, missing⟩
      obtain rfl := Except.ok.inj (parsed.symm.trans again)
      obtain ⟨target, isTarget, -⟩ := insertable.targets reference member
      exact missing target.1 (within target.2) isTarget
    · rintro ⟨reference, held, missing⟩
      exact below.ownerOf.complete old onward
        ⟨reference, held, fun other member => missing other (within member)⟩
  · intro name
    rw [insertable.named name]
    constructor
    · rintro (direct | ⟨reference, member, target, isTarget, scope⟩)
      · exact ⟨new, .refl, envelope, parsed, direct⟩
      · obtain ⟨other, alike, below⟩ := insertable.targets reference member
        obtain rfl : other = target :=
          RecordTable.key_injective
            ((hasIdentity_iff.mp alike).trans (hasIdentity_iff.mp isTarget).symm)
        obtain ⟨row, leads, owned⟩ := (below.ownerOf.owner name).mp scope
        have onward :
            Leads library grown (RecordTable.lift within other) (RecordTable.lift within row) :=
          Relation.ReflTransGen.lift (RecordTable.lift within)
            (fun _ _ => Refers.lift within) _ _ leads
        exact ⟨_, onward.head ⟨reference, ⟨envelope, parsed, member⟩, alike⟩, owned⟩
    · rintro ⟨row, leads, owned⟩
      rcases leads_new laws insertable within isNew leads with
        rfl | ⟨reference, member, target, isTarget, below, old, onward, rfl⟩
      · obtain ⟨again, parsedAgain, direct⟩ := owned
        obtain rfl := Except.ok.inj (parsed.symm.trans parsedAgain)
        exact .inl direct
      · exact .inr ⟨reference, member, target, isTarget,
          (below.ownerOf.owner name).mpr ⟨old, onward, owned⟩⟩

private theorem derives_new : deriveOwnerFromGraph library grown none false new = .ok owner := by
  refine deriveOwner_of_ownerOf (ownerOf_new laws insertable within found isNew) ⟨.inl rfl, ?_, ?_⟩
  · exact fun _ _ _ _ => rfl
  · exact fun checked => absurd checked Bool.false_ne_true

end Grown

private theorem requireProjection_self (row : Projection) : requireProjection row row = .ok () := by
  simp only [requireProjection, sameMetadata, samePayload, beq_self_eq_true, Bool.and_self]
  rfl

/-- Once its owner stands in its column, the new row passes every check of the store. -/
private theorem settled_new (laws : library.TextLaws)
    (insertable : Insertable library table stamp envelope owner)
    {decoded : DecodedP0PersistenceRecord} (within : table.rows ⊆ grown.rows) {new : grown.Row}
    (found : decodePersistenceRecord library envelope.modelDump envelope.recordCode = .ok decoded)
    (isNew : new.1 = settledRow envelope decoded.sourceRecord stamp owner) :
    Settled library grown envelope new := by
  have parsed := parses_new laws insertable isNew
  have decodes := decodes_new laws insertable found isNew
  have column : columnBelow owner new.1 = owner := by
    have private_ : isPrivate new.1.recordCode = owner.isSome := by
      rw [isNew]
      exact insertable.owned
    rw [columnBelow, private_]
    cases owner <;> rfl
  have projected : projectionValues library envelope owner =
      .ok (projectionOf envelope decoded.sourceRecord owner) := by
    rw [projectionValues, found]
    rfl
  have same : requireProjection new.1.toProjection
      (projectionOf envelope decoded.sourceRecord owner) = .ok () := by
    rw [isNew]
    exact requireProjection_self _
  have columns : ∀ row, Leads library grown new row →
      validateColumns library (columnBelow owner row.1) row.1 = .ok () := by
    intro row leads
    rcases leads_new laws insertable within isNew leads with rfl
      | ⟨_, -, target, -, below, old, onward, rfl⟩
    · rw [column, validateColumns, parsed, Except.bind_ok, projected, Except.bind_ok, same]
    · exact below.columns onward
  have derives : deriveOwnerFromGraph library grown none true new = .ok owner :=
    deriveOwner_of_ownerOf (ownerOf_new laws insertable within found isNew)
      ⟨.inl rfl, fun _ _ _ _ => rfl, fun _ => columns⟩
  refine ⟨⟨?_, ?_, envelope.recordReferences, ?_, rfl⟩, ⟨decoded, ?_⟩, fun private_ => ?_⟩
  · rw [isNew]
    rfl
  · rw [isNew]
    rfl
  · rw [isNew]
    exact normalizedReferences_settledRow laws
  · rw [validatePhysicalProjection, parsed, Except.bind_ok, derives, Except.bind_ok, projected,
      Except.bind_ok, same, Except.bind_ok, decodes]
  · rw [isNew]
    exact insertable.owned ▸ private_

private theorem modify_eq {rows : List P0RecordModel} {before after : P0RecordModel}
    {change : P0RecordModel → P0RecordModel} {next : RecordTable}
    (here : grown.rows = rows ++ [before]) (there : next.rows = rows ++ [after])
    (apart : ∀ row ∈ rows, row.key ≠ recordKey envelope) (key : before.key = recordKey envelope)
    (changed : change before = after) : grown.modify envelope change = .ok next := by
  refine modify_eq_ok_iff.mpr ?_
  rw [here, there, List.map_append, List.map_singleton, if_pos key, changed]
  congr 1
  exact (List.map_id _).symm.trans
    (List.map_congr_left fun row member => (if_neg (apart row member)).symm)

/-- An envelope that the store can take in is inserted, in one row that is appended. -/
theorem persistEnvelopes_of_insertable (laws : library.TextLaws)
    (insertable : Insertable library table (stamps 0) envelope owner) :
    ∃ written, persistEnvelopes library stamps table [envelope] = .ok (written, [true]) := by
  obtain ⟨values, projected⟩ := insertable.projects
  obtain ⟨decoded, found, rfl⟩ := projectionValues_eq_ok projected
  -- the row as it is entered, with its references, and with its owner
  have grows : ∀ row : P0RecordModel, row.key = recordKey envelope →
      row.recordId = (stamps 0).recordId →
      ∃ grown : RecordTable, grown.rows = table.rows ++ [row] := by
    intro row key id
    refine ⟨⟨_, ?_, ?_⟩, rfl⟩
    · rw [List.map_append, List.map_singleton, id]
      exact table.uniqueRecordIds.append (List.nodup_singleton _)
        (List.disjoint_singleton.mpr insertable.freshId)
    · rw [List.map_append, List.map_singleton, key]
      exact table.uniqueIdentities.append (List.nodup_singleton _)
        (List.disjoint_singleton.mpr insertable.absent)
  have apart : ∀ row ∈ table.rows, row.key ≠ recordKey envelope :=
    fun row member same => insertable.absent (same ▸ List.mem_map_of_mem member)
  obtain ⟨entered, enteredRows⟩ := grows
    ⟨projectionOf envelope decoded.sourceRecord envelope.directOwnerCustomerId, stamps 0,
      []⟩ rfl rfl
  obtain ⟨linked, linkedRows⟩ := grows
    (settledRow envelope decoded.sourceRecord (stamps 0) envelope.directOwnerCustomerId) rfl rfl
  obtain ⟨written, writtenRows⟩ :=
    grows (settledRow envelope decoded.sourceRecord (stamps 0) owner) rfl rfl
  refine ⟨written, ?_⟩
  have enters : persistEach library stamps (orderedEnvelopes [envelope]) table =
      .ok (entered, [⟨envelope, 0, true⟩]) := by
    have one : orderedEnvelopes [envelope] = [(envelope, 0)] := rfl
    have projects : projectionValues library envelope envelope.directOwnerCustomerId =
        .ok (projectionOf envelope decoded.sourceRecord envelope.directOwnerCustomerId) := by
      rw [projectionValues, found]
      rfl
    have fresh : (projectionOf envelope decoded.sourceRecord envelope.directOwnerCustomerId).key ∉
        table.rows.map P0RecordModel.key := insertable.absent
    simp only [one, persistEach, persistOneEnvelope, projects, Except.bind_ok, fresh, if_false,
      ofRows_eq_ok_iff.mpr enteredRows]
    rfl
  have stored : [⟨envelope, 0, true⟩].forM (checkStored library entered) = .ok () := by
    refine Except.forM_eq_ok_iff.mpr (List.forall_mem_singleton.mpr ?_)
    have row : rowOf entered envelope =
        .ok ⟨_, enteredRows ▸ List.mem_append_right _ (List.mem_singleton_self _)⟩ :=
      rowOf_eq_ok_iff.mpr rfl
    have content : ((Json.object
      (projectionOf envelope decoded.sourceRecord envelope.directOwnerCustomerId).envelope).norm ==
        envelope.toJson.norm) = true := beq_self_eq_true _
    simp only [checkStored, row, Except.bind_ok, content]
    rfl
  have references : [⟨envelope, 0, true⟩].foldlM writeReferences entered = .ok linked := by
    rw [List.foldlM_cons, writeReferences, if_pos rfl, if_pos insertable.unique,
      modify_eq enteredRows linkedRows apart rfl rfl]
    rfl
  have owners : [⟨envelope, 0, true⟩].foldlM (settleOwner library) linked = .ok written := by
    have within : table.rows ⊆ linked.rows := linkedRows ▸ List.subset_append_left ..
    have present : settledRow envelope decoded.sourceRecord
        (stamps 0) envelope.directOwnerCustomerId ∈ linked.rows :=
      linkedRows ▸ List.mem_append_right _ (List.mem_singleton_self _)
    have row : rowOf linked envelope = .ok ⟨_, present⟩ := rowOf_eq_ok_iff.mpr rfl
    have derives : deriveOwnerFromGraph library linked none false ⟨_, present⟩ = .ok owner :=
      derives_new laws insertable within found rfl
    have owned : (!(isPrivate envelope.recordCode && owner.isNone)) = true := by
      rw [insertable.owned]
      cases owner <;> rfl
    have scoped_ : linked.modify envelope (fun row => { row with scopeOwnerCustomerId := owner }) =
        .ok written :=
      modify_eq linkedRows writtenRows apart rfl rfl
    simp only [List.foldlM_cons, List.foldlM_nil, settleOwner, row, Except.bind_ok, derives, owned,
      requireIntegrity, if_true, scoped_]
    rfl
  have checked : [⟨envelope, 0, true⟩].forM (validatePersisted library written) = .ok () := by
    have within : table.rows ⊆ written.rows := writtenRows ▸ List.subset_append_left ..
    have present : settledRow envelope decoded.sourceRecord (stamps 0) owner ∈ written.rows :=
      writtenRows ▸ List.mem_append_right _ (List.mem_singleton_self _)
    have settled : Settled library written envelope ⟨_, present⟩ :=
      settled_new laws insertable within found rfl
    obtain ⟨again, valid⟩ := settled.valid
    have row : rowOf written envelope = .ok ⟨_, present⟩ := rowOf_eq_ok_iff.mpr rfl
    refine Except.forM_eq_ok_iff.mpr (List.forall_mem_singleton.mpr ?_)
    simp only [validatePersisted, row, Except.bind_ok, valid]
    rfl
  unfold persistEnvelopes
  change (persistEach library stamps (orderedEnvelopes [envelope]) table >>= _) = _
  rw [enters]
  simp only [Except.bind_ok, stored, references, owners, checked]
  rfl

end MiniAgent.Infrastructure
