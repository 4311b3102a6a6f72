import MiniAgent.Infrastructure.ExactRunLoader
import MiniAgent.Infrastructure.StoreRefinement

/-! # The evidence of a Run is a least closure

What a selected row calls for depends on that row alone: its own references, the rows that refer to
it and the rows that its columns connect to it. The selection loop ends, and when it succeeds it has
selected exactly the least set of rows that contains the Run and all that they call for, whatever
the order in which the database gives the rows. A call that finds no row, a reference that no
relation allows and a family that is too large fail the load.
-/

namespace MiniAgent.Infrastructure

open MiniAgent.Core MiniAgent.Application Saturation

variable {library : ModelLibrary} {table : RecordTable} {order : RowOrder table} {owner : Text}
  {runId : Uuid}
  {root : table.Row} {selected after entries : List (SelectedRow table)}
  {source entry : SelectedRow table}
  {target : P0RecordCode × Json} {code : P0RecordCode} {condition : P0RecordModel → Bool}

/-- The columns connect a row to a selected Task or RequestUnit. -/
def ConnectedTo (source : SelectedRow table) (row : P0RecordModel) : Prop :=
  (source.key.1 = .taskRecord ∧ ∃ taskId, source.row.1.taskId = some taskId ∧
    row.taskId = some taskId) ∨ source.key.1 = .requestUnitRecord ∧
      ∃ unitId, source.row.1.requestUnitId = some unitId ∧ row.requestUnitId = some unitId

/-- A selected row has a reference to a target. -/
def RefersTo (library : ModelLibrary) (source : SelectedRow table)
    (target : P0RecordCode × Json) : Prop :=
  ∃ references, exactRunNormalizedReferences library source.row.1 = .ok references ∧
    ∃ reference ∈ references,
      target = (reference.targetRecordCode, reference.targetLogicalIdentity.toJson)

/-- The rows of one family that a condition selects. -/
def familyRows (table : RecordTable) (code : P0RecordCode) (condition : P0RecordModel → Bool) :
    List table.Row :=
  table.select fun row => row.recordCode == code && condition row

/-- What a selected row calls for. -/
inductive CallsFor (library : ModelLibrary) (owner : Text) (runId : Uuid)
    (source : SelectedRow table) :
    P0RecordCode × Json → Prop
  | forward {target : P0RecordCode × Json} (refers : RefersTo library source target) :
      CallsFor library owner runId source target
  | reverse {family : P0RecordCode × List (String × P0RecordCode)}
      (listed : family ∈ exactRunReverseRelations)
      {row : table.Row} (ofFamily : row.1.recordCode = family.1)
      (refers : refersToAnchor table [source] family.2 row.1 = true) :
      CallsFor library owner runId source (family.1, row.1.logicalIdentity)
  | projected {code : P0RecordCode} (listed : code ∈ exactRunProjectionCodes) {row : table.Row}
      (ofFamily : row.1.recordCode = code) (owned : row.1.scopeOwnerCustomerId = some owner)
      (connected : row.1.runId = some runId ∨ ConnectedTo source row.1) :
      CallsFor library owner runId source (code, row.1.logicalIdentity)

/-- What the Run leads to: the least set of selected rows that contains it and what they call
for. -/
inductive Reached (library : ModelLibrary) (owner : Text) (runId : Uuid) (root : table.Row) :
    SelectedRow table → Prop
  | root : Reached library owner runId root (rootEntry root)
  | step {source : SelectedRow table} {target : P0RecordCode × Json} {row : table.Row}
      (earlier : Reached library owner runId root source)
      (calls : CallsFor library owner runId source target)
      (found : exactRunRow table owner target.1 target.2 = .ok row) :
      Reached library owner runId root ⟨exactRunKey target.1 target.2, row⟩

/-- The references of a row are read, and each is one of the relations of its family. -/
def Related (library : ModelLibrary) (source : SelectedRow table) : Prop :=
  ∃ references, exactRunNormalizedReferences library source.row.1 = .ok references ∧
    ∀ reference ∈ references,
      (source.key.1, reference.relation, reference.targetRecordCode) ∈ exactRunForwardRelations

/-- The least closure of a Run, where it is complete and within the caps. -/
structure LeastClosure (library : ModelLibrary) (owner : Text) (runId : Uuid) (root : table.Row)
    (entries : List (SelectedRow table)) : Prop where
  exact : ∀ entry, entry ∈ entries ↔ Reached library owner runId root entry
  distinct : (entries.map (·.key)).Nodup
  capped : ∀ code, (rowsForCode entries code).length ≤ exactRunFamilyCap code
  resolves : ∀ source ∈ entries, ∀ target, CallsFor library owner runId source target →
    (exactRunVersionByCode target.1).isSome = true ∧ ∃ row,
      exactRunRow table owner target.1 target.2 = .ok row
  related : ∀ source ∈ entries, Related library source

private theorem mem_familyRows {row : table.Row} :
    row ∈ familyRows table code condition ↔ row.1.recordCode = code ∧ condition row.1 = true := by
  rw [familyRows, RecordTable.mem_select, Bool.and_eq_true, beq_iff_eq]

private theorem nodup_select (condition : P0RecordModel → Bool) : (table.select condition).Nodup :=
  (List.nodup_attach.mpr (table.uniqueRecordIds.of_map _)).filter _

/-- The row of an identity, if it is in the scope of the owner. -/
private theorem exactRunRow_eq_ok {identity : Json} {row : table.Row} :
    exactRunRow table owner code identity = .ok row ↔ row.1.key = (code, identity.norm) ∧
      row.1.scopeOwnerCustomerId = if exactRunPrivate code then some owner else none := by
  have distinct : (table.select fun row => hasIdentity code identity row &&
      row.scopeOwnerCustomerId == (if exactRunPrivate code then some owner else none)).Nodup :=
        nodup_select _
  have within : ∀ other : table.Row,
      other ∈ (table.select fun row => hasIdentity code identity row &&
      row.scopeOwnerCustomerId == (if exactRunPrivate code then some owner else none)) ↔
        other.1.key = (code, identity.norm) ∧
          other.1.scopeOwnerCustomerId = if exactRunPrivate code then some owner else none := by
    intro other
    rw [RecordTable.mem_select, Bool.and_eq_true, hasIdentity_iff, beq_iff_eq]
  rw [← within, exactRunRow]
  revert distinct within
  generalize (table.select fun row => hasIdentity code identity row &&
    row.scopeOwnerCustomerId == (if exactRunPrivate code then some owner else none)) = rows
  intro distinct within
  rcases rows with _ | ⟨first, _ | ⟨second, rest⟩⟩
  · simp
  · simp [eq_comm]
  · have same : first = second := RecordTable.key_injective
      (((within first).mp (by simp)).1.trans ((within second).mp (by simp)).1.symm)
    simp [same] at distinct

/-- The selection has a row under the key of what is called for. -/
def Has (selected : List (SelectedRow table)) (target : P0RecordCode × Json) : Prop :=
  exactRunKey target.1 target.2 ∈ selected.map (·.key)

theorem Has.mono (has : Has selected target) (retained : selected <+: after) : Has after target :=
  (retained.sublist.map _).subset has

private theorem addIdentity_eq_ok : addIdentity table owner selected target = .ok after ↔
    (exactRunVersionByCode target.1).isSome = true ∧
      (Has selected target ∧ after = selected ∨
        ¬Has selected target ∧ (rowsForCode selected target.1).length < exactRunFamilyCap target.1 ∧
          ∃ row, exactRunRow table owner target.1 target.2 = .ok row ∧
            after = selected ++ [⟨exactRunKey target.1 target.2, row⟩]) := by
  simp only [addIdentity, Except.bind_eq_ok_iff, requireIntegrity_eq_ok_iff, exists_const, Has]
  refine and_congr_right fun _ => ?_
  split_ifs with known
  · simp only [known, Except.pure_eq_ok_iff, true_and, not_true_eq_false, false_and, or_false]
    exact eq_comm
  · simp only [known, Except.bind_eq_ok_iff, requireIntegrity_eq_ok_iff, Except.pure_eq_ok_iff,
      exists_const, decide_eq_true_eq, false_and, false_or, not_false_eq_true, true_and]
    exact and_congr_right fun _ => exists_congr fun row => and_congr_right fun _ => eq_comm

private theorem addIdentity_spec (added : addIdentity table owner selected target = .ok after) :
    selected <+: after ∧ Has after target := by
  rcases addIdentity_eq_ok.mp added with ⟨-, ⟨has, rfl⟩ | ⟨-, -, row, -, rfl⟩⟩
  · exact ⟨List.prefix_rfl, has⟩
  · exact ⟨List.prefix_append .., by simp [Has]⟩

/-- Every row of a query is added, or there are too many of them. -/
private theorem addFamily_eq_ok :
    addFamily table order owner selected code condition = .ok after ↔
      (familyRows table code condition).length ≤ exactRunFamilyCap code ∧
        (order.arrange (familyRows table code condition)).foldlM
          (fun selected row => addIdentity table owner selected (code, row.1.logicalIdentity))
          selected = .ok after := by
  have length := (order.perm (familyRows table code condition)).length_eq
  simp only [addFamily, Except.bind_eq_ok_iff, requireIntegrity_eq_ok_iff, exists_const,
    decide_eq_true_eq]
  rw [← familyRows, List.length_take, length]
  constructor
  · rintro ⟨few, folded⟩
    have within : (familyRows table code condition).length ≤ exactRunFamilyCap code := by omega
    rw [List.take_of_length_le (by omega)] at folded
    exact ⟨within, folded⟩
  · rintro ⟨within, folded⟩
    rw [List.take_of_length_le (by omega)]
    exact ⟨by omega, folded⟩

/-- One of several anchors is referred to. -/
private theorem refersToAnchor_iff {edges : List (String × P0RecordCode)} {row : P0RecordModel} :
    refersToAnchor table selected edges row = true ↔
      ∃ source ∈ selected, refersToAnchor table [source] edges row = true := by
  simp only [refersToAnchor, rowsForCode, List.any_eq_true, Bool.and_eq_true, List.mem_map,
    List.mem_filter, beq_iff_eq, List.mem_singleton]
  constructor
  · rintro ⟨reference, stored, edge, listed, ⟨relation, code⟩, anchor,
      ⟨source, ⟨member, ofCode⟩, rfl⟩, same⟩
    exact ⟨source, member, reference, stored, edge, listed, ⟨relation, code⟩, _,
      ⟨source, ⟨rfl, ofCode⟩, rfl⟩, same⟩
  · rintro ⟨source, member, reference, stored, edge, listed, ⟨relation, code⟩, anchor,
      ⟨_, ⟨rfl, ofCode⟩, rfl⟩, same⟩
    exact ⟨reference, stored, edge, listed, ⟨relation, code⟩, _, ⟨_, ⟨member, ofCode⟩, rfl⟩, same⟩

private theorem mem_selectedTaskIds {taskId : Uuid} : taskId ∈ selectedTaskIds selected ↔
    ∃ source ∈ selected, source.key.1 = .taskRecord ∧ source.row.1.taskId = some taskId := by
  simp [selectedTaskIds, rowsForCode, and_assoc]

private theorem mem_selectedUnitIds {unitId : Uuid} : unitId ∈ selectedUnitIds selected ↔
    ∃ source ∈ selected, source.key.1 = .requestUnitRecord ∧
    source.row.1.requestUnitId = some unitId := by
  simp [selectedUnitIds, rowsForCode, and_assoc]

/-- The columns connect a row to the Run or to one of the selected rows. -/
private theorem isConnected_iff {row : P0RecordModel} :
    isConnected owner runId selected row = true ↔
    row.scopeOwnerCustomerId = some owner ∧
    (row.runId = some runId ∨ ∃ source ∈ selected, ConnectedTo source row) := by
  simp only [isConnected, Bool.and_eq_true, Bool.or_eq_true, beq_iff_eq, Option.any_eq_true,
    decide_eq_true_eq, mem_selectedTaskIds, mem_selectedUnitIds, or_assoc]
  refine and_congr_right fun _ => or_congr_right ?_
  constructor
  · rintro (⟨taskId, held, source, member, ofTask, same⟩ | ⟨unitId, held, source, member,
      ofUnit, same⟩)
    · exact ⟨source, member, .inl ⟨ofTask, taskId, same, held⟩⟩
    · exact ⟨source, member, .inr ⟨ofUnit, unitId, same, held⟩⟩
  · rintro ⟨source, member, ⟨ofTask, taskId, same, held⟩ | ⟨ofUnit, unitId, same, held⟩⟩
    · exact .inl ⟨taskId, held, source, member, ofTask, same⟩
    · exact .inr ⟨unitId, held, source, member, ofUnit, same⟩

/-- A fold of additions retains what was selected and adds what each of them is for. -/
private theorem foldlM_adds {ι : Type}
    {step : List (SelectedRow table) → ι → Codec (List (SelectedRow table))} {items : List ι}
    (facts : ι → Prop) (calls : ι → P0RecordCode × Json → Prop)
    (each : ∀ item ∈ items, ∀ before after, step before item = .ok after →
      before <+: after ∧ facts item ∧ ∀ target, calls item target → Has after target)
    (folded : items.foldlM step selected = .ok after) :
    selected <+: after ∧ ∀ item ∈ items, facts item ∧ ∀ target, calls item target →
    Has after target :=
  foldlM_spec (fun first second => first <+: second)
    (fun item state => facts item ∧ ∀ target, calls item target → Has state target)
      (fun _ => List.prefix_rfl)
    (fun _ _ _ first second => first.trans second)
    (fun _ _ _ achieved retained =>
      ⟨achieved.1, fun target called => (achieved.2 target called).mono retained⟩) each folded

private theorem addFamily_spec
    (added : addFamily table order owner selected code condition = .ok after) :
    selected <+: after ∧ ∀ row ∈ familyRows table code condition,
    Has after (code, row.1.logicalIdentity) := by
  obtain ⟨-, folded⟩ := addFamily_eq_ok.mp added
  obtain ⟨retained, has⟩ := foldlM_adds (fun _ => True)
    (fun (row : table.Row) target => target = (code, row.1.logicalIdentity))
    (fun row _ before after step => by
      obtain ⟨retained, has⟩ := addIdentity_spec step
      exact ⟨retained, trivial, fun target same => same ▸ has⟩) folded
  exact ⟨retained, fun row member => (has row ((order.perm _).mem_iff.mpr member)).2 _ rfl⟩

private theorem addReverse_spec (added : addReverse table order owner selected = .ok after) :
    selected <+: after ∧ ∀ family ∈ exactRunReverseRelations,
      ∀ row ∈ familyRows table family.1 (refersToAnchor table selected family.2),
        Has after (family.1, row.1.logicalIdentity) := by
  obtain ⟨retained, has⟩ := foldlM_adds (fun _ => True)
    (fun (family : P0RecordCode × List (String × P0RecordCode)) target =>
      ∃ row ∈ familyRows table family.1 (refersToAnchor table selected family.2),
        target = (family.1, row.1.logicalIdentity))
    (fun family _ before after step => by
      obtain ⟨retained, has⟩ := addFamily_spec step
      refine ⟨retained, trivial, ?_⟩
      rintro target ⟨row, member, rfl⟩
      exact has row member) added
  exact ⟨retained, fun family listed row member => (has family listed).2 _ ⟨row, member, rfl⟩⟩

private theorem addProjections_spec
    (added : addProjections table order owner runId selected = .ok after) :
    selected <+: after ∧ ∀ code ∈ exactRunProjectionCodes,
      ∀ row ∈ familyRows table code (isConnected owner runId selected),
      Has after (code, row.1.logicalIdentity) := by
  obtain ⟨retained, has⟩ := foldlM_adds (fun _ => True)
    (fun (code : P0RecordCode) target =>
      ∃ row ∈ familyRows table code (isConnected owner runId selected),
      target = (code, row.1.logicalIdentity))
    (fun code _ before after step => by
      obtain ⟨retained, has⟩ := addFamily_spec step
      refine ⟨retained, trivial, ?_⟩
      rintro target ⟨row, member, rfl⟩
      exact has row member) added
  exact ⟨retained, fun code listed row member => (has code listed).2 _ ⟨row, member, rfl⟩⟩

private theorem addReferences_eq_ok :
    addReferences library table owner selected source = .ok after ↔
    ∃ references, exactRunNormalizedReferences library source.row.1 = .ok references ∧
      references.foldlM (fun later reference => do
        requireIntegrity ((source.key.1, reference.relation, reference.targetRecordCode) ∈
          exactRunForwardRelations)
          .linkProjectionMismatch
        addIdentity table owner later (reference.targetRecordCode,
          reference.targetLogicalIdentity.toJson)) selected =
          .ok after :=
  Except.bind_eq_ok_iff

private theorem addReferences_spec
    (added : addReferences library table owner selected source = .ok after) :
    selected <+: after ∧ Related library source ∧ ∀ target, RefersTo library source target →
    Has after target := by
  obtain ⟨references, read, folded⟩ := addReferences_eq_ok.mp added
  obtain ⟨retained, has⟩ := foldlM_adds
    (fun (reference : P0RecordReference) =>
      (source.key.1, reference.relation, reference.targetRecordCode) ∈ exactRunForwardRelations)
    (fun reference target =>
      target = (reference.targetRecordCode, reference.targetLogicalIdentity.toJson))
    (fun reference _ before after step => by
      obtain ⟨_, related, step⟩ := Except.bind_eq_ok_iff.mp step
      obtain ⟨retained, has⟩ := addIdentity_spec step
      exact ⟨retained, by simpa using related, fun target same => same ▸ has⟩) folded
  refine ⟨retained, ⟨references, read, fun reference member => (has reference member).1⟩, ?_⟩
  rintro target ⟨others, again, reference, member, rfl⟩
  obtain rfl := Except.ok.inj (read.symm.trans again)
  exact (has reference member).2 _ rfl

/-- After a round everything is there that a row called for which was selected at its start. -/
private theorem selectionRound_spec
    (done : selectionRound library table order owner runId selected = .ok after) :
    selected <+: after ∧ ∀ source ∈ selected, Related library source ∧
      ∀ target, CallsFor library owner runId source target → Has after target := by
  obtain ⟨reversed, reverse, rest⟩ := Except.bind_eq_ok_iff.mp done
  obtain ⟨connected, project, forward⟩ := Except.bind_eq_ok_iff.mp rest
  obtain ⟨keptReversed, hasReversed⟩ := addReverse_spec reverse
  obtain ⟨keptProjected, hasProjected⟩ := addProjections_spec project
  obtain ⟨kept, each⟩ :=
    foldlM_adds (Related library) (RefersTo library) (fun _ _ _ _ step => addReferences_spec step)
    forward
  refine ⟨(keptReversed.trans keptProjected).trans kept, fun source member => ?_⟩
  obtain ⟨related, hasReferred⟩ := each source ((keptReversed.trans keptProjected).subset member)
  refine ⟨related, fun target calls => ?_⟩
  cases calls with
  | forward refers => exact hasReferred _ refers
  | reverse listed ofFamily refers =>
    have chosen := mem_familyRows.mpr ⟨ofFamily, refersToAnchor_iff.mpr ⟨source, member, refers⟩⟩
    exact (hasReversed _ listed _ chosen).mono (keptProjected.trans kept)
  | projected listed ofFamily owned held =>
    have chosen := mem_familyRows.mpr ⟨ofFamily, isConnected_iff.mpr
      ⟨owned, held.imp_right fun held => ⟨source, keptReversed.subset member, held⟩⟩⟩
    exact (hasProjected _ listed _ chosen).mono kept

private theorem mem_allRecordCodes (code : P0RecordCode) : code ∈ P0RecordCode.all := by
  cases code <;> simp [P0RecordCode.all]

private theorem recordCode_value_injective : Function.Injective P0RecordCode.value := by
  intro left right same
  have named := P0RecordCode.ofValue_value left
  rw [same, P0RecordCode.ofValue_value] at named
  exact (Option.some.inj named).symm

/-- A row that the Run leads to calls for a target. -/
def Called (library : ModelLibrary) (owner : Text) (runId : Uuid) (root : table.Row)
    (target : P0RecordCode × Json) : Prop :=
  ∃ source, Reached library owner runId root source ∧ CallsFor library owner runId source target

/-- A selection of what the Run leads to. -/
structure Selects (library : ModelLibrary) (owner : Text) (runId : Uuid) (root : table.Row)
    (selected : List (SelectedRow table)) : Prop where
  starts : rootEntry root ∈ selected
  distinct : (selected.map (·.key)).Nodup
  reached : ∀ entry ∈ selected, Reached library owner runId root entry
  capped : ∀ code, (rowsForCode selected code).length ≤ exactRunFamilyCap code

private theorem length_rowsForCode_concat (code : P0RecordCode) :
    (rowsForCode (selected ++ [entry]) code).length =
    (rowsForCode selected code).length + if entry.key.1 = code then 1 else 0 := by
  by_cases same : entry.key.1 = code
  · simp [rowsForCode, same]
  · simp [rowsForCode, same]

private theorem nodup_concat {row : table.Row} (distinct : (selected.map (·.key)).Nodup)
    (new : ¬Has selected target) :
    ((selected ++ [(⟨exactRunKey target.1 target.2, row⟩ : SelectedRow table)]).map
      (·.key)).Nodup := by
  rw [List.map_append]
  exact distinct.append (List.nodup_singleton _) (List.disjoint_singleton.mpr new)

private theorem selects_root (root : table.Row) :
    Selects library owner runId root [rootEntry root] where
  starts := List.mem_singleton_self _
  distinct := List.nodup_singleton _
  reached entry member := by
    rw [List.mem_singleton.mp member]
    exact .root
  capped code := by cases code <;> simp [rowsForCode, rootEntry, exactRunKey, exactRunFamilyCap]

namespace Selects

variable (selects : Selects library owner runId root selected)

include selects

/-- A selection is kept by the addition of what is called for. -/
theorem add (called : Called library owner runId root target)
    (added : addIdentity table owner selected target = .ok after) :
    Selects library owner runId root after := by
  obtain ⟨source, earlier, calls⟩ := called
  rcases addIdentity_eq_ok.mp added with ⟨-, ⟨-, rfl⟩ | ⟨new, room, row, found, rfl⟩⟩
  · exact selects
  · refine ⟨List.mem_append_left _ selects.starts, nodup_concat selects.distinct new, ?_, ?_⟩
    · intro entry member
      rcases List.mem_append.mp member with old | fresh
      · exact selects.reached entry old
      · rw [List.mem_singleton.mp fresh]
        exact .step earlier calls found
    · intro code
      have kept := selects.capped code
      rw [length_rowsForCode_concat]
      split_ifs with same
      · subst same
        exact room
      · exact kept

private theorem called_reverse {family : P0RecordCode × List (String × P0RecordCode)}
    (listed : family ∈ exactRunReverseRelations) {row : table.Row}
    (chosen : row ∈ familyRows table family.1 (refersToAnchor table selected family.2)) :
    Called library owner runId root (family.1, row.1.logicalIdentity) := by
  obtain ⟨ofFamily, refers⟩ := mem_familyRows.mp chosen
  obtain ⟨source, member, refers⟩ := refersToAnchor_iff.mp refers
  exact ⟨source, selects.reached source member, .reverse listed ofFamily refers⟩

private theorem called_projected (listed : code ∈ exactRunProjectionCodes) {row : table.Row}
    (chosen : row ∈ familyRows table code (isConnected owner runId selected)) :
    Called library owner runId root (code, row.1.logicalIdentity) := by
  obtain ⟨ofFamily, connected⟩ := mem_familyRows.mp chosen
  obtain ⟨owned, ofRun | ⟨source, member, held⟩⟩ := isConnected_iff.mp connected
  · exact ⟨rootEntry root, .root, .projected listed ofFamily owned (.inl ofRun)⟩
  · exact ⟨source, selects.reached source member, .projected listed ofFamily owned (.inr held)⟩

theorem family (called : ∀ row ∈ familyRows table code condition,
      Called library owner runId root (code, row.1.logicalIdentity))
    (added : addFamily table order owner selected code condition = .ok after) :
    Selects library owner runId root after := by
  obtain ⟨-, folded⟩ := addFamily_eq_ok.mp added
  exact foldlM_keeps (Selects library owner runId root)
    (fun row member _ _ keeps step =>
      keeps.add (called row ((order.perm _).mem_iff.mp member)) step) selects folded

private theorem reversed (added : addReverse table order owner selected = .ok after) :
    Selects library owner runId root after :=
  foldlM_keeps (Selects library owner runId root)
    (fun _ listed _ _ keeps step =>
      keeps.family (fun _ chosen => selects.called_reverse listed chosen) step)
    selects added

theorem projected (added : addProjections table order owner runId selected = .ok after) :
    Selects library owner runId root after :=
  foldlM_keeps (Selects library owner runId root)
    (fun _ listed _ _ keeps step =>
      keeps.family (fun _ chosen => selects.called_projected listed chosen) step)
    selects added

private theorem referred (reached : Reached library owner runId root source)
    (added : addReferences library table owner selected source = .ok after) :
    Selects library owner runId root after := by
  obtain ⟨references, read, folded⟩ := addReferences_eq_ok.mp added
  refine foldlM_keeps (Selects library owner runId root)
    (fun reference member _ _ keeps step => ?_) selects folded
  obtain ⟨_, -, step⟩ := Except.bind_eq_ok_iff.mp step
  exact keeps.add ⟨source, reached, .forward ⟨references, read, reference, member, rfl⟩⟩ step

/-- A round keeps a selection of what the Run leads to. -/
theorem round (done : selectionRound library table order owner runId selected = .ok after) :
    Selects library owner runId root after := by
  obtain ⟨reversed, reverse, rest⟩ := Except.bind_eq_ok_iff.mp done
  obtain ⟨connected, project, forward⟩ := Except.bind_eq_ok_iff.mp rest
  have later := (selects.reversed reverse).projected project
  exact foldlM_keeps (Selects library owner runId root)
    (fun source member _ _ keeps step => keeps.referred (later.reached source member) step)
      later forward

/-- The caps bound the selection. -/
theorem length_le : selected.length ≤ exactRunLimit := by
  refine length_le_of_capped (fun entry => entry.key.1) exactRunFamilyCap P0RecordCode.all selected
    (fun entry _ => mem_allRecordCodes entry.key.1) fun code => ?_
  have capped := selects.capped code
  rwa [rowsForCode, List.length_map] at capped

end Selects

/-- Enough passes end the loop. -/
private theorem selectRows_ends (more : ℕ) :
    selectRows library table order owner runId (exactRunLimit + more) root ≠ .ok none := by
  have starts : Selects library owner runId root [rootEntry root] := selects_root root
  refine saturate_ends (fun _ _ selects done => selects.round done)
    (fun _ _ done => (selectionRound_spec done).1)
    (fun _ selects => selects.length_le) starts ?_
  rw [List.length_singleton]
  omega

theorem CallsFor.isNative (native : ∀ row : table.Row, row.1.logicalIdentity.isNative = true)
    (calls : CallsFor library owner runId source target) : target.2.isNative = true := by
  cases calls with
  | forward refers =>
    obtain ⟨_, -, reference, -, rfl⟩ := refers
    exact identity_isNative _
  | reverse => exact native _
  | projected => exact native _

/-- The row of the Run is the one that its identity has. -/
def IsRunRow (owner : Text) (runId : Uuid) (root : table.Row) : Prop :=
  root.1.recordCode = .agentRunRecord ∧ root.1.runId = some runId ∧
    root.1.scopeOwnerCustomerId = some owner

theorem IsRunRow.found (isRun : IsRunRow owner runId root) :
    exactRunRow table owner .agentRunRecord root.1.logicalIdentity = .ok root :=
  exactRunRow_eq_ok.mpr ⟨congrArg (·, root.1.logicalIdentity.norm) isRun.1, isRun.2.2⟩

/-- What is reached stands under the key of an identity that has this row. -/
theorem Reached.found (native : ∀ row : table.Row, row.1.logicalIdentity.isNative = true)
    (isRun : IsRunRow owner runId root) (reached : Reached library owner runId root entry) :
    ∃ target : P0RecordCode × Json, target.2.isNative = true ∧
    entry.key = exactRunKey target.1 target.2 ∧
      exactRunRow table owner target.1 target.2 = .ok entry.row := by
  cases reached with
  | root => exact ⟨(.agentRunRecord, root.1.logicalIdentity), native root, rfl, isRun.found⟩
  | @step _ target _ _ calls found => exact ⟨target, calls.isNative native, rfl, found⟩

private theorem isSome_version_of_cap (positive : 0 < exactRunFamilyCap code) :
    (exactRunVersionByCode code).isSome = true := by
  cases code <;> simp_all [exactRunFamilyCap, exactRunVersionByCode]

/-- A selection that a round leaves as it is is the least closure. -/
private theorem Selects.leastClosure
    (native : ∀ row : table.Row, row.1.logicalIdentity.isNative = true)
    (isRun : IsRunRow owner runId root) (selects : Selects library owner runId root entries)
    (stable : selectionRound library table order owner runId entries = .ok entries) :
    LeastClosure library owner runId root entries := by
  have achieved := (selectionRound_spec stable).2
  have resolved : ∀ source ∈ entries, ∀ target, CallsFor library owner runId source target →
      ∃ entry ∈ entries, entry.key = exactRunKey target.1 target.2 ∧
        exactRunRow table owner target.1 target.2 = .ok entry.row := by
    intro source member target calls
    obtain ⟨entry, listed, key⟩ := List.mem_map.mp ((achieved source member).2 target calls)
    obtain ⟨⟨code, identity⟩, isNative, found, row⟩ :=
      (selects.reached entry listed).found native isRun
    obtain ⟨sameCode, texts⟩ := Prod.mk.inj (found.symm.trans key)
    have sameIdentity := Json.compact_injective isNative (calls.isNative native) texts
    simp only at sameCode row
    exact ⟨entry, listed, key, sameCode ▸ sameIdentity ▸ row⟩
  refine ⟨fun entry => ⟨selects.reached entry, fun reached => ?_⟩, selects.distinct,
    selects.capped, ?_, fun source member => (achieved source member).1⟩
  · induction reached with
    | root => exact selects.starts
    | step earlier calls found ih =>
      obtain ⟨entry, listed, key, row⟩ := resolved _ ih _ calls
      obtain rfl := Except.ok.inj (row.symm.trans found)
      rwa [← key]
  · intro source member target calls
    obtain ⟨entry, listed, key, row⟩ := resolved source member target calls
    refine ⟨isSome_version_of_cap
      (lt_of_lt_of_le (List.length_pos_of_mem (a := entry.row) ?_) (selects.capped target.1)),
      entry.row, row⟩
    exact List.mem_map.mpr ⟨entry, List.mem_filter.mpr ⟨listed, by simp [key, exactRunKey]⟩, rfl⟩

private theorem length_rowsForCode_le (distinct : (selected.map (·.key)).Nodup)
    (subset : selected ⊆ entries) (code : P0RecordCode) :
    (rowsForCode selected code).length ≤ (rowsForCode entries code).length := by
  rw [rowsForCode, rowsForCode, List.length_map, List.length_map]
  exact (List.subperm_of_subset ((distinct.of_map _).filter _)
    (List.filter_subset _ subset)).length_le

namespace LeastClosure

variable (closure : LeastClosure library owner runId root entries)
  (selects : Selects library owner runId root selected)

include closure

private theorem resolves_called (called : Called library owner runId root target) :
    (exactRunVersionByCode target.1).isSome = true ∧ ∃ row,
    exactRunRow table owner target.1 target.2 = .ok row ∧
      ⟨exactRunKey target.1 target.2, row⟩ ∈ entries := by
  obtain ⟨source, reached, calls⟩ := called
  obtain ⟨versioned, row, found⟩ :=
    closure.resolves source ((closure.exact source).mpr reached) target calls
  exact ⟨versioned, row, found, (closure.exact _).mpr (.step reached calls found)⟩

/-- The rows of a query that are all called for are within the cap. -/
private theorem length_familyRows_le (called : ∀ row ∈ familyRows table code condition,
      Called library owner runId root (code, row.1.logicalIdentity)) :
    (familyRows table code condition).length ≤ exactRunFamilyCap code := by
  refine le_trans (List.subperm_of_subset (nodup_select _) fun row member => ?_).length_le
    (closure.capped code)
  obtain ⟨-, found, isFound, listed⟩ := closure.resolves_called (called row member)
  have same : found = row := RecordTable.key_injective ((exactRunRow_eq_ok.mp isFound).1.trans
    (congrArg (·, row.1.logicalIdentity.norm) (mem_familyRows.mp member).1).symm)
  subst same
  exact List.mem_map.mpr ⟨_, List.mem_filter.mpr ⟨listed, by simp [exactRunKey]⟩, rfl⟩

include selects

private theorem add_succeeds (called : Called library owner runId root target) :
    ∃ after, addIdentity table owner selected target = .ok after ∧
    Selects library owner runId root after := by
  obtain ⟨versioned, row, found, listed⟩ := closure.resolves_called called
  have added : ∃ after, addIdentity table owner selected target = .ok after := by
    by_cases has : Has selected target
    · exact ⟨selected, addIdentity_eq_ok.mpr ⟨versioned, .inl ⟨has, rfl⟩⟩⟩
    · refine ⟨_, addIdentity_eq_ok.mpr ⟨versioned, .inr ⟨has, ?_, row, found, rfl⟩⟩⟩
      have subset : selected ++ [⟨exactRunKey target.1 target.2, row⟩] ⊆ entries := by
        intro entry member
        rcases List.mem_append.mp member with old | fresh
        · exact (closure.exact entry).mpr (selects.reached entry old)
        · rwa [List.mem_singleton.mp fresh]
      have within :=
        (length_rowsForCode_le (nodup_concat selects.distinct has) subset target.1).trans
        (closure.capped target.1)
      rw [length_rowsForCode_concat] at within
      simp only [exactRunKey, ↓reduceIte] at within
      omega
  obtain ⟨after, added⟩ := added
  exact ⟨after, added, selects.add called added⟩

private theorem addFamily_succeeds (called : ∀ row ∈ familyRows table code condition,
      Called library owner runId root (code, row.1.logicalIdentity)) :
    ∃ after, addFamily table order owner selected code condition = .ok after ∧
    Selects library owner runId root after := by
  have few := closure.length_familyRows_le called
  simp only [addFamily_eq_ok, few, true_and]
  refine foldlM_succeeds (fun row member before keeps => ?_) selects
  exact closure.add_succeeds keeps (called row ((order.perm _).mem_iff.mp member))

private theorem addReverse_succeeds :
    ∃ after, addReverse table order owner selected = .ok after ∧
    Selects library owner runId root after :=
  foldlM_succeeds (fun _ listed _ keeps =>
    closure.addFamily_succeeds keeps fun _ chosen => selects.called_reverse listed chosen) selects

private theorem addProjections_succeeds :
    ∃ after, addProjections table order owner runId selected = .ok after ∧
    Selects library owner runId root after :=
  foldlM_succeeds (fun _ listed _ keeps =>
    closure.addFamily_succeeds keeps fun _ chosen => selects.called_projected listed chosen) selects

private theorem addReferences_succeeds (reached : Reached library owner runId root source) :
    ∃ after, addReferences library table owner selected source = .ok after ∧
    Selects library owner runId root after := by
  obtain ⟨references, read, related⟩ := closure.related source ((closure.exact source).mpr reached)
  simp only [addReferences, read, Except.bind_ok]
  refine foldlM_succeeds (fun reference member before keeps => ?_) selects
  obtain ⟨after, added, later⟩ := closure.add_succeeds keeps
    ⟨source, reached, .forward ⟨references, read, reference, member, rfl⟩⟩
  have allowed := decide_eq_true (related reference member)
  exact ⟨after, Except.bind_eq_ok_iff.mpr ⟨(), requireIntegrity_eq_ok_iff.mpr allowed, added⟩,
    later⟩

private theorem selectionRound_succeeds :
    ∃ after, selectionRound library table order owner runId selected = .ok after ∧
      Selects library owner runId root after := by
  have reverses : ∃ reversed, addReverse table order owner selected = .ok reversed ∧
      Selects library owner runId root reversed := closure.addReverse_succeeds selects
  obtain ⟨reversed, reverse, selectsReversed⟩ := reverses
  have projects : ∃ connected, addProjections table order owner runId reversed = .ok connected ∧
      Selects library owner runId root connected := closure.addProjections_succeeds selectsReversed
  obtain ⟨connected, project, selectsConnected⟩ := projects
  have folds : ∃ after,
      connected.foldlM (Infrastructure.addReferences library table owner) connected = .ok after ∧
      Selects library owner runId root after :=
    foldlM_succeeds (fun source member _ keeps =>
      closure.addReferences_succeeds keeps
        (selectsConnected.reached source member)) selectsConnected
  obtain ⟨after, forward, keeps⟩ := folds
  exact ⟨after, Except.bind_eq_ok_iff.mpr ⟨reversed, reverse,
    Except.bind_eq_ok_iff.mpr ⟨connected, project, forward⟩⟩, keeps⟩

end LeastClosure

/-- The loop selects a least closure, or it fails and there is none. -/
private theorem selectRows_cases (order : RowOrder table)
    (native : ∀ row : table.Row, row.1.logicalIdentity.isNative = true)
    (isRun : IsRunRow owner runId root) (more : ℕ) :
    (∃ selected, selectRows library table order owner runId (exactRunLimit + more) root =
      .ok (some selected) ∧ LeastClosure library owner runId root selected) ∨
    ∃ failure, selectRows library table order owner runId (exactRunLimit + more) root =
    .error failure ∧ ∀ entries, ¬LeastClosure library owner runId root entries := by
  have starts : Selects library owner runId root [rootEntry root] := selects_root root
  cases looped : selectRows library table order owner runId (exactRunLimit + more) root with
  | error failure =>
    refine .inr ⟨failure, rfl, fun entries closure => ?_⟩
    have succeeds : ∃ outcome,
        selectRows library table order owner runId (exactRunLimit + more) root = .ok outcome :=
      saturate_succeeds (fun _ selects => closure.selectionRound_succeeds selects) starts
    obtain ⟨outcome, success⟩ := succeeds
    rw [looped] at success
    cases success
  | ok outcome =>
    cases outcome with
    | none => exact absurd looped (selectRows_ends more)
    | some selected =>
      have selects :=
        saturate_keeps (fun _ _ selects done => Selects.round selects done) starts looped
      exact .inl ⟨selected, rfl,
        selects.leastClosure native isRun
          (round_of_saturate (fun _ _ done => (selectionRound_spec done).1) looped)⟩

/-- A Run has one least closure, up to its order. -/
theorem LeastClosure.perm (closure : LeastClosure library owner runId root entries)
    (other : LeastClosure library owner runId root selected) : entries.Perm selected :=
  (List.perm_ext_iff_of_nodup (closure.distinct.of_map _) (other.distinct.of_map _)).mpr
      fun entry =>
    (closure.exact entry).trans (other.exact entry).symm

private theorem rawChildTotal_eq_of_perm (same : entries.Perm selected) (code : P0RecordCode) :
    rawChildTotal entries code = rawChildTotal selected code :=
  (((same.filter _).map _).map _).sum_nat

/-- Evidence does not depend on the order in which its rows were selected. -/
private theorem evidenceOf_eq_of_perm (same : entries.Perm selected)
    (distinct : (entries.map (·.key)).Nodup) :
    evidenceOf library owner entries = evidenceOf library owner selected := by
  have ordered : decodeOrder entries = decodeOrder selected := by
    refine Keyed.sortByKey_eq_of_perm same ?_
    have injective : Function.Injective fun key : ExactRunKey => [key.1.value.toList, key.2] := by
      rintro ⟨code, identity⟩ ⟨otherCode, otherIdentity⟩ texts
      simp only [List.cons.injEq, and_true] at texts
      rw [recordCode_value_injective (String.toList_injective texts.1), texts.2]
    simpa only [List.map_map, Function.comp_def] using distinct.map injective
  simp only [evidenceOf, ordered, rawChildTotal_eq_of_perm same]

/-- The rows of the Run: none, one or two of them. -/
private theorem exactRunRoots_cases (table : RecordTable) (owner : Text) (runId : Uuid) :
    (exactRunRoots table owner runId = [] ∧ ∀ row : table.Row, ¬IsRunRow owner runId row) ∨
    (∃ root, exactRunRoots table owner runId = [root] ∧ ∀ row, IsRunRow owner runId row ↔
      row = root) ∨
    ∃ first second, exactRunRoots table owner runId = [first, second] ∧ first ≠ second ∧
      IsRunRow owner runId first ∧ IsRunRow owner runId second := by
  have distinct :=
    (Keyed.sortByKey_perm (fun row : table.Row => row.1.recordId) (table.select fun row =>
    row.recordCode == .agentRunRecord && row.runId == some runId &&
      row.scopeOwnerCustomerId == some owner)).nodup_iff.mpr
      (nodup_select _)
  have listed : ∀ row,
      row ∈ Keyed.sortByKey (fun row : table.Row => row.1.recordId) (table.select fun row =>
      row.recordCode == .agentRunRecord && row.runId == some runId &&
        row.scopeOwnerCustomerId == some owner) ↔
        IsRunRow owner runId row := by
    intro row
    rw [(Keyed.sortByKey_perm _ _).mem_iff, RecordTable.mem_select]
    simp [IsRunRow, and_assoc]
  unfold exactRunRoots
  revert distinct listed
  generalize Keyed.sortByKey (fun row : table.Row => row.1.recordId) (table.select fun row =>
    row.recordCode == .agentRunRecord && row.runId == some runId &&
      row.scopeOwnerCustomerId == some owner) = rows
  intro distinct listed
  rcases rows with _ | ⟨first, _ | ⟨second, rest⟩⟩
  · exact .inl ⟨rfl, fun row isRun => List.not_mem_nil ((listed row).mpr isRun)⟩
  · exact .inr (.inl ⟨first, rfl, fun row => (listed row).symm.trans List.mem_singleton⟩)
  · refine .inr (.inr ⟨first, second, rfl, ?_, (listed first).mp (by simp),
      (listed second).mp (by simp)⟩)
    rintro rfl
    simp at distinct

/-- Evidence decodes the row of the Run. -/
private theorem root_decodes {closure : ExactRunEvidenceClosure}
    (least : LeastClosure library owner runId root entries)
    (evidence : evidenceOf library owner entries = .ok closure) :
    ∃ decoded, exactRunDecode library owner root.1 = .ok decoded := by
  simp only [evidenceOf, Except.bind_eq_ok_iff] at evidence
  obtain ⟨_, -, decoded, decodes, -⟩ := evidence
  have member : rootEntry root ∈ decodeOrder entries :=
    (Keyed.sortByKey_perm _ _).mem_iff.mpr ((least.exact _).mpr .root)
  obtain ⟨record, -, isRecord⟩ :=
    Keyed.exists_of_forall₂_left (Except.mapM_eq_ok_iff.mp decodes) member
  exact ⟨record, isRecord⟩

/-- With one row of the Run, the load gives the evidence of what is selected. -/
private theorem load_eq_ok_of_selected {fuel : ℕ}
    (one : exactRunRoots table owner runId = [root])
    (looped : selectRows library table order owner runId fuel root = .ok (some selected))
    (least : LeastClosure library owner runId root selected)
    (outcome : Option (Option ExactRunEvidenceClosure)) :
    loadExactRunEvidenceForOwner library table order owner runId fuel = .ok outcome ↔
      ∃ closure, evidenceOf library owner selected = .ok closure ∧
      some (some closure) = outcome := by
  have steps : loadExactRunEvidenceForOwner library table order owner runId fuel =
      (discard (exactRunDecode library owner root.1) >>= fun _ =>
        evidenceOf library owner selected >>= fun closure => pure (some (some closure))) := by
    rw [loadExactRunEvidenceForOwner, one]
    simp only
    rw [looped]
    rfl
  simp only [steps, Except.bind_eq_ok_iff, Except.discard_eq_ok_iff, Except.pure_eq_ok_iff]
  constructor
  · rintro ⟨_, -, closure, evidence, equal⟩
    exact ⟨closure, evidence, equal⟩
  · rintro ⟨closure, evidence, equal⟩
    exact ⟨(), root_decodes least evidence, closure, evidence, equal⟩

/-- A selection that fails fails the load. -/
private theorem load_ne_ok_of_failed {fuel : ℕ} {failure : PersistenceFailure}
    (one : exactRunRoots table owner runId = [root])
    (looped : selectRows library table order owner runId fuel root = .error failure)
    (outcome : Option (Option ExactRunEvidenceClosure)) :
    loadExactRunEvidenceForOwner library table order owner runId fuel ≠ .ok outcome := by
  intro success
  simp only [loadExactRunEvidenceForOwner, one, Except.bind_eq_ok_iff, looped, reduceCtorEq,
    false_and, exists_false, and_false] at success

/-- A load of the evidence of a Run: it ends, there is nothing to load without a row of the Run, and
what is loaded is the evidence of its least closure. -/
structure LoadsLeastClosure (library : ModelLibrary) (table : RecordTable) (owner : Text)
    (runId : Uuid) (load : Codec (Option (Option ExactRunEvidenceClosure))) : Prop where
  ends : load ≠ .ok none
  absent : load = .ok (some none) ↔ ∀ row : table.Row, ¬IsRunRow owner runId row
  loaded : ∀ closure, load = .ok (some (some closure)) ↔
    ∃ root : table.Row, (∀ row, IsRunRow owner runId row ↔ row = root) ∧
      ∃ entries, LeastClosure library owner runId root entries ∧
      evidenceOf library owner entries = .ok closure

/-- The evidence of a Run is that of its least closure, whatever the order in which rows are
read. -/
theorem evidence_is_least_closure (library : ModelLibrary) (snapshot : Snapshot)
    (order : RowOrder snapshot.toRecordTable) (owner : Text) (runId : Uuid) (more : ℕ) :
    LoadsLeastClosure library snapshot.toRecordTable owner runId
      (loadExactRunEvidenceForOwner library snapshot.toRecordTable order owner runId
        (exactRunLimit + more)) := by
  have native : ∀ row : snapshot.toRecordTable.Row, row.1.logicalIdentity.isNative = true :=
    fun row =>
    snapshot.nativeIdentities row.1 row.2
  rcases exactRunRoots_cases snapshot.toRecordTable owner runId with
    ⟨empty, absent⟩ | ⟨root, one, only⟩ | ⟨first, second, two, apart, isFirst, isSecond⟩
  · have nothing : loadExactRunEvidenceForOwner library snapshot.toRecordTable order owner runId
        (exactRunLimit + more) = .ok (some none) := by
      rw [loadExactRunEvidenceForOwner, empty]
      rfl
    refine ⟨by simp [nothing], by simp [nothing, absent], fun closure => ?_⟩
    simp only [nothing, Except.ok.injEq, Option.some.injEq, reduceCtorEq, false_iff]
    rintro ⟨root, only, -⟩
    exact absent root ((only root).mpr rfl)
  · have isRun : IsRunRow owner runId root := (only root).mpr rfl
    have present : ¬∀ row, ¬IsRunRow owner runId row := fun absent => absent root isRun
    rcases selectRows_cases order native isRun more with ⟨selected, looped, least⟩
      | ⟨failure, looped, never⟩
    · have loads := load_eq_ok_of_selected one looped least
      refine ⟨fun ended => by simpa using (loads _).mp ended, ?_, fun closure => ?_⟩
      · rw [loads]
        exact iff_of_false (by simp) present
      · rw [loads]
        constructor
        · rintro ⟨other, evidence, equal⟩
          obtain rfl : other = closure := by simpa using equal
          exact ⟨root, only, selected, least, evidence⟩
        · rintro ⟨other, others, entries, closes, evidence⟩
          obtain rfl : root = other := (others root).mp isRun
          exact ⟨closure, (evidenceOf_eq_of_perm (least.perm closes) least.distinct).trans evidence,
            rfl⟩
    · have fails := load_ne_ok_of_failed one looped
      refine ⟨fails _, iff_of_false (fails _) present, fun closure => iff_of_false (fails _) ?_⟩
      rintro ⟨other, others, entries, closes, -⟩
      obtain rfl : root = other := (others root).mp isRun
      exact never entries closes
  · have fails : ∀ outcome,
        loadExactRunEvidenceForOwner library snapshot.toRecordTable order owner runId
        (exactRunLimit + more) ≠ .ok outcome := by
      intro outcome success
      simp [loadExactRunEvidenceForOwner, two] at success
    refine ⟨fails _, iff_of_false (fails _) fun absent => absent first isFirst,
      fun closure => iff_of_false (fails _) ?_⟩
    rintro ⟨root, only, -⟩
    exact apart (((only first).mp isFirst).trans ((only second).mp isSecond).symm)

/-- The rows of the Conversation and of the Run. -/
def storedRows : List P0RecordModel :=
  [{ recordCode := .conversationRecord
     recordSchemaVersion := "conversation_record.p0.v1"
     logicalIdentity := uuidIdentity "conversation_id" 2
     directOwnerCustomerId := some "customer-1".toList
     scopeOwnerCustomerId := some "customer-1".toList
     conversationId := some 2
     runId := none
     taskId := none
     requestUnitId := none
     lifecycleStatus := none
     stateVersion := none
     attemptCount := none
     recoverySortAt := none
     envelope :=
       [("record_code", ownText "conversation_record"),
         ("record_schema_version", ownText "conversation_record.p0.v1"),
         ("logical_identity", uuidIdentity "conversation_id" 2),
         ("direct_owner_customer_id", ownText "customer-1"),
         ("record_references", .array []), ("payload", .object
           [("data", .object (storeLibrary.modelDump (.conversationRecord storedConversation))),
             ("record_code", ownText "conversation_record"),
             ("record_schema_version", ownText "conversation_record.p0.v1"),
             ("logical_children", .array [])])]
     recordId := 1
     storedAt := .utc 1735689600000000
     references := [] },
   { recordCode := .agentRunRecord
     recordSchemaVersion := "agent_run_record.p0.v1"
     logicalIdentity := uuidIdentity "run_id" 1
     directOwnerCustomerId := none
     scopeOwnerCustomerId := some "customer-1".toList
     conversationId := some 2
     runId := some 1
     taskId := none
     requestUnitId := none
     lifecycleStatus := some "CREATED"
     stateVersion := none
     attemptCount := none
     recoverySortAt := some (.utc 1735689600000000)
     envelope :=
       [("record_code", ownText "agent_run_record"),
         ("record_schema_version", ownText "agent_run_record.p0.v1"),
         ("logical_identity", uuidIdentity "run_id" 1), ("direct_owner_customer_id", .null),
         ("record_references", .array [.object [("relation", ownText "conversation_id"),
           ("target_record_code", ownText "conversation_record"),
           ("target_logical_identity", uuidIdentity "conversation_id" 2)]]),
         ("payload", .object
           [("data", .object (storedRunData "CREATED" .null)),
             ("record_code", ownText "agent_run_record"),
             ("record_schema_version", ownText "agent_run_record.p0.v1"),
             ("logical_children", .array [])])]
     recordId := 2
     storedAt := .utc 1735689600000000
     references :=
       [⟨0, "conversation_id", .conversationRecord, uuidIdentity "conversation_id" 2⟩] }]

/-- The order in which the last row comes first. -/
def lastRowFirst (table : RecordTable) : RowOrder table :=
  ⟨List.reverse, fun _ => List.reverse_perm _⟩

def storedSnapshot : Snapshot :=
  ⟨⟨storedRows, by decide, by decide⟩, by decide⟩

/-- The evidence of the stored Run is loaded, and it is that of the Run and its Conversation. -/
theorem evidence_is_least_closure_stored :
    ∃ (root : storedSnapshot.toRecordTable.Row)
    (entries : List (SelectedRow storedSnapshot.toRecordTable)) (closure : ExactRunEvidenceClosure),
    (∀ row, IsRunRow "customer-1".toList 1 row ↔ row = root) ∧
      LeastClosure storeLibrary "customer-1".toList 1 root entries ∧
      evidenceOf storeLibrary "customer-1".toList entries = .ok closure ∧
      closure.runRecord = storedRun ∧ closure.conversationRecord = storedConversation := by
  have loads : ((loadExactRunEvidenceForOwner storeLibrary storedSnapshot.toRecordTable
    (lastRowFirst _)
      "customer-1".toList 1 (exactRunLimit + 0)).toOption.map fun loaded =>
        loaded.map fun present =>
        present.map fun closure => (closure.runRecord, closure.conversationRecord)) =
      some (some (some (storedRun, storedConversation))) := by decide +kernel
  obtain ⟨loaded, success, ended⟩ := Option.map_eq_some_iff.mp loads
  obtain ⟨present, rfl, found⟩ := Option.map_eq_some_iff.mp ended
  obtain ⟨closure, rfl, records⟩ := Option.map_eq_some_iff.mp found
  obtain ⟨run, conversation⟩ := Prod.mk.inj records
  obtain ⟨root, only, entries, closes, evidence⟩ :=
    ((evidence_is_least_closure storeLibrary storedSnapshot
    (lastRowFirst _) "customer-1".toList 1 0).loaded closure).mp
      (Except.toOption_eq_some_iff.mp success)
  exact ⟨root, entries, closure, only, closes, evidence, run, conversation⟩

end MiniAgent.Infrastructure
