import MiniAgent.Application.PersistenceDecode

/-! # References in canonical order

A reference is determined by its key, so normalised references are a set: sorted, without
repetition, and the same for every order in which the references were given. Text laws of the model
library make the strict re-validation of a reference the identity.
-/

namespace MiniAgent.Application

open MiniAgent.Core

/-- The model library writes and reads JSON text faithfully. -/
structure ModelLibrary.TextLaws (library : ModelLibrary) : Prop where
  readText_writeText : ∀ value : Json, value.isNative = true →
    library.readText (library.writeText value) = some value
  readText_compact : ∀ value : Json, value.isNative = true →
    library.readText value.compact = some value
  loads_writeText : ∀ value : Json, value.isNative = true →
    Json.loads (library.writeText value) = some value

variable {library : ModelLibrary} {references normalized : List P0RecordReference}

private theorem identity_toJson_injective : Function.Injective LogicalIdentity.toJson := by
  intro left right same
  have read := readIdentity_toJson left
  rw [same, readIdentity_toJson] at read
  exact (Option.some.inj read).symm

/-- The key names every part of a reference. -/
private theorem referenceKey_injective : Function.Injective referenceKey := by
  rintro ⟨leftRelation, leftCode, leftIdentity⟩ ⟨rightRelation, rightCode, rightIdentity⟩ same
  simp only [referenceKey, List.cons.injEq, and_true] at same
  obtain ⟨relations, codes, identities⟩ := same
  obtain rfl := String.toList_injective relations
  have sameCode := P0RecordCode.ofValue_value leftCode
  rw [String.toList_injective codes, P0RecordCode.ofValue_value] at sameCode
  obtain rfl := (Option.some.inj sameCode).symm
  have sameIdentity := Json.compact_injective (identity_isNative _) (identity_isNative _) identities
  rw [identity_toJson_injective sameIdentity]

/-- The references without repetition, sorted by key. -/
def canonicalReferences (references : List P0RecordReference) : List P0RecordReference :=
  Keyed.sortByKey referenceKey (Keyed.dictValues referenceKey references)

theorem mem_canonicalReferences {reference : P0RecordReference} :
    reference ∈ canonicalReferences references ↔ reference ∈ references := by
  rw [canonicalReferences, (Keyed.sortByKey_perm _ _).mem_iff,
    Keyed.mem_dictValues_of_injective referenceKey_injective]

theorem nodup_canonicalReferences (references : List P0RecordReference) :
    (canonicalReferences references).Nodup :=
  (Keyed.sortByKey_perm _ _).nodup_iff.mpr (Keyed.nodup_dictValues referenceKey references).of_map

/-- Canonical references depend on the set of references only. -/
theorem canonicalReferences_congr {left right : List P0RecordReference}
    (same : ∀ reference, reference ∈ left ↔ reference ∈ right) :
    canonicalReferences left = canonicalReferences right :=
  Keyed.sortByKey_eq_of_perm (Keyed.dictValues_perm referenceKey_injective same)
    (Keyed.nodup_dictValues referenceKey left)

theorem canonicalReferences_perm (distinct : references.Nodup) :
    (canonicalReferences references).Perm references :=
  (List.perm_ext_iff_of_nodup (nodup_canonicalReferences references) distinct).mpr
    fun _ => mem_canonicalReferences

variable (laws : library.TextLaws)
include laws

private theorem strictReference_eq (reference : P0RecordReference) :
    strictReference library reference = .ok reference := by
  rw [strictReference, laws.readText_writeText _ (reference_isNative reference)]
  simp [orIntegrity]

/-- Entering references fails only on a repeated one. -/
private theorem collectReferences_eq_ok_iff {collapse : Bool}
    {entered collected : List P0RecordReference} :
    collectReferences library collapse entered references = .ok collected ↔
      (collapse = true ∨ (references.Nodup ∧ ∀ reference ∈ references, reference ∉ entered)) ∧
        collected = entered ++ references := by
  induction references generalizing entered with
  | nil => simp [collectReferences, eq_comm]
  | cons reference rest ih =>
    have fresh : (!(entered.map referenceKey).contains (referenceKey reference)) = true ↔
        reference ∉ entered := by
      simp [List.mem_map_of_injective referenceKey_injective]
    simp only [collectReferences, strictReference_eq laws, Except.bind_ok, Except.bind_eq_ok_iff,
      requireIntegrity_eq_ok_iff, Bool.or_eq_true, fresh, exists_const, ih]
    rw [List.append_assoc, List.singleton_append, List.nodup_cons]
    simp only [List.mem_append, not_or, List.mem_cons, forall_eq_or_imp, List.not_mem_nil, or_false]
    constructor
    · rintro ⟨notYet, distinct, rfl⟩
      refine ⟨?_, rfl⟩
      rcases distinct with collapsing | ⟨distinct, apart⟩
      · exact .inl collapsing
      · rcases notYet with collapsing | notYet
        · exact .inl collapsing
        · exact .inr ⟨⟨fun repeated => (apart reference repeated).2 rfl, distinct⟩, notYet,
            fun other member => (apart other member).1⟩
    · rintro ⟨distinct, rfl⟩
      refine ⟨distinct.imp_right fun distinct => distinct.2.1, ?_, rfl⟩
      apply distinct.imp_right
      intro kept
      exact ⟨kept.1.2, fun other member =>
        ⟨kept.2.2 other member, fun same => kept.1.1 (same ▸ member)⟩⟩

/-- `_normalize_references` sorts, and refuses repeated references unless it collapses them. -/
theorem normalizeReferences_eq_ok_iff {collapse : Bool} :
    normalizeReferences library collapse references = .ok normalized ↔
      (collapse = true ∨ references.Nodup) ∧ normalized = canonicalReferences references := by
  simp only [normalizeReferences, Except.bind_eq_ok_iff, collectReferences_eq_ok_iff laws,
    Except.pure_eq_ok_iff]
  simp [canonicalReferences, eq_comm]

omit laws in
/-- The canonical spelling of an accepted target is the one it already has. -/
private theorem canonicalTargetIdentity_eq {reference accepted : P0RecordReference}
    {spec : P0RecordSchemaSpec}
    (success : canonicalTargetIdentity library reference spec = .ok accepted) :
    accepted = reference := by
  simp only [canonicalTargetIdentity, Except.bind_eq_ok_iff, Except.pure_eq_ok_iff] at success
  obtain ⟨canonical, respelled, identity, scalars, rfl⟩ := success
  have spelled : (reference.targetLogicalIdentity.map fun entry => (entry.1, entry.2.1)) =
      canonical.map id := by
    refine Keyed.map_eq_map_of_forall₂
      (Except.mapM_eq_ok_iff.mp respelled) fun entry value related => ?_
    simp only [Except.bind_eq_ok_iff, Except.pure_eq_ok_iff, requireIntegrity_eq_ok_iff, beq_iff_eq]
      at related
    obtain ⟨validated, -, canonicalValue, loaded, -, same, rfl⟩ := related
    rw [← same, Json.loads_compact (isNative_of_isNativeScalar entry.2)] at loaded
    rw [Except.ok.inj loaded, id]
  have injective : Function.Injective fun entry : String × JsonScalar => (entry.1, entry.2.1) := by
    rintro ⟨leftName, left⟩ ⟨rightName, right⟩ same
    obtain ⟨rfl, values⟩ := Prod.mk.inj same
    obtain rfl := Subtype.ext values
    rfl
  rw [List.map_id, scalarIdentity_eq_ok scalars] at spelled
  rw [← List.map_injective_iff.mpr injective spelled]

omit laws in
/-- Accepting an external reference returns one of the references, under the rule's relation. -/
private theorem acceptExternalReference_spec {rule : P0ProjectionDecision}
    {accepted : P0RecordReference}
    (success : acceptExternalReference library normalized rule = .ok accepted) :
    accepted ∈ normalized ∧ some accepted.relation = rule.relation ∧
      acceptExternalReference library [accepted] rule = .ok accepted := by
  unfold acceptExternalReference at success
  split at success
  case h_2 => cases success
  case h_1 reference only =>
    have found : reference ∈ normalized.filter fun reference =>
      some reference.relation == rule.relation :=
      only ▸ List.mem_singleton_self reference
    obtain ⟨member, relation⟩ := List.mem_filter.mp found
    have target := success
    simp only [Except.bind_eq_ok_iff] at target
    obtain ⟨-, -, target⟩ := target
    have same : accepted = reference := by
      split at target
      · cases target
      · obtain ⟨-, -, canonical⟩ := Except.bind_eq_ok_iff.mp target
        exact canonicalTargetIdentity_eq canonical
    subst same
    refine ⟨member, by simpa using relation, ?_⟩
    have alone : [accepted].filter (fun reference => some reference.relation == rule.relation) =
        [accepted] :=
      List.filter_cons_of_pos relation
    rw [acceptExternalReference, alone]
    exact success

omit laws in
/-- Only the references under the rule's relation count. -/
private theorem acceptExternalReference_of_filter {rule : P0ProjectionDecision}
    {accepted : P0RecordReference}
    (alone : normalized.filter (fun reference => some reference.relation == rule.relation) =
      [accepted])
    (success : acceptExternalReference library [accepted] rule = .ok accepted) :
    acceptExternalReference library normalized rule = .ok accepted := by
  obtain ⟨-, relation, -⟩ := acceptExternalReference_spec success
  have selected : [accepted].filter (fun reference => some reference.relation == rule.relation) =
      [accepted] :=
    List.filter_cons_of_pos (by simpa using relation)
  rw [acceptExternalReference, selected] at success
  rw [acceptExternalReference, alone]
  exact success

/-- Each external rule has exactly one accepted reference. -/
def AcceptsExternal (library : ModelLibrary) (rules : List P0ProjectionDecision)
    (accepted : List P0RecordReference) : Prop :=
  List.Forall₂ (fun rule reference => acceptExternalReference library [reference] rule =
    .ok reference) rules accepted

theorem validateExternalReferences_spec {spec : P0RecordSchemaSpec}
    {accepted : List P0RecordReference}
    (success : validateExternalReferences library spec references = .ok accepted) :
    AcceptsExternal library (externalRules spec) accepted ∧
    ∀ reference ∈ accepted, reference ∈ references := by
  simp only [validateExternalReferences, Except.bind_eq_ok_iff, normalizeReferences_eq_ok_iff laws]
    at success
  obtain ⟨normalized, ⟨-, rfl⟩, -, -, each⟩ := success
  have aligned := Except.mapM_eq_ok_iff.mp each
  refine ⟨aligned.imp fun rule reference found => (acceptExternalReference_spec found).2.2, ?_⟩
  intro reference member
  obtain ⟨rule, -, found⟩ := Keyed.exists_of_forall₂_right aligned member
  exact mem_canonicalReferences.mp (acceptExternalReference_spec found).1

omit laws in
/-- The accepted references carry the relations of their rules, in order. -/
theorem AcceptsExternal.relations {rules : List P0ProjectionDecision}
    {accepted : List P0RecordReference} (accepts : AcceptsExternal library rules accepted) :
    accepted.map (fun reference => some reference.relation) = rules.map (·.relation) :=
  (Keyed.map_eq_map_of_forall₂ accepts fun _ _ found =>
    (acceptExternalReference_spec found).2.1.symm).symm

/-- Accepted references, given in any order, are accepted again as they are. -/
theorem validateExternalReferences_of_mem {spec : P0RecordSchemaSpec}
    {accepted : List P0RecordReference}
    (accepts : AcceptsExternal library (externalRules spec) accepted)
    (distinct : ((externalRules spec).map (·.relation)).Nodup) (given : references.Nodup)
    (same : ∀ reference, reference ∈ references ↔ reference ∈ accepted) :
    validateExternalReferences library spec references = .ok accepted := by
  have apart : (accepted.map fun reference => some reference.relation).Nodup :=
    accepts.relations ▸ distinct
  have permuted : (canonicalReferences references).Perm accepted :=
    (canonicalReferences_congr same).symm ▸ canonicalReferences_perm apart.of_map
  simp only [validateExternalReferences, Except.bind_eq_ok_iff, normalizeReferences_eq_ok_iff laws,
    requireIntegrity_eq_ok_iff, beq_iff_eq]
  refine ⟨_, ⟨.inr given, rfl⟩, (), ?_, ?_⟩
  · rw [permuted.length_eq, List.Forall₂.length_eq accepts]
  · refine Except.mapM_eq_ok_iff.mpr ?_
    refine Keyed.forall₂_imp_of_mem_right accepts fun rule reference member found => ?_
    obtain ⟨-, relation, -⟩ := acceptExternalReference_spec found
    refine acceptExternalReference_of_filter ?_ found
    have alone : accepted.filter (fun other => some other.relation == some reference.relation) =
        [reference] := by
      rw [← Keyed.filter_key_eq_singleton apart member]
      exact List.filter_congr fun other _ => by simp
    rw [← relation, ← List.perm_singleton, ← alone]
    exact permuted.filter _

end MiniAgent.Application
