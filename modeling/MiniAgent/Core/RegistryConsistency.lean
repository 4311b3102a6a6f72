import MiniAgent.Core.GatewayLaw

/-! # The registry behind a provider-visible name

A snapshot carries the registrations, the ToolSpecs a model sees and the mapping between their
names. The validator compares the three as sets and dictionaries of names. What it leaves open, a
repeated binding and a visible ToolSpec that is not the registration's projection, the gateway
checks when a name is resolved. Snapshots that `build` made leave nothing open, whatever the order
of registration.
-/

namespace MiniAgent.Core

open ContractModel

/-- What a model sees of a registration. -/
def ToolRegistration.projectedSpec (registration : ToolRegistration) : ToolSpec :=
  { registration.toolSpec with name := registration.providerVisibleName }

def ToolRegistration.nameBinding (registration : ToolRegistration) : ProviderToolNameBinding :=
  ⟨registration.providerVisibleName, registration.toolSpec.name⟩

/-- `RegistrySnapshot.build`; `none` is its `ValueError`. -/
def RegistrySnapshot.build (toolRegistryVersion : String) (registrations : List ToolRegistration) :
    Option RegistrySnapshot :=
  if registrations.isEmpty || !allDistinct (registrations.map (·.toolSpec.name)) ||
      !allDistinct (registrations.map (·.providerVisibleName)) then none
  else do
    let sorted := Keyed.sortByKey (·.providerVisibleName.toList) registrations
    let providerVisibleToolset ← sorted.mapM fun registration =>
      construct registration.projectedSpec
    let bindings ← sorted.mapM fun registration => construct registration.nameBinding
    let modelVisibleToolsetHash ← computeModelVisibleToolsetHash providerVisibleToolset
    construct {
      toolRegistryVersion
      canonicalRegistrations := registrations
      providerVisibleToolset
      providerNameToCanonicalName := bindings
      modelVisibleToolsetHash }

/-- A hash is computed of distinctly named tools only, and has the form of a hash. -/
private theorem toolset_of_hash {tools : List ToolSpec} {hash : Text}
    (hashed : computeModelVisibleToolsetHash tools = some hash) :
    (tools.map (·.name)).Nodup ∧ isToolsetHash hash = true := by
  have permuted :=
    List.perm_insertionSort
      (fun left right : ToolSpec => left.name.toList ≤ right.name.toList) tools
  have digits (text : Text) : (sha256Hexdigest text).all Sha256.isHexDigit = true :=
    List.all_eq_true.mpr fun _ => Sha256.isHexDigit_of_mem_hexdigest
  have length (text : Text) : (sha256Hexdigest text).length = 64 := Sha256.hexdigest_length _
  simp only [computeModelVisibleToolsetHash, Option.ite_none_left_eq_some, Bool.not_eq_true',
    Bool.not_eq_false, allDistinct_iff, Option.ite_none_right_eq_some, Option.some.injEq] at hashed
  obtain ⟨-, distinct, -, rfl⟩ := hashed
  refine ⟨((permuted.map (·.name)).nodup_iff).mp distinct, ?_⟩
  simp [isToolsetHash, digits, length]

namespace RegistrySnapshot

variable {snapshot : RegistrySnapshot} {registration : ToolRegistration}
  {registrations permuted : List ToolRegistration}
  {toolRegistryVersion : String}

/-- The registration is the only one of its provider-visible name, the ToolSpec the only visible
one, and the last binding of the name is to the registration. -/
structure NamesOnce (snapshot : RegistrySnapshot) (registration : ToolRegistration)
    (visible : ToolSpec) : Prop where
  registered : snapshot.canonicalRegistrations.filter
    (·.providerVisibleName == registration.providerVisibleName) =
    [registration]
  visibleOnce : snapshot.providerVisibleToolset.filter
    (·.name == registration.providerVisibleName) = [visible]
  bound : snapshot.actualBinding registration.providerVisibleName = some registration.toolSpec.name

/-- The bindings of the registration's provider-visible name. -/
def bindingsOf (snapshot : RegistrySnapshot) (registration : ToolRegistration) :
    List ProviderToolNameBinding :=
  snapshot.providerNameToCanonicalName.filter
    (·.providerVisibleName == registration.providerVisibleName)

structure SelfConsistent (snapshot : RegistrySnapshot) : Prop where
  hashed : computeModelVisibleToolsetHash snapshot.providerVisibleToolset =
    some snapshot.modelVisibleToolsetHash
  canonicalNames : (snapshot.canonicalRegistrations.map (·.toolSpec.name)).Nodup
  providerNames : (snapshot.canonicalRegistrations.map (·.providerVisibleName)).Nodup
  mapped : ∀ name, snapshot.actualBinding name = snapshot.expectedBinding name
  visibleNames : ∀ name, name ∈ snapshot.providerVisibleToolset.map (·.name) ↔
    name ∈ snapshot.canonicalRegistrations.map (·.providerVisibleName)

private theorem snapshotIsSelfConsistent_iff : snapshot.snapshotIsSelfConsistent = true ↔
    snapshot.SelfConsistent := by
  simp only [snapshotIsSelfConsistent, Bool.and_eq_true, beq_iff_eq, allDistinct_iff,
    List.all_eq_true, sameSet_iff]
  constructor
  · rintro ⟨⟨⟨⟨hashed, canonicalNames⟩, providerNames⟩, listed⟩, visibleNames⟩
    refine ⟨hashed, canonicalNames, providerNames, fun name => ?_, visibleNames⟩
    by_cases known : name ∈ snapshot.canonicalRegistrations.map (·.providerVisibleName) ++
        snapshot.providerNameToCanonicalName.map (·.providerVisibleName)
    · exact listed name known
    · rw [List.mem_append, not_or] at known
      rw [actualBinding, expectedBinding, Keyed.lastByKey_eq_none.mpr known.1,
        Keyed.lastByKey_eq_none.mpr known.2]
      rfl
  · rintro ⟨hashed, canonicalNames, providerNames, mapped, visibleNames⟩
    exact ⟨⟨⟨⟨hashed, canonicalNames⟩, providerNames⟩, fun name _ => mapped name⟩, visibleNames⟩

/-- The validator reads the registrations as a set. -/
theorem SelfConsistent.perm (consistent : snapshot.SelfConsistent)
    (same : snapshot.canonicalRegistrations.Perm permuted) :
    SelfConsistent { snapshot with canonicalRegistrations := permuted } where
  hashed := consistent.hashed
  canonicalNames := ((same.map _).nodup_iff).mp consistent.canonicalNames
  providerNames := ((same.map _).nodup_iff).mp consistent.providerNames
  mapped name := by
    refine (consistent.mapped name).trans ?_
    rw [expectedBinding, expectedBinding, Keyed.lastByKey_eq_of_perm same consistent.providerNames]
  visibleNames name := (consistent.visibleNames name).trans (same.map _).mem_iff

private theorem SelfConsistent.namesOnce (consistent : snapshot.SelfConsistent)
    (member : registration ∈ snapshot.canonicalRegistrations) :
    ∃ visible, snapshot.NamesOnce registration visible := by
  have listed : registration.providerVisibleName ∈ snapshot.providerVisibleToolset.map (·.name) :=
    (consistent.visibleNames _).mpr (List.mem_map_of_mem member)
  obtain ⟨visible, present, same⟩ := List.mem_map.mp listed
  refine ⟨visible, ?_, ?_, ?_⟩
  · exact Keyed.filter_key_eq_singleton consistent.providerNames member
  · rw [← same]
    exact Keyed.filter_key_eq_singleton (toolset_of_hash consistent.hashed).1 present
  · rw [consistent.mapped, expectedBinding, Keyed.lastByKey_of_mem consistent.providerNames member]
    rfl

theorem validates_iff : validates snapshot = true ↔ snapshot.toolRegistryVersion ≠ "" ∧
    (∀ registration ∈ snapshot.canonicalRegistrations, validates registration = true) ∧
    (∀ visible ∈ snapshot.providerVisibleToolset, validates visible = true) ∧
    (∀ binding ∈ snapshot.providerNameToCanonicalName, validates binding = true) ∧
    isToolsetHash snapshot.modelVisibleToolsetHash = true ∧ snapshot.SelfConsistent := by
  have checks : validates snapshot = (snapshot.toolRegistryVersion != "" &&
    snapshot.canonicalRegistrations.all validates &&
      snapshot.providerVisibleToolset.all validates &&
    snapshot.providerNameToCanonicalName.all validates &&
      isToolsetHash snapshot.modelVisibleToolsetHash &&
    snapshot.snapshotIsSelfConsistent) := rfl
  simp only [checks, Bool.and_eq_true, List.all_eq_true, bne_iff_ne, snapshotIsSelfConsistent_iff,
    and_assoc]

/-- The names that are bound and the names that are registered are the same. -/
private theorem SelfConsistent.bound_iff (consistent : snapshot.SelfConsistent) (name : String) :
    name ∈ snapshot.providerNameToCanonicalName.map (·.providerVisibleName) ↔
      name ∈ snapshot.canonicalRegistrations.map (·.providerVisibleName) := by
  have mapped := consistent.mapped name
  rw [← not_iff_not, ← Keyed.lastByKey_eq_none, ← Keyed.lastByKey_eq_none]
  rw [actualBinding, expectedBinding] at mapped
  rw [← Option.map_eq_none_iff, mapped, Option.map_eq_none_iff]

/-- A name with one binding is resolved to its own registration, a name with another number of them
to nothing. -/
theorem NamesOnce.resolves {visible : ToolSpec} (once : snapshot.NamesOnce registration visible)
    (consistent : snapshot.SelfConsistent)
    (member : registration ∈ snapshot.canonicalRegistrations) :
    resolveRegistration snapshot registration.providerVisibleName =
      if (snapshot.bindingsOf registration).length = 1 then
      (some registration.toolSpec.name, some registration)
      else (none, none) := by
  have canonical : snapshot.canonicalRegistrations.filter
      (·.toolSpec.name == registration.toolSpec.name) =
      [registration] := Keyed.filter_key_eq_singleton consistent.canonicalNames member
  have bound := once.bound
  unfold resolveRegistration
  rw [bindingsOf]
  split
  · next binding only =>
    have listed : binding ∈ snapshot.providerNameToCanonicalName.filter
        (·.providerVisibleName == registration.providerVisibleName) :=
          only ▸ List.mem_singleton_self binding
    have last : Keyed.lastByKey (·.providerVisibleName) snapshot.providerNameToCanonicalName
        registration.providerVisibleName = some binding := by
      rw [Keyed.lastByKey, ← List.head?_filter, List.filter_reverse, only]
      rfl
    rw [actualBinding, last, Option.map_some, Option.some.injEq] at bound
    rw [only, bound, canonical]
    rfl
  · next several =>
    have number : (snapshot.providerNameToCanonicalName.filter
        (·.providerVisibleName == registration.providerVisibleName)).length ≠ 1 := by
      intro one
      obtain ⟨binding, only⟩ := List.length_eq_one_iff.mp one
      exact several binding only
    rw [if_neg number]

private theorem NamesOnce.visible_resolves {visible : ToolSpec}
    (once : snapshot.NamesOnce registration visible) :
    resolveProviderVisibleSpec snapshot registration.providerVisibleName = some visible := by
  rw [resolveProviderVisibleSpec, once.visibleOnce]

section Build

private theorem map_of_mapM_construct {α Model : Type} [ContractModel Model] (f : α → Model)
    (items : List α) (values : List Model)
    (constructed : items.mapM (fun item => construct (f item)) = some values) :
    values = items.map f := by
  induction items generalizing values with
  | nil =>
    obtain rfl := Option.some.inj constructed
    rfl
  | cons item rest ih =>
    simp only [List.mapM_cons, Option.bind_eq_bind, Option.bind_eq_some_iff, construct_eq_some,
      Option.pure_def, Option.some.injEq] at constructed
    obtain ⟨_, ⟨-, rfl⟩, others, made, rfl⟩ := constructed
    rw [ih others made, List.map_cons]

private theorem mapM_construct_of_validates {α Model : Type} [ContractModel Model] (f : α → Model)
    (items : List α) (valid : ∀ item ∈ items, validates (f item) = true) :
    items.mapM (fun item => construct (f item)) = some (items.map f) := by
  induction items with
  | nil => rfl
  | cons item rest ih =>
    obtain ⟨first, others⟩ := List.forall_mem_cons.mp valid
    rw [List.mapM_cons, construct_of_validates first, ih others]
    rfl

/-- The registrations in the order of the names that a model sees. -/
def sortedRegistrations (registrations : List ToolRegistration) : List ToolRegistration :=
  Keyed.sortByKey (·.providerVisibleName.toList) registrations

/-- A snapshot that was built is the projection of its registrations, and is valid. -/
private theorem build_eq_some_iff : build toolRegistryVersion registrations = some snapshot ↔
    registrations ≠ [] ∧ (registrations.map (·.toolSpec.name)).Nodup ∧
      (registrations.map (·.providerVisibleName)).Nodup ∧ validates snapshot = true ∧
      snapshot = {
        toolRegistryVersion
        canonicalRegistrations := registrations
        providerVisibleToolset := (sortedRegistrations registrations).map (·.projectedSpec)
        providerNameToCanonicalName := (sortedRegistrations registrations).map (·.nameBinding)
        modelVisibleToolsetHash := snapshot.modelVisibleToolsetHash } := by
  simp only [build, Option.ite_none_left_eq_some, Bool.or_eq_true, not_or, List.isEmpty_iff,
    Bool.not_eq_true', Bool.not_eq_false, allDistinct_iff, Option.bind_eq_bind,
    Option.bind_eq_some_iff, construct_eq_some]
  constructor
  · rintro ⟨⟨⟨some_, canonical⟩, provider⟩, tools, toolsMade, bindings, bindingsMade, hash, hashed,
      valid, rfl⟩
    obtain rfl := map_of_mapM_construct _ _ _ toolsMade
    obtain rfl := map_of_mapM_construct _ _ _ bindingsMade
    exact ⟨some_, canonical, provider, valid, rfl⟩
  · rintro ⟨some_, canonical, provider, valid, same⟩
    obtain ⟨-, -, tools, bindings, -, consistent⟩ := validates_iff.mp valid
    have hashed := consistent.hashed
    rw [same] at tools bindings hashed
    refine ⟨⟨⟨some_, canonical⟩, provider⟩, _,
      mapM_construct_of_validates _ _ (List.forall_mem_map.mp tools), _,
      mapM_construct_of_validates _ _ (List.forall_mem_map.mp bindings), _, hashed, ?_, same⟩
    rw [same] at valid
    exact valid

private theorem mem_sortedRegistrations : registration ∈ sortedRegistrations registrations ↔
    registration ∈ registrations :=
  (Keyed.sortByKey_perm _ _).mem_iff

/-- Another order of the registrations gives a snapshot that differs in this order only. -/
private theorem build_perm (same : registrations.Perm permuted)
    (built : build toolRegistryVersion registrations = some snapshot) :
    build toolRegistryVersion permuted =
    some { snapshot with canonicalRegistrations := permuted } := by
  obtain ⟨some_, canonical, provider, valid, made⟩ := build_eq_some_iff.mp built
  have registered : snapshot.canonicalRegistrations = registrations := by rw [made]
  have keys : (registrations.map (·.providerVisibleName.toList)).Nodup := by
    have mapped := provider.map (f := String.toList) fun _ _ => String.toList_inj.mp
    rwa [List.map_map] at mapped
  have sorted : sortedRegistrations permuted = sortedRegistrations registrations :=
    (Keyed.sortByKey_eq_of_perm same keys).symm
  obtain ⟨version, registrationsValid, visible, bindings, hash, consistent⟩ :=
    validates_iff.mp valid
  rw [registered] at registrationsValid
  refine build_eq_some_iff.mpr ⟨?_, ?_, ?_, ?_, ?_⟩
  · rintro rfl
    exact some_ (List.perm_nil.mp same)
  · exact ((same.map _).nodup_iff).mp canonical
  · exact ((same.map _).nodup_iff).mp provider
  · refine validates_iff.mpr ⟨version, ?_, visible, bindings, hash,
      consistent.perm (registered ▸ same)⟩
    exact fun registration member => registrationsValid registration (same.mem_iff.mpr member)
  · rw [sorted, made]

/-- What `build` leaves open is nothing: one binding a name, and a visible ToolSpec that is the
projection. -/
private theorem closed_of_build (built : build toolRegistryVersion registrations = some snapshot)
    (member : registration ∈ registrations) :
    snapshot.bindingsOf registration = [registration.nameBinding] ∧
      snapshot.NamesOnce registration registration.projectedSpec := by
  obtain ⟨-, -, provider, valid, made⟩ := build_eq_some_iff.mp built
  obtain ⟨-, -, -, -, -, consistent⟩ := validates_iff.mp valid
  have registered : snapshot.canonicalRegistrations = registrations := by rw [made]
  have distinct : ((sortedRegistrations registrations).map (·.providerVisibleName)).Nodup :=
    (((Keyed.sortByKey_perm _ _).map _).nodup_iff).mpr provider
  have sorted := mem_sortedRegistrations.mpr member
  constructor
  · have once :
        (((sortedRegistrations registrations).map (·.nameBinding)).map
            (·.providerVisibleName)).Nodup := by
      rwa [List.map_map]
    rw [bindingsOf, made]
    exact Keyed.filter_key_eq_singleton once (List.mem_map_of_mem sorted)
  · obtain ⟨visible, names⟩ := consistent.namesOnce (registered ▸ member)
    have once :
        (((sortedRegistrations registrations).map (·.projectedSpec)).map (·.name)).Nodup := by
      rwa [List.map_map]
    have projected : snapshot.providerVisibleToolset.filter
        (·.name == registration.providerVisibleName) =
        [registration.projectedSpec] := by
      rw [made]
      exact Keyed.filter_key_eq_singleton once (List.mem_map_of_mem sorted)
    exact { names with visibleOnce := projected }

/-- The artifact of a valid snapshot is valid. -/
private theorem validates_artifact (valid : validates snapshot = true) :
    validates snapshot.artifact = true := by
  obtain ⟨-, -, visible, -, hash, consistent⟩ := validates_iff.mp valid
  have checks : validates snapshot.artifact = (modelVisibleToolsetArtifactSchemaVersion ==
    modelVisibleToolsetArtifactSchemaVersion && isToolsetHash snapshot.modelVisibleToolsetHash &&
    snapshot.providerVisibleToolset.all validates &&
      computeModelVisibleToolsetHash snapshot.providerVisibleToolset ==
      some snapshot.modelVisibleToolsetHash) := rfl
  rw [checks, hash, consistent.hashed, List.all_eq_true.mpr visible, beq_self_eq_true,
    beq_self_eq_true]
  rfl

end Build

end RegistrySnapshot

private theorem ToolSpec.sameAs_self (spec : ToolSpec) : spec.sameAs spec = true := by
  simp [ToolSpec.sameAs, frozenEq_self]

/-- In a snapshot that passes its validator the three lists have the same names, and a name has one
registration and one visible ToolSpec. The gateway finds the registration of a name with one
binding, and matches it if the visible ToolSpec is its projection; in a snapshot that was built both
hold, in whatever order the tools were registered. -/
theorem registry_self_consistency (snapshot : RegistrySnapshot)
    (passes : snapshot.snapshotIsSelfConsistent = true) :
    (∀ name, (name ∈ snapshot.providerVisibleToolset.map (·.name) ↔
        name ∈ snapshot.canonicalRegistrations.map (·.providerVisibleName)) ∧
      (name ∈ snapshot.providerNameToCanonicalName.map (·.providerVisibleName) ↔
        name ∈ snapshot.canonicalRegistrations.map (·.providerVisibleName))) ∧
    (∀ registration ∈ snapshot.canonicalRegistrations, ∃ visible,
      snapshot.NamesOnce registration visible ∧
      resolveProviderVisibleSpec snapshot registration.providerVisibleName = some visible ∧
      resolveRegistration snapshot registration.providerVisibleName =
        (if (snapshot.bindingsOf registration).length = 1 then
          (some registration.toolSpec.name, some registration)
          else (none, none)) ∧
      (registrationMatchesVisibleSpec
        (resolveRegistration snapshot registration.providerVisibleName).2
          (resolveProviderVisibleSpec snapshot registration.providerVisibleName) = true ↔
        (snapshot.bindingsOf registration).length = 1 ∧
        visible.sameAs registration.projectedSpec = true)) ∧
    ∀ toolRegistryVersion registrations permuted built, registrations.Perm permuted →
      RegistrySnapshot.build toolRegistryVersion registrations = some built →
        RegistrySnapshot.build toolRegistryVersion permuted =
          some { built with canonicalRegistrations := permuted } ∧
        validates built.artifact = true ∧
        ∀ registration ∈ registrations, built.bindingsOf registration = [registration.nameBinding] ∧
          built.NamesOnce registration registration.projectedSpec ∧
          resolveRegistration built registration.providerVisibleName =
            (some registration.toolSpec.name, some registration) ∧
          registrationMatchesVisibleSpec (some registration)
            (resolveProviderVisibleSpec built registration.providerVisibleName) = true := by
  have consistent := RegistrySnapshot.snapshotIsSelfConsistent_iff.mp passes
  refine ⟨fun name => ⟨consistent.visibleNames name, consistent.bound_iff name⟩, ?_, ?_⟩
  · intro registration member
    obtain ⟨visible, once⟩ := consistent.namesOnce member
    refine ⟨visible, once, once.visible_resolves, once.resolves consistent member, ?_⟩
    rw [once.resolves consistent member, once.visible_resolves]
    by_cases one : (snapshot.bindingsOf registration).length = 1
    · rw [if_pos one]
      exact (and_iff_right one).symm
    · rw [if_neg one]
      exact iff_of_false Bool.false_ne_true fun both => one both.1
  · intro toolRegistryVersion registrations permuted built same made
    obtain ⟨-, -, -, valid, whole⟩ := RegistrySnapshot.build_eq_some_iff.mp made
    obtain ⟨-, -, -, -, -, closed⟩ := RegistrySnapshot.validates_iff.mp valid
    have registered : built.canonicalRegistrations = registrations := by rw [whole]
    refine ⟨RegistrySnapshot.build_perm same made, RegistrySnapshot.validates_artifact valid, ?_⟩
    intro registration member
    obtain ⟨bound, once⟩ := RegistrySnapshot.closed_of_build made member
    refine ⟨bound, once, ?_, ?_⟩
    · rw [once.resolves closed (registered ▸ member), bound]
      rfl
    · rw [once.visible_resolves]
      exact ToolSpec.sameAs_self _

theorem registry_self_consistency_example :
    RegistrySnapshot.build exampleSnapshot.toolRegistryVersion
    exampleSnapshot.canonicalRegistrations =
      some exampleSnapshot ∧ validates exampleSnapshot.artifact = true ∧
    ∃ registration, resolveRegistration exampleSnapshot "get_order" =
    (some "get_order", some registration) ∧ registrationMatchesVisibleSpec (some registration)
        (resolveProviderVisibleSpec exampleSnapshot "get_order") = true := by
  obtain ⟨-, -, -, -, -, consistent⟩ := RegistrySnapshot.validates_iff.mp exampleSnapshot_valid
  have built : RegistrySnapshot.build exampleSnapshot.toolRegistryVersion
      exampleSnapshot.canonicalRegistrations =
      some exampleSnapshot :=
    RegistrySnapshot.build_eq_some_iff.mpr
      ⟨by decide, by decide, by decide, exampleSnapshot_valid, by decide⟩
  obtain ⟨-, -, builds⟩ := registry_self_consistency exampleSnapshot
    (RegistrySnapshot.snapshotIsSelfConsistent_iff.mpr consistent)
  obtain ⟨-, valid, each⟩ := builds _ _ _ _ (List.Perm.refl _) built
  obtain ⟨-, -, resolved, matched⟩ := each _ List.mem_cons_self
  exact ⟨built, valid, _, resolved, matched⟩

/-- The example with another ToolSpec shown to the model, and its hash. -/
def snapshotShowing (visible : ToolSpec) : RegistrySnapshot :=
  { exampleSnapshot with
    providerVisibleToolset := [visible]
    modelVisibleToolsetHash := (computeModelVisibleToolsetHash [visible]).getD [] }

/-- The validator passes whatever is shown under the name of the tool. -/
private theorem snapshotShowing_passes {visible : ToolSpec}
    (hashes : (computeModelVisibleToolsetHash [visible]).isSome = true)
    (named : visible.name = "get_order") :
    (snapshotShowing visible).snapshotIsSelfConsistent = true := by
  obtain ⟨-, -, -, -, -, consistent⟩ := RegistrySnapshot.validates_iff.mp exampleSnapshot_valid
  obtain ⟨hash, found⟩ := Option.isSome_iff_exists.mp hashes
  refine RegistrySnapshot.snapshotIsSelfConsistent_iff.mpr {
    hashed := by rw [snapshotShowing, found]; rfl
    canonicalNames := consistent.canonicalNames
    providerNames := consistent.providerNames
    mapped := consistent.mapped
    visibleNames := fun name => ?_ }
  rw [snapshotShowing, List.map_singleton, named]
  exact consistent.visibleNames name

/-- A ToolSpec of another description. -/
def driftedToolSpec : ToolSpec := { getOrderToolSpec with description := "Return any order." }

/-- A ToolSpec that lists the names of the properties only. -/
def listedToolSpec : ToolSpec := { getOrderToolSpec with inputSchema :=
  [("type", .string "object".toList), ("additionalProperties", .bool false),
    ("properties", .array [.string "order_id".toList]),
    ("required", .array [.string "order_id".toList])] }

/-- The example with its binding repeated. -/
def repeatedBindingSnapshot : RegistrySnapshot :=
  { exampleSnapshot with providerNameToCanonicalName :=
    [⟨"get_order", "get_order"⟩, ⟨"get_order", "get_order"⟩] }

private theorem repeatedBindingSnapshot_passes :
    repeatedBindingSnapshot.snapshotIsSelfConsistent = true := by
  obtain ⟨-, -, -, -, -, consistent⟩ := RegistrySnapshot.validates_iff.mp exampleSnapshot_valid
  refine RegistrySnapshot.snapshotIsSelfConsistent_iff.mpr {
    hashed := consistent.hashed
    canonicalNames := consistent.canonicalNames
    providerNames := consistent.providerNames
    mapped := fun name => Eq.trans ?_ (consistent.mapped name)
    visibleNames := consistent.visibleNames }
  have once : exampleSnapshot.providerNameToCanonicalName = [⟨"get_order", "get_order"⟩] := rfl
  by_cases same : "get_order" = name <;>
    simp [RegistrySnapshot.actualBinding, repeatedBindingSnapshot, once, Keyed.lastByKey, same]

/-- All three pass the validator. The gateway does not match the first ToolSpec; it matches the
second, which is not the projection either but compares equal to it; and it does not resolve a name
that is bound twice. -/
theorem registry_not_self_consistent :
    ((snapshotShowing driftedToolSpec).snapshotIsSelfConsistent = true ∧
      registrationMatchesVisibleSpec
      (resolveRegistration (snapshotShowing driftedToolSpec) "get_order").2
        (resolveProviderVisibleSpec (snapshotShowing driftedToolSpec) "get_order") = false) ∧
    ((snapshotShowing listedToolSpec).snapshotIsSelfConsistent = true ∧
      (∀ registration ∈ exampleSnapshot.canonicalRegistrations,
        listedToolSpec ≠ registration.projectedSpec) ∧
      registrationMatchesVisibleSpec
      (resolveRegistration (snapshotShowing listedToolSpec) "get_order").2
        (resolveProviderVisibleSpec (snapshotShowing listedToolSpec) "get_order") = true) ∧
    (repeatedBindingSnapshot.snapshotIsSelfConsistent = true ∧
      (repeatedBindingSnapshot.providerNameToCanonicalName.filter
        (·.providerVisibleName == "get_order")).length = 2 ∧
      resolveRegistration repeatedBindingSnapshot "get_order" = (none, none)) :=
  ⟨⟨snapshotShowing_passes (by decide) rfl, by decide⟩,
    ⟨snapshotShowing_passes (by decide) rfl, by decide, by decide⟩,
    repeatedBindingSnapshot_passes, by decide⟩

end MiniAgent.Core
