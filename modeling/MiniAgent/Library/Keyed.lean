import Mathlib.Data.List.Basic
import Mathlib.Data.List.Dedup
import Mathlib.Data.List.Forall2
import Mathlib.Data.List.Nodup
import Mathlib.Data.List.Pairwise
import Mathlib.Data.List.Sort

/-! # Dictionaries built from lists of keyed items

A dictionary comprehension over a list keeps the last item of each key. Where the keys are
distinct this is membership, whatever the order of the list.
-/

namespace Keyed

variable {α κ : Type*} [DecidableEq κ]

/-- `{key(item): item for item in items}.get(wanted)` -/
def lastByKey (key : α → κ) (items : List α) (wanted : κ) : Option α :=
  items.reverse.find? fun item => key item == wanted

variable {key : α → κ} {items : List α} {wanted : κ} {item : α}

theorem mem_of_lastByKey (found : lastByKey key items wanted = some item) :
    item ∈ items ∧ key item = wanted :=
  ⟨List.mem_reverse.mp (List.mem_of_find?_eq_some found), by simpa using List.find?_some found⟩

theorem lastByKey_eq_none : lastByKey key items wanted = none ↔ wanted ∉ items.map key := by
  simp [lastByKey, List.find?_eq_none]

/-- With distinct keys the dictionary returns every item under its own key. -/
theorem lastByKey_of_mem (distinct : (items.map key).Nodup) (member : item ∈ items) :
    lastByKey key items (key item) = some item := by
  cases found : lastByKey key items (key item) with
  | none => exact absurd (List.mem_map_of_mem member) (lastByKey_eq_none.mp found)
  | some other =>
    obtain ⟨otherMember, same⟩ := mem_of_lastByKey found
    rw [List.inj_on_of_nodup_map distinct otherMember member same]

/-- The dictionary's values: the last item of each key. -/
def dictValues (key : α → κ) (items : List α) : List α :=
  (items.map key).dedup.filterMap (lastByKey key items)

theorem mem_dictValues : item ∈ dictValues key items ↔
    lastByKey key items (key item) = some item := by
  simp only [dictValues, List.mem_filterMap, List.mem_dedup]
  constructor
  · rintro ⟨wanted, -, found⟩
    obtain ⟨-, rfl⟩ := mem_of_lastByKey found
    exact found
  · exact fun found => ⟨key item, List.mem_map_of_mem (mem_of_lastByKey found).1, found⟩

/-- Every key of the list has a value. -/
theorem exists_lastByKey (key : α → κ) (member : item ∈ items) :
    ∃ value, lastByKey key items (key item) = some value ∧ key value = key item := by
  cases found : lastByKey key items (key item) with
  | none => exact absurd (List.mem_map_of_mem member) (lastByKey_eq_none.mp found)
  | some value => exact ⟨value, rfl, (mem_of_lastByKey found).2⟩

theorem filter_key_eq_singleton (distinct : (items.map key).Nodup) (member : item ∈ items) :
    items.filter (fun other => key other == key item) = [item] := by
  induction items with
  | nil => exact absurd member List.not_mem_nil
  | cons head rest ih =>
    rw [List.map_cons, List.nodup_cons] at distinct
    rcases List.mem_cons.mp member with rfl | later
    · have none : rest.filter (fun other => key other == key item) = [] := by
        refine List.filter_eq_nil_iff.mpr fun other present same => distinct.1 ?_
        exact List.mem_map.mpr ⟨other, present, by simpa using same⟩
      rw [List.filter_cons_of_pos (by simp), none]
    · have different : key head ≠ key item :=
        fun same => distinct.1 (same ▸ List.mem_map_of_mem later)
      rw [List.filter_cons_of_neg (by simpa using different), ih distinct.2 later]

section Sorting

variable {σ : Type*} [LinearOrder σ] {order : α → σ} {left right : List α}

/-- `sorted(items, key=order)` -/
def sortByKey (order : α → σ) (items : List α) : List α :=
  items.insertionSort fun first second => order first ≤ order second

theorem sortByKey_perm (order : α → σ) (items : List α) : (sortByKey order items).Perm items :=
  List.perm_insertionSort _ items

theorem sortByKey_pairwise (order : α → σ) (items : List α) :
    (sortByKey order items).Pairwise fun first second => order first ≤ order second := by
  have total : Std.Total fun first second : α => order first ≤ order second :=
    ⟨fun first second => le_total (order first) (order second)⟩
  have transitive : IsTrans α fun first second => order first ≤ order second :=
    ⟨fun _ _ _ early late => le_trans early late⟩
  exact List.pairwise_insertionSort _ items

/-- Items are sorted by what they carry as that is sorted. -/
theorem map_sortByKey {β : Type*} (carried : α → β) (order : β → σ) (items : List α) :
    (sortByKey (fun item => order (carried item)) items).map carried =
    sortByKey order (items.map carried) :=
  List.map_insertionSort _ _ carried items fun _ _ _ _ => Iff.rfl

/-- Sorting what is sorted changes nothing. -/
theorem sortByKey_of_pairwise
    (sorted : items.Pairwise fun first second => order first ≤ order second) :
    sortByKey order items = items :=
  List.Pairwise.insertionSort_eq sorted

/-- Two arrangements of items with distinct keys are sorted alike. -/
theorem sortByKey_eq_of_perm (same : left.Perm right) (distinct : (left.map order).Nodup) :
    sortByKey order left = sortByKey order right := by
  have permuted : (sortByKey order left).Perm (sortByKey order right) :=
    (sortByKey_perm order left).trans (same.trans (sortByKey_perm order right).symm)
  refine permuted.eq_of_pairwise ?_ (sortByKey_pairwise order left) (sortByKey_pairwise order right)
  intro first second firstMember secondMember forward backward
  have injective := List.inj_on_of_nodup_map distinct
  exact injective ((sortByKey_perm order left).mem_iff.mp firstMember)
    (same.mem_iff.mpr ((sortByKey_perm order right).mem_iff.mp secondMember))
      (le_antisymm forward backward)

end Sorting

section Canonical

variable {left right : List α}

omit [DecidableEq κ] in
theorem map_filterMap_sublist {find : κ → Option α}
    (named : ∀ wanted value, find wanted = some value →
    key value = wanted) (keys : List κ) : ((keys.filterMap find).map key).Sublist keys := by
  induction keys with
  | nil => exact List.Sublist.refl _
  | cons wanted keys ih =>
    cases found : find wanted with
    | none => simpa [List.filterMap_cons, found] using ih.cons wanted
    | some value =>
      rw [List.filterMap_cons, found, List.map_cons, named wanted value found]
      exact ih.cons_cons wanted

theorem nodup_dictValues (key : α → κ) (items : List α) : ((dictValues key items).map key).Nodup :=
  (List.nodup_dedup _).sublist
    (map_filterMap_sublist (fun _ _ found => (mem_of_lastByKey found).2) _)

/-- Where a key determines its item, the dictionary forgets only order and repetition. -/
theorem mem_dictValues_of_injective (injective : Function.Injective key) :
    item ∈ dictValues key items ↔ item ∈ items := by
  rw [mem_dictValues]
  constructor
  · exact fun found => (mem_of_lastByKey found).1
  · intro member
    obtain ⟨value, found, same⟩ := exists_lastByKey key member
    rw [found, injective same]

/-- Lists with the same members make the same dictionary, up to order. -/
theorem dictValues_perm (injective : Function.Injective key)
    (same : ∀ item, item ∈ left ↔ item ∈ right) :
    (dictValues key left).Perm (dictValues key right) := by
  refine (List.perm_ext_iff_of_nodup (nodup_dictValues key left).of_map
    (nodup_dictValues key right).of_map).mpr ?_
  intro item
  rw [mem_dictValues_of_injective injective, mem_dictValues_of_injective injective, same]

/-- With distinct keys a lookup does not depend on the order of the items. -/
theorem lastByKey_eq_of_perm (same : left.Perm right) (distinct : (left.map key).Nodup)
    (wanted : κ) :
    lastByKey key left wanted = lastByKey key right wanted := by
  cases found : lastByKey key right wanted with
  | none =>
    rw [lastByKey_eq_none] at found ⊢
    rwa [(same.map key).mem_iff]
  | some item =>
    obtain ⟨member, rfl⟩ := mem_of_lastByKey found
    exact lastByKey_of_mem distinct (same.mem_iff.mpr member)

end Canonical

variable {β : Type*} {family : α → List β}

/-- One representative of each family is distinct when the families are. -/
theorem nodup_map_of_nodup_flatMap {choice : α → β}
    (member : ∀ item ∈ items, choice item ∈ family item) (distinct : (items.flatMap family).Nodup) :
    (items.map choice).Nodup := by
  induction items with
  | nil => exact .nil
  | cons item rest ih =>
    rw [List.flatMap_cons, List.nodup_append'] at distinct
    refine List.nodup_cons.mpr ⟨fun repeated => ?_,
      ih (fun other present => member other (List.mem_cons_of_mem _ present)) distinct.2.1⟩
    obtain ⟨other, present, same⟩ := List.mem_map.mp repeated
    refine distinct.2.2 (member item (List.mem_cons_self ..))
      (List.mem_flatMap.mpr ⟨other, present, ?_⟩)
    exact same ▸ member other (List.mem_cons_of_mem _ present)

/-- Choosing distinct items keeps their families distinct. -/
theorem nodup_flatMap_of_subset {chosen : List α} (chosenDistinct : chosen.Nodup)
    (subset : chosen ⊆ items) (distinct : (items.flatMap family).Nodup) :
    (chosen.flatMap family).Nodup := by
  obtain ⟨each, apart⟩ := List.nodup_flatMap.mp distinct
  refine List.nodup_flatMap.mpr ⟨fun item member => each item (subset member), ?_⟩
  refine chosenDistinct.imp_of_mem fun {left right} leftMember rightMember different => ?_
  have : Std.Symm (Function.onFun List.Disjoint family) := 
    ⟨fun _ _ disjoint _ left right => disjoint right left⟩
  exact apart.forall (subset leftMember) (subset rightMember) different

/-- Aligned lists have equal images under functions that the alignment identifies. -/
theorem map_eq_map_of_forall₂ {R : α → β → Prop} {γ : Type*} {f : α → γ} {g : β → γ}
    {lefts : List α} {rights : List β} (aligned : List.Forall₂ R lefts rights)
    (same : ∀ left right, R left right → f left = g right) : lefts.map f = rights.map g := by
  induction aligned with
  | nil => rfl
  | cons related _ ih => rw [List.map_cons, List.map_cons, same _ _ related, ih]

/-- A relation between aligned lists may be weakened by what is known of the right items. -/
theorem forall₂_imp_of_mem_right {R S : α → β → Prop} {lefts : List α} {rights : List β}
    (aligned : List.Forall₂ R lefts rights)
    (weaken : ∀ left, ∀ right ∈ rights, R left right → S left right) :
    List.Forall₂ S lefts rights := by
  induction aligned with
  | nil => exact .nil
  | cons related _ ih =>
    exact .cons (weaken _ _ (List.mem_cons_self ..) related)
      (ih fun left right member => weaken left right (List.mem_cons_of_mem _ member))

/-- An item of the right list has its partner in the left one. -/
theorem exists_of_forall₂_right {R : α → β → Prop} {lefts : List α} {rights : List β} {right : β}
    (aligned : List.Forall₂ R lefts rights) (member : right ∈ rights) :
    ∃ left ∈ lefts, R left right := by
  induction aligned with
  | nil => exact absurd member (List.not_mem_nil)
  | cons related _ ih =>
    rcases List.mem_cons.mp member with rfl | later
    · exact ⟨_, List.mem_cons_self .., related⟩
    · obtain ⟨left, present, others⟩ := ih later
      exact ⟨left, List.mem_cons_of_mem _ present, others⟩

/-- An item of the left list has its partner in the right one. -/
theorem exists_of_forall₂_left {R : α → β → Prop} {lefts : List α} {rights : List β} {left : α}
    (aligned : List.Forall₂ R lefts rights) (member : left ∈ lefts) :
    ∃ right ∈ rights, R left right :=
  exists_of_forall₂_right aligned.flip member

/-- Under distinct keys a listed entry is the one that is found. -/
theorem lookup_of_distinct {κ ν : Type*} [BEq κ] [LawfulBEq κ] {entries : List (κ × ν)} {key : κ}
    {value : ν} (distinct : (entries.map Prod.fst).Nodup) (member : (key, value) ∈ entries) :
    entries.lookup key = some value := by
  induction entries with
  | nil => cases member
  | cons entry rest ih =>
    obtain ⟨absent, distinct⟩ := List.nodup_cons.mp distinct
    obtain rfl | later := List.mem_cons.mp member
    · simp
    · have other : (key == entry.1) = false :=
        beq_eq_false_iff_ne.mpr fun same => absent (same ▸ List.mem_map_of_mem later)
      rw [List.lookup_cons, other]
      exact ih distinct later

end Keyed
