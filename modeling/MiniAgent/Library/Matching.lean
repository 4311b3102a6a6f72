import Mathlib.Algebra.Order.BigOperators.Group.Finset
import Mathlib.Combinatorics.Hall.Finite

/-! # Matching by counting

Items have a kind, and so have the places that they are assigned to. Some items are demanding: they
need a place of a special sort. Every item has a place of its own as soon as there are enough places
of each kind and enough special ones for the demanding items, so a comparison of counts decides
whether there is an assignment without building one.
-/

namespace Matching

variable {Item Place Kind : Type} [Fintype Item] [Fintype Place] [DecidableEq Place]
  [DecidableEq Kind]
  (itemKind : Item → Kind) (placeKind : Place → Kind) (demanding : Item → Bool)
  (special : Place → Bool)

/-- Every item gets a place of its own that fits it. -/
def Assignable : Prop :=
  ∃ assign : Item → Place, Function.Injective assign ∧
    ∀ item, placeKind (assign item) = itemKind item ∧
    (demanding item = true → special (assign item) = true)

/-- Of each kind there are enough places, and enough special ones. -/
def Enough : Prop :=
  ∀ kind, (Finset.univ.filter fun item => itemKind item = kind).card ≤
      (Finset.univ.filter fun place => placeKind place = kind).card ∧
    (Finset.univ.filter fun item => itemKind item = kind ∧ demanding item = true).card ≤
      (Finset.univ.filter fun place => placeKind place = kind ∧ special place = true).card

variable {itemKind placeKind demanding special}

omit [DecidableEq Place] in
theorem Assignable.enough (assignable : Assignable itemKind placeKind demanding special) :
    Enough itemKind placeKind demanding special := by
  obtain ⟨assign, injective, fits⟩ := assignable
  intro kind
  constructor
  · apply Finset.card_le_card_of_injOn assign
    · intro item member
      rw [Finset.mem_coe, Finset.mem_filter] at member ⊢
      exact ⟨Finset.mem_univ _, (fits item).1.trans member.2⟩
    · exact injective.injOn
  · apply Finset.card_le_card_of_injOn assign
    · intro item member
      rw [Finset.mem_coe, Finset.mem_filter] at member ⊢
      exact ⟨Finset.mem_univ _, (fits item).1.trans member.2.1, (fits item).2 member.2.2⟩
    · exact injective.injOn

variable (placeKind special) in
/-- The places that fit an item. -/
def fitting (kind : Kind) (demands : Bool) : Finset Place :=
  Finset.univ.filter fun place => placeKind place = kind ∧ (demands = true → special place = true)

/-- Some items of one kind have as many fitting places together. -/
theorem Enough.kind_card_le (enough : Enough itemKind placeKind demanding special)
    (items : Finset Item) (kind : Kind) :
    (items.filter fun item => itemKind item = kind).card ≤
      ((items.biUnion fun item => fitting placeKind special (itemKind item) (demanding item)).filter
        fun place =>
        placeKind place = kind).card := by
  by_cases modest : ∃ item ∈ items, itemKind item = kind ∧ demanding item = false
  · -- an item that demands nothing takes any place of the kind
    obtain ⟨item, member, same, easy⟩ := modest
    calc (items.filter fun item => itemKind item = kind).card
        ≤ (Finset.univ.filter fun item => itemKind item = kind).card :=
          Finset.card_le_card (Finset.filter_subset_filter _ (Finset.subset_univ _))
      _ ≤ (Finset.univ.filter fun place => placeKind place = kind).card := (enough kind).1
      _ ≤ _ := by
          apply Finset.card_le_card
          intro place listed
          have ofKind := (Finset.mem_filter.mp listed).2
          rw [Finset.mem_filter, Finset.mem_biUnion]
          exact ⟨⟨item, member, by simp [fitting, ofKind, same, easy]⟩, ofKind⟩
  · -- otherwise all of them are demanding
    push Not at modest
    have all : ∀ item ∈ items, itemKind item = kind → demanding item = true :=
      fun item member same => by
      simpa using modest item member same
    by_cases some : ∃ item ∈ items, itemKind item = kind
    · obtain ⟨item, member, same⟩ := some
      calc (items.filter fun item => itemKind item = kind).card
          ≤ (Finset.univ.filter fun item => itemKind item = kind ∧ demanding item = true).card := by
            apply Finset.card_le_card
            intro other listed
            obtain ⟨present, ofKind⟩ := Finset.mem_filter.mp listed
            exact Finset.mem_filter.mpr ⟨Finset.mem_univ _, ofKind, all other present ofKind⟩
        _ ≤ (Finset.univ.filter fun place => placeKind place = kind ∧ special place = true).card :=
          (enough kind).2
        _ ≤ _ := by
            apply Finset.card_le_card
            intro place listed
            obtain ⟨ofKind, fine⟩ := (Finset.mem_filter.mp listed).2
            rw [Finset.mem_filter, Finset.mem_biUnion]
            exact ⟨⟨item, member, by simp [fitting, ofKind, same, fine]⟩, ofKind⟩
    · have none : (items.filter fun item => itemKind item = kind) = ∅ := by
        rw [Finset.filter_eq_empty_iff]
        exact fun item member same => some ⟨item, member, same⟩
      rw [none, Finset.card_empty]
      exact Nat.zero_le _

/-- Enough places of each kind satisfy the marriage condition: the kinds do not compete. -/
theorem assignable_iff_enough :
    Assignable itemKind placeKind demanding special ↔
    Enough itemKind placeKind demanding special := by
  refine ⟨Assignable.enough, fun enough => ?_⟩
  have marriage : ∀ items : Finset Item, items.card ≤
      (items.biUnion fun item =>
          fitting placeKind special (itemKind item) (demanding item)).card := by
    intro items
    have placed : ∀ place ∈ items.biUnion fun item =>
      fitting placeKind special (itemKind item) (demanding item),
        placeKind place ∈ items.image itemKind := by
      intro place listed
      obtain ⟨item, member, fits⟩ := Finset.mem_biUnion.mp listed
      rw [(Finset.mem_filter.mp fits).2.1]
      exact Finset.mem_image_of_mem _ member
    rw [Finset.card_eq_sum_card_image itemKind items, Finset.card_eq_sum_card_fiberwise placed]
    exact Finset.sum_le_sum fun kind _ => enough.kind_card_le items kind
  obtain ⟨assign, injective, fits⟩ :=
    (Finset.all_card_le_biUnion_card_iff_existsInjective' fun item =>
      fitting placeKind special (itemKind item) (demanding item)).mp marriage
  exact ⟨assign, injective, fun item => (Finset.mem_filter.mp (fits item)).2⟩

section Lists

variable {α β : Type} (items : List α) (places : List β) (kindOf : α → Kind) (kindAt : β → Kind)
  (demands : α → Bool) (offers : β → Bool)

theorem card_filter_get (holds : α → Prop) [DecidablePred holds] :
    (Finset.univ.filter fun index : Fin items.length => holds (items.get index)).card =
      items.countP fun item => decide (holds item) := by
  have listed : Multiset.map items.get (Finset.univ : Finset (Fin items.length)).val =
      (items : Multiset α) := by
    rw [Fin.univ_val_map, List.ofFn_get]
  rw [← Multiset.coe_countP (p := holds), ← listed, Multiset.countP_map]
  rfl

/-- Counting the elements of two lists decides whether there is an assignment of their positions. -/
theorem assignable_lists_iff :
    Assignable (fun index : Fin items.length => kindOf (items.get index))
        (fun index : Fin places.length => kindAt (places.get index))
        (fun index => demands (items.get index)) (fun index => offers (places.get index)) ↔
      ∀ kind, (items.countP fun item => kindOf item = kind) ≤
      (places.countP fun place => kindAt place = kind) ∧
        (items.countP fun item => kindOf item = kind ∧ demands item = true) ≤
          places.countP fun place => kindAt place = kind ∧ offers place = true := by
  rw [assignable_iff_enough]
  refine forall_congr' fun kind => ?_
  rw [card_filter_get items fun item => kindOf item = kind,
    card_filter_get places fun place => kindAt place = kind, card_filter_get items fun item =>
      kindOf item = kind ∧ demands item = true,
    card_filter_get places fun place => kindAt place = kind ∧ offers place = true]

end Lists

end Matching
