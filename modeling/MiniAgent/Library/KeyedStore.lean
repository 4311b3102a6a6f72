import Mathlib.Data.Nat.Notation
import Mathlib.Logic.Function.Basic
import Mathlib.Order.Basic

/-! # Stores under conditional writes

A store holds at most one value under each key. Three writes are made to it: one enters a value
under a key that is free, one enters it unless the key is taken, and one replaces the value that it
expects to find. Nothing is ever removed, so that each key has a history: the value it was entered
with, and then one replacement after the other. When each replacement raises the rank of the value,
a value that has been replaced does not come back.
-/

namespace KeyedStore

variable {κ ν : Type*}

/-- A store, as what it holds under each key. -/
abbrev Store (κ ν : Type*) := κ → Option ν

/-- A write to one key. -/
inductive Write (κ ν : Type*)
  /-- Enter a value under a key that is free. -/
  | insert (key : κ) (value : ν)
  /-- Enter a value, unless the key is taken. -/
  | ensure (key : κ) (value : ν)
  /-- Replace the value that is expected. -/
  | swap (key : κ) (expected next : ν)

namespace Write

def key : Write κ ν → κ
  | insert key _ | ensure key _ | swap key _ _ => key

/-- The value that a write wants to leave. -/
def value : Write κ ν → ν
  | insert _ value | ensure _ value | swap _ _ value => value

/-- What a write asks of the value that it finds. -/
def Meets (found : Option ν) : Write κ ν → Prop
  | insert _ _ => found = none
  | ensure _ _ => True
  | swap _ expected _ => found = some expected

/-- What a write leaves where it found something. -/
def leaves (found : Option ν) : Write κ ν → ν
  | insert _ value | swap _ _ value => value
  | ensure _ value => found.getD value

/-- The value that a write enters, which was not there before. -/
def entered : Write κ ν → Option ν
  | insert _ value | ensure _ value => some value
  | swap _ _ _ => none

/-- A write enters a value or replaces one. -/
theorem enters_or_swaps (write : Write κ ν) :
    write.entered = some write.value ∨ ∃ expected,
    write = .swap write.key expected write.value := by
  cases write with
  | insert => exact .inl rfl
  | ensure => exact .inl rfl
  | swap key expected next => exact .inr ⟨expected, rfl⟩

variable [DecidableEq κ]

def apply (store : Store κ ν) (write : Write κ ν) : Store κ ν :=
  Function.update store write.key (some (write.leaves (store write.key)))

end Write

variable [DecidableEq κ]

/-- Writes that are made one after the other, each of which finds what it asks for. -/
inductive Commits : Store κ ν → List (Write κ ν) → Store κ ν → Prop
  | nil {store : Store κ ν} : Commits store [] store
  | cons {store final : Store κ ν} {write : Write κ ν} {writes : List (Write κ ν)} :
      write.Meets (store write.key) → Commits (write.apply store) writes final →
        Commits store (write :: writes) final

variable {store middle final : Store κ ν} {write : Write κ ν} {writes others : List (Write κ ν)}
  {key : κ} {value : ν}

theorem Write.apply_of_ne (other : write.key ≠ key) : write.apply store key = store key :=
  Function.update_of_ne (Ne.symm other) ..

theorem Write.apply_self : write.apply store write.key = some (write.leaves (store write.key)) :=
  Function.update_self ..

namespace Commits

theorem nil_iff : Commits store [] final ↔ final = store :=
  ⟨fun commits => by cases commits; rfl, fun same => same ▸ .nil⟩

theorem cons_iff : Commits store (write :: writes) final ↔
    write.Meets (store write.key) ∧ Commits (write.apply store) writes final :=
  ⟨fun commits => by cases commits with | cons meets rest => exact ⟨meets, rest⟩,
    fun both => .cons both.1 both.2⟩

theorem append (first : Commits store writes middle) (second : Commits middle others final) :
    Commits store (writes ++ others) final := by
  induction first with
  | nil => exact second
  | cons meets _ ih => exact .cons meets (ih second)

theorem single (meets : write.Meets (store write.key)) :
    Commits store [write] (write.apply store) :=
  .cons meets .nil

/-- A key that no write is about keeps its value. -/
theorem frame (commits : Commits store writes final)
    (untouched : ∀ write ∈ writes, write.key ≠ key) :
    final key = store key := by
  induction commits with
  | nil => rfl
  | cons meets _ ih =>
    obtain ⟨other, untouched⟩ := List.forall_mem_cons.mp untouched
    rw [ih untouched, Write.apply_of_ne other]

/-- A write that is the only one to its key finds the value from before, and what it leaves is there
afterwards. -/
theorem of_only (commits : Commits store writes final) (member : write ∈ writes)
    (only : ∀ other ∈ writes, other.key = write.key → other = write) :
    write.Meets (store write.key) ∧ final write.key = some (write.leaves (store write.key)) := by
  induction commits with
  | nil => cases member
  | @cons store final first writes meets rest ih =>
    obtain ⟨firstOnly, only⟩ := List.forall_mem_cons.mp only
    by_cases same : first.key = write.key
    · obtain rfl := firstOnly same
      refine ⟨meets, ?_⟩
      by_cases again : first ∈ writes
      · obtain ⟨-, left⟩ := ih again only
        rw [left, Write.apply_self]
        cases first <;> rfl
      · exact (rest.frame fun other listed clash => again (only other listed clash ▸ listed)).trans
          Write.apply_self
    · have later : write ∈ writes := (List.mem_cons.mp member).resolve_left fun here =>
        same (congrArg Write.key here).symm
      obtain ⟨found, left⟩ := ih later only
      rw [Write.apply_of_ne same] at found left
      exact ⟨found, left⟩

/-- A value that is found was there before, or one of the writes has left it. -/
theorem origin (commits : Commits store writes final) (found : final key = some value) :
    store key = some value ∨ ∃ write ∈ writes, write.key = key ∧ write.value = value := by
  induction commits with
  | nil => exact .inl found
  | @cons store final write writes meets _ ih =>
    rcases ih found with before | ⟨other, listed, facts⟩
    · by_cases same : write.key = key
      · subst same
        rw [Write.apply_self, Option.some.injEq] at before
        have left : write.value = value ∨ store write.key = some value := by
          cases write with
          | insert => exact .inl before
          | swap => exact .inl before
          | ensure key wanted =>
            cases taken : store key with
            | none =>
              rw [Write.leaves, Write.key, taken] at before
              exact .inl before
            | some old =>
              rw [Write.leaves, Write.key, taken] at before
              exact .inr (taken.trans (congrArg some before))
        rcases left with wanted | old
        · exact .inr ⟨write, List.mem_cons_self, rfl, wanted⟩
        · exact .inl old
      · rw [Write.apply_of_ne same] at before
        exact .inl before
    · exact .inr ⟨other, List.mem_cons_of_mem _ listed, facts⟩

/-- What holds of all that is entered, and of the next value wherever it holds of the expected one,
holds of all values. -/
theorem forall_of_each (holds : κ → ν → Prop) (commits : Commits store writes final)
    (before : ∀ key value, store key = some value → holds key value)
    (enters : ∀ write ∈ writes, ∀ value, write.entered = some value → holds write.key value)
    (swaps : ∀ key expected next, .swap key expected next ∈ writes → holds key expected →
      holds key next) :
    ∀ key value, final key = some value → holds key value := by
  induction commits with
  | nil => exact before
  | @cons store final write writes meets _ ih =>
    refine ih (fun key value found => ?_)
      (fun other listed => enters other (List.mem_cons_of_mem _ listed))
      (fun key expected next listed => swaps key expected next (List.mem_cons_of_mem _ listed))
    by_cases same : write.key = key
    · subst same
      rw [Write.apply_self, Option.some.injEq] at found
      subst found
      cases write with
      | insert key value => exact enters _ List.mem_cons_self _ rfl
      | swap key expected next =>
        exact swaps key expected next List.mem_cons_self (before key expected meets)
      | ensure key value =>
        have left : (Write.ensure key value).leaves (store key) = (store key).getD value := rfl
        rw [Write.key, left]
        cases taken : store key with
        | none => exact enters _ List.mem_cons_self _ rfl
        | some old => exact before key old taken
    · exact before key value ((Write.apply_of_ne same).symm.trans found)

end Commits

/-- The replacement that a write makes under a key. -/
def Write.swapAt (key : κ) : Write κ ν → Option (ν × ν)
  | .swap other expected next => if other = key then some (expected, next) else none
  | _ => none

/-- The replacements under one key, in their order. -/
def swapsAt (key : κ) (writes : List (Write κ ν)) : List (ν × ν) :=
  writes.filterMap (Write.swapAt key)

theorem mem_swapsAt {swap : ν × ν} : swap ∈ swapsAt key writes ↔
    Write.swap key swap.1 swap.2 ∈ writes := by
  simp only [swapsAt, List.mem_filterMap]
  constructor
  · rintro ⟨write, listed, chosen⟩
    cases write with
    | insert => cases chosen
    | ensure => cases chosen
    | swap other expected next =>
      rw [Write.swapAt] at chosen
      split_ifs at chosen with same
      obtain rfl := Option.some.inj chosen
      exact same ▸ listed
  · exact fun listed => ⟨_, listed, if_pos rfl⟩

/-- Replacements that follow one another from a first value to a last one. -/
inductive Leads : ν → List (ν × ν) → ν → Prop
  | nil {value : ν} : Leads value [] value
  | cons {expected next last : ν} {swaps : List (ν × ν)} : Leads next swaps last → Leads expected
      ((expected, next) :: swaps) last

/-- A value that is there stays, or is replaced step by step. -/
theorem Commits.leads (commits : Commits store writes final) (found : store key = some value) :
    ∃ last, final key = some last ∧ Leads value (swapsAt key writes) last := by
  induction commits generalizing value with
  | nil => exact ⟨value, found, .nil⟩
  | @cons store final write writes meets _ ih =>
    by_cases same : write.key = key
    · subst same
      cases write with
      | insert key wanted => exact absurd (meets.symm.trans found) (by simp)
      | ensure key wanted =>
        have kept : (Write.ensure key wanted).apply store key = some value :=
          Write.apply_self.trans (congrArg (fun taken => some (taken.getD wanted)) found)
        exact ih kept
      | swap key expected next =>
        obtain rfl := Option.some.inj (meets.symm.trans found)
        have replaced : (Write.swap key expected next).apply store key = some next :=
          Write.apply_self
        obtain ⟨last, there, leads⟩ := ih replaced
        refine ⟨last, there, ?_⟩
        have first : (Write.swap key expected next).swapAt key = some (expected, next) := if_pos rfl
        rw [swapsAt, Write.key, List.filterMap_cons_some first]
        exact .cons leads
    · obtain ⟨last, there, leads⟩ := ih ((Write.apply_of_ne same).trans found)
      refine ⟨last, there, ?_⟩
      have skipped : swapsAt key (write :: writes) = swapsAt key writes := by
        cases write with
        | insert => rfl
        | ensure => rfl
        | swap other expected next => exact List.filterMap_cons_none (if_neg same)
      rwa [skipped]

/-- The last value is the one that the last replacement left. -/
theorem Leads.last_mem {last : ν} {swaps : List (ν × ν)} (leads : Leads value swaps last)
    (some_ : swaps ≠ []) :
    ∃ swap ∈ swaps, swap.2 = last := by
  induction leads with
  | nil => exact absurd rfl some_
  | @cons expected next last swaps rest ih =>
    cases swaps with
    | nil =>
      cases rest
      exact ⟨_, List.mem_cons_self, rfl⟩
    | cons =>
      obtain ⟨swap, listed, same⟩ := ih (List.cons_ne_nil _ _)
      exact ⟨swap, List.mem_cons_of_mem _ listed, same⟩

/-- A value that no replacement expects stays. -/
theorem Commits.kept (commits : Commits store writes final) (found : store key = some value)
    (unexpected : ∀ next, .swap key value next ∉ writes) : final key = some value := by
  obtain ⟨last, there, leads⟩ := commits.leads found
  generalize made : swapsAt key writes = swaps at leads
  cases leads with
  | nil => exact there
  | @cons _ next =>
    have listed : (value, next) ∈ swapsAt key writes := made ▸ List.mem_cons_self
    exact absurd (mem_swapsAt.mp listed) (unexpected next)

/-- A value that is found was there before and has not been replaced, or one of the writes has left
it. -/
theorem Commits.keeps_or_writes (commits : Commits store writes final)
    (found : final key = some value) :
    (store key = some value ∧ ∀ expected next, .swap key expected next ∉ writes) ∨
      ∃ write ∈ writes, write.key = key ∧ write.value = value := by
  cases before : store key with
  | none =>
    rcases commits.origin found with there | written
    · exact absurd (before.symm.trans there) (by simp)
    · exact .inr written
  | some old =>
    obtain ⟨last, there, leads⟩ := commits.leads before
    obtain rfl := Option.some.inj (found.symm.trans there)
    by_cases none_ : swapsAt key writes = []
    · rw [none_] at leads
      cases leads
      refine .inl ⟨rfl, fun expected next listed => ?_⟩
      have member : (expected, next) ∈ swapsAt key writes := mem_swapsAt.mpr listed
      rw [none_] at member
      cases member
    · obtain ⟨⟨expected, next⟩, listed, rfl⟩ := leads.last_mem none_
      exact .inr ⟨_, mem_swapsAt.mp listed, rfl, rfl⟩

section Rank

variable {rank : ν → ℕ}

/-- Where each replacement raises the rank, the last value is above all values that have been
replaced. -/
theorem Leads.raises {last : ν} {swaps : List (ν × ν)} (leads : Leads value swaps last)
    (raises : ∀ swap ∈ swaps, rank swap.1 < rank swap.2) :
    (last = value ∨ rank value < rank last) ∧ ∀ swap ∈ swaps, rank value ≤ rank swap.1 := by
  induction leads with
  | nil => exact ⟨.inl rfl, by simp⟩
  | @cons expected next last swaps _ ih =>
    obtain ⟨here, later⟩ := List.forall_mem_cons.mp raises
    obtain ⟨above, least⟩ := ih later
    refine ⟨.inr ?_, List.forall_mem_cons.mpr ⟨Nat.le_refl _, fun swap listed => ?_⟩⟩
    · rcases above with same | more
      · exact same ▸ here
      · exact Nat.lt_trans here more
    · exact Nat.le_of_lt (Nat.lt_of_lt_of_le here (least swap listed))

variable (raises : ∀ key expected next, .swap key expected next ∈ writes →
  rank expected < rank next)
include raises

/-- A value stays, or one of a higher rank is there afterwards. -/
theorem Commits.kept_or_above (commits : Commits store writes final)
    (found : store key = some value) :
    ∃ last, final key = some last ∧ (last = value ∨ rank value < rank last) := by
  obtain ⟨last, there, leads⟩ := commits.leads found
  exact ⟨last, there, (leads.raises fun swap listed => raises key _ _ (mem_swapsAt.mp listed)).1⟩

/-- What a replacement expects is not below what was there. -/
theorem Commits.le_expected (commits : Commits store writes final) (found : store key = some value)
    {expected next : ν} (member : .swap key expected next ∈ writes) :
    rank value ≤ rank expected := by
  obtain ⟨last, -, leads⟩ := commits.leads found
  have listed : (expected, next) ∈ swapsAt key writes := mem_swapsAt.mpr member
  exact (leads.raises fun swap listed => raises key _ _ (mem_swapsAt.mp listed)).2 _ listed

/-- What a replacement has expected is below what is there afterwards. -/
theorem Commits.expected_lt (commits : Commits store writes final) {expected next : ν}
    (member : .swap key expected next ∈ writes) : ∃ last, final key = some last ∧
    rank expected < rank last := by
  induction commits with
  | nil => cases member
  | @cons store final write writes meets rest ih =>
    have later := fun key expected next listed =>
      raises key expected next (List.mem_cons_of_mem _ listed)
    rcases List.mem_cons.mp member with rfl | listed
    · have replaced : (Write.swap key expected next).apply store key = some next := Write.apply_self
      obtain ⟨last, there, above⟩ := rest.kept_or_above later replaced
      have here := raises key expected next List.mem_cons_self
      exact ⟨last, there, above.elim (fun same => same ▸ here) (Nat.lt_trans here)⟩
    · exact ih later listed

end Rank

end KeyedStore
