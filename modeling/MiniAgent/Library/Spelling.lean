import MiniAgent.Library.Json
import MiniAgent.Library.Keyed

/-! # How a validated value is spelled again when it is dumped

A validator that accepts several spellings of one value dumps each of them in one way. A `Spelling`
says of one kind of field which values are spelled as a dump spells them, and what a dump may be of
a value that was validated: the two are equal exactly when the value was spelled so from the start.
Texts, optional values, arrays and objects with declared members have spellings that are made of
these of their parts.
-/

namespace Json

/-- Equal objects have equal members. -/
theorem mem_normFields_of_norm {left right : List (String × Json)}
    (same : (object left).norm = (object right).norm) {member : String × Json}
    (present : member ∈ normFields left) : member ∈ normFields right := by
  simp only [norm, object.injEq] at same
  have sorted : member ∈ sortMembers (normFields left) :=
    (List.perm_insertionSort _ _).mem_iff.mpr present
  rw [same] at sorted
  exact (List.perm_insertionSort _ _).mem_iff.mp sorted

theorem normFields_eq_map (fields : List (String × Json)) :
    normFields fields = fields.map fun field => (field.1, field.2.norm) := by
  induction fields with
  | nil => rfl
  | cons field fields ih => rw [normFields, ih, List.map_cons]

/-- Objects of distinct keys are equal when each has the members of the other. -/
theorem norm_object_eq {left right : List (String × Json)} (leftKeys : (left.map (·.1)).Nodup)
    (rightKeys : (right.map (·.1)).Nodup)
    (same : ∀ member, member ∈ normFields left ↔ member ∈ normFields right) :
    (object left).norm = (object right).norm := by
  have keys (fields : List (String × Json)) : (normFields fields).map (·.1) = fields.map (·.1) := by
    simp [normFields_eq_map]
  have perm : (normFields left).Perm (normFields right) :=
    (List.perm_ext_iff_of_nodup (List.Nodup.of_map (·.1) (by rwa [keys]))
      (List.Nodup.of_map (·.1) (by rwa [keys]))).mpr same
  rw [norm, norm]
  have distinct : ((normFields left).map (·.1)).Nodup := by rwa [keys]
  have ordered : ((normFields left).map fun member => member.1.toList).Nodup := by
    simpa [Function.comp_def] using distinct.map fun _ _ same => String.toList_injective same
  exact congrArg object (Keyed.sortByKey_eq_of_perm perm ordered)

theorem eq_string_of_norm {value : Json} {text : List Char} (same : value.norm = .string text) :
    value = .string text := by
  cases value with
  | string given => simpa [norm] using same
  | float value literal => rw [norm] at same; split at same <;> simp at same
  | _ => simp [norm] at same

/-- What is found under a key of distinct ones is the member. -/
theorem lookup_eq_some_iff {fields : List (String × Json)} (distinct : (fields.map (·.1)).Nodup)
    {key : String} {value : Json} : lookup fields key = some value ↔ (key, value) ∈ fields := by
  induction fields with
  | nil => simp [lookup]
  | cons field fields ih =>
    obtain ⟨name, first⟩ := field
    simp only [List.map_cons, List.nodup_cons] at distinct
    by_cases same : name = key
    · subst same
      have fresh : (name, value) ∉ fields :=
        fun later => distinct.1 (List.mem_map.mpr ⟨_, later, rfl⟩)
      simp [lookup, fresh, eq_comm]
    · rw [show lookup ((name, first) :: fields) key = lookup fields key by simp [lookup, same],
        ih distinct.2]
      simp [Ne.symm same]

/-- How the values of a field are spelled when they are dumped. -/
structure Spelling where
  /-- The value is spelled as a dump spells it. -/
  isDumped : Json → Bool
  /-- A value that strict validation accepts, and the dump of what it is read to. -/
  Reads : Json → Json → Prop
  norm_eq_iff : ∀ {value dump}, Reads value dump → (dump.norm = value.norm ↔ isDumped value = true)

namespace Spelling

/-- A value that is dumped as it is. -/
def kept : Spelling where
  isDumped _ := true
  Reads value dump := dump.norm = value.norm
  norm_eq_iff same := iff_of_true same rfl

/-- A text that is dumped in one form, in which it is read to itself. -/
def text (form : List Char → Bool) : Spelling where
  isDumped
    | .string given => form given
    | _ => false
  Reads value dump := ∃ dumped, dump = .string dumped ∧ form dumped = true ∧
    ∀ given, value = .string given → form given = true → given = dumped
  norm_eq_iff := by
    rintro value _ ⟨dumped, rfl, formed, reads⟩
    constructor
    · intro same
      obtain rfl := eq_string_of_norm same.symm
      exact formed
    · intro spelled
      cases value with
      | string given => rw [reads given rfl spelled]
      | _ => simp at spelled

/-- A value or null. -/
def optional (spelling : Spelling) : Spelling where
  isDumped value := value == .null || spelling.isDumped value
  Reads value dump := (value = .null ∧ dump = .null) ∨ (value ≠ .null ∧ spelling.Reads value dump)
  norm_eq_iff := by
    rintro value dump (⟨rfl, rfl⟩ | ⟨given, reads⟩)
    · simp
    · simpa [given] using spelling.norm_eq_iff reads

/-- An array of values of one kind. -/
def items (spelling : Spelling) : Spelling where
  isDumped
    | .array items => items.all spelling.isDumped
    | _ => false
  Reads value dump := ∃ items dumps, value = .array items ∧ dump = .array dumps ∧
    List.Forall₂ spelling.Reads items dumps
  norm_eq_iff := by
    rintro _ _ ⟨items, dumps, rfl, rfl, reads⟩
    simp only [norm, array.injEq]
    induction reads with
    | nil => simp
    | cons first _ ih =>
      simp only [normItems, List.cons.injEq, spelling.norm_eq_iff first, ih, List.all_cons,
        Bool.and_eq_true]

/-- An object of declared members, of which a value may leave some out and a dump none. -/
def members (declared : List (String × Spelling)) : Spelling where
  isDumped
    | .object fields => declared.all fun member => (lookup fields member.1).any member.2.isDumped
    | _ => false
  Reads value dump := ∃ fields dumps, value = .object fields ∧ dump = .object dumps ∧
    (fields.map (·.1)).Nodup ∧ (dumps.map (·.1)).Nodup ∧
    (∀ field ∈ fields, field.1 ∈ declared.map (·.1)) ∧
      List.Forall₂ (fun member dumped => dumped.1 = member.1 ∧
        ∀ given, lookup fields member.1 = some given → member.2.Reads given dumped.2) declared dumps
  norm_eq_iff := by
    rintro _ _ ⟨fields, dumps, rfl, rfl, fieldKeys, dumpKeys, known, reads⟩
    constructor
    · intro same
      refine List.all_eq_true.mpr fun member listed => ?_
      obtain ⟨dumped, present, named, readsMember⟩ := Keyed.exists_of_forall₂_left reads listed
      have inFields : (dumped.1, dumped.2.norm) ∈ normFields fields :=
        mem_normFields_of_norm same
          (by rw [normFields_eq_map]; exact List.mem_map.mpr ⟨dumped, present, rfl⟩)
      rw [normFields_eq_map] at inFields
      obtain ⟨⟨name, given⟩, givenPresent, sameMember⟩ := List.mem_map.mp inFields
      obtain ⟨rfl, sameValue⟩ := Prod.mk.inj sameMember
      have found : lookup fields member.1 = some given :=
        (lookup_eq_some_iff fieldKeys).mpr (by rw [← named]; exact givenPresent)
      rw [found, Option.any_some]
      exact (member.2.norm_eq_iff (readsMember given found)).mp sameValue.symm
    · intro spelled
      have spelledMember := List.all_eq_true.mp spelled
      have sameDump {member : String × Spelling} (listed : member ∈ declared)
          {dumped : String × Json}
          (named : dumped.1 = member.1)
          (readsMember : ∀ given, lookup fields member.1 = some given →
            member.2.Reads given dumped.2) :
          ∃ given, (member.1, given) ∈ fields ∧ dumped.2.norm = given.norm := by
        obtain ⟨given, found, spelledGiven⟩ :=
          (Option.any_eq_true _ _).mp (spelledMember member listed)
        exact ⟨given, (lookup_eq_some_iff fieldKeys).mp found,
          (member.2.norm_eq_iff (readsMember given found)).mpr spelledGiven⟩
      refine norm_object_eq dumpKeys fieldKeys fun entry => ?_
      simp only [normFields_eq_map, List.mem_map]
      constructor
      · rintro ⟨dumped, present, rfl⟩
        obtain ⟨member, listed, named, readsMember⟩ := Keyed.exists_of_forall₂_right reads present
        obtain ⟨given, givenPresent, sameValue⟩ := sameDump listed named readsMember
        exact ⟨_, givenPresent, by rw [named, sameValue]⟩
      · rintro ⟨⟨name, given⟩, present, rfl⟩
        obtain ⟨member, listed, rfl⟩ := List.mem_map.mp (known _ present)
        obtain ⟨dumped, dumpPresent, named, readsMember⟩ :=
          Keyed.exists_of_forall₂_left reads listed
        obtain ⟨other, otherPresent, sameValue⟩ := sameDump listed named readsMember
        obtain rfl : other = given := Option.some.inj <|
          ((lookup_eq_some_iff fieldKeys).mpr otherPresent).symm.trans
            ((lookup_eq_some_iff fieldKeys).mpr present)
        exact ⟨dumped, dumpPresent, by rw [named, sameValue]⟩

end Spelling

end Json
