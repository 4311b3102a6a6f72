import Mathlib.Data.List.Forall2
import Mathlib.Data.List.Nodup
import Mathlib.Data.List.Perm.Basic

/-! # Inverting computations that return a value or an error

A successful bind has two successful parts; a successful traversal relates the two lists position
by position. With these a `do` block is taken apart one statement at a time.
-/

namespace Except

variable {ε α β : Type}

theorem bind_eq_ok_iff {action : Except ε α} {next : α → Except ε β} {value : β} :
    (action >>= next) = .ok value ↔ ∃ middle, action = .ok middle ∧ next middle = .ok value := by
  cases action with
  | error failure => simp [bind, Except.bind]
  | ok middle => simp [bind, Except.bind]

theorem bind_ok (middle : α) (next : α → Except ε β) : (.ok middle >>= next) = next middle := rfl

theorem discard_eq_ok_iff {action : Except ε α} {done : Unit} :
    (discard action : Except ε Unit) = .ok done ↔ ∃ value, action = .ok value := by
  cases action with
  | error failure => simp [discard, Functor.discard, Functor.mapConst, Except.map]
  | ok value => simp [discard, Functor.discard, Functor.mapConst, Except.map]

theorem pure_eq_ok_iff {left right : α} : (pure left : Except ε α) = .ok right ↔ left = right := by
  simp [pure, Except.pure]

theorem throw_ne_ok {failure : ε} {value : α} : (throw failure : Except ε α) ≠ .ok value := by
  simp [throw, throwThe, MonadExceptOf.throw]

/-- A traversal succeeds exactly when every item does, in order. -/
theorem mapM_eq_ok_iff {f : α → Except ε β} {items : List α} {values : List β} :
    items.mapM f = .ok values ↔
    List.Forall₂ (fun item value => f item = .ok value) items values := by
  induction items generalizing values with
  | nil => simp [pure, Except.pure, eq_comm]
  | cons item rest ih =>
    rw [List.mapM_cons, bind_eq_ok_iff, List.forall₂_cons_left_iff]
    simp only [bind_eq_ok_iff, pure_eq_ok_iff, ih]
    exact ⟨fun ⟨value, first, others, following, same⟩ =>
      ⟨value, others, first, following, same.symm⟩, fun ⟨value, others, first, following, same⟩ =>
        ⟨value, first, others, following, same.symm⟩⟩

/-- A traversal of a rearranged list gives the same values, rearranged alike. -/
theorem exists_mapM_eq_ok {f : α → Except ε β} {items : List α}
    (each : ∀ item ∈ items, ∃ value, f item = .ok value) : ∃ values, items.mapM f = .ok values := by
  induction items with
  | nil => exact ⟨[], rfl⟩
  | cons item rest ih =>
    obtain ⟨⟨value, made⟩, others⟩ := List.forall_mem_cons.mp each
    obtain ⟨values, rest⟩ := ih others
    exact ⟨value :: values, mapM_eq_ok_iff.mpr (.cons made (mapM_eq_ok_iff.mp rest))⟩

theorem mapM_perm {f : α → Except ε β} {left right : List α} {values : List β}
    (same : left.Perm right) (success : left.mapM f = .ok values) :
    ∃ others, right.mapM f = .ok others ∧ values.Perm others := by
  obtain ⟨others, aligned, permuted⟩ := List.perm_comp_forall₂ same.symm (mapM_eq_ok_iff.mp success)
  exact ⟨others, mapM_eq_ok_iff.mpr aligned, permuted.symm⟩

/-- A traversal that gives back what each item was made from. -/
theorem mapM_map_eq_ok {f : β → Except ε α} {g : α → β} {items : List α}
    (back : ∀ item ∈ items, f (g item) = .ok item) : (items.map g).mapM f = .ok items := by
  rw [mapM_eq_ok_iff, List.forall₂_map_left_iff]
  induction items with
  | nil => exact .nil
  | cons item rest ih =>
    exact .cons (back item (List.mem_cons_self ..))
      (ih fun other member => back other (List.mem_cons_of_mem _ member))

/-- A traversal whose items can only come back as they are. -/
theorem mapM_self_eq_ok_iff {f : α → Except ε α} {items values : List α}
    (self : ∀ item ∈ items, ∀ value, f item = .ok value → value = item) :
    items.mapM f = .ok values ↔ values = items ∧ ∀ item ∈ items, f item = .ok item := by
  rw [mapM_eq_ok_iff]
  induction items generalizing values with
  | nil => simp
  | cons item rest ih =>
    rw [List.forall₂_cons_left_iff, List.forall_mem_cons]
    have others := fun values => @ih values fun other member =>
      self other (List.mem_cons_of_mem _ member)
    constructor
    · rintro ⟨value, following, first, aligned, rfl⟩
      obtain rfl := self item (List.mem_cons_self ..) value first
      obtain ⟨rfl, each⟩ := (others following).mp aligned
      exact ⟨rfl, first, each⟩
    · rintro ⟨rfl, first, each⟩
      exact ⟨item, rest, first, (others rest).mpr ⟨rfl, each⟩, rfl⟩

theorem toOption_eq_some_iff {outcome : Except ε α} {value : α} :
    outcome.toOption = some value ↔ outcome = .ok value := by
  cases outcome <;> simp [Except.toOption]

theorem exists_ok_of_isOk {action : Except ε α} (success : action.isOk = true) :
    ∃ value, action = .ok value := by
  cases action with
  | error failure => exact absurd success Bool.false_ne_true
  | ok value => exact ⟨value, rfl⟩

/-- Continue only under the condition; the failure is raised otherwise. -/
def require (condition : Bool) (failure : ε) : Except ε Unit :=
  if condition then .ok () else .error failure

theorem require_eq_ok_iff {condition : Bool} {failure : ε} {done : Unit} :
    require condition failure = .ok done ↔ condition = true := by
  cases condition <;> simp [require]

theorem require_of {condition : Bool} (holds : condition = true) (failure : ε) :
    require condition failure = .ok () := if_pos holds

/-- A loop over a list succeeds exactly when each of its passes does. -/
theorem forM_eq_ok_iff {f : α → Except ε Unit} {items : List α} {done : Unit} :
    items.forM f = .ok done ↔ ∀ item ∈ items, f item = .ok () := by
  induction items with
  | nil => simp [pure, Except.pure]
  | cons item rest ih =>
    rw [List.forM_eq_forM, List.forM_cons, bind_eq_ok_iff, List.forall_mem_cons]
    rw [List.forM_eq_forM] at ih
    simp only [ih]
    exact ⟨fun ⟨_, first, others⟩ => ⟨first, others⟩, fun ⟨first, others⟩ => ⟨(), first, others⟩⟩

/-- A loop none of whose passes changes the state. -/
theorem foldlM_eq_self {state : β} {step : β → α → Except ε β} {items : List α}
    (unchanged : ∀ item ∈ items, step state item = .ok state) :
    items.foldlM step state = .ok state := by
  induction items with
  | nil => rfl
  | cons item rest ih =>
    obtain ⟨first, others⟩ := List.forall_mem_cons.mp unchanged
    rw [List.foldlM_cons, first, bind_ok]
    exact ih others

/-- A loop whose pass also sees the items before: `earlier` grows by one item with each pass. -/
def forAfterM (check : List α → α → Except ε Unit) : List α → List α → Except ε Unit
  | _, [] => .ok ()
  | earlier, item :: rest => do
    check earlier item
    forAfterM check (earlier ++ [item]) rest

theorem forAfterM_eq_ok_iff {check : List α → α → Except ε Unit} {earlier items : List α}
    {done : Unit} :
    forAfterM check earlier items = .ok done ↔
    ∀ before item after, items = before ++ item :: after →
      check (earlier ++ before) item = .ok () := by
  induction items generalizing earlier with
  | nil => simp [forAfterM]
  | cons item rest ih =>
    simp only [forAfterM, bind_eq_ok_iff, ih]
    constructor
    · rintro ⟨⟨⟩, first, others⟩ before other after split
      cases before with
      | nil =>
        obtain ⟨rfl, rfl⟩ := List.cons.inj split
        simpa using first
      | cons head before =>
        obtain ⟨rfl, rfl⟩ := List.cons.inj split
        simpa using others before other after rfl
    · intro every
      refine ⟨(), by simpa using every [] item rest rfl, fun before other after split => ?_⟩
      simpa using every (item :: before) other after (by rw [split]; rfl)

/-- A pass that looks at the items before only for clashes compares the items pair by pair. -/
theorem forAfterM_eq_ok_iff_pairwise {check : List α → α → Except ε Unit} {clash : α → α → Prop}
    (split : ∀ earlier item, check earlier item = .ok () ↔
      (∀ other ∈ earlier, ¬clash other item) ∧ check [] item = .ok ()) {items : List α}
      {done : Unit} :
    forAfterM check [] items = .ok done ↔
      items.Pairwise (fun first second => ¬clash first second) ∧
      ∀ item ∈ items, check [] item = .ok () := by
  suffices general : ∀ earlier, forAfterM check earlier items = .ok done ↔
      ((∀ item ∈ items, ∀ other ∈ earlier, ¬clash other item) ∧
        items.Pairwise fun first second => ¬clash first second) ∧ ∀ item ∈ items,
        check [] item = .ok () by
    simpa using general []
  induction items with
  | nil => simp [forAfterM]
  | cons item rest ih =>
    intro earlier
    simp only [forAfterM, bind_eq_ok_iff, exists_const, ih, split earlier item, List.pairwise_cons,
      List.forall_mem_cons, List.mem_append, List.mem_singleton, or_imp, forall_and, forall_eq]
    tauto

/-- Such a loop accepts every arrangement of the items, or none. -/
theorem forAfterM_eq_ok_of_perm {check : List α → α → Except ε Unit} {clash : α → α → Prop}
    (split : ∀ earlier item, check earlier item = .ok () ↔
      (∀ other ∈ earlier, ¬clash other item) ∧ check [] item = .ok ())
    (symmetric : ∀ first second, clash first second → clash second first) {left right : List α}
    (same : left.Perm right) (success : forAfterM check [] left = .ok ()) :
    forAfterM check [] right = .ok () := by
  rw [forAfterM_eq_ok_iff_pairwise split] at success ⊢
  obtain ⟨apart, each⟩ := success
  constructor
  · apply same.pairwise apart
    intro first second apart clash
    exact apart (symmetric second first clash)
  · intro item member
    exact each item (same.mem_iff.mpr member)

theorem forM_eq_ok_of_perm {f : α → Except ε Unit} {left right : List α} (same : left.Perm right)
    (success : left.forM f = .ok ()) : right.forM f = .ok () := by
  rw [forM_eq_ok_iff] at success ⊢
  exact fun item member => success item (same.mem_iff.mpr member)

/-- Every item of such a loop has passed its check. -/
theorem exists_check_of_forAfterM {check : List α → α → Except ε Unit} {items : List α} {item : α}
    (success : forAfterM check [] items = .ok ()) (member : item ∈ items) :
    ∃ earlier, check earlier item = .ok () := by
  obtain ⟨before, after, split⟩ := List.append_of_mem member
  exact ⟨before, by simpa using forAfterM_eq_ok_iff.mp success before item after split⟩

/-- A loop that refuses repeated keys leaves a list without them. -/
theorem nodup_of_forAfterM {κ : Type} {key : α → κ} {check : List α → α → Except ε Unit}
    {earlier items : List α}
    (fresh : ∀ earlier item, check earlier item = .ok () → key item ∉ earlier.map key)
    (success : forAfterM check earlier items = .ok ()) (distinct : (earlier.map key).Nodup) :
    ((earlier ++ items).map key).Nodup := by
  induction items generalizing earlier with
  | nil => simpa using distinct
  | cons item rest ih =>
    simp only [forAfterM, bind_eq_ok_iff] at success
    obtain ⟨⟨⟩, first, others⟩ := success
    have grown : ((earlier ++ [item]).map key).Nodup := by
      rw [List.map_append, List.nodup_append']
      exact ⟨distinct, by simp, by simpa [List.disjoint_singleton] using fresh earlier item first⟩
    simpa using ih others grown

theorem nodup_of_forAfterM_nil {κ : Type} {key : α → κ} {check : List α → α → Except ε Unit}
    {items : List α}
    (fresh : ∀ earlier item, check earlier item = .ok () → key item ∉ earlier.map key)
    (success : forAfterM check [] items = .ok ()) : (items.map key).Nodup :=
  nodup_of_forAfterM fresh success List.nodup_nil

/-- Every error of the computation satisfies the predicate. -/
def ErrorsIn (errors : ε → Prop) (action : Except ε α) : Prop :=
  ∀ failure, action = .error failure → errors failure

variable {errors : ε → Prop}

@[simp] theorem errorsIn_ok (value : α) : ErrorsIn errors (.ok value : Except ε α) := by
  simp [ErrorsIn]

@[simp] theorem errorsIn_pure (value : α) : ErrorsIn errors (pure value : Except ε α) :=
  errorsIn_ok value

@[simp] theorem errorsIn_error (failure : ε) :
    ErrorsIn errors (.error failure : Except ε α) ↔ errors failure := by
  simp [ErrorsIn]

theorem require_errorsIn {condition : Bool} {failure : ε} (bounded : errors failure) :
    ErrorsIn errors (require condition failure) := by
  cases condition <;> simp [require, bounded]

/-- A sequence of bounded parts is bounded. -/
theorem ErrorsIn.bind {action : Except ε α} {next : α → Except ε β} (first : ErrorsIn errors action)
    (second : ∀ value, action = .ok value → ErrorsIn errors (next value)) :
    ErrorsIn errors (action >>= next) := by
  cases action with
  | error failure =>
    intro other same
    obtain rfl : failure = other := Except.error.inj same
    exact first failure rfl
  | ok value => exact second value rfl

theorem ErrorsIn.map {action : Except ε α} (f : α → β) (first : ErrorsIn errors action) :
    ErrorsIn errors (f <$> action) := by
  cases action with
  | error failure =>
    intro other same
    obtain rfl : failure = other := Except.error.inj same
    exact first failure rfl
  | ok value => exact errorsIn_ok _

theorem ErrorsIn.mapM {f : α → Except ε β} {items : List α}
    (each : ∀ item ∈ items, ErrorsIn errors (f item)) : ErrorsIn errors (items.mapM f) := by
  induction items with
  | nil => exact errorsIn_pure _
  | cons item rest ih =>
    rw [List.mapM_cons]
    refine ErrorsIn.bind (each item (List.mem_cons_self ..)) fun _ _ => ?_
    refine ErrorsIn.bind (ih fun other member => each other (List.mem_cons_of_mem _ member)) ?_
    exact fun _ _ => errorsIn_pure _

theorem ErrorsIn.forM {f : α → Except ε Unit} {items : List α}
    (each : ∀ item ∈ items, ErrorsIn errors (f item)) : ErrorsIn errors (items.forM f) := by
  induction items with
  | nil => exact errorsIn_pure _
  | cons item rest ih =>
    rw [List.forM_eq_forM, List.forM_cons]
    exact ErrorsIn.bind (each item (List.mem_cons_self ..)) fun _ _ =>
      ih fun other member => each other (List.mem_cons_of_mem _ member)

section Alike

variable {γ δ : Type} {related : α → γ → Prop} {next : β → δ → Prop}

/-- Two computations fail alike, or succeed with related values. -/
def Alike (related : α → γ → Prop) : Except ε α → Except ε γ → Prop
  | .error left, .error right => left = right
  | .ok left, .ok right => related left right
  | _, _ => False

theorem alike_eq_iff {left right : Except ε α} : Alike (· = ·) left right ↔ left = right := by
  cases left <;> cases right <;> simp [Alike]

theorem Alike.bind {left : Except ε α} {right : Except ε γ} (first : Alike related left right)
    {f : α → Except ε β} {g : γ → Except ε δ} (rest : ∀ a c, related a c → Alike next (f a) (g c)) :
    Alike next (left >>= f) (right >>= g) := by
  cases left <;> cases right
  · exact first
  · exact first.elim
  · exact first.elim
  · exact rest _ _ first

theorem Alike.mapM {f : α → Except ε β} {g : γ → Except ε δ} {lefts : List α} {rights : List γ}
    (aligned : List.Forall₂ related lefts rights)
    (each : ∀ a c, related a c → Alike next (f a) (g c)) :
    Alike (List.Forall₂ next) (lefts.mapM f) (rights.mapM g) := by
  induction aligned with
  | nil => exact List.Forall₂.nil
  | cons head tail ih =>
    rw [List.mapM_cons, List.mapM_cons]
    apply (each _ _ head).bind
    intro value other same
    apply ih.bind
    intro values others rest
    exact List.Forall₂.cons same rest

theorem Alike.mapM_eq {f : α → Except ε β} {g : γ → Except ε β} {lefts : List α} {rights : List γ}
    (aligned : List.Forall₂ related lefts rights)
    (each : ∀ a c, related a c → Alike (· = ·) (f a) (g c)) :
    Alike (List.Forall₂ (· = ·)) (lefts.mapM f) (rights.mapM g) := Alike.mapM aligned each

theorem Alike.forM {f : α → Except ε Unit} {g : γ → Except ε Unit} {lefts : List α}
    {rights : List γ} (aligned : List.Forall₂ related lefts rights)
    (each : ∀ a c, related a c → f a = g c) :
    lefts.forM f = rights.forM g := by
  induction aligned with
  | nil => rfl
  | cons head tail ih =>
    rw [List.forM_eq_forM, List.forM_eq_forM, List.forM_cons, List.forM_cons, each _ _ head]
    exact congrArg _ (funext fun _ => ih)

end Alike

end Except
