import MiniAgent.Infrastructure.StoreRefinement

/-! # Runs of the store

Seen from above, each command either leaves what the table holds or is one transaction on it. So
what every transaction keeps holds of all tables that any sequence of commands leads to, whoever
sends them.
-/

namespace MiniAgent.Infrastructure

open MiniAgent.Core MiniAgent.Application KeyedStore

variable {library : ModelLibrary} {table : RecordTable} {held after : Held} {key : RecordKey}
  {entry : Entry}

/-- Every record that may be replaced is under its own key. -/
def OwnKeys (held : Held) : Prop :=
  ∀ key entry own, held key = some entry → replacedKey entry.record = some own → key = own

theorem Sound.ownKeys (laws : StoreLaws library) (sound : Sound library table) :
    OwnKeys (contents library table) := by
  intro key entry own held replaced
  obtain ⟨row, -, rfl, soundRow⟩ := sound.exists_row held
  exact soundRow.key_of_replacedKey laws replaced

variable (library) in
/-- One transaction on what is held. -/
structure HeldStep (held after : Held) : Prop where
  before : OwnKeys held
  ownKeys : OwnKeys after
  made : ∃ journal, Transaction library held journal ∧ Commits held journal after

/-- What a call that is executed does to what is held. -/
private theorem step_of_performs (laws : StoreLaws library) {command : StoreCommand}
    {written : RecordTable} (sound : Sound library table) (valid : command.IsValid)
    (performs : command.Performs library table written) :
    contents library written = contents library table ∨
    HeldStep library (contents library table) (contents library written) := by
  cases performs with
  | finds _ same => exact .inl (congrArg _ same)
  | makes journal admitted all effects =>
    exact .inr ⟨sound.ownKeys laws, effects.sound.ownKeys laws, journal,
      (transaction_of_admits valid admitted).perm all, effects.commits⟩

/-- Calls are transactions, one after the other. -/
theorem steps_of_calls (laws : StoreLaws library) (invariant : StoreInvariant library table)
    (calls : List StoreCall) :
    Relation.ReflTransGen (HeldStep library) (contents library table)
      (contents library (tableAfter library table calls)) := by
  induction calls generalizing table with
  | nil => exact .refl
  | cons call rest ih =>
    have later := ih (execute_keeps call.stamps laws invariant call.valid)
    refine Relation.ReflTransGen.trans ?_ later
    rcases execute_executed call.stamps laws invariant call.valid with ⟨_, -, -, executed⟩
      | ⟨same, -⟩
    · rcases step_of_performs laws invariant.sound call.valid executed.performs with same | step
      · rw [same]
      · exact .single step
    · rw [same]

/-- What each transaction keeps holds after all calls. -/
theorem held_of_calls (laws : StoreLaws library) {good : Held → Prop} (empty : good fun _ => none)
    (keeps : ∀ held after, HeldStep library held after → good held → good after)
    (calls : List StoreCall) :
    good (contents library (tableAfter library .empty calls)) := by
  have steps := steps_of_calls laws storeInvariant_empty calls
  have nothing : contents library .empty = fun _ => none := rfl
  rw [nothing] at steps
  generalize contents library (tableAfter library .empty calls) = final at steps ⊢
  induction steps with
  | refl => exact empty
  | tail _ step ih => exact keeps _ _ step ih

end MiniAgent.Infrastructure
