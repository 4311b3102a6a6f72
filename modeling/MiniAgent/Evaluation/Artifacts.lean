import MiniAgent.Core.Common

/-! # The artifacts of an evaluation

The bundle that the harness authenticates: cases, model scripts, lanes and the fixture, most of them
JSON mappings that were frozen when they were loaded. A mapping is read the way the harness reads
it: a missing key, a value that cannot be iterated and an unknown identity are exceptions.
-/

namespace MiniAgent.Evaluation

open MiniAgent.Core

/-- The exceptions that the harness raises, catches or lets through. -/
inductive EvalException
  | commandError
  | artifactContract (message : String)
  | gradingConfiguration (message : String)
  | validationError
  | typeError
  | valueError
  | keyError
  | overflowError
  | providerProtocol
  | cancelledError
  | other (typeName : String)
deriving DecidableEq, Repr

/-- What `except Exception` catches. -/
def EvalException.isException : EvalException → Bool
  | cancelledError => false
  | _ => true

abbrev JsonObject := List (String × Json)

/-- `mapping[key]` -/
def subscript (fields : JsonObject) (key : String) : Except EvalException Json :=
  match Json.lookup fields key with
  | some value => .ok value
  | none => .error .keyError

/-- The value as a mapping; what a subscript does to any other value. -/
def mapping : Json → Except EvalException JsonObject
  | .object fields => .ok fields
  | _ => .error .typeError

/-- `tuple(value)` -/
def elements : Json → Except EvalException (List Json)
  | .array items => .ok items
  | .string text => .ok (text.map fun character => .string [character])
  | .object fields => .ok (fields.map fun field => .string field.1.toList)
  | _ => .error .typeError

/-- `tuple(mapping.get(key, ()))` -/
def elementsAt (fields : JsonObject) (key : String) : Except EvalException (List Json) :=
  match Json.lookup fields key with
  | some value => elements value
  | none => .ok []

/-- The value when it is a `str`. -/
def text : Json → Option String
  | .string characters => some (String.ofList characters)
  | _ => none

/-- The value when it is a `str` and not empty. -/
def nonemptyText (value : Json) : Option String := (text value).filter (· != "")

/-- The JSON spelling of a `str`. -/
def ofText (value : String) : Json := .string value.toList

/-- The value when `type(value) is int and minimum <= value`. -/
def intFrom (minimum : ℤ) : Json → Option ℕ
  | .int value => if 0 ≤ value ∧ minimum ≤ value then some value.toNat else none
  | _ => none

structure EvalCaseArtifact where
  caseId : String
  lifecycleStatus : String
  input : JsonObject
  expectations : JsonObject
  grading : JsonObject
  versionManifest : JsonObject
deriving DecidableEq, Repr

structure ModelScriptArtifact where
  modelScriptRef : String
  steps : List JsonObject
  expectedControlResult : JsonObject
  runtimeFault : Option JsonObject := none
deriving DecidableEq, Repr

structure EvalLaneArtifact where
  lane : String
  modelConfigVersion : String
  caseRefs : List String
  credentialPolicy : JsonObject := []
deriving DecidableEq, Repr

structure LoadedE2E01Artifacts where
  candidateVersion : String
  runtimeVersion : Option String
  manifest : JsonObject
  fixture : JsonObject
  cases : List EvalCaseArtifact
  scripts : List ModelScriptArtifact
  lanes : List EvalLaneArtifact
deriving DecidableEq, Repr

/-- The only item that meets the condition. -/
def uniqueMatch {α : Type} (items : List α) (meets : α → Bool) (message : String) :
    Except EvalException α :=
  match items.filter meets with
  | [item] => .ok item
  | _ => .error (.artifactContract message)

theorem mem_of_uniqueMatch {α : Type} {items : List α} {meets : α → Bool} {message : String}
    {item : α} (found : uniqueMatch items meets message = .ok item) :
    item ∈ items ∧ meets item = true := by
  unfold uniqueMatch at found
  split at found
  · next only single =>
    obtain rfl := Except.ok.inj found
    have member : only ∈ items.filter meets := single ▸ List.mem_singleton_self only
    exact List.mem_filter.mp member
  · exact nomatch found

namespace LoadedE2E01Artifacts

variable (artifacts : LoadedE2E01Artifacts)

def caseById (caseId : String) : Except EvalException EvalCaseArtifact :=
  uniqueMatch artifacts.cases (·.caseId == caseId) "unknown or duplicate Eval Case identity"

def scriptByRef (modelScriptRef : String) : Except EvalException ModelScriptArtifact :=
  uniqueMatch artifacts.scripts
    (·.modelScriptRef == modelScriptRef) "unknown or duplicate model script reference"

def laneByName (lane : String) : Except EvalException EvalLaneArtifact :=
  uniqueMatch artifacts.lanes (·.lane == lane) "unknown or duplicate Eval lane"

variable {artifacts}

theorem caseById_caseId {caseId : String} {evalCase : EvalCaseArtifact}
    (found : artifacts.caseById caseId = .ok evalCase) :
    evalCase.caseId = caseId := beq_iff_eq.mp (mem_of_uniqueMatch found).2

end LoadedE2E01Artifacts

end MiniAgent.Evaluation
