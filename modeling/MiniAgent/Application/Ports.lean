import MiniAgent.Application.Commands
import MiniAgent.Core.Presentation
import MiniAgent.Core.RequestUnderstanding
import MiniAgent.Library.Coroutine

/-! # The ports of the runtime, as one environment

Everything the application calls and does not compute is a call to the environment: the clock, the
identity factory and the requests of the ports. A port answers with a value or raises; cancellation
and the expiry of a timeout are exceptions like any other, so that a run may be cancelled at each of
its requests. A value of a contract model that a port returns has passed its constructor, except
where the caller validates it again: there it is any value of the model, or none for an object of
another type.
-/

namespace MiniAgent.Application

open MiniAgent.Core ContractModel

/-- The exceptions that the application raises or tells apart: cancellation, and subclasses of
`Exception`, of which `other` names any that has no constructor of its own. -/
inductive ExceptionKind
  | cancelledError
  | timeoutError
  | validationError
  | candidateInvalid
  | providerProtocol
  | providerProtocolSubclass (typeName : String)
  | candidateInvalidSubclass (typeName : String)
  | agentRunExecution (message : String)
  | readToolExecution (message : String)
  | requestProcessing (message : String)
  | presentationPolicy (message : String)
  | rendererInvariant (message : String)
  | other (typeName : String)
deriving DecidableEq, Repr

/-- `type(error).__name__` -/
def ExceptionKind.typeName : ExceptionKind → String
  | cancelledError => "CancelledError"
  | timeoutError => "TimeoutError"
  | validationError => "ValidationError"
  | candidateInvalid => "RequestUnderstandingCandidateInvalidError"
  | providerProtocol => "ProviderProtocolError"
  | providerProtocolSubclass typeName | candidateInvalidSubclass typeName | other typeName =>
    typeName
  | agentRunExecution _ => "AgentRunExecutionError"
  | readToolExecution _ => "ReadToolExecutionError"
  | requestProcessing _ => "RequestProcessingError"
  | presentationPolicy _ => "PresentationPolicyError"
  | rendererInvariant _ => "RendererInvariantError"

/-- A raised exception with the notes that were added to it. -/
structure Raised where
  kind : ExceptionKind
  notes : List String := []
deriving DecidableEq, Repr

namespace Raised

def addNote (raised : Raised) (note : String) : Raised :=
  { raised with notes := raised.notes ++ [note] }

abbrev agentRunExecution (message : String) : Raised := { kind := .agentRunExecution message }

abbrev readToolExecution (message : String) : Raised := { kind := .readToolExecution message }

abbrev validationError : Raised := { kind := .validationError }

end Raised

/-- One awaited request to a port. -/
inductive PortRequest
  | putToolsetArtifact (artifact : ModelVisibleToolsetArtifact)
  | getToolsetArtifact (modelVisibleToolsetHash : Text)
  | saveConversation (record : ConversationRecord)
  | appendMessage (record : MessageRecord)
  | listMessagesForOwner (ownerScope : TrustedOwnerScope) (conversationId : Uuid) (limit : ℕ)
  | insertRun (command : CreateRunCommand)
  | startRunIfCreated (command : TransitionRunCommand)
  | finalizeRunIfActive (command : FinalizeRunCommand)
  | createInitialTaskGraphV2IfCurrent (command : CreateInitialTaskGraphV2Command)
  | saveContextManifest (record : ContextManifest)
  | saveGateDecision (record : GateDecision)
  | insertToolCall (command : CreateToolCallCommand)
  | startToolCallIfCreated (command : DispatchToolCallCommand)
  | finalizeToolCallAttemptIfRunning (command : FinalizeToolCallCommand)
  | saveObservation (command : SaveObservationCommand)
  | appendTraceEvent (record : TraceEvent)
  | loadTaskForOwner (ownerScope : TrustedOwnerScope) (taskId : Uuid)
  | loadRequestUnitForOwner (ownerScope : TrustedOwnerScope) (requestUnitId : Uuid)
  | proposeNextMove (request : RequestUnderstandingInput)
  | planPresentation (request : PresentationInput)
  | afterRevalidation (runId : Uuid) (task : TaskRecord) (requestUnit : RequestUnitRecord)
  | getOrder (timeoutMs : ℕ) (query : GetOrderQuery)
deriving DecidableEq, Repr

/-- What a port returns. -/
@[reducible] def PortRequest.Reply : PortRequest → Type
  | getToolsetArtifact _ => Option (Validated ModelVisibleToolsetArtifact)
  | listMessagesForOwner .. => List (Validated MessageRecord)
  | insertRun _ | insertToolCall _ => InsertOnlyWriteResult
  | startRunIfCreated _ | finalizeRunIfActive _ | createInitialTaskGraphV2IfCurrent _
  | finalizeToolCallAttemptIfRunning _ => ConditionalWriteResult
  | startToolCallIfCreated _ => ToolDispatchFenceWriteResult
  | saveObservation _ => ObservationWriteResult
  | loadTaskForOwner .. => Option (Validated TaskRecord)
  | loadRequestUnitForOwner .. => Option (Validated RequestUnitRecord)
  | proposeNextMove _ => Option RequestUnderstandingOutputV2
  | planPresentation _ => Option PresentationPlan
  | getOrder .. => Option GetOrderResult
  | putToolsetArtifact _ | saveConversation _ | appendMessage _ | saveContextManifest _
  | saveGateDecision _ | appendTraceEvent _ | afterRevalidation .. => Unit

inductive Call
  | clock
  | uuidFactory
  | port (request : PortRequest)
deriving DecidableEq, Repr

/-- What the environment answers. -/
@[reducible] def Answer : Call → Type
  | .clock => Datetime
  | .uuidFactory => Uuid
  | .port request => Except Raised request.Reply

/-- An application function: it works on a state of its own and raises. -/
abbrev Runtime (σ : Type) : Type → Type := Coroutine Answer σ Raised

section Requests

variable {σ : Type}

/-- `self._clock()` -/
def clock : Runtime σ Datetime := Coroutine.ask Call.clock

/-- `self._uuid_factory()` -/
def uuidFactory : Runtime σ Uuid := Coroutine.ask Call.uuidFactory

/-- Await a request: its exception is raised here. -/
def request (awaited : PortRequest) : Runtime σ awaited.Reply := do
  Coroutine.ofExcept (← Coroutine.ask (Call.port awaited))

/-- A constructor call; its `ValidationError` is raised here. -/
def constructed {Model : Type} [ContractModel Model] (fields : Model) : Runtime σ Model :=
  match construct fields with
  | some model => pure model
  | none => throw .validationError

end Requests

end MiniAgent.Application
