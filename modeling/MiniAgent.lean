import MiniAgent.Application.BindingProvenance
import MiniAgent.Application.BoundedResult
import MiniAgent.Application.CodecCanonicity
import MiniAgent.Application.Commands
import MiniAgent.Application.DeterministicRenderer
import MiniAgent.Application.EncodingOrder
import MiniAgent.Application.EvidenceOrder
import MiniAgent.Application.GateTrace
import MiniAgent.Application.NativeJson
import MiniAgent.Application.OriginalError
import MiniAgent.Application.TerminalCommands
import MiniAgent.Bootstrap
import MiniAgent.Core.ControlGateway
import MiniAgent.Core.FrozenJson
import MiniAgent.Core.Memory
import MiniAgent.Core.OrderIdForms
import MiniAgent.Core.ReducerTotality
import MiniAgent.Core.RegistryConsistency
import MiniAgent.Core.SourceTokens
import MiniAgent.Core.Trace
import MiniAgent.Evaluation.PayloadBoundary
import MiniAgent.Evaluation.RendererFacts
import MiniAgent.Evaluation.ReplayRuns
import MiniAgent.Evaluation.SafeObservables
import MiniAgent.Evaluation.SingleUse
import MiniAgent.Infrastructure.ClosureCompleteness
import MiniAgent.Infrastructure.EndedRuns
import MiniAgent.Infrastructure.ExactRunClosure
import MiniAgent.Infrastructure.InsertOnlyPorts
import MiniAgent.Infrastructure.LostUpdates
import MiniAgent.Infrastructure.OwnerLoads
import MiniAgent.Infrastructure.ReorderJson
import MiniAgent.Infrastructure.SpanRecheck
import MiniAgent.Infrastructure.TaskHistories
import MiniAgent.Library.Coroutine
import MiniAgent.Library.Saturation
