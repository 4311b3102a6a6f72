import MiniAgent.Core.Common

/-! # Runtime-private authenticated customer context -/

namespace MiniAgent.Core

/-- Trusted identity derived only by a server-side authentication adapter. -/
structure CustomerContext where
  provenance : String := "SERVER_AUTH_ADAPTER"
  subjectRef : String
  customerId : String
  authScopes : List String
  authenticatedAt : Datetime
  sessionRefHash : String
deriving DecidableEq, Repr

instance : ContractModel CustomerContext where
  validates context :=
    context.provenance == "SERVER_AUTH_ADAPTER" && context.subjectRef != "" &&
      context.customerId != "" && context.authScopes.all (· != "") &&
      context.authenticatedAt.requireUtc && context.sessionRefHash != ""

end MiniAgent.Core
