import StarWatch.Abi

/-!
# Failures

What can go wrong between the ledger, the watcher and the downstream interface,
by cause. `message` gives the wording of each.
-/

namespace StarWatch

inductive LedgerError where
  | connection (reason : String)
  | subscription (kind : EventKind) (reason : String)
  | query (reason : String)
  | blockNotFound (height : Word)
  | decode (reason : String)
deriving DecidableEq

namespace LedgerError

def message : LedgerError → String
  | connection reason => "Ledger connection error: " ++ reason
  | subscription kind reason => "Subscription to " ++ kind.label ++ " failed: " ++ reason
  | query reason => "Ledger query failed: " ++ reason
  | blockNotFound height => "Block " ++ height.decimal ++ " not found"
  | decode reason => "Failed to decode log: " ++ reason

end LedgerError

/-- The payload of a log, as the ledger connection decodes it. -/
def Log.payload (log : Log) : Except LedgerError Payload :=
  match Abi.decode log with
  | .ok p => .ok p
  | .error e => .error (.decode e.message)

inductive NotifyError where
  | transport (route reason : String)
  | status (route : String) (code : Nat)
deriving DecidableEq

namespace NotifyError

def message : NotifyError → String
  | transport route reason => "Request to " ++ route ++ " failed: " ++ reason
  | status route code => route ++ " returned HTTP " ++ Numeral.decimal code

end NotifyError

/-- Failures that stop a scan or the reactor. -/
inductive PipelineError where
  | ledger (e : LedgerError)
  | subscriptionClosed (kind : EventKind)
  | notSubscribed
  | invalidBlockTimestamp (block : Word) (timestamp : UInt64)
  | invalidSettings (reason : String)
deriving DecidableEq

namespace PipelineError

def message : PipelineError → String
  | ledger e => e.message
  | subscriptionClosed kind => "Subscription stream for " ++ kind.label ++ " closed"
  | notSubscribed => "Reactor has no live subscriptions"
  | invalidBlockTimestamp block timestamp =>
    "Block " ++ block.decimal ++ " has invalid timestamp " ++ Numeral.decimal timestamp.toNat
  | invalidSettings reason => "Invalid pipeline configuration: " ++ reason

end PipelineError

end StarWatch
