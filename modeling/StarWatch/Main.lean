import StarWatch.Json.Reader
import StarWatch.Session.Script

/-!
# The command line

Runs the watcher with the settings in the process's environment against the
peers recorded in a script on standard input. Every message that the watcher
sends is printed as one line of JSON, and what stopped it goes to standard
error. Without a script nothing is reachable.
-/

namespace StarWatch.CommandLine

def variableNames : List String :=
  ["RUST_LOG", "KUBERNETES_SERVICE_HOST", "DOCKER_CONTAINER", "SNL_SERVICE_NAME", "SNL_LOG_LEVEL",
   "SNL_JSON_LOGS", "SNL_LOG_SOURCE", "SNL_LOG_PATH", "SNL_RPC_WS_URL", "SNL_CONTRACT_ADDRESS",
   "SNL_CONFIRMATION_BLOCKS", "SNL_CONFIRMATION_SLEEP_SECONDS", "SNL_SUBSCRIPTION_BUFFER",
   "SNL_API_HOST", "SNL_API_PORT", "SNL_API_TIMEOUT_SECONDS", "SNL_KEEPALIVE_SECONDS"]

/-- The TCP number of the downstream interface under the default settings. -/
def defaultTcpPort : Nat := 8080

def run (env : Environment) (script : String) : Session.Transcript :=
  match Json.read? script with
  | some j => (Session.Script.ofJson defaultTcpPort j).run .empty env
  | none => Session.run .empty env none

end StarWatch.CommandLine

def main : IO UInt32 := do
  let values ← StarWatch.CommandLine.variableNames.mapM fun name => return (name, ← IO.getEnv name)
  let script ← (← IO.getStdin).getLine
  let transcript := StarWatch.CommandLine.run (fun name => (values.lookup name).join) script
  for message in transcript.messages do
    IO.println message.toJson.compact
  if transcript.fault.isSome then
    IO.eprintln transcript.report
  return UInt32.ofNat transcript.exitCode
