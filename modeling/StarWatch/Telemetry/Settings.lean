import StarWatch.Listener

/-!
# Telemetry settings

How the watcher reports on itself, read from its environment. No value is
refused here: a flag is set by `true` in any case or by `1`, and by nothing
else. In a container the log lines are JSON unless a flag says otherwise.
-/

namespace StarWatch

structure TelemetrySettings where
  service : String
  levels : String
  jsonLines : Bool
  showSource : Bool
  directory : Option String
deriving DecidableEq

namespace TelemetrySettings

def isSet (flag : String) : Bool := flag.toList.map Char.toLower == "true".toList || flag == "1"

def inContainer (env : Environment) : Bool :=
  (env "KUBERNETES_SERVICE_HOST").isSome || (env "DOCKER_CONTAINER").isSome

def ofEnvironment (env : Environment) : TelemetrySettings where
  service := (env "SNL_SERVICE_NAME").getD "star-notary-listener"
  levels := ((env "SNL_LOG_LEVEL").orElse fun _ => env "RUST_LOG").getD "info"
  jsonLines := ((env "SNL_JSON_LOGS").map isSet).getD (inContainer env)
  showSource := ((env "SNL_LOG_SOURCE").map isSet).getD false
  directory := ListenerSettings.filled? env "SNL_LOG_PATH"

end TelemetrySettings

inductive TelemetryError where
  | subscriber (reason : String)
  | logFile (reason : String)
  | metrics (reason : String)
  | settings (reason : String)
deriving DecidableEq

namespace TelemetryError

def message : TelemetryError → String
  | subscriber reason => "Failed to initialize tracing subscriber: " ++ reason
  | logFile reason => "Failed to open log file: " ++ reason
  | metrics reason => "Failed to encode metrics: " ++ reason
  | settings reason => "Invalid configuration: " ++ reason

end TelemetryError

end StarWatch
