import StarWatch.Address
import StarWatch.Settings
import StarWatch.Text.Blank

/-!
# Listener settings

The settings of a whole listener, read from its environment. Required variables
come first, then the numbers in the order of the fields, then the checks on
their values; the first complaint is the one that is reported.

A number is a decimal numeral, with a plus sign in front of it or not; blanks
around it do not count, and a blank value stands for the default.
-/

namespace StarWatch

abbrev Environment := String → Option String

inductive SettingError where
  | missing (name : String)
  | invalid (name reason : String)
deriving DecidableEq

namespace SettingError

def message : SettingError → String
  | missing name => "Missing required environment variable " ++ name
  | invalid name reason => "Invalid value for " ++ name ++ ": " ++ reason

end SettingError

/-- Where notices are sent; the host may come with its scheme. -/
structure ApiSettings where
  host : String
  tcpPort : Nat
  timeoutSeconds : Nat
deriving DecidableEq

/-- The settings of a listener. Without `keepaliveSeconds` there are no keepalive requests. -/
structure ListenerSettings where
  endpoint : String
  contract : Address
  depth : Nat
  pollSeconds : Nat
  buffer : Nat
  api : ApiSettings
  keepaliveSeconds : Option Nat
deriving DecidableEq

namespace ListenerSettings

/-- The part of the settings that the pipeline needs. -/
def pipeline (s : ListenerSettings) : Settings :=
  { contract := s.contract, depth := s.depth, pollSeconds := s.pollSeconds, buffer := s.buffer }

/-- The value of a variable, unless it is blank. -/
def filled? (env : Environment) (name : String) : Option String :=
  (env name).filter fun v => !Text.allBlank v

def required (env : Environment) (name : String) : Except SettingError String :=
  match filled? env name with
  | some v => .ok v
  | none => .error (.missing name)

/-- The number in a variable, or its default. -/
def numberOr (env : Environment) (name : String) (bound default : Nat) :
    Except SettingError Nat :=
  match filled? env name with
  | none => .ok default
  | some v =>
    match Numeral.readBelow bound (Text.trim v.toList) with
    | .ok n => .ok n
    | .error e => .error (.invalid name e.message)

def addressIn (env : Environment) (name : String) : Except SettingError Address := do
  match Address.parse (← required env name) with
  | .ok a => .ok a
  | .error e => .error (.invalid name e.message)

def isWebsocket (endpoint : String) : Bool :=
  ("ws://".toList).isPrefixOf endpoint.toList || ("wss://".toList).isPrefixOf endpoint.toList

/-- Refuses settings that the listener cannot run with. -/
def check (s : ListenerSettings) : Except SettingError Unit :=
  if !isWebsocket s.endpoint then
    .error (.invalid "SNL_RPC_WS_URL" "must be a ws:// or wss:// URL")
  else if s.pollSeconds = 0 then
    .error (.invalid "SNL_CONFIRMATION_SLEEP_SECONDS" "must be greater than zero")
  else if s.buffer = 0 then
    .error (.invalid "SNL_SUBSCRIPTION_BUFFER" "must be greater than zero")
  else if s.api.timeoutSeconds = 0 then
    .error (.invalid "SNL_API_TIMEOUT_SECONDS" "must be greater than zero")
  else .ok ()

/-- Reads the settings. Only the host is taken as it stands, even where it is blank. -/
def ofEnvironment (env : Environment) : Except SettingError ListenerSettings := do
  let endpoint ← required env "SNL_RPC_WS_URL"
  let contract ← addressIn env "SNL_CONTRACT_ADDRESS"
  let depth ← numberOr env "SNL_CONFIRMATION_BLOCKS" UInt64.size Settings.defaultDepth
  let pollSeconds ←
    numberOr env "SNL_CONFIRMATION_SLEEP_SECONDS" UInt64.size Settings.defaultPollSeconds
  let buffer ← numberOr env "SNL_SUBSCRIPTION_BUFFER" UInt64.size Settings.defaultBuffer
  let host := (env "SNL_API_HOST").getD "http://localhost"
  let tcpPort ← numberOr env "SNL_API_PORT" UInt16.size 8080
  let timeoutSeconds ← numberOr env "SNL_API_TIMEOUT_SECONDS" UInt64.size 10
  let keepalive ← numberOr env "SNL_KEEPALIVE_SECONDS" UInt64.size 30
  let settings : ListenerSettings := {
    endpoint := Text.trimmed endpoint
    contract, depth, pollSeconds, buffer
    api := { host, tcpPort, timeoutSeconds }
    keepaliveSeconds := if 0 < keepalive then some keepalive else none }
  check settings
  return settings

end ListenerSettings

end StarWatch
