import Mathlib.Control.Lawful
import Mathlib.Data.List.TakeWhile
import StarWatch.Api
import StarWatch.Proofs.Trimming

/-!
# Blank variables

Settings are read through the variables that are filled, so a blank variable is
as good as none. The host is the exception: it is taken as it stands. What is
read depends on the filled variables and the host alone, so a blank host
changes nothing but the host of the settings, and their base address then has
no host in it.
-/

namespace StarWatch

/-- The variables of an environment without one of them. -/
def Environment.unset (env : Environment) (name : String) : Environment :=
  fun other => if other = name then none else env other

namespace ApiSettings

section Hosts

variable {host : String} (blank : Text.allBlank host = true)
include blank

theorem dropSlashes_of_allBlank : dropSlashes host.toList = host.toList := by
  have kept : host.toList.reverse.dropWhile (· = '/') = host.toList.reverse := by
    rw [List.dropWhile_eq_self_iff]
    intro within
    have mem := List.mem_reverse.mp (List.getElem_mem within)
    have space := Text.allBlank_iff.mp blank _ mem
    intro slash
    rw [of_decide_eq_true slash] at space
    exact absurd space (by decide)
  rw [dropSlashes, kept, List.reverse_reverse]

theorem hasScheme_of_allBlank : hasScheme host.toList = false := by
  have each := Text.allBlank_iff.mp blank
  cases chars : host.toList with
  | nil => rfl
  | cons c rest =>
    have space : Text.isBlank c = true := each c (by simp [chars])
    have apart : ('h' == c) = false := by
      rw [beq_eq_false_iff_ne]
      rintro rfl
      exact absurd space (by decide)
    simp [hasScheme, List.isPrefixOf, apart]

/-- With a blank host there is nothing between the scheme and the number. -/
theorem baseUrl_of_allBlank (tcpPort timeoutSeconds : Nat) :
    baseUrl { host, tcpPort, timeoutSeconds } =
      "http://" ++ host ++ ":" ++ Numeral.decimal tcpPort := by
  simp only [baseUrl, dropSlashes_of_allBlank blank, hasScheme_of_allBlank blank,
    String.ofList_toList]
  rfl

end Hosts

theorem baseUrl_localhost (tcpPort timeoutSeconds : Nat) :
    baseUrl { host := "http://localhost", tcpPort, timeoutSeconds } =
      "http://localhost:" ++ Numeral.decimal tcpPort := by
  have authority : String.ofList (dropSlashes "http://localhost".toList) ++ ":" =
      "http://localhost:" := by decide +kernel
  have schemed : hasScheme (dropSlashes "http://localhost".toList) = true := by decide +kernel
  simp only [baseUrl, schemed, if_true, String.empty_append, authority]

end ApiSettings

namespace ListenerSettings

def withHost (host : String) (s : ListenerSettings) : ListenerSettings :=
  { s with api := { s.api with host } }

def hostIn (env : Environment) : String := (env "SNL_API_HOST").getD "http://localhost"

section Reading

variable {env env' : Environment} (same : ∀ name, filled? env' name = filled? env name)
include same

/-- What is read depends on the filled variables and on the host. -/
theorem ofEnvironment_eq : ofEnvironment env' = withHost (hostIn env') <$> ofEnvironment env := by
  have texts : required env' = required env := by
    funext name
    rw [required, required, same]
  have addresses : addressIn env' = addressIn env := by
    funext name
    rw [addressIn, addressIn, texts]
  have numbers : numberOr env' = numberOr env := by
    funext name bound default
    rw [numberOr, numberOr, same]
  rw [ofEnvironment, ofEnvironment, texts, addresses, numbers]
  simp only [map_bind, map_pure]
  rfl

end Reading

/-- Settings are read with the host that is in the environment, or with the default. -/
theorem host_of_read {env : Environment} {s : ListenerSettings} (read : ofEnvironment env = .ok s) :
    s.api.host = hostIn env := by
  have again : ofEnvironment env = withHost (hostIn env) <$> ofEnvironment env :=
    ofEnvironment_eq fun _ => rfl
  rw [read] at again
  have same : s = s.withHost (hostIn env) := Except.ok.inj again
  exact congrArg (fun s => s.api.host) same

section Blanks

variable {env : Environment} {name v : String} (given : env name = some v)
  (blank : Text.allBlank v = true)
include given blank

theorem filled?_unset (other : String) : filled? (env.unset name) other = filled? env other := by
  rw [filled?, filled?, Environment.unset]
  by_cases same : other = name
  · rw [if_pos same, same, given]
    simp [Option.filter, blank]
  · rw [if_neg same]

theorem ofEnvironment_unset :
    ofEnvironment env = withHost (hostIn env) <$> ofEnvironment (env.unset name) :=
  ofEnvironment_eq fun other => (filled?_unset given blank other).symm

/-- Without a value of its own the host is the default one. -/
theorem unset_eq_ok {s : ListenerSettings} (host : name = "SNL_API_HOST")
    (read : ofEnvironment (env.unset name) = .ok s) :
    s.api.host = "http://localhost" ∧ ofEnvironment env = .ok (s.withHost v) := by
  subst host
  have kept : hostIn env = v := by rw [hostIn, given, Option.getD_some]
  constructor
  · exact host_of_read read
  · rw [ofEnvironment_unset given blank, read, kept]
    rfl

theorem ofEnvironment_eq_unset_iff :
    ofEnvironment env = ofEnvironment (env.unset name) ↔
      name ≠ "SNL_API_HOST" ∨ ∃ e, ofEnvironment (env.unset name) = .error e := by
  constructor
  · intro same
    by_cases host : name = "SNL_API_HOST"
    · right
      cases read : ofEnvironment (env.unset name) with
      | error e => exact ⟨e, rfl⟩
      | ok s =>
        obtain ⟨default, kept⟩ := unset_eq_ok given blank host read
        rw [kept, read] at same
        have hosts : v = s.api.host := congrArg (fun s => s.api.host) (Except.ok.inj same)
        rw [hosts, default] at blank
        exact absurd blank (by decide)
    · exact .inl host
  · rintro (other | ⟨e, failed⟩)
    · have sameHost : hostIn env = hostIn (env.unset name) := by
        rw [hostIn, hostIn, Environment.unset, if_neg (Ne.symm other)]
      rw [ofEnvironment_unset given blank, sameHost]
      exact (ofEnvironment_eq fun _ => rfl).symm
    · rw [ofEnvironment_unset given blank, failed]
      rfl

end Blanks

/-- A blank variable is as good as none, except for the host. A blank host is kept, where all else
can be read, and the base address of the interface then has no host. -/
theorem blank_is_unset_but_for_host {env : Environment} {name v : String}
    (given : env name = some v) (blank : Text.allBlank v = true) :
    (ofEnvironment env = ofEnvironment (env.unset name) ↔
      name ≠ "SNL_API_HOST" ∨ ∃ e, ofEnvironment (env.unset name) = .error e) ∧
    (name = "SNL_API_HOST" → ∀ s, ofEnvironment (env.unset name) = .ok s →
      s.api.baseUrl = "http://localhost:" ++ Numeral.decimal s.api.tcpPort ∧
      ofEnvironment env = .ok (s.withHost v) ∧
      (s.withHost v).api.baseUrl =
        "http://" ++ v ++ ":" ++ Numeral.decimal s.api.tcpPort) := by
  refine ⟨ofEnvironment_eq_unset_iff given blank, ?_⟩
  intro host s read
  obtain ⟨default, kept⟩ := unset_eq_ok given blank host read
  refine ⟨?_, kept, ApiSettings.baseUrl_of_allBlank blank _ _⟩
  obtain ⟨endpoint, contract, depth, pollSeconds, buffer, ⟨_, tcpPort, timeout⟩, keepalive⟩ := s
  dsimp only at default
  subst default
  exact ApiSettings.baseUrl_localhost tcpPort timeout

def settingNames : List String :=
  ["SNL_RPC_WS_URL", "SNL_CONTRACT_ADDRESS", "SNL_CONFIRMATION_BLOCKS",
   "SNL_CONFIRMATION_SLEEP_SECONDS", "SNL_SUBSCRIPTION_BUFFER", "SNL_API_HOST", "SNL_API_PORT",
   "SNL_API_TIMEOUT_SECONDS", "SNL_KEEPALIVE_SECONDS"]

/-- The required variables, and a host that is empty. -/
def hostless : Environment := fun name =>
  [("SNL_RPC_WS_URL", "wss://rinkeby.example.io/ws/v3/key"),
   ("SNL_CONTRACT_ADDRESS", "0x5aAeb6053F3E94C9b9A09f33669435E7Ef1BeAed"),
   ("SNL_API_HOST", "")].lookup name

/-- The empty host is kept: notices are sent to an address without a host. -/
theorem hostless_base_address :
    hostless "SNL_API_HOST" = some "" ∧ Text.allBlank "" = true ∧
      ∃ s, ofEnvironment (hostless.unset "SNL_API_HOST") = .ok s ∧
        ofEnvironment hostless = .ok (s.withHost "") ∧
        (s.withHost "").api.baseUrl = "http://:8080" := by
  have given : hostless "SNL_API_HOST" = some "" := rfl
  have blank : Text.allBlank "" = true := by decide
  refine ⟨given, blank, ?_⟩
  cases read : ofEnvironment (hostless.unset "SNL_API_HOST") with
  | error e =>
    have readable : (ofEnvironment (hostless.unset "SNL_API_HOST")).toOption.isSome = true := by
      decide +kernel
    rw [read] at readable
    cases readable
  | ok s =>
    obtain ⟨_, kept, address⟩ := (blank_is_unset_but_for_host given blank).2 rfl s read
    have usual : (ofEnvironment (hostless.unset "SNL_API_HOST")).toOption.map
        (fun s => s.api.tcpPort) = some 8080 := by decide +kernel
    rw [read] at usual
    have tcpPort : s.api.tcpPort = 8080 := Option.some.inj usual
    have text : "http://" ++ "" ++ ":" ++ Numeral.decimal 8080 = "http://:8080" := by
      decide +kernel
    rw [tcpPort, text] at address
    exact ⟨s, rfl, kept, address⟩

/-- Not every variable that is blank counts as unset. -/
theorem blank_host_not_unset :
    ¬ ∀ (env : Environment) (name v : String), name ∈ settingNames → env name = some v →
      Text.allBlank v = true → ofEnvironment env = ofEnvironment (env.unset name) := by
  intro uniform
  have same := uniform hostless "SNL_API_HOST" "" (by decide) rfl (by decide)
  have hosts := congrArg (fun read => read.toOption.map fun s => s.api.host) same
  exact absurd hosts (by decide +kernel)

end ListenerSettings

end StarWatch
