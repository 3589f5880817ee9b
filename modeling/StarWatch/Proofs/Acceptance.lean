import StarWatch.Proofs.Blanks
import StarWatch.Proofs.Numerals
import StarWatch.Proofs.Run

/-!
# Which settings are accepted

What an environment must give is a list of requirements, each of one variable,
in the order of their reports. `Reads` says of a part of the reading that it
succeeds with a value of some kind when its requirements are met, and else
complains about the first that is not. Parts that follow each other keep this,
so it is shown for each part and then holds of the whole.
-/

namespace StarWatch

/-- A variable is set to a value that is not blank. -/
def Environment.Gives (env : Environment) (name v : String) : Prop :=
  env name = some v ∧ ∃ c ∈ v.toList, Text.isBlank c = false

/-- A variable that holds a number below a bound. -/
structure NumberVariable where
  name : String
  bound : Nat
  default : Nat

namespace NumberVariable

def depth : NumberVariable := ⟨"SNL_CONFIRMATION_BLOCKS", 2 ^ 64, 12⟩

def pollSeconds : NumberVariable := ⟨"SNL_CONFIRMATION_SLEEP_SECONDS", 2 ^ 64, 15⟩

def buffer : NumberVariable := ⟨"SNL_SUBSCRIPTION_BUFFER", 2 ^ 64, 256⟩

def tcpPort : NumberVariable := ⟨"SNL_API_PORT", 2 ^ 16, 8080⟩

def timeoutSeconds : NumberVariable := ⟨"SNL_API_TIMEOUT_SECONDS", 2 ^ 64, 10⟩

def keepaliveSeconds : NumberVariable := ⟨"SNL_KEEPALIVE_SECONDS", 2 ^ 64, 30⟩

/-- The number that a variable stands for: its default where it is unset or blank, and else the
number of its digits, with blanks around them and a plus sign in front or not. -/
inductive Holds (x : NumberVariable) (env : Environment) : Nat → Prop
  | byDefault (unfilled : ∀ v, ¬ env.Gives x.name v) : Holds x env x.default
  | byDigits {v : String} {n : Nat} (given : env.Gives x.name v)
      (denotes : Numeral.Denotes (Text.trim v.toList) n) (small : n < x.bound) : Holds x env n

end NumberVariable

structure Requirement where
  name : String
  Met : Environment → Prop

namespace Requirement

def given (name : String) : Requirement := ⟨name, fun env => ∃ v, env.Gives name v⟩

def address (name : String) : Requirement :=
  ⟨name, fun env => ∃ v a, env.Gives name v ∧ Address.parse v = .ok a⟩

def number (x : NumberVariable) : Requirement := ⟨x.name, fun env => ∃ n, x.Holds env n⟩

def websocket (name : String) : Requirement :=
  ⟨name, fun env => ∃ v, env.Gives name v ∧
    ("ws://".toList <+: Text.trim v.toList ∨ "wss://".toList <+: Text.trim v.toList)⟩

def nonzero (x : NumberVariable) : Requirement := ⟨x.name, fun env => ∀ n, x.Holds env n → n ≠ 0⟩

end Requirement

/-- A complaint is about a variable: that it is missing, if nothing is given, or else invalid. -/
def SettingError.IsAbout (e : SettingError) (env : Environment) (name : String) : Prop :=
  (∃ v reason, env.Gives name v ∧ e = .invalid name reason) ∨
    (∀ v, ¬ env.Gives name v) ∧ e = .missing name

/-- A complaint is about the first of some requirements that is not met. -/
def FirstUnmet (env : Environment) (requirements : List Requirement) (e : SettingError) : Prop :=
  ∃ earlier unmet later, requirements = earlier ++ unmet :: later ∧
    (∀ r ∈ earlier, r.Met env) ∧ ¬ unmet.Met env ∧ e.IsAbout env unmet.name

/-- A reading succeeds with a value of some kind if its requirements are met, and else complains
about the first that is not. -/
inductive Reads {α : Type} (env : Environment) (requirements : List Requirement)
    (Kind : α → Prop) : Except SettingError α → Prop
  | accepted {a : α} (met : ∀ r ∈ requirements, r.Met env) (kind : Kind a) :
      Reads env requirements Kind (.ok a)
  | refused {e : SettingError} (first : FirstUnmet env requirements e) :
      Reads env requirements Kind (.error e)

section Readings

variable {α β : Type} {env : Environment} {r : Requirement} {requirements : List Requirement}
  {Kind : α → Prop} {Kind' : β → Prop} {x : Except SettingError α}

theorem FirstUnmet.here {e : SettingError} (unmet : ¬ r.Met env) (about : e.IsAbout env r.name) :
    FirstUnmet env (r :: requirements) e :=
  ⟨[], r, requirements, rfl, by simp, unmet, about⟩

theorem FirstUnmet.there {e : SettingError} (met : r.Met env)
    (first : FirstUnmet env requirements e) : FirstUnmet env (r :: requirements) e := by
  obtain ⟨earlier, unmet, later, split, passed, fails, about⟩ := first
  refine ⟨r :: earlier, unmet, later, ?_, List.forall_mem_cons.mpr ⟨met, passed⟩, fails, about⟩
  rw [split, List.cons_append]

theorem Reads.cons (met : r.Met env) (reads : Reads env requirements Kind x) :
    Reads env (r :: requirements) Kind x := by
  cases reads with
  | accepted others kind => exact .accepted (List.forall_mem_cons.mpr ⟨met, others⟩) kind
  | refused first => exact .refused (first.there met)

/-- One requirement is read, and then the others. -/
theorem Reads.bind {f : α → Except SettingError β} (reads : Reads env [r] Kind x)
    (goes_on : ∀ a, Kind a → Reads env requirements Kind' (f a)) :
    Reads env (r :: requirements) Kind' (x >>= f) := by
  cases reads with
  | accepted met kind => exact (goes_on _ kind).cons (met r List.mem_cons_self)
  | refused first =>
    obtain ⟨earlier, unmet, later, split, _, fails, about⟩ := first
    cases earlier with
    | nil =>
      cases split
      exact .refused (.here fails about)
    | cons _ rest =>
      have short := congrArg List.length split
      simp at short

/-- A check refuses what does not meet its requirement. -/
theorem Reads.guard {bad : Prop} [Decidable bad] {e : SettingError}
    (meaning : bad ↔ ¬ r.Met env) (about : bad → e.IsAbout env r.name)
    (goes_on : ¬ bad → Reads env requirements Kind x) :
    Reads env (r :: requirements) Kind (if bad then .error e else x) := by
  split
  · rename_i refused
    exact .refused (.here (meaning.mp refused) (about refused))
  · rename_i passed
    exact (goes_on passed).cons (not_not.mp fun unmet => passed (meaning.mpr unmet))

end Readings

/-- What stops the opening of streams is the ledger. -/
theorem Reactor.subscribeTo_error {openStream : EventKind → Except LedgerError Stream}
    {kinds : List EventKind} {r : Reactor} {e : PipelineError}
    (failed : (subscribeTo openStream kinds r).1 = .error e) : ∃ cause, e = .ledger cause := by
  obtain ⟨_, _, opening⟩ := r.subscribeTo_opening openStream kinds
  rw [failed] at opening
  cases opening with
  | upTo => exact ⟨_, rfl⟩

namespace ListenerSettings

section Variables

variable {env : Environment} {name v : String}

theorem filled?_eq_some_iff : filled? env name = some v ↔ env.Gives name v := by
  simp only [filled?, Option.filter_eq_some_iff, Environment.Gives, Bool.not_eq_true']
  rw [Text.allBlank_eq_false_iff]

theorem filled?_eq_none_iff : filled? env name = none ↔ ∀ v, ¬ env.Gives name v := by
  simp only [← filled?_eq_some_iff, ← Option.eq_none_iff_forall_ne_some]

theorem gives_unique {v' : String} (given : env.Gives name v) (given' : env.Gives name v') :
    v = v' :=
  Option.some.inj (given.1.symm.trans given'.1)

theorem reads_required :
    Reads env [.given name] (fun v => env.Gives name v) (required env name) := by
  simp only [required]
  cases filled : filled? env name with
  | some v =>
    have given := filled?_eq_some_iff.mp filled
    exact .accepted (List.forall_mem_singleton.mpr ⟨v, given⟩) given
  | none =>
    have missing := filled?_eq_none_iff.mp filled
    exact .refused (.here (not_exists.mpr missing) (.inr ⟨missing, rfl⟩))

theorem reads_addressIn :
    Reads env [.address name] (fun a => ∃ v, env.Gives name v ∧ Address.parse v = .ok a)
      (addressIn env name) := by
  simp only [addressIn, required]
  cases filled : filled? env name with
  | none =>
    have missing := filled?_eq_none_iff.mp filled
    refine .refused (.here ?_ (.inr ⟨missing, rfl⟩))
    rintro ⟨v, _, given, _⟩
    exact missing v given
  | some v =>
    have given := filled?_eq_some_iff.mp filled
    cases read : Address.parse v with
    | ok a =>
      simp only [bind, Except.bind, read]
      exact .accepted (List.forall_mem_singleton.mpr ⟨v, a, given, read⟩) ⟨v, given, read⟩
    | error e =>
      simp only [bind, Except.bind, read]
      refine .refused (.here ?_ (.inl ⟨v, e.message, given, rfl⟩))
      rintro ⟨v', a, given', read'⟩
      cases gives_unique given given'
      cases read.symm.trans read'

theorem numberOr_unfilled (unfilled : ∀ v, ¬ env.Gives name v) (bound default : Nat) :
    numberOr env name bound default = .ok default := by
  simp only [numberOr, filled?_eq_none_iff.mpr unfilled]

theorem numberOr_given (given : env.Gives name v) (bound default : Nat) :
    numberOr env name bound default =
      (Numeral.readBelow bound (Text.trim v.toList)).mapError fun e =>
        .invalid name e.message := by
  simp only [numberOr, filled?_eq_some_iff.mpr given]
  cases Numeral.readBelow bound (Text.trim v.toList) with
  | ok | error => rfl

section Numbers

variable {x : NumberVariable} (positive : 0 < x.bound)
include positive

theorem numberOr_eq_ok_iff {n : Nat} :
    numberOr env x.name x.bound x.default = .ok n ↔ x.Holds env n := by
  by_cases unfilled : ∀ v, ¬ env.Gives x.name v
  · rw [numberOr_unfilled unfilled]
    constructor
    · intro read
      cases read
      exact .byDefault unfilled
    · intro holds
      cases holds with
      | byDefault => rfl
      | byDigits given => exact absurd given (unfilled _)
  · obtain ⟨v, given⟩ := not_forall_not.mp unfilled
    have digits : Numeral.readBelow x.bound (Text.trim v.toList) = .ok n ↔ _ :=
      Numeral.readBelow_eq_ok_iff positive
    rw [numberOr_given given]
    constructor
    · intro read
      cases found : Numeral.readBelow x.bound (Text.trim v.toList) with
      | error e =>
        rw [found] at read
        cases read
      | ok m =>
        rw [found] at read
        cases read
        obtain ⟨denotes, small⟩ := digits.mp found
        exact .byDigits given denotes small
    · intro holds
      cases holds with
      | byDefault none_given => exact absurd given (none_given v)
      | byDigits given' denotes small =>
        cases gives_unique given given'
        rw [digits.mpr ⟨denotes, small⟩]
        rfl

theorem holds_unique {n m : Nat} (holds : x.Holds env n) (holds' : x.Holds env m) : n = m := by
  have read := (numberOr_eq_ok_iff positive).mpr holds
  have read' := (numberOr_eq_ok_iff positive).mpr holds'
  exact Except.ok.inj (read.symm.trans read')

theorem reads_numberOr :
    Reads env [.number x] (x.Holds env) (numberOr env x.name x.bound x.default) := by
  cases read : numberOr env x.name x.bound x.default with
  | ok n =>
    have holds := (numberOr_eq_ok_iff positive).mp read
    exact .accepted (List.forall_mem_singleton.mpr ⟨n, holds⟩) holds
  | error e =>
    apply Reads.refused
    apply FirstUnmet.here
    · rintro ⟨n, holds⟩
      cases read.symm.trans ((numberOr_eq_ok_iff positive).mpr holds)
    · by_cases unfilled : ∀ v, ¬ env.Gives x.name v
      · rw [numberOr_unfilled unfilled] at read
        cases read
      · obtain ⟨v, given⟩ := not_forall_not.mp unfilled
        rw [numberOr_given given] at read
        cases found : Numeral.readBelow x.bound (Text.trim v.toList) with
        | ok n =>
          rw [found] at read
          cases read
        | error reason =>
          rw [found] at read
          cases read
          exact .inl ⟨v, _, given, rfl⟩

end Numbers

end Variables

def valueRequirements : List Requirement :=
  [.websocket "SNL_RPC_WS_URL", .nonzero .pollSeconds, .nonzero .buffer, .nonzero .timeoutSeconds]

/-- The requirements of a listener, in the order of their reports. -/
def requirements : List Requirement :=
  [.given "SNL_RPC_WS_URL", .address "SNL_CONTRACT_ADDRESS",
    .number .depth, .number .pollSeconds, .number .buffer, .number .tcpPort,
    .number .timeoutSeconds, .number .keepaliveSeconds] ++ valueRequirements

structure Reflects (env : Environment) (s : ListenerSettings) : Prop where
  endpoint : ∃ v, env.Gives "SNL_RPC_WS_URL" v ∧ s.endpoint = Text.trimmed v
  contract : ∃ v, env.Gives "SNL_CONTRACT_ADDRESS" v ∧ Address.parse v = .ok s.contract
  depth : NumberVariable.depth.Holds env s.depth
  pollSeconds : NumberVariable.pollSeconds.Holds env s.pollSeconds
  buffer : NumberVariable.buffer.Holds env s.buffer
  host : s.api.host = hostIn env
  tcpPort : NumberVariable.tcpPort.Holds env s.api.tcpPort
  timeoutSeconds : NumberVariable.timeoutSeconds.Holds env s.api.timeoutSeconds
  keepalive : ∃ n, NumberVariable.keepaliveSeconds.Holds env n ∧
    s.keepaliveSeconds = if n = 0 then none else some n

structure Works (s : ListenerSettings) : Prop where
  pollSeconds : s.pollSeconds ≠ 0
  buffer : s.buffer ≠ 0
  timeoutSeconds : s.api.timeoutSeconds ≠ 0

section Checks

variable {env : Environment} {s : ListenerSettings}

theorem isWebsocket_iff {endpoint : String} : isWebsocket endpoint = true ↔
    "ws://".toList <+: endpoint.toList ∨ "wss://".toList <+: endpoint.toList := by
  simp only [isWebsocket, Bool.or_eq_true, List.isPrefixOf_iff_prefix]

theorem not_isWebsocket_iff (reflects : s.Reflects env) :
    (!isWebsocket s.endpoint) = true ↔ ¬ (Requirement.websocket "SNL_RPC_WS_URL").Met env := by
  obtain ⟨v, given, same⟩ := reflects.endpoint
  have text : s.endpoint.toList = Text.trim v.toList := by
    rw [same, Text.trimmed, String.toList_ofList]
  rw [Bool.not_eq_true', ← Bool.not_eq_true, isWebsocket_iff, text]
  apply not_congr
  constructor
  · intro scheme
    exact ⟨v, given, scheme⟩
  · rintro ⟨v', given', scheme⟩
    cases gives_unique given given'
    exact scheme

/-- A number that is zero has been given, where the default is none. -/
theorem isAbout_zero {x : NumberVariable} {n : Nat} (usual : x.default ≠ 0) (holds : x.Holds env n)
    (zero : n = 0) (reason : String) :
    SettingError.IsAbout (.invalid x.name reason) env x.name := by
  cases holds with
  | byDefault => exact absurd zero usual
  | byDigits given => exact .inl ⟨_, reason, given, rfl⟩

theorem zero_iff {x : NumberVariable} {n : Nat} (positive : 0 < x.bound) (holds : x.Holds env n) :
    n = 0 ↔ ¬ (Requirement.nonzero x).Met env := by
  constructor
  · intro zero met
    exact met n holds zero
  · intro unmet
    by_contra nonzero
    apply unmet
    intro m holds'
    rw [← holds_unique positive holds holds']
    exact nonzero

theorem reads_check (reflects : s.Reflects env) :
    Reads env valueRequirements (fun _ => s.Reflects env ∧ s.Works) (check s) := by
  obtain ⟨v, given, _⟩ := reflects.endpoint
  have positive : (0 : Nat) < 2 ^ 64 := by decide
  refine .guard (not_isWebsocket_iff reflects) (fun _ => .inl ⟨v, _, given, rfl⟩) fun _ => ?_
  refine .guard (zero_iff positive reflects.pollSeconds)
    (isAbout_zero (by decide) reflects.pollSeconds · _) fun pollSeconds => ?_
  refine .guard (zero_iff positive reflects.buffer)
    (isAbout_zero (by decide) reflects.buffer · _) fun buffer => ?_
  refine .guard (zero_iff positive reflects.timeoutSeconds)
    (isAbout_zero (by decide) reflects.timeoutSeconds · _) fun timeoutSeconds => ?_
  exact .accepted (by simp) ⟨reflects, pollSeconds, buffer, timeoutSeconds⟩

/-- Settings that pass their check are kept. -/
theorem reads_checked (reflects : s.Reflects env) :
    Reads env valueRequirements (fun s => s.Reflects env ∧ s.Works)
      (check s >>= fun _ => pure s) := by
  have checked := reads_check reflects
  generalize check s = passed at checked
  cases checked with
  | accepted met kind => exact .accepted met kind
  | refused first => exact .refused first

end Checks

theorem reads_ofEnvironment (env : Environment) :
    Reads env requirements (fun s => s.Reflects env ∧ s.Works) (ofEnvironment env) := by
  have wide : (0 : Nat) < 2 ^ 64 := by decide
  have short : (0 : Nat) < 2 ^ 16 := by decide
  refine .bind reads_required fun endpoint given => ?_
  refine .bind reads_addressIn fun contract parsed => ?_
  refine .bind (@reads_numberOr _ .depth wide) fun depth depth_holds => ?_
  refine .bind (@reads_numberOr _ .pollSeconds wide) fun pollSeconds poll_holds => ?_
  refine .bind (@reads_numberOr _ .buffer wide) fun buffer buffer_holds => ?_
  refine .bind (@reads_numberOr _ .tcpPort short) fun tcpPort port_holds => ?_
  refine .bind (@reads_numberOr _ .timeoutSeconds wide) fun timeout timeout_holds => ?_
  refine .bind (@reads_numberOr _ .keepaliveSeconds wide) fun keepalive keepalive_holds => ?_
  let s : ListenerSettings := {
    endpoint := Text.trimmed endpoint
    contract, depth, pollSeconds, buffer
    api := { host := hostIn env, tcpPort, timeoutSeconds := timeout }
    keepaliveSeconds := if 0 < keepalive then some keepalive else none }
  have reflects : s.Reflects env := by
    refine ⟨⟨endpoint, given, rfl⟩, parsed, depth_holds, poll_holds, buffer_holds, rfl,
      port_holds, timeout_holds, keepalive, keepalive_holds, ?_⟩
    by_cases off : keepalive = 0
    · simp [s, off]
    · simp [s, off, Nat.pos_of_ne_zero off]
  exact reads_checked reflects

/-- Settings that work pass the check that is made before streams are opened, so only the ledger
can refuse them. -/
theorem Works.subscribeAll {s : ListenerSettings} (works : s.Works) :
    s.pipeline.check = .ok () ∧
      ∀ (openStream : EventKind → Except LedgerError Stream) (r : Reactor) (e : PipelineError),
        (r.subscribeAll s.pipeline openStream).1 = .error e → ∃ cause, e = .ledger cause := by
  have passes : s.pipeline.check = .ok () := by
    exact (if_neg works.pollSeconds).trans (if_neg works.buffer)
  refine ⟨passes, ?_⟩
  intro openStream r e failed
  simp only [Reactor.subscribeAll, passes] at failed
  exact r.subscribeTo_error failed

/-- An environment is accepted exactly if it meets all requirements. Then the settings have the
values that it gives, and a listener can run with them; otherwise the complaint is about the first
requirement that is not met. -/
theorem accepted_iff_requirements_met (env : Environment) :
    ((∃ s, ofEnvironment env = .ok s) ↔ ∀ r ∈ requirements, r.Met env) ∧
    (∀ s, ofEnvironment env = .ok s → s.Reflects env ∧ s.Works ∧ s.pipeline.check = .ok () ∧
      ∀ (openStream : EventKind → Except LedgerError Stream) (r : Reactor) (reason : String),
        (r.subscribeAll s.pipeline openStream).1 ≠ .error (.invalidSettings reason)) ∧
    ∀ e, ofEnvironment env = .error e → FirstUnmet env requirements e := by
  have reads := reads_ofEnvironment env
  generalize ofEnvironment env = read at reads
  cases reads with
  | accepted met kind =>
    obtain ⟨reflects, works⟩ := kind
    refine ⟨⟨fun _ => met, fun _ => ⟨_, rfl⟩⟩, ?_, ?_⟩
    · intro s same
      cases same
      obtain ⟨passes, others⟩ := works.subscribeAll
      refine ⟨reflects, works, passes, ?_⟩
      intro openStream r reason failed
      obtain ⟨cause, other⟩ := others openStream r _ failed
      cases other
    · intro e failed
      cases failed
  | refused first =>
    refine ⟨⟨?_, ?_⟩, ?_, ?_⟩
    · rintro ⟨s, accepted⟩
      cases accepted
    · intro met
      obtain ⟨earlier, unmet, later, split, _, fails, _⟩ := first
      exact absurd (met unmet (by simp [split])) fails
    · intro s accepted
      cases accepted
    · intro e same
      cases same
      exact first

/-- Zeros in front do not count, up to the last number of sixteen bits. -/
example : (ofEnvironment fun name =>
    [("SNL_RPC_WS_URL", " ws://node "),
     ("SNL_CONTRACT_ADDRESS", "0x5aAeb6053F3E94C9b9A09f33669435E7Ef1BeAed"),
     ("SNL_API_PORT", " +0065535 ")].lookup name).toOption.map (fun s => s.api.tcpPort) =
    some 65535 := by decide +kernel

end ListenerSettings

end StarWatch
