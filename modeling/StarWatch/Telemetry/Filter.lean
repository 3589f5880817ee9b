import StarWatch.Telemetry.Settings
import StarWatch.Text.Alphanumeric

/-!
# Level filters

A filter is a list of directives between commas: a level for everything, a
target with its level, or a target alone, which lets everything of it through.
The canonical text lists longer targets first, targets of one length in
descending order, and the level for everything last; of two directives with one
target the later counts.
-/

namespace StarWatch

inductive Severity where
  | error
  | warn
  | info
  | debug
  | trace
deriving DecidableEq

namespace Severity

def name : Severity → String
  | error => "error"
  | warn => "warn"
  | info => "info"
  | debug => "debug"
  | trace => "trace"

end Severity

/-- The least serious lines that pass; `none` lets nothing pass. -/
abbrev Level := Option Severity

namespace Level

def all : List Level :=
  [none, some .error, some .warn, some .info, some .debug, some .trace]

def name : Level → String
  | none => "off"
  | some severity => severity.name

def read? (cs : List Char) : Option Level :=
  match Numeral.readBelow UInt64.size cs with
  | .ok n => all[n]?
  | .error _ => all.find? fun level => level.name.toList == cs.map Char.toLower

end Level

/-- A level for a target, or for everything. -/
structure Directive where
  target : Option (List Char)
  level : Level
deriving DecidableEq

inductive DirectiveError where
  | form
  | level
deriving DecidableEq

def DirectiveError.message : DirectiveError → String
  | form => "invalid filter directive"
  | level =>
    "error parsing level filter: expected one of \"off\", \"error\", \"warn\", \"info\", " ++
      "\"debug\", \"trace\", or a number 0-5"

namespace Directive

def canStart (c : Char) : Bool := Text.isAlphanumeric c || c = '-' || c = ':' || c = '_'

/-- Reads one directive. Its form is that of the text without the blanks around it, and its
parts are cut from the text as it stands. A bracket has no place in a target; behind the
equals sign it is part of the word that should be a level. -/
def read (cs : List Char) : Except DirectiveError Directive :=
  let form := Text.trim cs
  if !(form.head?.any canStart) || (form.takeWhile (· != '=')).contains '[' then .error .form
  else if form.contains '=' then
    let size := (form.takeWhile (· != '=')).length
    let target := some (cs.take size)
    match cs.drop (size + 1) with
    | [] => .ok { target, level := some .trace }
    | word =>
      match Level.read? word with
      | some level => .ok { target, level }
      | none => .error .level
  else
    match Level.read? cs with
    | some level => .ok { target := none, level }
    | none => .ok { target := some cs, level := some .trace }

def text (d : Directive) : List Char :=
  match d.target with
  | none => d.level.name.toList
  | some target => target ++ '=' :: d.level.name.toList

/-- Bytes of a target; no target is less than an empty one. -/
def targetSize : Option (List Char) → Nat
  | none => 0
  | some target => (String.ofList target).utf8ByteSize + 1

def isBefore (a b : Option (List Char)) : Bool :=
  if targetSize a = targetSize b then (b.getD []) < (a.getD []) else targetSize b < targetSize a

/-- Puts a directive to its place among directives in order; it replaces one of its target. -/
def place (d : Directive) : List Directive → List Directive
  | [] => [d]
  | x :: rest =>
    if x.target = d.target then d :: rest
    else if isBefore d.target x.target then d :: x :: rest
    else x :: place d rest

end Directive

/-- Directives in their canonical order. -/
structure LevelFilter where
  directives : List Directive
deriving DecidableEq

namespace LevelFilter

def parts (cs : List Char) : List (List Char) :=
  (cs.splitOn ',').filter fun part => !part.isEmpty

/-- Reads a filter; one without directives is empty. -/
def read (text : String) : Except DirectiveError LevelFilter := do
  let directives ← (parts text.toList).mapM Directive.read
  return ⟨directives.foldl (fun placed d => Directive.place d placed) []⟩

def text (f : LevelFilter) : String :=
  String.ofList (List.intercalate [','] (f.directives.map Directive.text))

/-- The filter of a process: an override counts if it can be read. -/
def choose (override : Option String) (levels : String) : Except TelemetryError LevelFilter :=
  match override.bind fun text => (read text).toOption with
  | some filter => .ok filter
  | none => (read levels).mapError fun e => .settings e.message

end LevelFilter

end StarWatch
