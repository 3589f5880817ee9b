import StarWatch.Telemetry.FileTree
import StarWatch.Telemetry.Filter

/-!
# The log file

A plain copy of the log in `starnotary.log` below a directory of its own. Each
line is stamped with its time and ends with its fields. Control characters that
a terminal would obey are spelled out in the text; a line break is not one of
them.
-/

namespace StarWatch

/-- One message with the block it speaks of. -/
structure LogEntry where
  severity : Severity
  target : String
  text : String
  block : Nat

namespace Severity

/-- The severity in the five columns of a log line. -/
def column (s : Severity) : List Char :=
  let label := s.name.toList.map Char.toUpper
  List.replicate (5 - label.length) ' ' ++ label

end Severity

namespace LogEntry

/-- Spells out a control character; others stand for themselves. -/
def spell (c : Char) : List Char :=
  if [0x07, 0x08, 0x0C, 0x1B, 0x7F].contains c.toNat then
    '\\' :: 'x' :: Numeral.hexPadded 2 c.toNat
  else if 0x80 ≤ c.toNat && c.toNat ≤ 0x9F then
    ['\\', 'u', Char.ofNat 0x7B] ++ Numeral.hexPadded 2 c.toNat ++ [Char.ofNat 0x7D]
  else [c]

def line (e : LogEntry) : String :=
  String.ofList e.severity.column ++ " " ++ e.target ++ ": " ++
    String.ofList (e.text.toList.flatMap spell) ++ " block=" ++ Numeral.decimal e.block

end LogEntry

structure LogFile where
  path : Path
  tree : FileTree

namespace LogFile

def name : String := "starnotary.log"

def refuse (path : String) (e : FileError) : TelemetryError := .logFile (path ++ ": " ++ e.message)

/-- Opens the log file below a directory, which is created if it is missing. -/
def openIn (tree : FileTree) (directory : String) : Except TelemetryError LogFile := do
  let text := Path.join directory name
  let (tree, directoryPath) ← (tree.makeDirectory directory).mapError (refuse directory)
  let (tree, path) ← (tree.openFile directoryPath name text).mapError (refuse text)
  return { path, tree }

def write (f : LogFile) (time : String) (e : LogEntry) : LogFile :=
  { f with tree := f.tree.append f.path (time ++ " " ++ e.line ++ "\n") }

def content (f : LogFile) : String := (f.tree.content? f.path).getD ""

end LogFile

end StarWatch
