import StarWatch.Error

/-!
# Pipeline settings

How deep an event must lie before it is confirmed, and how often the watcher
looks. Without a delay between two looks, or without room in the streams, the
watcher cannot run.
-/

namespace StarWatch

/-- Settings of the pipeline: `depth` blocks on top of an event's block confirm it, scans are
`pollSeconds` apart, and each live stream holds `buffer` notifications. -/
structure Settings where
  contract : Address
  depth : Nat
  pollSeconds : Nat
  buffer : Nat

namespace Settings

def defaultDepth : Nat := 12

def defaultPollSeconds : Nat := 15

def defaultBuffer : Nat := 256

/-- Refuses settings that the watcher cannot run with. -/
def check (s : Settings) : Except PipelineError Unit :=
  if s.pollSeconds = 0 then
    .error (.invalidSettings "poll interval must be greater than zero")
  else if s.buffer = 0 then
    .error (.invalidSettings "subscription buffer must be greater than zero")
  else .ok ()

end Settings

end StarWatch
