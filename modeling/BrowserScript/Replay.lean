import BrowserScript.Program

/-!
# Replays

The program as a function of what has happened so far: the replies that have come in, each with the
time it took, and the interrupts.  The first request without a reply takes forever, so everything
before that moment is settled, whatever the reply will be.
-/

namespace BrowserScript

structure Replay where
  /-- The replies still to be given. -/
  known : List (ServerReply × Duration)
  /-- The first request without a reply. -/
  asked : Option Request := none

namespace Replay

def forever : Duration := Nat.pow 10 40

def exchange (request : Request) (s : Replay) : Exchange Replay :=
  match s.asked, s.known with
  | none, (reply, latency) :: known => { reply, next := { s with known }, latency }
  | none, [] => { reply := .nothing, next := { s with asked := some request }, latency := forever }
  | some _, _ => { reply := .nothing, next := s }

def server : Server Replay := ⟨exchange⟩

def isSettled (time : Nat) : Bool := time < forever

def settledMessages (ending : Program.Ending Replay) : List Program.Message :=
  ending.messages.filter (isSettled ·.time)

/-- The time of the last settled call: the request without a reply is part of it. -/
def lastCallTime (trace : List Run.Event) : Nat :=
  trace.foldl (fun last e => match e with
    | .call time .. => if isSettled time then time else last
    | .log .. | .interrupt .. => last) 0

end Replay

end BrowserScript
