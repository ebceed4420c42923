import BrowserScript.Binding
import BrowserScript.Browser
import BrowserScript.Pacing
import BrowserScript.Timeline

/-!
# The machine that runs scripts

The state of a run and its elementary steps: notes in the log, calls to the browser, waits and
pauses.  Everything that happens is kept in order in a trace.
-/

namespace BrowserScript.Run

structure Settings where
  /-- Whether a session is asked for without a window, unless the script says otherwise. -/
  headless : Bool := true
  /-- How often a wait looks again. -/
  pollInterval : Duration := 250 * Duration.millisecond
  /-- How long lookups and waits may take. -/
  elementTimeout : Duration := 10 * Duration.second
  deriving DecidableEq, Repr

/-- What a run is given and does not change: the actions, the settings, the browser's behaviour,
the clock, the numbers drawn at random, and how often a wait that looks again at once may look in
vain. -/
structure Setup (β : Type) where
  registry : Registry
  settings : Settings
  backend : Backend β
  clock : Clock
  draws : Nat → Nat
  idleRounds : Nat

/-- Where an interrupt is raised that no pause clears. -/
inductive Place where
  /-- While the browser is called. -/
  | call
  /-- Between two looks at the page. -/
  | poll
  /-- At the very end of a pause. -/
  | deadline
  deriving DecidableEq, Repr

inductive Event where
  | log (time : Nat) (entry : Log.Entry)
  | call (time : Nat) (call : Call) (reply : Except BrowserError call.Answer)
  /-- The interrupt is raised and stays so.  One that ends a pause is only logged. -/
  | interrupt (time : Nat) (place : Place)

def Event.time : Event → Nat
  | .log time _ => time
  | .call time .. => time
  | .interrupt time _ => time

structure Machine (β : Type) where
  store : Variables
  browser : β
  sessionOpen : Bool
  active : Option ElementRef
  policy : DelayPolicy
  time : Timeline
  /-- How many numbers have been drawn. -/
  drawn : Nat
  /-- The spans around what is logged. -/
  spans : List Log.Span
  trace : Array Event

inductive Halt where
  | failed (e : ScriptError)
  /-- A wait that looks again at once looked in vain too often. -/
  | unfinished
  deriving DecidableEq, Repr

def Halt.exitStatus : Halt → Int
  | .failed e => e.exitStatus
  | .unfinished => 1

/-- A part of a run: it changes the state and may stop the run. -/
abbrev Exec (β : Type) := ExceptT Halt (StateM (Machine β))

variable {β : Type}

namespace Machine

def start (store : Variables) (browser : β) : Machine β :=
  ⟨store, browser, false, none, .off, .start, 0, [], #[]⟩

def note (m : Machine β) (entry : Log.Entry) : Machine β :=
  { m with trace := m.trace.push (.log m.time.now { entry with spans := m.spans ++ entry.spans }) }

def noteAll (m : Machine β) (entries : List Log.Entry) : Machine β := entries.foldl note m

/-- Goes on to a later moment; an interrupt raised on the way is written down. -/
def passTo (m : Machine β) (time : Timeline) (place : Place) : Machine β :=
  if !m.time.raised && time.raised then
    { m with time, trace := m.trace.push (.interrupt time.now place) }
  else { m with time }

end Machine

def fail {α : Type} (e : ScriptError) : Exec β α := throw (.failed e)

def require {α : Type} : Except ScriptError α → Exec β α
  | .ok a => pure a
  | .error e => fail e

def log (level : Log.Level) (message : String) (fields : List (String × Log.Content)) :
    Exec β Unit :=
  modify fun m => m.note ⟨level, .executor, [], message, fields⟩

def callOn (setup : Setup β) (call : Call) (m : Machine β) :
    Except BrowserError call.Answer × Machine β :=
  let response := setup.backend.answer call m.browser
  let passed := m.time.passTo (m.time.now + response.latency)
  let answered := { m with
    browser := response.next
    trace := m.trace.push (.call m.time.now call response.reply) }
  let later := answered.passTo (if response.raises then passed.raise else passed) .call
  (response.reply, later.noteAll response.notes)

def perform (setup : Setup β) (call : Call) : Exec β (Except BrowserError call.Answer) :=
  modifyGet (callOn setup call)

def demand (setup : Setup β) (call : Call) : Exec β call.Answer := do
  match ← perform setup call with
  | .ok a => pure a
  | .error e => fail (.browser e)

/-- Waits to the end, interrupted or not. -/
def wait (setup : Setup β) (d : Duration) : Exec β Unit :=
  modify fun m => m.passTo (m.time.wait setup.clock d) .poll

def pauseOn (setup : Setup β) (d : Duration) (m : Machine β) : Machine β :=
  let (finished, time) := m.time.pause setup.clock d
  let later := m.passTo time .deadline
  if finished then later else later.note DelayPolicy.interruptedNote

def sampleOn (setup : Setup β) (policy : DelayPolicy) (m : Machine β) : Duration × Machine β :=
  (policy.sample (setup.draws m.drawn),
    { m with drawn := if policy.isRandom then m.drawn + 1 else m.drawn })

def paceOn (setup : Setup β) (m : Machine β) : Machine β :=
  let (d, m) := sampleOn setup m.policy m
  if d = 0 then m else pauseOn setup d m

def stopIfInterrupted : Exec β Unit := do
  if (← get).time.raised then
    log .warn "stopping the run after an interrupt" []
    fail (.exit 1)

end BrowserScript.Run
