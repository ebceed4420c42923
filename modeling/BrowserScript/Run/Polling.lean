import BrowserScript.Run.Machine

/-!
# Waiting for the page

Lookups that are repeated until they succeed or the time is over, and the conditions a script can
wait for.
-/

namespace BrowserScript.Run

variable {β : Type}

inductive Condition where
  | present (l : Locator)
  | absent (l : Locator)
  | urlIs (url : String)
  | urlContains (part : String)
  deriving DecidableEq, Repr

def Condition.text : Condition → String
  | .present l => s!"{l.text} to be present"
  | .absent l => s!"{l.text} to be absent"
  | .urlIs url => s!"url to be {url}"
  | .urlContains part => s!"url to contain {part}"

def occursIn (part : List Char) : List Char → Bool
  | [] => part.isEmpty
  | c :: rest => part.isPrefixOf (c :: rest) || occursIn part rest

def holds (setup : Setup β) : Condition → Exec β Bool
  | .present l => do
    let found : List ElementRef ← demand setup (.findAll l)
    return !found.isEmpty
  | .absent l => do
    let found : List ElementRef ← demand setup (.findAll l)
    return found.isEmpty
  | .urlIs url => do
    let current : String ← demand setup .currentUrl
    return current == url
  | .urlContains part => do
    let current : String ← demand setup .currentUrl
    return occursIn part.toList current.toList

/-- How often a wait looks at most: with an interval it is over by then. -/
def rounds (setup : Setup β) (timeout : Duration) : Nat :=
  let interval := setup.settings.pollInterval
  if interval = 0 then setup.idleRounds else (timeout + interval - 1) / interval + 1

/-- Waits until it is time to look again, but not beyond the deadline. -/
def waitRound (setup : Setup β) (deadline : Nat) : Exec β Unit := do
  let now := (← get).time.now
  wait setup (min setup.settings.pollInterval (deadline - now))

/-- Looks an element up, at most a given number of times, until it is found or the deadline has
passed. -/
def findBefore (setup : Setup β) (l : Locator) (timeout : Duration) (deadline : Nat) :
    Nat → Exec β ElementRef
  | 0 => do
    stopIfInterrupted
    throw .unfinished
  | n + 1 => do
    stopIfInterrupted
    let reply : Except BrowserError ElementRef ← perform setup (.find l)
    match reply with
    | .ok e => return e
    | .error (.noSuchElement what) =>
      if (← get).time.now < deadline then
        waitRound setup deadline
        findBefore setup l timeout deadline n
      else if timeout = 0 then fail (.browser (.noSuchElement what))
      else fail (.timeout s!"element {l.text}" timeout)
    | .error e => fail (.browser e)

def pollFind (setup : Setup β) (l : Locator) (timeout : Duration) : Exec β ElementRef := do
  findBefore setup l timeout ((← get).time.now + timeout) (rounds setup timeout)

/-- Checks a condition, at most a given number of times, until it holds or the deadline has
passed. -/
def holdsBefore (setup : Setup β) (condition : Condition) (timeout : Duration) (deadline : Nat) :
    Nat → Exec β Unit
  | 0 => do
    stopIfInterrupted
    throw .unfinished
  | n + 1 => do
    stopIfInterrupted
    if ← holds setup condition then return
    if (← get).time.now < deadline then
      waitRound setup deadline
      holdsBefore setup condition timeout deadline n
    else fail (.timeout condition.text timeout)

def waitFor (setup : Setup β) (condition : Condition) (timeout : Duration) : Exec β Unit := do
  holdsBefore setup condition timeout ((← get).time.now + timeout) (rounds setup timeout)

end BrowserScript.Run
