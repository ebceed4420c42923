import BrowserScript.Run.Step

/-!
# Runs

A script runs one instruction after the other and stops at the first error or interrupt.  After
each instruction comes the pause of the current policy.  Whatever happens, an open session is
closed once before the run returns.
-/

namespace BrowserScript.Run

variable {β : Type}

def instructionSpan (i : Instruction) : Log.Span :=
  ⟨"line", .info, .executor, [("source", .text i.source), ("line", .number i.line)]⟩

/-- Logs why a step failed; the quiet end is not logged. -/
def reportOn (e : ScriptError) (m : Machine β) : Machine β :=
  let entry (message : String) : Log.Entry :=
    ⟨.error, .executor, [], message, [("kind", .literal e.kind)]⟩
  match e with
  | .exit _ => m
  | .internal fault => m.note (entry s!"Internal({Text.quoted fault.message})")
  | e => m.note (entry e.message)

/-- The machine after the pause or report that follows a step. -/
def settleOn (setup : Setup β) (m : Machine β) : Except Halt Unit → Machine β
  | .ok () => paceOn setup m
  | .error (.failed e) =>
    let m := reportOn e m
    if e.isDomain then paceOn setup m else m
  | .error .unfinished => m

/-- A step, after which a raised interrupt stops the run. -/
def interruptibleStep (setup : Setup β) (i : Instruction) : Exec β Unit := do
  step setup i
  stopIfInterrupted

def runInstruction (setup : Setup β) (i : Instruction) (m : Machine β) :
    Except Halt Unit × Machine β :=
  let outside := m.spans
  let (outcome, m) := interruptibleStep setup i { m with spans := outside ++ [instructionSpan i] }
  (outcome, { settleOn setup m outcome with spans := outside })

/-- Runs instructions up to the first that fails; a raised interrupt starts none. -/
def runInstructions (setup : Setup β) : List Instruction → Machine β → Except Halt Unit × Machine β
  | [], m => (.ok (), m)
  | i :: rest, m =>
    match (stopIfInterrupted : Exec β Unit) m with
    | (.error halt, m) => (.error halt, m)
    | (.ok (), m) =>
      match runInstruction setup i m with
      | (.error halt, m) => (.error halt, m)
      | (.ok (), m) => runInstructions setup rest m

/-- Closes the session if one is open; a failure is only logged. -/
def release (setup : Setup β) (m : Machine β) : Machine β :=
  if m.sessionOpen then
    let (reply, m) := callOn setup .closeSession { m with sessionOpen := false, active := none }
    match reply with
    | .ok _ => m.note ⟨.debug, .executor, [], "browser session released", []⟩
    | .error e => m.note ⟨.warn, .executor, [], s!"closing browser session failed: {e.message}", []⟩
  else m

def run (setup : Setup β) (instructions : List Instruction) (m : Machine β) :
    Except Halt Unit × Machine β :=
  let (outcome, m) := runInstructions setup instructions m
  (outcome, release setup m)

end BrowserScript.Run
