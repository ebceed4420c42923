import BrowserScript.Proofs.Trace

/-!
# The parts of a run as functions of the machine

A part of a run takes a machine to an outcome and a machine.  Each elementary part has one equation
here, so that what is proved about runs never opens the monad that they are written in.
-/

namespace BrowserScript.Run

variable {β α γ : Type}

/-- A sequence goes on from where its first part leaves off, unless that stops the run. -/
theorem bind_apply (x : Exec β α) (f : α → Exec β γ) (m : Machine β) :
    (x >>= f) m = match x m with
      | (.ok a, m') => f a m'
      | (.error h, m') => (.error h, m') := by
  change (ExceptT.bind x f) m = _
  simp only [ExceptT.bind, ExceptT.mk, bind, StateT.bind]
  rcases x m with ⟨_ | a, m'⟩ <;> rfl

theorem bind_apply_ok {x : Exec β α} {f : α → Exec β γ} {m m' : Machine β} {a : α}
    (h : x m = (.ok a, m')) : (x >>= f) m = f a m' := by
  rw [bind_apply, h]

theorem bind_apply_error {x : Exec β α} {f : α → Exec β γ} {m m' : Machine β} {halt : Halt}
    (h : x m = (.error halt, m')) : (x >>= f) m = (.error halt, m') := by
  rw [bind_apply, h]

theorem require_bind_ok (a : α) (f : α → Exec β γ) (m : Machine β) :
    (require (.ok a) >>= f) m = f a m := rfl

theorem get_apply (m : Machine β) : (get : Exec β (Machine β)) m = (.ok m, m) := rfl

theorem perform_apply (setup : Setup β) (call : Call) (m : Machine β) :
    perform setup call m = (.ok (callOn setup call m).1, (callOn setup call m).2) := rfl

theorem demand_apply (setup : Setup β) (call : Call) (m : Machine β) :
    demand setup call m = ((callOn setup call m).1.mapError (.failed ∘ .browser),
      (callOn setup call m).2) := by
  rw [demand, bind_apply, perform_apply]
  cases (callOn setup call m).1 <;> rfl

def stopNote : Log.Entry := ⟨.warn, .executor, [], "stopping the run after an interrupt", []⟩

theorem stopIfInterrupted_of_raised {m : Machine β} (h : m.time.raised = true) :
    (stopIfInterrupted : Exec β Unit) m = (.error (.failed (.exit 1)), m.note stopNote) := by
  rw [stopIfInterrupted, bind_apply_ok (get_apply m), if_pos h]
  rfl

theorem stopIfInterrupted_of_lowered {m : Machine β} (h : m.time.raised = false) :
    (stopIfInterrupted : Exec β Unit) m = (.ok (), m) := by
  rw [stopIfInterrupted, bind_apply_ok (get_apply m), h]
  rfl

theorem requireSession_apply (m : Machine β) :
    (requireSession : Exec β Unit) m =
      if m.sessionOpen then (.ok (), m) else (.error (.failed .noSession), m) := by
  rw [requireSession, bind_apply_ok (get_apply m)]
  cases h : m.sessionOpen <;> rfl

theorem activeElement_apply (m : Machine β) :
    (activeElement : Exec β ElementRef) m =
      match m.active with
      | some e => (.ok e, m)
      | none => (.error (.failed .noElement), m) := by
  rw [activeElement, bind_apply_ok (get_apply m)]
  cases m.active <;> rfl

theorem waitRound_apply (setup : Setup β) (deadline : Nat) (m : Machine β) :
    (waitRound setup deadline : Exec β Unit) m =
      (.ok (), m.passTo (m.time.wait setup.clock
        (min setup.settings.pollInterval (deadline - m.time.now))) .poll) := rfl

theorem paceOn_eq (setup : Setup β) (m : Machine β) :
    paceOn setup m =
      if (sampleOn setup m.policy m).1 = 0 then (sampleOn setup m.policy m).2
      else pauseOn setup (sampleOn setup m.policy m).1 (sampleOn setup m.policy m).2 := rfl

def stepInSpan (setup : Setup β) (i : Instruction) (m : Machine β) :
    Except Halt Unit × Machine β :=
  step setup i { m with spans := m.spans ++ [instructionSpan i] }

/-- A step that succeeds is followed by a look at the interrupt. -/
theorem runInstruction_of_ok {setup : Setup β} {i : Instruction} {m m' : Machine β}
    (h : stepInSpan setup i m = (.ok (), m')) :
    runInstruction setup i m =
      ((stopIfInterrupted m').1,
        { settleOn setup (stopIfInterrupted m').2 (stopIfInterrupted m').1 with
          spans := m.spans }) := by
  have hstep : interruptibleStep setup i { m with spans := m.spans ++ [instructionSpan i] } =
      stopIfInterrupted m' := bind_apply_ok h
  rw [runInstruction, hstep]
  rfl

theorem runInstruction_of_error {setup : Setup β} {i : Instruction} {m m' : Machine β}
    {halt : Halt} (h : stepInSpan setup i m = (.error halt, m')) :
    runInstruction setup i m =
      (.error halt, { settleOn setup m' (.error halt) with spans := m.spans }) := by
  have hstep : interruptibleStep setup i { m with spans := m.spans ++ [instructionSpan i] } =
      (.error halt, m') := bind_apply_error h
  rw [runInstruction, hstep]

theorem runInstructions_of_raised (setup : Setup β) (i : Instruction) (rest : List Instruction)
    {m : Machine β} (h : m.time.raised = true) :
    runInstructions setup (i :: rest) m = (.error (.failed (.exit 1)), m.note stopNote) := by
  rw [runInstructions, stopIfInterrupted_of_raised h]

theorem runInstructions_of_ok {setup : Setup β} {i : Instruction} {m m' : Machine β}
    (rest : List Instruction) (hdown : m.time.raised = false)
    (h : runInstruction setup i m = (.ok (), m')) :
    runInstructions setup (i :: rest) m = runInstructions setup rest m' := by
  rw [runInstructions, stopIfInterrupted_of_lowered hdown]
  dsimp only
  rw [h]

theorem runInstructions_of_error {setup : Setup β} {i : Instruction} {m m' : Machine β}
    {halt : Halt} (rest : List Instruction) (hdown : m.time.raised = false)
    (h : runInstruction setup i m = (.error halt, m')) :
    runInstructions setup (i :: rest) m = (.error halt, m') := by
  rw [runInstructions, stopIfInterrupted_of_lowered hdown]
  dsimp only
  rw [h]

/-- What the log says when the session is closed at the end of a run. -/
def releaseNote : Except BrowserError Unit → Log.Entry
  | .ok _ => ⟨.debug, .executor, [], "browser session released", []⟩
  | .error e => ⟨.warn, .executor, [], s!"closing browser session failed: {e.message}", []⟩

theorem releaseNote_own (reply : Except BrowserError Unit) :
    ((releaseNote reply).origin == .remote) = false := by
  cases reply <;> rfl

theorem release_of_open {setup : Setup β} {m : Machine β} (h : m.sessionOpen = true) :
    release setup m =
      (callOn setup .closeSession { m with sessionOpen := false, active := none }).2.note
        (releaseNote
          (callOn setup .closeSession { m with sessionOpen := false, active := none }).1) := by
  rw [release, if_pos h]
  rcases callOn setup .closeSession { m with sessionOpen := false, active := none } with
    ⟨_ | _, m'⟩ <;> rfl

theorem release_of_closed {setup : Setup β} {m : Machine β} (h : m.sessionOpen = false) :
    release setup m = m := by
  rw [release, h]
  rfl

end BrowserScript.Run
