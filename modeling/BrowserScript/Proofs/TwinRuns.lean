import BrowserScript.Proofs.Twins

/-!
# Runs with and without interrupts

Every step takes twins to twins, because it reads the clock only to compare it with a deadline that
it has set itself.  So a run whose interrupts all fall into pauses cannot be told from the run
without them.
-/

namespace BrowserScript.Run

variable {β : Type}

namespace Steady

variable {p s : Nat} {setup : Setup β}

/-! ### Waiting for the page -/

theorem findBefore (hclock : setup.clock.Periodic p) (l : Locator) (timeout : Duration)
    (deadline k : Nat) :
    Steady p (Twin p s) (Twin p s) (findBefore setup l timeout deadline k)
      (findBefore setup l timeout (deadline + s) k) := by
  induction k with
  | zero => exact bind stopIfInterrupted fun _ => halt _
  | succ k ih =>
    refine bind stopIfInterrupted fun _ => bind (perform _) fun reply => ?_
    cases reply with
    | ok e => exact done
    | error e =>
      cases e with
      | noSuchElement what =>
        refine chooseBefore deadline ?_ (ite (fail _) (fail _))
        exact bind (waitRound hclock deadline) fun _ => ih
      | _ => exact fail _

theorem pollFind (hclock : setup.clock.Periodic p) (l : Locator) (timeout : Duration) :
    Mirrors p s (pollFind setup l timeout) := by
  let find (now : Nat) := Run.findBefore setup l timeout (now + timeout) (rounds setup timeout)
  refine read (·.time.now) (· + s) (fun _ _ h => h.time.now) (f := find) fun now => ?_
  dsimp only [find]
  rw [Nat.add_right_comm now s]
  exact findBefore hclock l timeout (now + timeout) _

theorem seek (hclock : setup.clock.Periodic p) (l : Locator) (timeout : Duration) :
    Mirrors p s (seek setup l timeout) :=
  bind (pollFind hclock l timeout) fun e => activate e

theorem holds (c : Condition) : Mirrors p s (holds setup c) := by
  cases c with
  | present l => exact bind (demand _) fun _ => done
  | absent l => exact bind (demand _) fun _ => done
  | urlIs url => exact bind (demand _) fun _ => done
  | urlContains part => exact bind (demand _) fun _ => done

theorem holdsBefore (hclock : setup.clock.Periodic p) (c : Condition) (timeout : Duration)
    (deadline k : Nat) :
    Steady p (Twin p s) (Twin p s) (holdsBefore setup c timeout deadline k)
      (holdsBefore setup c timeout (deadline + s) k) := by
  induction k with
  | zero => exact bind stopIfInterrupted fun _ => halt _
  | succ k ih =>
    refine bind stopIfInterrupted fun _ => bind (holds c) fun found => ?_
    cases found with
    | true => exact done
    | false =>
      refine chooseBefore deadline ?_ (fail _)
      exact bind (waitRound hclock deadline) fun _ => ih

theorem waitFor (hclock : setup.clock.Periodic p) (c : Condition) (timeout : Duration) :
    Mirrors p s (waitFor setup c timeout) := by
  let check (now : Nat) := Run.holdsBefore setup c timeout (now + timeout) (rounds setup timeout)
  refine read (·.time.now) (· + s) (fun _ _ h => h.time.now) (f := check) fun now => ?_
  dsimp only [check]
  rw [Nat.add_right_comm now s]
  exact holdsBefore hclock c timeout (now + timeout) _

/-! ### The handlers -/

theorem assign (name text : String) : Mirrors p s (assign name text : Exec β Unit) := by
  refine change (fun _ => rfl) fun m n h => ?_
  exact ⟨by rw [h.store], h.browser, h.sessionOpen, h.active, h.policy, h.drawn, h.time, h.calls⟩

theorem assignDefault (name text : String) :
    Mirrors p s (assignDefault name text : Exec β Bool) := by
  refine changeGet (fun _ => rfl) fun m n h => ⟨by rw [h.store], ?_⟩
  exact ⟨by rw [h.store], h.browser, h.sessionOpen, h.active, h.policy, h.drawn, h.time, h.calls⟩

theorem adopt (policy : DelayPolicy) : Mirrors p s (adopt policy : Exec β Unit) := by
  refine change (fun m => interruptsIn_note m _) fun m n h => ?_
  have hnote := h.note policy.changeNote policy.changeNote
  exact ⟨h.store, h.browser, h.sessionOpen, h.active, rfl, h.drawn, h.time, hnote.calls⟩

theorem leavePage (call : Call) : Mirrors p s (leavePage setup call) := by
  refine bind (demand call) fun _ => change (fun _ => rfl) fun m n h => ?_
  exact ⟨h.store, h.browser, h.sessionOpen, rfl, h.policy, h.drawn, h.time, h.calls⟩

theorem startSession (name : String) (options : List String) :
    Mirrors p s (startSession setup name options) := by
  refine bind (demand _) fun _ => change (fun _ => rfl) fun m n h => ?_
  exact ⟨h.store, h.browser, rfl, h.active, h.policy, h.drawn, h.time, h.calls⟩

theorem endSession : Mirrors p s (endSession setup) := by
  refine bind (change (fun _ => rfl) fun m n h => ?_) fun _ => bind (demand _) fun _ => done
  exact ⟨h.store, h.browser, rfl, rfl, h.policy, h.drawn, h.time, h.calls⟩

theorem openBrowser (bound : Bound) : Mirrors p s (openBrowser setup bound) := by
  refine bind (require _) fun name => choose (fun _ _ h => h.sessionOpen) ?_ ?_
  · refine bind (log _ _ _) fun _ => bind endSession fun _ => bind (log _ _ _) fun _ => ?_
    exact startSession _ _
  · exact bind (log _ _ _) fun _ => startSession _ _

theorem store (bound : Bound) (label text : String) :
    Mirrors p s (store bound label text : Exec β Unit) := by
  unfold Run.store
  split
  · exact bind (log _ _ _) fun _ => assign _ _
  · exact log _ _ _

/-- Every handler but the one that pauses keeps the clocks as far apart as they are. -/
theorem handle_mirrors (hclock : setup.clock.Periodic p) (bound : Bound) {h : Handler}
    (hsleep : h ≠ .sleep) : Mirrors p s (handle setup bound h) := by
  cases h with
  | debug | info | warning | error =>
    rw [handle]
    exact log _ _ _
  | set =>
    rw [handle]
    refine bind (require _) fun name => bind (require _) fun value => ?_
    exact bind (log _ _ _) fun _ => assign name value
  | default =>
    rw [handle]
    refine bind (require _) fun name => bind (require _) fun value => ?_
    exact bind (assignDefault name value) fun written => ite (log _ _ _) done
  | delay =>
    rw [handle]
    exact bind (require _) fun text => bind (require _) fun policy => adopt policy
  | sleep => exact absurd rfl hsleep
  | browser =>
    rw [handle]
    exact openBrowser bound
  | close =>
    rw [handle]
    exact bind requireSession fun _ => endSession
  | visit =>
    rw [handle]
    refine bind requireSession fun _ => bind (require _) fun url => ?_
    exact bind (log _ _ _) fun _ => leavePage _
  | back | forward | refresh =>
    rw [handle]
    exact bind requireSession fun _ => leavePage _
  | select =>
    rw [handle]
    refine bind requireSession fun _ => bind (require _) fun l => ?_
    exact bind (seek hclock l _) fun _ => log _ _ _
  | focused =>
    rw [handle]
    exact bind requireSession fun _ => bind (demand _) fun e => activate e
  | click =>
    rw [handle]
    have hclick : Mirrors p s (Run.activeElement >>= fun e => do
        let _ : Unit ← Run.demand setup (.click e)) :=
      bind activeElement fun e => bind (demand _) fun _ => done
    refine bind requireSession fun _ => ite ?_ hclick
    exact bind (require _) fun l => bind (seek hclock l _) fun _ => hclick
  | write =>
    rw [handle]
    refine bind requireSession fun _ => bind activeElement fun e => ?_
    exact bind (demand _) fun _ => done
  | press =>
    rw [handle]
    refine bind requireSession fun _ => bind activeElement fun e => bind (require _) fun text => ?_
    exact bind (demand _) fun _ => done
  | waitTill =>
    rw [handle]
    refine bind requireSession fun _ => bind (require _) fun c => ?_
    exact bind (waitFor hclock c _) fun _ => log _ _ _
  | script =>
    rw [handle]
    exact bind requireSession fun _ => bind (demand _) fun result => store _ _ _
  | url =>
    rw [handle]
    exact bind requireSession fun _ => bind (demand _) fun url => store _ _ _
  | windows =>
    rw [handle]
    exact bind requireSession fun _ => bind (demand _) fun handles => log _ _ _
  | timeouts =>
    rw [handle]
    exact bind requireSession fun _ => bind (demand _) fun _ => done

theorem handle (hclock : setup.clock.Periodic p) (bound : Bound) (h : Handler) :
    Steady p (Twin p s) (Twins p) (handle setup bound h) (handle setup bound h) := by
  by_cases hsleep : h = .sleep
  · subst hsleep
    rw [Run.handle]
    refine bind (require _) fun text => bind (require _) fun range => ?_
    refine bind (sample _) fun d => bind (log _ _ _) fun _ => ?_
    exact pause hclock d
  · exact (handle_mirrors hclock bound hsleep).weaken fun m n hmn => ⟨s, hmn⟩

theorem step (hclock : setup.clock.Periodic p) (i : Instruction) :
    Steady p (Twin p s) (Twins p) (step setup i) (step setup i) := by
  rw [Run.step]
  cases setup.registry.get? i.action with
  | none => exact fail _
  | some action =>
    let dispatch (vars : Variables) : Exec β Unit := do
      let args ← Run.require (expandAll vars i.args)
      let bound ← Run.require (Binding.bind vars action args)
      Run.log .trace "dispatch"
        [("action", .shown action.name), ("args", .shown (Text.quotedList args))]
      Run.handle setup bound action.handler
    refine read (·.store) id (fun _ _ h => h.store) (f := dispatch) fun vars => ?_
    refine bind (require _) fun args => bind (require _) fun bound => ?_
    exact bind (log _ _ _) fun _ => handle hclock bound action.handler

theorem interruptibleStep (hclock : setup.clock.Periodic p) (i : Instruction) :
    Steady p (Twin p s) (Twins p) (interruptibleStep setup i) (interruptibleStep setup i) := by
  refine bind (step hclock i) fun _ => ⟨(stopIfInterrupted (p := p) (s := 0)).grows, ?_⟩
  rintro m n ⟨s', h⟩
  exact (stopIfInterrupted.weaken fun _ _ h' => ⟨s', h'⟩).ends m n h

end Steady

/-! ### Whole runs -/

variable {p : Nat} {setup : Setup β} {m n : Machine β}

theorem Twins.pace (h : Twins p m n) (hclock : setup.clock.Periodic p) :
    Disturbed m (paceOn setup m) ∨ Twins p (paceOn setup m) (paceOn setup n) := by
  obtain ⟨s, h⟩ := h
  obtain ⟨hd, hsample⟩ := h.sample setup m.policy
  rw [paceOn_eq, paceOn_eq, h.policy, hd]
  split
  · exact .inr ⟨s, hsample⟩
  · exact hsample.pause hclock _

theorem Twins.report (h : Twins p m n) (e : ScriptError) :
    Twins p (reportOn e m) (reportOn e n) := by
  obtain ⟨s, h⟩ := h
  unfold reportOn
  split
  · exact ⟨s, h⟩
  · exact ⟨s, h.note _ _⟩
  · exact ⟨s, h.note _ _⟩

theorem interruptsIn_reportOn (e : ScriptError) (m : Machine β) :
    interruptsIn (reportOn e m).events = interruptsIn m.events := by
  unfold reportOn
  split
  · rfl
  · exact interruptsIn_note m _
  · exact interruptsIn_note m _

theorem Twins.settle (h : Twins p m n) (hclock : setup.clock.Periodic p)
    (outcome : Except Halt Unit) :
    Disturbed m (settleOn setup m outcome) ∨
      Twins p (settleOn setup m outcome) (settleOn setup n outcome) := by
  match outcome with
  | .ok () => exact h.pace hclock
  | .error .unfinished => exact .inr h
  | .error (.failed e) =>
    rw [settleOn, settleOn]
    split
    · obtain hlost | htwins := (h.report e).pace hclock
      · rw [Disturbed, interruptsIn_reportOn] at hlost
        exact .inl hlost
      · exact .inr htwins
    · exact .inr (h.report e)

theorem Twins.runInstruction (h : Twins p m n) (hclock : setup.clock.Periodic p)
    (i : Instruction) :
    Disturbed m (runInstruction setup i m).2 ∨
      Alike p (Twins p) (runInstruction setup i m) (runInstruction setup i n) := by
  have hspans : ∀ {m n : Machine β}, Twins p m n → ∀ spans spans' : List Log.Span,
      Twins p { m with spans } { n with spans := spans' } := by
    rintro m n ⟨s, h⟩ spans spans'
    exact ⟨s, h.store, h.browser, h.sessionOpen, h.active, h.policy, h.drawn, h.time, h.calls⟩
  obtain ⟨s, hentered⟩ := hspans h (m.spans ++ [instructionSpan i]) (n.spans ++ [instructionSpan i])
  have hsteady : Steady p (Twin p s) (Twins p) (interruptibleStep setup i) _ :=
    .interruptibleStep hclock i
  have hgrows := hsteady.grows { m with spans := m.spans ++ [instructionSpan i] }
  have hstep := hsteady.ends _ _ hentered
  rw [Run.runInstruction, Run.runInstruction]
  rcases hm : interruptibleStep setup i { m with spans := m.spans ++ [instructionSpan i] } with
    ⟨outcome, m'⟩
  rcases hn : interruptibleStep setup i { n with spans := n.spans ++ [instructionSpan i] } with
    ⟨outcome', n'⟩
  rw [hm] at hgrows
  rw [hm, hn, alike_twins_iff] at hstep
  rw [alike_twins_iff]
  obtain hlost | ⟨rfl, htwins⟩ := hstep
  · exact .inl (hlost.before (settleOn_grows setup m' outcome))
  · obtain hlost | hsettled := htwins.settle hclock outcome'
    · exact .inl (Nat.lt_of_le_of_lt hgrows hlost)
    · exact .inr ⟨rfl, hspans hsettled _ _⟩

theorem Twins.runInstructions (h : Twins p m n) (hclock : setup.clock.Periodic p)
    (script : List Instruction) :
    Disturbed m (runInstructions setup script m).2 ∨
      Alike p (Twins p) (runInstructions setup script m) (runInstructions setup script n) := by
  induction script generalizing m n with
  | nil => exact .inr ⟨rfl, h⟩
  | cons i rest ih =>
    obtain ⟨s, htwin⟩ := id h
    have hm := htwin.time.lowered
    have hn := htwin.time.calm_lowered
    have hgrows := ((grows_invariant setup m.events).runInstruction i (List.prefix_refl _) hm).both
    have hfirst := h.runInstruction hclock i
    rcases hmi : Run.runInstruction setup i m with ⟨halt | _, m'⟩
    · rw [hmi] at hfirst
      rw [runInstructions_of_error rest hm hmi]
      refine hfirst.imp_right fun halike => ?_
      rcases hni : Run.runInstruction setup i n with ⟨halt' | _, n'⟩
      · rw [hni] at halike
        rw [runInstructions_of_error rest hn hni]
        exact halike
      · rw [hni] at halike
        nomatch halike
    · rw [hmi] at hfirst hgrows
      rw [runInstructions_of_ok rest hm hmi]
      obtain hlost | halike := hfirst
      · exact .inl (hlost.before (runInstructions_grows setup rest m'))
      · rcases hni : Run.runInstruction setup i n with ⟨halt' | _, n'⟩
        · rw [hni] at halike
          nomatch halike
        · rw [hni] at halike
          rw [runInstructions_of_ok rest hn hni]
          exact (ih halike.2).imp_left (.after hgrows)

theorem Twins.release (h : Twins p m n) (setup : Setup β) :
    Disturbed m (release setup m) ∨ Twins p (release setup m) (release setup n) := by
  obtain ⟨s, h⟩ := h
  have hsession := h.sessionOpen
  cases hopen : m.sessionOpen with
  | true =>
    rw [hopen] at hsession
    have hclosed : Twin p s { m with sessionOpen := false, active := none }
        { n with sessionOpen := false, active := none } :=
      ⟨h.store, h.browser, rfl, rfl, h.policy, h.drawn, h.time, h.calls⟩
    rw [release_of_open hopen, release_of_open hsession]
    obtain hlost | htwin := hclosed.callOn setup .closeSession
    · rw [Disturbed, interruptsIn_note]
      exact .inl hlost
    · exact .inr ⟨s, htwin.note _ _⟩
  | false =>
    rw [hopen] at hsession
    rw [release_of_closed hopen, release_of_closed hsession]
    exact .inr ⟨s, h⟩

theorem Twins.run (h : Twins p m n) (hclock : setup.clock.Periodic p) (script : List Instruction) :
    Disturbed m (run setup script m).2 ∨
      (run setup script n).1 = (run setup script m).1 ∧
        Twins p (run setup script m).2 (run setup script n).2 := by
  have hgrows := runInstructions_grows setup script m
  have hran := h.runInstructions hclock script
  rw [alike_twins_iff] at hran
  rw [Run.run, Run.run]
  obtain hlost | ⟨houtcome, htwins⟩ := hran
  · exact .inl (hlost.before (release_grows setup _))
  · obtain hlost | hreleased := htwins.release setup
    · exact .inl (.after hgrows hlost)
    · exact .inr ⟨houtcome, hreleased⟩

/-- A browser that finds the element at the fourth look, and a run that looks more often than once
in a millisecond. -/
def impatient (clock : Clock) : Setup Nat where
  registry := .standard
  settings := { pollInterval := 300000 }
  backend := ⟨fun
    | .openSession .., looks => ⟨.ok (), looks, 0, false, []⟩
    | .closeSession, looks => ⟨.ok (), looks, 0, false, []⟩
    | .find l, looks =>
      ⟨if looks < 3 then .error (.noSuchElement l.text) else .ok ⟨l.value⟩, looks + 1, 0, false, []⟩
    | _, looks => ⟨.error .notConnected, looks, 0, false, []⟩⟩
  clock
  draws _ := 0
  idleRounds := 0

def dozing : List Instruction :=
  [⟨"script", 1, "browser", ["firefox"]⟩, ⟨"script", 2, "sleep", ["5ms"]⟩,
   ⟨"script", 3, "select", ["#late", "--timeout", "2ms"]⟩]

def alarmed (policy : DelayPolicy) (upcoming : List Nat) : Machine Nat :=
  { Machine.start .empty 0 with policy, time := ⟨0, false, upcoming⟩ }

/-- On a clock with ticks an interrupt between two of them shows: the lookup that comes after the
pause starts between ticks too, and has time for a fourth look. -/
example :
    (run (impatient .millisecond) dozing (alarmed .off [500000])).1.isOk = true ∧
    (run (impatient .millisecond) dozing (alarmed .off [])).1.isOk = false := by
  decide +kernel

end BrowserScript.Run
