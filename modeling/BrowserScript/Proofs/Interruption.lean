import BrowserScript.Proofs.Invariants

/-!
# Interrupts that stop a run

An interrupt that is raised outside every pause stays up until the step that it falls into is over:
in the rest of the step nothing is looked up, and nothing clears it.  So the look at the interrupt
after the step finds it, unless the step has failed anyway, and no later instruction is started.
-/

namespace BrowserScript

def Call.looksUp : Call → Bool
  | .find _ | .findAll _ | .currentUrl => true
  | _ => false

theorem Timeline.raised_passTo {t : Timeline} (h : t.raised = true) (time : Nat) :
    (t.passTo time).raised = true := by
  unfold Timeline.passTo
  split
  · exact h
  · simp [h]

namespace Run

variable {β : Type}

namespace Event

/-- Whether an event is an interrupt raised outside every pause: while the browser is called or
between two looks at the page. -/
def isAlarm : Event → Bool
  | .interrupt _ .call => true
  | .interrupt _ .poll => true
  | _ => false

def isLookup : Event → Bool
  | .call _ made _ => made.looksUp
  | _ => false

/-- Whether an event can come between steps: a log entry, or an interrupt at the end of a pause. -/
def isAside : Event → Bool
  | .log .. => true
  | .interrupt _ .deadline => true
  | _ => false

theorem isAside_of_isLog {e : Event} (h : e.isLog = true) : e.isAside = true := by
  cases e with
  | log time entry => rfl
  | call time made reply => nomatch h
  | interrupt time place => nomatch h

theorem not_isAlarm_of_isAside {e : Event} (h : e.isAside = true) : e.isAlarm = false := by
  cases e with
  | log time entry => rfl
  | call time made reply => rfl
  | interrupt time place => cases place <;> first | rfl | nomatch h

theorem not_isLookup_of_isAside {e : Event} (h : e.isAside = true) : e.isLookup = false := by
  cases e with
  | log time entry => rfl
  | call time made reply => nomatch h
  | interrupt time place => rfl

end Event

theorem answeredIn_asides {events : List Event} (h : ∀ e ∈ events, e.isAside = true) :
    answeredIn events = [] := by
  rw [answeredIn, List.filterMap_eq_nil_iff]
  intro e he
  cases e with
  | log time entry => rfl
  | call time call reply => exact absurd (h _ he) (by simp [Event.isAside])
  | interrupt time place => rfl

/-! ### The interrupt within a step -/

theorem raised_answerTime (setup : Setup β) (call : Call) {m : Machine β}
    (h : m.time.raised = true) : (answerTime setup call m).raised = true := by
  unfold answerTime
  dsimp only
  split
  · rfl
  · exact Timeline.raised_passTo h _

theorem not_isLookup_of_mem_raisedOn {t t' : Timeline} {place : Place} {e : Event}
    (h : e ∈ raisedOn t t' place) : e.isLookup = false := by
  obtain ⟨-, -, rfl⟩ := mem_raisedOn.mp h
  rfl

theorem isAside_of_mem_afterPause {setup : Setup β} {d : Duration} {m : Machine β} {e : Event}
    (h : e ∈ afterPause setup d m) : e.isAside = true := by
  obtain h | h := List.mem_append.mp h
  · obtain ⟨-, -, rfl⟩ := mem_raisedOn.mp h
    rfl
  · split at h
    · nomatch h
    · exact Event.isAside_of_isLog (Machine.isLog_of_mem_logged h)

theorem not_isLookup_of_mem_afterCall {setup : Setup β} {call : Call} {m : Machine β} {e : Event}
    (h : e ∈ afterCall setup call m) : e.isLookup = false := by
  obtain h | h := List.mem_append.mp h
  · exact not_isLookup_of_mem_raisedOn h
  · exact Event.not_isLookup_of_isAside (Event.isAside_of_isLog (Machine.isLog_of_mem_logged h))

theorem raised_of_alarm_afterCall {setup : Setup β} {call : Call} {m : Machine β} {e : Event}
    (h : e ∈ afterCall setup call m) (halarm : e.isAlarm = true) :
    (answerTime setup call m).raised = true := by
  obtain h | h := List.mem_append.mp h
  · exact (mem_raisedOn.mp h).2.1
  · have haside := Event.isAside_of_isLog (Machine.isLog_of_mem_logged h)
    rw [Event.not_isAlarm_of_isAside haside] at halarm
    nomatch halarm

/-- Since some moment, an interrupt raised outside every pause is still up, and nothing was looked
up after it. -/
def Alert (base : List Event) (m : Machine β) : Prop :=
  ∃ events, m.events = base ++ events ∧ (∀ e ∈ events, e.isAlarm = true → m.time.raised = true) ∧
    events.Pairwise fun e e' => e.isAlarm = true → e'.isLookup = false

namespace Alert

variable {base : List Event} {m m' : Machine β}

theorem start (m : Machine β) : Alert m.events m := ⟨[], by simp, by simp, .nil⟩

theorem extend (h : Alert base m) {more : List Event} (hevents : m'.events = m.events ++ more)
    (hkeep : m.time.raised = true → m'.time.raised = true)
    (hraise : ∀ e ∈ more, e.isAlarm = true → m'.time.raised = true)
    (hmore : more.Pairwise fun e e' => e.isAlarm = true → e'.isLookup = false)
    (hlook : m.time.raised = true → ∀ e ∈ more, e.isLookup = false) : Alert base m' := by
  obtain ⟨events, hbase, hup, hpairs⟩ := h
  refine ⟨events ++ more, by rw [hevents, hbase, List.append_assoc], ?_, ?_⟩
  · intro e he halarm
    obtain he | he := List.mem_append.mp he
    · exact hkeep (hup e he halarm)
    · exact hraise e he halarm
  · refine List.pairwise_append.mpr ⟨hpairs, hmore, ?_⟩
    intro e he e' he' halarm
    exact hlook (hup e he halarm) e' he'

/-- Events from between steps change nothing. -/
theorem asides (h : Alert base m) {more : List Event} (hevents : m'.events = m.events ++ more)
    (hkeep : m.time.raised = true → m'.time.raised = true)
    (hmore : ∀ e ∈ more, e.isAside = true) : Alert base m' := by
  have hlook : ∀ e ∈ more, e.isLookup = false :=
    fun e he => Event.not_isLookup_of_isAside (hmore e he)
  refine h.extend hevents hkeep ?_ ?_ fun _ => hlook
  · intro e he halarm
    rw [Event.not_isAlarm_of_isAside (hmore e he)] at halarm
    nomatch halarm
  · exact List.pairwise_of_forall_mem_list fun e _ e' he' _ => hlook e' he'

theorem quiet (h : Alert base m) (hquiet : Quiet m m') : Alert base m' := by
  obtain ⟨logs, hevents, hlogs⟩ := hquiet.trace
  refine h.asides hevents ?_ fun e he => Event.isAside_of_isLog (hlogs e he)
  rw [hquiet.time]
  exact id

/-- A call, if it is no lookup or the interrupt is not up. -/
theorem call (h : Alert base m) (setup : Setup β) (call : Call)
    (hlook : m.time.raised = true → call.looksUp = false) :
    Alert base (callOn setup call m).2 := by
  have hafter : ∀ e ∈ afterCall setup call m, e.isLookup = false :=
    fun e => not_isLookup_of_mem_afterCall
  have htime : (callOn setup call m).2.time = answerTime setup call m := by rw [callOn_snd]
  refine h.extend (callOn_events setup call m) ?_ ?_ ?_ ?_
  · rw [htime]
    exact raised_answerTime setup call
  · intro e he halarm
    rw [htime]
    obtain rfl | he := List.mem_cons.mp he
    · nomatch halarm
    · exact raised_of_alarm_afterCall he halarm
  · exact .cons (fun e he _ => hafter e he)
      (List.pairwise_of_forall_mem_list fun e _ e' he' _ => hafter e' he')
  · intro hraised e he
    obtain rfl | he := List.mem_cons.mp he
    · exact hlook hraised
    · exact hafter e he

/-- Only the trace and the time matter. -/
theorem of_eq (h : Alert base m) (hevents : m'.events = m.events) (htime : m'.time = m.time) :
    Alert base m' := by
  obtain ⟨events, hbase, hup, hpairs⟩ := h
  refine ⟨events, hevents.trans hbase, ?_, hpairs⟩
  rw [htime]
  exact hup

theorem move {setup : Setup β} (h : Alert base m) (hmove : Move setup m m') : Alert base m' := by
  -- Inside a session, only a call that uses an element is made while the interrupt is up, and that
  -- is no lookup.
  have hlive : ∀ call, m.Live → Alert base (callOn setup call m).2 := by
    intro call hlive
    refine h.call setup call fun hraised => ?_
    rw [hlive.2] at hraised
    nomatch hraised
  cases hmove with
  | quiet hquiet => exact h.quiet hquiet
  | poll d =>
    refine h.extend (m.passTo_events _ _) ?_ ?_ ?_ ?_
    · rw [Machine.passTo_eq]
      exact fun hraised => Timeline.raised_passTo hraised _
    · rw [Machine.passTo_eq]
      exact fun e he _ => (mem_raisedOn.mp he).2.1
    · exact List.pairwise_of_forall_mem_list fun e _ e' he' _ => not_isLookup_of_mem_raisedOn he'
    · exact fun _ e he => not_isLookup_of_mem_raisedOn he
  | rest d hdown =>
    refine h.asides (pauseOn_events setup d m) ?_ fun e => isAside_of_mem_afterPause
    rw [hdown]
    exact nofun
  | ask call hm _ => exact hlive call hm
  | leave call a hm _ _ => exact (hlive call hm).of_eq rfl rfl
  | find l hm =>
    exact (hlive (.find l) hm).of_eq (takeElement_events _) (takeElement_time _)
  | focus hm =>
    exact (hlive .activeElement hm).of_eq (takeElement_events _) (takeElement_time _)
  | use call e _ _ hcall =>
    refine h.call setup call fun _ => ?_
    cases call <;> first | rfl | nomatch hcall
  | start name options hclosed =>
    have hopened := h.call setup (.openSession name options) fun _ => rfl
    exact hopened.of_eq (takeSession_events _) (takeSession_time _)
  | finish hm =>
    have hended : Alert base { m with sessionOpen := false, active := none } := h.of_eq rfl rfl
    exact hended.call setup .closeSession fun _ => rfl

theorem halts {setup : Setup β} (h : Alert base m) (hhalts : Halts setup m m') :
    Alert base m' := by
  have hmoves : ∀ {m'}, Moves setup m m' → Alert base m' := by
    intro m' hmoves
    induction hmoves with
    | refl => exact h
    | tail _ hmove ih => exact ih.move hmove
  cases hhalts with
  | after h₁ => exact hmoves h₁
  | leave call e h₁ hlive hcall hreply =>
    refine (hmoves h₁).call setup call fun hraised => ?_
    rw [hlive.2] at hraised
    nomatch hraised

end Alert

/-- A step that starts with the interrupt lowered keeps alert, and it is not given up while the
interrupt is up. -/
theorem stepInSpan_alert {setup : Setup β} {i : Instruction} {m m' : Machine β}
    {outcome : Except Halt Unit} (hdown : m.time.raised = false)
    (h : stepInSpan setup i m = (outcome, m')) :
    Alert m.events m' ∧ (m'.time.raised = true → outcome ≠ .error .unfinished) := by
  let entered : Machine β := { m with spans := m.spans ++ [instructionSpan i] }
  have hstart : Alert m.events entered := (Alert.start m).of_eq rfl rfl
  have hends := ((step_goes setup i).ensures entered).ends entered ⟨.refl, hdown⟩
  have hstep : step setup i entered = (outcome, m') := h
  rw [hstep] at hends
  cases outcome with
  | ok _ => exact ⟨hstart.halts (.after hends.1), fun _ => nofun⟩
  | error halt =>
    refine ⟨hstart.halts hends.1, fun hraised hgiven => ?_⟩
    rw [hends.2 (Except.error.inj hgiven)] at hraised
    nomatch hraised

/-! ### Between the steps -/

/-- A change between steps: the browser is not called, the session stays as it is, and the trace
grows by nothing that concerns a step. -/
structure Between (m m' : Machine β) : Prop where
  sessionOpen : m'.sessionOpen = m.sessionOpen
  trace : ∃ more, m'.events = m.events ++ more ∧ ∀ e ∈ more, e.isAside = true

namespace Between

variable {m m' m'' : Machine β}

theorem quiet (h : Quiet m m') : Between m m' := by
  obtain ⟨logs, hevents, hlogs⟩ := h.trace
  exact ⟨h.sessionOpen, logs, hevents, fun e he => Event.isAside_of_isLog (hlogs e he)⟩

theorem refl (m : Machine β) : Between m m := quiet (.of_trace_eq rfl rfl rfl rfl rfl)

theorem trans (h : Between m m') (h' : Between m' m'') : Between m m'' := by
  obtain ⟨more, hevents, hmore⟩ := h.trace
  obtain ⟨more', hevents', hmore'⟩ := h'.trace
  refine ⟨h'.sessionOpen.trans h.sessionOpen, more ++ more', ?_, ?_⟩
  · rw [hevents', hevents, List.append_assoc]
  · exact fun e he => (List.mem_append.mp he).elim (hmore e) (hmore' e)

theorem pause (setup : Setup β) (d : Duration) (m : Machine β) : Between m (pauseOn setup d m) := by
  refine ⟨?_, _, pauseOn_events setup d m, fun e => isAside_of_mem_afterPause⟩
  rw [pauseOn_eq]

theorem pace (setup : Setup β) (m : Machine β) : Between m (paceOn setup m) := by
  have hsample : Between m (sampleOn setup m.policy m).2 := quiet (.of_trace_eq rfl rfl rfl rfl rfl)
  rw [paceOn_eq]
  split
  · exact hsample
  · exact hsample.trans (pause setup _ _)

theorem report (e : ScriptError) (m : Machine β) : Between m (reportOn e m) := by
  unfold reportOn
  split
  · exact refl m
  · exact quiet (.note m _)
  · exact quiet (.note m _)

theorem settle (setup : Setup β) (m : Machine β) (outcome : Except Halt Unit) :
    Between m (settleOn setup m outcome) := by
  match outcome with
  | .ok () => exact pace setup m
  | .error .unfinished => exact refl m
  | .error (.failed e) =>
    change Between m (if e.isDomain then paceOn setup (reportOn e m) else reportOn e m)
    split
    · exact (report e m).trans (pace setup _)
    · exact report e m

theorem calls (h : Between m m') : callsIn m'.events = callsIn m.events := by
  obtain ⟨more, hevents, hmore⟩ := h.trace
  rw [hevents, callsIn_append, callsIn, callsIn, answeredIn_asides hmore, List.map_nil,
    List.append_nil]

end Between

/-- How an instruction ends, given how its step ends and whether the interrupt is up then. -/
def verdict (raised : Bool) : Except Halt Unit → Except Halt Unit
  | .ok () => if raised then .error (.failed (.exit 1)) else .ok ()
  | .error halt => .error halt

/-- An instruction ends as its step and the interrupt say, and after the step it does nothing that
concerns the browser. -/
theorem runInstruction_after_step {setup : Setup β} {i : Instruction} {m m' : Machine β}
    {outcome : Except Halt Unit} (h : stepInSpan setup i m = (outcome, m')) :
    (runInstruction setup i m).1 = verdict m'.time.raised outcome ∧
      Between m' (runInstruction setup i m).2 := by
  have hleave : ∀ m'' : Machine β, Between m'' { m'' with spans := m.spans } :=
    fun _ => .quiet (.of_trace_eq rfl rfl rfl rfl rfl)
  match outcome, h with
  | .error halt, h =>
    rw [runInstruction_of_error h]
    exact ⟨rfl, (Between.settle setup m' _).trans (hleave _)⟩
  | .ok (), h =>
    rw [runInstruction_of_ok h]
    cases hraised : m'.time.raised with
    | true =>
      rw [stopIfInterrupted_of_raised hraised]
      have hnote : Between m' (m'.note stopNote) := .quiet (.note m' _)
      exact ⟨rfl, (hnote.trans (.settle setup _ _)).trans (hleave _)⟩
    | false =>
      rw [stopIfInterrupted_of_lowered hraised]
      exact ⟨rfl, (Between.settle setup m' _).trans (hleave _)⟩

/-! ### Whole runs -/

/-- Where a list is cut in two, an element of it lies before or after the cut. -/
theorem cut_before_or_after {xs ys pre post : List Event} {a : Event}
    (h : xs ++ ys = pre ++ a :: post) :
    (∃ own, xs = pre ++ a :: own) ∨ ∃ mid, pre = xs ++ mid ∧ ys = mid ++ a :: post := by
  obtain ⟨mid, hpre, hys⟩ | ⟨own, hxs, hpost⟩ := List.append_eq_append_iff.mp h
  · exact .inr ⟨mid, hpre, hys⟩
  · cases own with
    | nil => exact .inr ⟨[], by simp [hxs], hpost.symm⟩
    | cons b own =>
      rw [List.cons_append] at hpost
      obtain ⟨rfl, -⟩ := List.cons.inj hpost
      exact .inl ⟨own, hxs⟩

/-- The run of a script from `m` is stopped by the interrupt `alarm`, which is raised after the
events `pre` in the step of the instruction `i`; `m'` is the machine after that step. -/
structure StopsAt (setup : Setup β) (script : List Instruction) (m : Machine β) (pre : List Event)
    (alarm : Event) (before : List Instruction) (i : Instruction) (outcome : Except Halt Unit)
    (m' : Machine β) : Prop where
  instruction : ∃ after, script = before ++ i :: after
  /-- Everything before the instruction succeeds, and then its step is made. -/
  step : ∃ mᵢ, runInstructions setup before m = (.ok (), mᵢ) ∧
    stepInSpan setup i mᵢ = (outcome, m')
  /-- The interrupt is raised in that step, nothing is looked up after it, and it is still up at the
  end. -/
  alarm : ∃ own, m'.events = m.events ++ pre ++ alarm :: own ∧ ∀ e ∈ own, e.isLookup = false
  raised : m'.time.raised = true
  finished : outcome ≠ .error .unfinished
  /-- Whatever instructions come after it, none of them is started. -/
  rest : ∃ m'', Between m' m'' ∧
    ∀ after, runInstructions setup (before ++ i :: after) m = (verdict true outcome, m'')

theorem StopsAt.cons {setup : Setup β} {script before : List Instruction} {i₀ i : Instruction}
    {m m₁ m' : Machine β} {pre pre' : List Event} {alarm : Event} {outcome : Except Halt Unit}
    (hdown : m.time.raised = false) (hfirst : runInstruction setup i₀ m = (.ok (), m₁))
    (hpre : m.events ++ pre = m₁.events ++ pre')
    (h : StopsAt setup script m₁ pre' alarm before i outcome m') :
    StopsAt setup (i₀ :: script) m pre alarm (i₀ :: before) i outcome m' where
  instruction := by
    obtain ⟨after, rfl⟩ := h.instruction
    exact ⟨after, rfl⟩
  step := by
    obtain ⟨mᵢ, hbefore, hstep⟩ := h.step
    exact ⟨mᵢ, by rw [runInstructions_of_ok before hdown hfirst, hbefore], hstep⟩
  alarm := by rw [hpre]; exact h.alarm
  raised := h.raised
  finished := h.finished
  rest := by
    obtain ⟨m'', hbetween, hrun⟩ := h.rest
    refine ⟨m'', hbetween, fun after => ?_⟩
    rw [List.cons_append, runInstructions_of_ok _ hdown hfirst, hrun]

/-- An interrupt raised in the first step stops the run there. -/
theorem StopsAt.head {setup : Setup β} {i : Instruction} {m m' : Machine β} {pre own : List Event}
    {alarm : Event} {outcome : Except Halt Unit} (hdown : m.time.raised = false)
    (halarm : alarm.isAlarm = true) (hstep : stepInSpan setup i m = (outcome, m'))
    (hevents : m'.events = m.events ++ pre ++ alarm :: own) (rest : List Instruction) :
    StopsAt setup (i :: rest) m pre alarm [] i outcome m' := by
  obtain ⟨⟨events, hbase, hup, hpairs⟩, hfinished⟩ := stepInSpan_alert hdown hstep
  obtain rfl : events = pre ++ alarm :: own := by
    rw [hbase, List.append_assoc] at hevents
    exact List.append_cancel_left hevents
  have hraised : m'.time.raised = true := hup alarm (by simp) halarm
  obtain ⟨hverdict, hbetween⟩ := runInstruction_after_step hstep
  rw [hraised] at hverdict
  refine ⟨⟨rest, rfl⟩, ⟨m, rfl, hstep⟩, ⟨own, hevents, ?_⟩, hraised, hfinished hraised, ?_⟩
  · have hown := (List.pairwise_append.mp hpairs).2.1
    exact fun e he => (List.pairwise_cons.mp hown).1 e he halarm
  · refine ⟨_, hbetween, fun after => ?_⟩
    cases outcome with
    | ok _ => exact runInstructions_of_error after hdown (Prod.ext hverdict rfl)
    | error halt => exact runInstructions_of_error after hdown (Prod.ext hverdict rfl)

/-- An interrupt raised outside every pause stops the run at the instruction in whose step it is
raised. -/
theorem stopsAt_of_alarm (setup : Setup β) (script : List Instruction) (m : Machine β)
    {pre post : List Event} {alarm : Event} (halarm : alarm.isAlarm = true)
    (h : (runInstructions setup script m).2.events = m.events ++ pre ++ alarm :: post) :
    ∃ before i outcome m', StopsAt setup script m pre alarm before i outcome m' := by
  induction script generalizing m pre with
  | nil =>
    have hlength := congrArg List.length h
    simp [runInstructions] at hlength
  | cons i rest ih =>
    have haside : ∀ {more : List Event}, (∀ e ∈ more, e.isAside = true) → alarm ∉ more := by
      intro more hmore hmem
      rw [Event.not_isAlarm_of_isAside (hmore alarm hmem)] at halarm
      exact Bool.false_ne_true halarm
    cases hdown : m.time.raised with
    | true =>
      obtain ⟨-, more, hevents, hmore⟩ := Between.quiet (.note m stopNote)
      rw [runInstructions_of_raised setup i rest hdown, hevents, List.append_assoc] at h
      exact absurd (by simp [List.append_cancel_left h]) (haside hmore)
    | false =>
      rcases hstep : stepInSpan setup i m with ⟨outcome, m'⟩
      obtain ⟨⟨events, hbase, hup, -⟩, -⟩ := stepInSpan_alert hdown hstep
      obtain ⟨hverdict, -, more, hevents, hmore⟩ := runInstruction_after_step hstep
      obtain ⟨later, hlater⟩ : (runInstruction setup i m).2.events <+:
          (runInstructions setup (i :: rest) m).2.events := by
        rcases hfirst : runInstruction setup i m with ⟨halt | _, m₁⟩
        · simp [runInstructions_of_error rest hdown hfirst]
        · rw [runInstructions_of_ok rest hdown hfirst]
          exact runInstructions_grows setup rest m₁
      have hsplit : events ++ (more ++ later) = pre ++ alarm :: post := by
        rw [← hlater, hevents, hbase] at h
        simpa using h
      -- The interrupt lies in the step, in the pause after it or in the rest of the run.
      obtain ⟨own, rfl⟩ | ⟨mid, rfl, hmid⟩ := cut_before_or_after hsplit
      · have hown : m'.events = m.events ++ pre ++ alarm :: own := by
          rw [hbase, List.append_assoc]
        exact ⟨[], i, outcome, m', .head hdown halarm hstep hown rest⟩
      · obtain ⟨own, rfl⟩ | ⟨pre', rfl, rfl⟩ := cut_before_or_after hmid
        · exact absurd (by simp) (haside hmore)
        · rcases hfirst : runInstruction setup i m with ⟨halt | _, m₁⟩
          · rw [runInstructions_of_error rest hdown hfirst, hfirst] at hlater
            simp at hlater
          · rw [runInstructions_of_ok rest hdown hfirst, hfirst] at hlater
            rw [hfirst] at hevents
            obtain ⟨before, i', outcome', m'', hstops⟩ :=
              ih m₁ (by rw [← hlater, List.append_assoc])
            refine ⟨i :: before, i', outcome', m'', hstops.cons hdown hfirst ?_⟩
            rw [hevents, hbase]
            simp only [List.append_assoc]

theorem callsIn_release (setup : Setup β) (m : Machine β) :
    callsIn (release setup m).events =
      callsIn m.events ++ if m.sessionOpen then [.closeSession] else [] := by
  cases hopen : m.sessionOpen with
  | true =>
    rw [release_of_open hopen, (Between.quiet (.note _ _ (releaseNote_own _))).calls,
      callsIn_callOn]
    rfl
  | false =>
    rw [release_of_closed hopen]
    exact (List.append_nil _).symm

/-- The error of a run that is stopped in a step: the step's own, or the quiet exit. -/
def errorOf : Except Halt Unit → ScriptError
  | .error (.failed e) => e
  | _ => .exit 1

theorem verdict_eq_errorOf {outcome : Except Halt Unit} (h : outcome ≠ .error .unfinished) :
    verdict true outcome = .error (.failed (errorOf outcome)) := by
  match outcome, h with
  | .ok (), _ => rfl
  | .error (.failed e), _ => rfl
  | .error .unfinished, h => exact absurd rfl h

/-- An interrupt outside every pause stops the run.  If it is up before the first instruction, the
run ends at once.  If it is raised in the step of an instruction, while the browser is called or
between two looks at the page, then nothing is looked up after it in that step, no later instruction
is started, and the run ends in an error: that of the step, or the quiet exit if the step succeeds.
After the step the browser is called only to close an open session. -/
theorem interrupt_stops_run (setup : Setup β) (script : List Instruction) (m : Machine β) :
    (m.time.raised = true → script ≠ [] →
      runInstructions setup script m = (.error (.failed (.exit 1)), m.note stopNote) ∧
      (run setup script m).1 = .error (.failed (.exit 1)) ∧
      callsIn (run setup script m).2.events =
        callsIn m.events ++ if m.sessionOpen then [.closeSession] else []) ∧
    ∀ (pre : List Event) (alarm : Event) (post : List Event), alarm.isAlarm = true →
      (runInstructions setup script m).2.events = m.events ++ pre ++ alarm :: post →
      ∃ (before : List Instruction) (i : Instruction) (after : List Instruction)
        (outcome : Except Halt Unit) (mᵢ m' : Machine β) (own : List Event),
        script = before ++ i :: after ∧ runInstructions setup before m = (.ok (), mᵢ) ∧
        stepInSpan setup i mᵢ = (outcome, m') ∧
        m'.events = m.events ++ pre ++ alarm :: own ∧ (∀ e ∈ own, e.isLookup = false) ∧
        (∀ after', run setup (before ++ i :: after') m = run setup script m) ∧
        (run setup script m).1 = .error (.failed (errorOf outcome)) ∧
        callsIn (run setup script m).2.events =
          callsIn m'.events ++ if m'.sessionOpen then [.closeSession] else [] := by
  refine ⟨fun hraised hscript => ?_, fun pre alarm post halarm h => ?_⟩
  · obtain ⟨i, rest, rfl⟩ := List.exists_cons_of_ne_nil hscript
    have hrun := runInstructions_of_raised setup i rest hraised
    refine ⟨hrun, by rw [run, hrun], ?_⟩
    rw [run, hrun, callsIn_release, (Between.quiet (.note m stopNote)).calls]
    rfl
  · obtain ⟨before, i, outcome, m', hstops⟩ := stopsAt_of_alarm setup script m halarm h
    obtain ⟨after, rfl⟩ := hstops.instruction
    obtain ⟨mᵢ, hbefore, hstep⟩ := hstops.step
    obtain ⟨own, hown, hlook⟩ := hstops.alarm
    obtain ⟨m'', hbetween, hrun⟩ := hstops.rest
    have hrelease : ∀ after', run setup (before ++ i :: after') m =
        (.error (.failed (errorOf outcome)), release setup m'') := by
      intro after'
      rw [run, hrun, verdict_eq_errorOf hstops.finished]
    refine ⟨before, i, after, outcome, mᵢ, m', own, rfl, hbefore, hstep, hown, hlook, ?_, ?_, ?_⟩
    · intro after'
      rw [hrelease, hrelease]
    · rw [hrelease]
    · rw [hrelease, callsIn_release, hbetween.calls, hbetween.sessionOpen]

/-- An action, and a browser with which it succeeds while the user interrupts. -/
def interrupted : Setup Unit where
  registry := ⟨[("back", ⟨"back", .back, []⟩)]⟩
  settings := {}
  backend := ⟨fun
    | .back, _ => ⟨.ok (), (), 0, true, []⟩
    | _, _ => ⟨.error .notConnected, (), 0, false, []⟩⟩
  clock := .millisecond
  draws _ := 0
  idleRounds := 0

theorem interrupt_stops_run_back :
    let m : Machine Unit := { Machine.start .empty () with sessionOpen := true }
    let script : List Instruction := [⟨"script", 1, "back", []⟩, ⟨"script", 2, "back", []⟩]
    (run interrupted script { m with time := m.time.raise }).1 = .error (.failed (.exit 1)) ∧
    ∃ error, (run interrupted script m).1 = .error (.failed error) := by
  intro m script
  have hfirst :=
    (interrupt_stops_run interrupted script { m with time := m.time.raise }).1 rfl nofun
  obtain ⟨_, _, _, outcome, _, _, _, -, -, -, -, -, -, herror, -⟩ :=
    (interrupt_stops_run interrupted script m).2
      ((runInstructions interrupted script m).2.events.take 2) (.interrupt 0 .call)
      ((runInstructions interrupted script m).2.events.drop 3) rfl rfl
  exact ⟨hfirst.2.1, _, herror⟩

end Run

end BrowserScript
