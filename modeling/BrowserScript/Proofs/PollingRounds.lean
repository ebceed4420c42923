import BrowserScript.Proofs.Parts

/-!
# Waiting in rounds

Both kinds of waits, for an element and for a condition, are one loop over a probe: a call whose
reply says that the wait is over, that it is not, or that the browser cannot tell.  A wait goes
through rounds, each a look in vain and a sleep up to the deadline at most, and then a last look
decides.  An interval between the looks bounds the number of rounds.
-/

namespace BrowserScript

theorem Timeline.now_passTo (t : Timeline) (time : Nat) : (t.passTo time).now = max t.now time := by
  unfold Timeline.passTo
  split
  case isTrue h => exact (Nat.max_eq_left h).symm
  case isFalse h => exact (Nat.max_eq_right (Nat.le_of_not_le h)).symm

theorem Timeline.le_now_wait (t : Timeline) (clock : Clock) (d : Duration) :
    t.now + d ≤ (t.wait clock d).now := by
  rw [Timeline.wait, Timeline.now_passTo]
  exact Nat.le_trans (clock.le_ends t.now d) (Nat.le_max_right _ _)

namespace Run

variable {β α : Type}

inductive Verdict (α : Type) where
  | met (a : α)
  /-- Not yet; a wait with no time left ends in the given error. -/
  | unmet (e : ScriptError)
  /-- The browser cannot tell. -/
  | broken (e : BrowserError)

/-- A look at the page: the call, and what its reply says. -/
structure Probe (α : Type) where
  call : Call
  verdict : Except BrowserError call.Answer → Verdict α

/-- The lookup of an element.  A wait that had no time at all ends in the browser's own error. -/
def Probe.find (l : Locator) (timeout : Duration) : Probe ElementRef where
  call := .find l
  verdict
    | .ok e => .met e
    | .error (.noSuchElement what) =>
      .unmet (if timeout = 0 then .browser (.noSuchElement what)
        else .timeout s!"element {l.text}" timeout)
    | .error e => .broken e

/-- What a reply says if its answer decides: the wait goes on until the answer is good. -/
def judge {γ : Type} (good : γ → Bool) (lapsed : ScriptError) : Except BrowserError γ → Verdict Unit
  | .ok a => if good a then .met () else .unmet lapsed
  | .error e => .broken e

def Condition.probe (timeout : Duration) (c : Condition) : Probe Unit :=
  let lapsed : ScriptError := .timeout c.text timeout
  match c with
  | .present l => ⟨.findAll l, judge (fun found : List ElementRef => !found.isEmpty) lapsed⟩
  | .absent l => ⟨.findAll l, judge (fun found : List ElementRef => found.isEmpty) lapsed⟩
  | .urlIs url => ⟨.currentUrl, judge (fun current : String => current == url) lapsed⟩
  | .urlContains part =>
    ⟨.currentUrl, judge (fun current : String => occursIn part.toList current.toList) lapsed⟩

def sleepOn (setup : Setup β) (d : Duration) (m : Machine β) : Machine β :=
  m.passTo (m.time.wait setup.clock d) .poll

/-- Looks with a probe, at most a given number of times, until the wait is over or the deadline has
passed. -/
def probeBefore (setup : Setup β) (probe : Probe α) (deadline : Nat) :
    Nat → Machine β → Except Halt α × Machine β
  | 0, m =>
    if m.time.raised then (.error (.failed (.exit 1)), m.note stopNote) else (.error .unfinished, m)
  | n + 1, m =>
    if m.time.raised then (.error (.failed (.exit 1)), m.note stopNote)
    else
      let (reply, looked) := callOn setup probe.call m
      match probe.verdict reply with
      | .met a => (.ok a, looked)
      | .unmet e =>
        if looked.time.now < deadline then
          let d := min setup.settings.pollInterval (deadline - looked.time.now)
          probeBefore setup probe deadline n (sleepOn setup d looked)
        else (.error (.failed e), looked)
      | .broken e => (.error (.failed (.browser e)), looked)

/-! ### Both loops -/

theorem findBefore_apply (setup : Setup β) (l : Locator) (timeout : Duration) (deadline n : Nat)
    (m : Machine β) :
    findBefore setup l timeout deadline n m =
      probeBefore setup (.find l timeout) deadline n m := by
  induction n generalizing m with
  | zero =>
    rw [findBefore, probeBefore]
    cases hraised : m.time.raised with
    | true => exact bind_apply_error (stopIfInterrupted_of_raised hraised)
    | false => exact bind_apply_ok (stopIfInterrupted_of_lowered hraised)
  | succ n ih =>
    rw [findBefore, probeBefore]
    cases hraised : m.time.raised with
    | true => exact bind_apply_error (stopIfInterrupted_of_raised hraised)
    | false =>
      rw [bind_apply_ok (stopIfInterrupted_of_lowered hraised),
        bind_apply_ok (perform_apply setup (.find l) m)]
      rcases hcall : callOn setup (.find l) m with ⟨reply, looked⟩
      have hcall' : callOn setup (Probe.find l timeout).call m = (reply, looked) := hcall
      rw [hcall']
      match reply with
      | .ok e => rfl
      | .error (.noSuchElement what) =>
        change (get >>= fun m => if m.time.now < deadline then _ else _ : Exec β ElementRef) looked
          = if looked.time.now < deadline then _ else _
        rw [bind_apply_ok (get_apply looked)]
        split
        · rw [bind_apply_ok (waitRound_apply setup deadline looked), ih]
          rfl
        · split <;> rfl
      | .error .staleElement | .error (.protocol ..) | .error (.transport _)
      | .error .notConnected | .error (.unsupported _) => rfl

theorem pollFind_apply (setup : Setup β) (l : Locator) (timeout : Duration) (m : Machine β) :
    pollFind setup l timeout m =
      probeBefore setup (.find l timeout) (m.time.now + timeout) (rounds setup timeout) m := by
  rw [pollFind, bind_apply_ok (get_apply m), findBefore_apply]

theorem judge_eq_unmet {γ : Type} {good : γ → Bool} {lapsed e : ScriptError}
    {reply : Except BrowserError γ} (h : judge good lapsed reply = .unmet e) : e = lapsed := by
  cases reply with
  | error e' => nomatch h
  | ok a =>
    rw [judge] at h
    split at h
    · nomatch h
    · exact (Verdict.unmet.inj h).symm

theorem Condition.unmet_eq (c : Condition) {timeout : Duration} {e : ScriptError}
    {reply : Except BrowserError (c.probe timeout).call.Answer}
    (h : (c.probe timeout).verdict reply = .unmet e) : e = .timeout c.text timeout := by
  cases c <;> exact judge_eq_unmet h

def Verdict.answer : Verdict α → Except Halt Bool
  | .met _ => .ok true
  | .unmet _ => .ok false
  | .broken e => .error (.failed (.browser e))

/-- A condition is checked by the call of its probe. -/
theorem holds_apply (setup : Setup β) (c : Condition) (timeout : Duration) (m : Machine β) :
    holds setup c m =
      (((c.probe timeout).verdict (callOn setup (c.probe timeout).call m).1).answer,
        (callOn setup (c.probe timeout).call m).2) := by
  have hjudge : ∀ (call : Call) (good : call.Answer → Bool) (lapsed : ScriptError),
      (demand setup call >>= fun a => pure (good a) : Exec β Bool) m =
        ((judge good lapsed (callOn setup call m).1).answer, (callOn setup call m).2) := by
    intro call good lapsed
    rw [bind_apply, demand_apply]
    rcases (callOn setup call m).1 with e | a
    · rfl
    · change (Except.ok (good a), (callOn setup call m).2) = _
      rw [judge]
      cases good a <;> rfl
  cases c with
  | present l => exact hjudge (.findAll l) _ _
  | absent l => exact hjudge (.findAll l) _ _
  | urlIs url => exact hjudge .currentUrl _ _
  | urlContains part => exact hjudge .currentUrl _ _

theorem holdsBefore_apply (setup : Setup β) (c : Condition) (timeout : Duration)
    (deadline n : Nat) (m : Machine β) :
    holdsBefore setup c timeout deadline n m =
      probeBefore setup (c.probe timeout) deadline n m := by
  induction n generalizing m with
  | zero =>
    rw [holdsBefore, probeBefore]
    cases hraised : m.time.raised with
    | true => exact bind_apply_error (stopIfInterrupted_of_raised hraised)
    | false => exact bind_apply_ok (stopIfInterrupted_of_lowered hraised)
  | succ n ih =>
    rw [holdsBefore, probeBefore]
    cases hraised : m.time.raised with
    | true => exact bind_apply_error (stopIfInterrupted_of_raised hraised)
    | false =>
      have hholds := holds_apply setup c timeout m
      rw [bind_apply_ok (stopIfInterrupted_of_lowered hraised)]
      rcases hcall : callOn setup (c.probe timeout).call m with ⟨reply, looked⟩
      rw [hcall] at hholds
      simp only [Bool.false_eq_true, ↓reduceIte]
      cases hverdict : (c.probe timeout).verdict reply with
      | met a =>
        simp only [hverdict] at hholds
        exact bind_apply_ok hholds
      | broken e =>
        simp only [hverdict] at hholds
        exact bind_apply_error hholds
      | unmet e =>
        obtain rfl : e = .timeout c.text timeout := c.unmet_eq hverdict
        simp only [hverdict] at hholds
        rw [bind_apply_ok hholds]
        simp only [Bool.false_eq_true, ↓reduceIte]
        rw [bind_apply_ok (get_apply looked)]
        split
        · rw [bind_apply_ok (waitRound_apply setup deadline looked), ih]
          rfl
        · rfl

theorem waitFor_apply (setup : Setup β) (c : Condition) (timeout : Duration) (m : Machine β) :
    waitFor setup c timeout m =
      probeBefore setup (c.probe timeout) (m.time.now + timeout) (rounds setup timeout) m := by
  rw [waitFor, bind_apply_ok (get_apply m), holdsBefore_apply]

/-! ### Rounds -/

/-- From `m` on, `k` looks in vain, each of them answered before the deadline and followed by a
sleep that does not go beyond it; then the machine is `n`. -/
inductive Rounds (setup : Setup β) (probe : Probe α) (deadline : Nat) :
    Nat → Machine β → Machine β → Prop
  | done (m : Machine β) : Rounds setup probe deadline 0 m m
  | again {k : Nat} {m looked n : Machine β} {reply : Except BrowserError probe.call.Answer}
      {e : ScriptError} {d : Duration} (hdown : m.time.raised = false)
      (hcall : callOn setup probe.call m = (reply, looked))
      (hunmet : probe.verdict reply = .unmet e) (hearly : looked.time.now < deadline)
      (hsleep : d = min setup.settings.pollInterval (deadline - looked.time.now))
      (hrest : Rounds setup probe deadline k (sleepOn setup d looked) n) :
      Rounds setup probe deadline (k + 1) m n

/-- How a wait ends that has come to `m`, with the number of looks that this takes. -/
inductive Concludes (setup : Setup β) (probe : Probe α) (deadline : Nat) (m : Machine β) :
    Nat → Except Halt α × Machine β → Prop
  | met {looked : Machine β} {reply : Except BrowserError probe.call.Answer} {a : α}
      (hdown : m.time.raised = false) (hcall : callOn setup probe.call m = (reply, looked))
      (hmet : probe.verdict reply = .met a) :
      Concludes setup probe deadline m 1 (.ok a, looked)
  | broken {looked : Machine β} {reply : Except BrowserError probe.call.Answer} {e : BrowserError}
      (hdown : m.time.raised = false) (hcall : callOn setup probe.call m = (reply, looked))
      (hbroken : probe.verdict reply = .broken e) :
      Concludes setup probe deadline m 1 (.error (.failed (.browser e)), looked)
  /-- A look in vain is the last one only if the deadline has passed when it is answered. -/
  | late {looked : Machine β} {reply : Except BrowserError probe.call.Answer} {e : ScriptError}
      (hdown : m.time.raised = false) (hcall : callOn setup probe.call m = (reply, looked))
      (hunmet : probe.verdict reply = .unmet e) (hlate : deadline ≤ looked.time.now) :
      Concludes setup probe deadline m 1 (.error (.failed e), looked)
  | interrupted (hraised : m.time.raised = true) :
      Concludes setup probe deadline m 0 (.error (.failed (.exit 1)), m.note stopNote)
  /-- A wait that looks again at once has looked as often as it may. -/
  | idle (hdown : m.time.raised = false) :
      Concludes setup probe deadline m 0 (.error .unfinished, m)

variable {setup : Setup β} {probe : Probe α} {deadline k : Nat} {m n : Machine β}

/-- A loop goes through rounds and comes to an end; it is given up only once it has looked as often
as it may. -/
theorem exists_rounds (setup : Setup β) (probe : Probe α) (deadline fuel : Nat) (m : Machine β) :
    ∃ k looks n, Rounds setup probe deadline k m n ∧
      Concludes setup probe deadline n looks (probeBefore setup probe deadline fuel m) ∧
      ((probeBefore setup probe deadline fuel m).1 = .error .unfinished → k = fuel) := by
  induction fuel generalizing m with
  | zero =>
    rw [probeBefore]
    cases hraised : m.time.raised with
    | true => exact ⟨0, 0, m, .done m, .interrupted hraised, nofun⟩
    | false => exact ⟨0, 0, m, .done m, .idle hraised, fun _ => rfl⟩
  | succ fuel ih =>
    rw [probeBefore]
    cases hraised : m.time.raised with
    | true => exact ⟨0, 0, m, .done m, .interrupted hraised, nofun⟩
    | false =>
      rcases hcall : callOn setup probe.call m with ⟨reply, looked⟩
      simp only [Bool.false_eq_true, ↓reduceIte]
      cases hverdict : probe.verdict reply with
      | met a => exact ⟨0, 1, m, .done m, .met hraised hcall hverdict, nofun⟩
      | broken e => exact ⟨0, 1, m, .done m, .broken hraised hcall hverdict, nofun⟩
      | unmet e =>
        by_cases hearly : looked.time.now < deadline
        · simp only [hearly, ↓reduceIte]
          obtain ⟨k, looks, n, hrounds, hends, hfuel⟩ := ih (sleepOn setup
            (min setup.settings.pollInterval (deadline - looked.time.now)) looked)
          refine ⟨k + 1, looks, n, .again hraised hcall hverdict hearly rfl hrounds, hends, ?_⟩
          exact fun h => congrArg (· + 1) (hfuel h)
        · simp only [hearly, ↓reduceIte]
          exact ⟨0, 1, m, .done m, .late hraised hcall hverdict (Nat.le_of_not_lt hearly), nofun⟩

/-! ### The calls of a wait -/

theorem callsIn_of_callOn {call : Call} {reply : Except BrowserError call.Answer}
    {looked : Machine β} (h : callOn setup call m = (reply, looked)) :
    callsIn looked.events = callsIn m.events ++ [call] := by
  have hlooked : looked = (callOn setup call m).2 := by rw [h]
  rw [hlooked, callsIn_callOn]

theorem callsIn_sleepOn (setup : Setup β) (d : Duration) (m : Machine β) :
    callsIn (sleepOn setup d m).events = callsIn m.events := by
  rw [sleepOn, Machine.passTo_events, callsIn_append, callsIn, callsIn, answeredIn_raisedOn]
  simp

theorem Rounds.callsIn_eq (h : Rounds setup probe deadline k m n) :
    callsIn n.events = callsIn m.events ++ List.replicate k probe.call := by
  induction h with
  | done m => simp
  | @again k m looked n reply e d _ hcall _ _ _ _ ih =>
    rw [ih, callsIn_sleepOn, callsIn_of_callOn hcall, List.append_assoc]
    rfl

theorem Concludes.callsIn_eq {looks : Nat} {r : Except Halt α × Machine β}
    (h : Concludes setup probe deadline m looks r) :
    callsIn r.2.events = callsIn m.events ++ List.replicate looks probe.call := by
  cases h with
  | met _ hcall _ => exact callsIn_of_callOn hcall
  | broken _ hcall _ => exact callsIn_of_callOn hcall
  | late _ hcall _ _ => exact callsIn_of_callOn hcall
  | interrupted _ =>
    rw [Machine.note_eq]
    simp [Machine.events, callsIn, answeredIn_logs fun _ => Machine.isLog_of_mem_logged]
  | idle _ => simp

/-! ### The number of rounds -/

theorem le_now_of_callOn {call : Call} {reply : Except BrowserError call.Answer}
    {looked : Machine β} (h : callOn setup call m = (reply, looked)) :
    m.time.now ≤ looked.time.now := by
  have hlooked : looked = (callOn setup call m).2 := by rw [h]
  rw [hlooked, callOn_snd]
  have hpassed := Nat.le_max_left m.time.now
    (m.time.now + (setup.backend.answer call m.browser).latency)
  rw [← Timeline.now_passTo] at hpassed
  unfold answerTime
  dsimp only
  split <;> exact hpassed

theorem le_now_sleepOn (setup : Setup β) (d : Duration) (m : Machine β) :
    m.time.now + d ≤ (sleepOn setup d m).time.now := by
  rw [sleepOn, Machine.passTo_eq]
  exact m.time.le_now_wait setup.clock d

/-- Rounds take an interval each, and the last of them still starts before the deadline. -/
theorem Rounds.now_lt (h : Rounds setup probe deadline (k + 1) m n) :
    m.time.now + k * setup.settings.pollInterval < deadline := by
  -- The first round takes an interval, unless it goes up to the deadline and is the only one.
  induction k generalizing m with
  | zero =>
    cases h with
    | @again _ _ looked _ _ _ _ _ hcall _ hearly _ _ =>
      have hlater := le_now_of_callOn hcall
      omega
  | succ k ih =>
    cases h with
    | @again _ _ looked _ _ _ d _ hcall _ hearly hsleep hrest =>
      have hlater := le_now_of_callOn hcall
      have hslept := le_now_sleepOn setup d looked
      have hmore := ih hrest
      rw [hsleep] at hslept hmore
      rw [Nat.succ_mul]
      omega

theorem Rounds.le_of_interval {start timeout : Nat} (hinterval : 0 < setup.settings.pollInterval)
    (hstart : start = m.time.now) (h : Rounds setup probe (start + timeout) k m n) :
    k ≤ (timeout + setup.settings.pollInterval - 1) / setup.settings.pollInterval := by
  cases k with
  | zero => exact Nat.zero_le _
  | succ k =>
    have hlt := h.now_lt
    rw [Nat.le_div_iff_mul_le hinterval, Nat.succ_mul]
    omega

/-! ### Waits -/

/-- A wait for `timeout` from `m` on: rounds of looks in vain, then what `r` is concluded from.  It
makes no other calls, and with an interval between the looks their number is bounded.  Only without
an interval can it be given up, after as many rounds as it may take. -/
def KeepsTime (setup : Setup β) (probe : Probe α) (timeout : Duration) (m : Machine β)
    (r : Except Halt α × Machine β) : Prop :=
  let interval := setup.settings.pollInterval
  ∃ k looks last, Rounds setup probe (m.time.now + timeout) k m last ∧
    Concludes setup probe (m.time.now + timeout) last looks r ∧
    callsIn r.2.events = callsIn m.events ++ List.replicate (k + looks) probe.call ∧
    (0 < interval → k + looks ≤ (timeout + interval - 1) / interval + 1) ∧
    (r.1 = .error .unfinished → interval = 0 ∧ k = setup.idleRounds)

theorem Concludes.looks_le {looks : Nat} {r : Except Halt α × Machine β}
    (h : Concludes setup probe deadline m looks r) : looks ≤ 1 := by
  cases h with
  | met | broken | late => exact Nat.le_refl 1
  | interrupted | idle => exact Nat.zero_le 1

theorem probeBefore_keepsTime (setup : Setup β) (probe : Probe α) (timeout : Duration)
    (m : Machine β) :
    KeepsTime setup probe timeout m
      (probeBefore setup probe (m.time.now + timeout) (rounds setup timeout) m) := by
  obtain ⟨k, looks, last, hrounds, hends, hgiven⟩ :=
    exists_rounds setup probe (m.time.now + timeout) (rounds setup timeout) m
  have hlooks := hends.looks_le
  refine ⟨k, looks, last, hrounds, hends, ?_, fun hinterval => ?_, fun hunfinished => ?_⟩
  · rw [hends.callsIn_eq, hrounds.callsIn_eq, List.append_assoc, List.replicate_append_replicate]
  · have hk := hrounds.le_of_interval hinterval rfl
    omega
  · have hfuel := hgiven hunfinished
    rw [rounds] at hfuel
    by_cases hinterval : setup.settings.pollInterval = 0
    · rw [if_pos hinterval] at hfuel
      exact ⟨hinterval, hfuel⟩
    · -- With an interval there are fewer rounds than a wait may take.
      rw [if_neg hinterval] at hfuel
      have hk := hrounds.le_of_interval (Nat.pos_of_ne_zero hinterval) rfl
      omega

/-- Waits keep to their time.  A wait for an element or for a condition ends at once with the first
look that is not in vain, whenever that is answered, or that the browser cannot answer.  It gives up
only after a look in vain that is answered at the deadline or later, and until then it sleeps
between the looks for the interval, but never beyond the deadline.  With an interval it looks at
most once more than the interval begins to fit into the time.  An interrupt can end it before a
look. -/
theorem polling_respects_deadline (setup : Setup β) (l : Locator) (c : Condition)
    (timeout : Duration) (m : Machine β) :
    KeepsTime setup (.find l timeout) timeout m (pollFind setup l timeout m) ∧
      KeepsTime setup (c.probe timeout) timeout m (waitFor setup c timeout m) := by
  rw [pollFind_apply, waitFor_apply]
  exact ⟨probeBefore_keepsTime setup _ timeout m, probeBefore_keepsTime setup _ timeout m⟩

/-- A browser on a slow page, which shows an element from the third lookup on. -/
def slowPage : Setup Nat where
  registry := .empty
  settings := { pollInterval := 250 * Duration.millisecond }
  backend := ⟨fun
    | .find _, n =>
      if n < 2 then ⟨.error (.noSuchElement "late"), n + 1, 100 * Duration.millisecond, false, []⟩
      else ⟨.ok ⟨"late"⟩, n + 1, 400 * Duration.millisecond, false, []⟩
    | .currentUrl, n => ⟨.ok "about:blank", n + 1, 100 * Duration.millisecond, false, []⟩
    | _, n => ⟨.error .notConnected, n, 0, false, []⟩⟩
  clock := .millisecond
  draws _ := 0
  idleRounds := 0

theorem polling_respects_deadline_slowPage :
    let found := pollFind slowPage ⟨.css, "late"⟩ 600000000 (.start .empty 0)
    let missed := waitFor slowPage (.urlIs "https://x.test/") 600000000 (.start .empty 0)
    KeepsTime slowPage (.find ⟨.css, "late"⟩ 600000000) 600000000 (.start .empty 0) found ∧
      KeepsTime slowPage (Condition.probe 600000000 (.urlIs "https://x.test/")) 600000000
        (.start .empty 0) missed ∧
      found.1 = .ok ⟨"late"⟩ ∧ found.2.time.now = 1000000000 ∧
      missed.1 = .error (.failed (.timeout "url to be https://x.test/" 600000000)) ∧
      missed.2.time.now = 700000000 := by
  intro found missed
  obtain ⟨hfound, hmissed⟩ := polling_respects_deadline slowPage ⟨.css, "late"⟩
    (.urlIs "https://x.test/") 600000000 (.start .empty 0)
  exact ⟨hfound, hmissed, rfl, by decide +kernel, rfl, by decide +kernel⟩

end Run

end BrowserScript
