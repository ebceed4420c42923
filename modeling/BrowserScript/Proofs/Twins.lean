import BrowserScript.Proofs.Invariants
import BrowserScript.Proofs.TimeShift

/-!
# Twins

Two machines are twins if they differ only in their clocks and logs.  Each elementary part of a run
takes twins to twins, with the same outcome, unless an interrupt is raised in it that stays up.
-/

namespace BrowserScript.Run

variable {β α γ : Type}

/-- How many interrupts stayed up when they were raised. -/
def interruptsIn (events : List Event) : Nat := events.countP Event.isInterrupt

@[simp] theorem interruptsIn_append (xs ys : List Event) :
    interruptsIn (xs ++ ys) = interruptsIn xs + interruptsIn ys :=
  List.countP_append

theorem interruptsIn_mono {xs ys : List Event} (h : xs <+: ys) :
    interruptsIn xs ≤ interruptsIn ys :=
  h.sublist.countP_le

theorem interruptsIn_logs {events : List Event} (h : ∀ e ∈ events, e.isLog = true) :
    interruptsIn events = 0 := by
  refine List.countP_eq_zero.mpr fun e he => ?_
  cases e with
  | log time entry => nofun
  | call time call reply => nofun
  | interrupt time place => exact absurd (h _ he) (by simp [Event.isLog])

@[simp] theorem interruptsIn_note (m : Machine β) (entry : Log.Entry) :
    interruptsIn (m.note entry).events = interruptsIn m.events := by
  have hevents : (m.note entry).events = m.events ++ m.logged [entry] := by
    simp [Machine.note_eq, Machine.events]
  rw [hevents, interruptsIn_append, interruptsIn_logs fun _ => Machine.isLog_of_mem_logged,
    Nat.add_zero]

/-- An interrupt was raised between two moments of a run, and it stayed up. -/
def Disturbed (m m' : Machine β) : Prop := interruptsIn m.events < interruptsIn m'.events

theorem Disturbed.of_mem {m m' : Machine β} {more : List Event} {e : Event}
    (hevents : m'.events = m.events ++ more) (he : e ∈ more) (hinterrupt : e.isInterrupt = true) :
    Disturbed m m' := by
  have hpos : 0 < interruptsIn more := List.countP_pos_iff.mpr ⟨e, he, hinterrupt⟩
  rw [Disturbed, hevents, interruptsIn_append]
  omega

theorem Disturbed.before {m m' m'' : Machine β} (h : Disturbed m m')
    (hgrows : m'.events <+: m''.events) : Disturbed m m'' :=
  Nat.lt_of_lt_of_le h (interruptsIn_mono hgrows)

theorem Disturbed.after {m m' m'' : Machine β} (hgrows : m.events <+: m'.events)
    (h : Disturbed m' m'') : Disturbed m m'' :=
  Nat.lt_of_le_of_lt (interruptsIn_mono hgrows) h

/-! ### Twins -/

/-- Two machines that differ in their clocks and logs only; the clock of the second is `s` ahead. -/
structure Twin (p s : Nat) (m n : Machine β) : Prop where
  store : n.store = m.store
  browser : n.browser = m.browser
  sessionOpen : n.sessionOpen = m.sessionOpen
  active : n.active = m.active
  policy : n.policy = m.policy
  drawn : n.drawn = m.drawn
  time : Timeline.Ahead p s m.time n.time
  calls : answeredIn n.events = answeredIn m.events

def Twins (p : Nat) (m n : Machine β) : Prop := ∃ s, Twin p s m n

namespace Twin

variable {p s : Nat} {m n : Machine β}

theorem note (h : Twin p s m n) (entry entry' : Log.Entry) :
    Twin p s (m.note entry) (n.note entry') := by
  refine ⟨h.store, h.browser, h.sessionOpen, h.active, h.policy, h.drawn, h.time, ?_⟩
  rw [Machine.note_eq, Machine.note_eq]
  simpa [Machine.events, answeredIn_logs fun _ => Machine.isLog_of_mem_logged] using h.calls

theorem reply (h : Twin p s m n) (setup : Setup β) (call : Call) :
    (callOn setup call n).1 = (callOn setup call m).1 := by
  rw [callOn_fst, callOn_fst, h.browser]

theorem answerTime (h : Twin p s m n) (setup : Setup β) (call : Call) :
    (answerTime setup call m).raised = true ∨
      Timeline.Ahead p s (answerTime setup call m) (answerTime setup call n) := by
  unfold Run.answerTime
  rw [h.browser, h.time.now]
  dsimp only
  split
  · exact .inl rfl
  · have hsum : m.time.now + s + (setup.backend.answer call m.browser).latency =
        m.time.now + (setup.backend.answer call m.browser).latency + s := by omega
    rw [hsum]
    exact h.time.passTo _

/-- A call gets the same reply and takes equally long. -/
theorem callOn (h : Twin p s m n) (setup : Setup β) (call : Call) :
    Disturbed m (callOn setup call m).2 ∨
      Twin p s (callOn setup call m).2 (callOn setup call n).2 := by
  obtain hup | htime := h.answerTime setup call
  · have hmem : .interrupt _ .call ∈ afterCall setup call m :=
      List.mem_append_left _ (mem_raisedOn.mpr ⟨h.time.lowered, hup, rfl⟩)
    exact .inl (.of_mem (callOn_events setup call m) (List.mem_cons_of_mem _ hmem) rfl)
  · have hcalls : answeredIn (Run.callOn setup call n).2.events =
        answeredIn (Run.callOn setup call m).2.events := by
      rw [answeredIn_callOn, answeredIn_callOn, h.calls, h.reply]
    rw [callOn_snd, callOn_snd] at hcalls ⊢
    refine .inr ⟨h.store, ?_, h.sessionOpen, h.active, h.policy, h.drawn, htime, hcalls⟩
    dsimp only
    rw [h.browser]

theorem wait (h : Twin p s m n) {clock : Clock} (hclock : clock.Periodic p) (d : Duration) :
    Disturbed m (m.passTo (m.time.wait clock d) .poll) ∨
      Twin p s (m.passTo (m.time.wait clock d) .poll) (n.passTo (n.time.wait clock d) .poll) := by
  obtain hup | htime := h.time.wait hclock d
  · have hmem : .interrupt _ .poll ∈ raisedOn m.time (m.time.wait clock d) .poll :=
      mem_raisedOn.mpr ⟨h.time.lowered, hup, rfl⟩
    exact .inl (.of_mem (m.passTo_events _ _) hmem rfl)
  · have hcalls : answeredIn (n.passTo (n.time.wait clock d) .poll).events =
        answeredIn (m.passTo (m.time.wait clock d) .poll).events := by
      rw [Machine.passTo_events, Machine.passTo_events, answeredIn_append, answeredIn_append,
        answeredIn_raisedOn, answeredIn_raisedOn, h.calls]
    rw [Machine.passTo_eq, Machine.passTo_eq] at hcalls ⊢
    exact .inr ⟨h.store, h.browser, h.sessionOpen, h.active, h.policy, h.drawn, htime, hcalls⟩

/-- A pause may be cut short in one of the runs. -/
theorem pause (h : Twin p s m n) {setup : Setup β} (hclock : setup.clock.Periodic p)
    (d : Duration) :
    Disturbed m (pauseOn setup d m) ∨ Twins p (pauseOn setup d m) (pauseOn setup d n) := by
  obtain hup | ⟨s', htime⟩ := h.time.pause hclock d
  · have hmem : .interrupt _ .deadline ∈ afterPause setup d m :=
      List.mem_append_left _ (mem_raisedOn.mpr ⟨h.time.lowered, hup, rfl⟩)
    exact .inl (.of_mem (pauseOn_events setup d m) hmem rfl)
  · have hcalls : answeredIn (pauseOn setup d n).events =
        answeredIn (pauseOn setup d m).events := by
      rw [pauseOn_events, pauseOn_events, answeredIn_append, answeredIn_append,
        answeredIn_afterPause, answeredIn_afterPause, h.calls]
    rw [pauseOn_eq, pauseOn_eq] at hcalls ⊢
    exact .inr ⟨s', h.store, h.browser, h.sessionOpen, h.active, h.policy, h.drawn, htime, hcalls⟩

theorem sample (h : Twin p s m n) (setup : Setup β) (policy : DelayPolicy) :
    (sampleOn setup policy n).1 = (sampleOn setup policy m).1 ∧
      Twin p s (sampleOn setup policy m).2 (sampleOn setup policy n).2 := by
  refine ⟨?_, h.store, h.browser, h.sessionOpen, h.active, h.policy, ?_, h.time, h.calls⟩
  · rw [sampleOn, sampleOn, h.drawn]
  · simp only [sampleOn, h.drawn]

end Twin

/-! ### Parts of runs -/

/-- Two parts of runs end alike: both go on with the same value and machines related by `S`, or both
stop for the same reason, with twins. -/
def Alike (p : Nat) (S : Machine β → Machine β → Prop) :
    Except Halt α × Machine β → Except Halt α × Machine β → Prop
  | (.ok a, m), (.ok b, n) => b = a ∧ S m n
  | (.error halt, m), (.error halt', n) => halt' = halt ∧ Twins p m n
  | _, _ => False

theorem Alike.imp {p : Nat} {S S' : Machine β → Machine β → Prop}
    {r r' : Except Halt α × Machine β} (h : Alike p S r r') (hS : ∀ m n, S m n → S' m n) :
    Alike p S' r r' := by
  obtain ⟨halt | a, m⟩ := r <;> obtain ⟨halt' | b, n⟩ := r'
  · exact h
  · nomatch h
  · nomatch h
  · exact ⟨h.1, hS m n h.2⟩

theorem alike_twins_iff {p : Nat} {r r' : Except Halt α × Machine β} :
    Alike p (Twins p) r r' ↔ r'.1 = r.1 ∧ Twins p r.2 r'.2 := by
  obtain ⟨halt | a, m⟩ := r <;> obtain ⟨halt' | b, n⟩ := r' <;> simp [Alike]

/-- From machines related by `R`, two parts of runs end alike, unless the first is disturbed. -/
structure Steady (p : Nat) (R S : Machine β → Machine β → Prop) (x y : Exec β α) : Prop where
  grows : ∀ m, interruptsIn m.events ≤ interruptsIn (x m).2.events
  ends : ∀ m n, R m n → Disturbed m (x m).2 ∨ Alike p S (x m) (y n)

abbrev Mirrors (p s : Nat) (x : Exec β α) : Prop := Steady p (Twin p s) (Twin p s) x x

namespace Steady

variable {p s : Nat} {R S T : Machine β → Machine β → Prop} {x y : Exec β α}
  {f g : α → Exec β γ} {setup : Setup β}

theorem bind (hx : Steady p R S x y) (hf : ∀ a, Steady p S T (f a) (g a)) :
    Steady p R T (x >>= f) (y >>= g) := by
  refine ⟨fun m => ?_, fun m n h => ?_⟩
  · have hgrows := hx.grows m
    rcases hxm : x m with ⟨halt | a, m'⟩
    · rw [hxm] at hgrows
      rw [bind_apply_error hxm]
      exact hgrows
    · rw [hxm] at hgrows
      rw [bind_apply_ok hxm]
      exact Nat.le_trans hgrows ((hf a).grows m')
  · have hends := hx.ends m n h
    have hgrows := hx.grows m
    rcases hxm : x m with ⟨halt | a, m'⟩
    · rw [hxm] at hends
      rw [bind_apply_error hxm]
      obtain hlost | halike := hends
      · exact .inl hlost
      · rcases hyn : y n with ⟨halt' | b, n'⟩
        · rw [hyn] at halike
          rw [bind_apply_error hyn]
          exact .inr halike
        · rw [hyn] at halike
          nomatch halike
    · rw [hxm] at hends hgrows
      rw [bind_apply_ok hxm]
      obtain hlost | halike := hends
      · exact .inl (Nat.lt_of_lt_of_le hlost ((hf a).grows m'))
      · rcases hyn : y n with ⟨halt' | b, n'⟩
        · rw [hyn] at halike
          nomatch halike
        · rw [hyn] at halike
          obtain ⟨rfl, hS⟩ := halike
          rw [bind_apply_ok hyn]
          exact ((hf b).ends m' n' hS).imp_left fun hlost => Nat.lt_of_le_of_lt hgrows hlost

theorem weaken {S' : Machine β → Machine β → Prop} (hx : Steady p R S x y)
    (hS : ∀ m n, S m n → S' m n) : Steady p R S' x y :=
  ⟨hx.grows, fun m n h => (hx.ends m n h).imp_right fun halike => halike.imp hS⟩

theorem ite {c : Prop} [Decidable c] {x' y' : Exec β α} (hx : Steady p R S x y)
    (hy : Steady p R S x' y') : Steady p R S (if c then x else x') (if c then y else y') := by
  split
  · exact hx
  · exact hy

/-- A choice by something in which the machines agree. -/
theorem choose {c : Machine β → Bool} (hc : ∀ m n, R m n → c n = c m) {x' y' : Exec β α}
    (hx : Steady p R S x y) (hy : Steady p R S x' y') :
    Steady p R S (get >>= fun m => if c m then x else x')
      (get >>= fun n => if c n then y else y') := by
  refine ⟨fun m => ?_, fun m n h => ?_⟩
  · rw [bind_apply_ok (get_apply m)]
    split
    · exact hx.grows m
    · exact hy.grows m
  · rw [bind_apply_ok (get_apply m), bind_apply_ok (get_apply n), hc m n h]
    split
    · exact hx.ends m n h
    · exact hy.ends m n h

/-- A choice by a deadline that lies as far apart as the clocks do. -/
theorem chooseBefore (deadline : Nat) {x' y' : Exec β α} (hx : Steady p (Twin p s) S x y)
    (hy : Steady p (Twin p s) S x' y') :
    Steady p (Twin p s) S (get >>= fun m => if m.time.now < deadline then x else x')
      (get >>= fun n => if n.time.now < deadline + s then y else y') := by
  refine ⟨fun m => ?_, fun m n h => ?_⟩
  · rw [bind_apply_ok (get_apply m)]
    split
    · exact hx.grows m
    · exact hy.grows m
  · have hnow : n.time.now < deadline + s ↔ m.time.now < deadline := by
      rw [h.time.now]
      omega
    rw [bind_apply_ok (get_apply m), bind_apply_ok (get_apply n)]
    by_cases hbefore : m.time.now < deadline
    · rw [if_pos hbefore, if_pos (hnow.mpr hbefore)]
      exact hx.ends m n h
    · rw [if_neg hbefore, if_neg (mt hnow.mp hbefore)]
      exact hy.ends m n h

/-- A part that depends on something in which the machines differ by a function `r` at most. -/
theorem read {δ : Type} (v : Machine β → δ) (r : δ → δ) (hr : ∀ m n, R m n → v n = r (v m))
    {f : δ → Exec β α} (hf : ∀ c, Steady p R S (f c) (f (r c))) :
    Steady p R S (get >>= fun m => f (v m)) (get >>= fun n => f (v n)) := by
  refine ⟨fun m => (hf (v m)).grows m, fun m n h => ?_⟩
  rw [bind_apply_ok (get_apply m), bind_apply_ok (get_apply n), hr m n h]
  exact (hf (v m)).ends m n h

theorem done {a : α} : Steady p R R (pure a) (pure a) :=
  ⟨fun _ => Nat.le_refl _, fun _ _ h => .inr ⟨rfl, h⟩⟩

theorem halt (h : Halt) : Steady p (Twin p s) S (throw h : Exec β α) (throw h) :=
  ⟨fun _ => Nat.le_refl _, fun _ _ h => .inr ⟨rfl, s, h⟩⟩

theorem fail (e : ScriptError) : Steady p (Twin p s) S (fail e : Exec β α) (fail e) := halt _

theorem require (r : Except ScriptError α) :
    Mirrors p s (require r : Exec β α) := by
  cases r with
  | error e => exact fail e
  | ok a => exact done

theorem change {k : Machine β → Machine β}
    (hk : ∀ m, interruptsIn (k m).events = interruptsIn m.events)
    (h : ∀ m n, R m n → S (k m) (k n)) : Steady p R S (modify k) (modify k) :=
  ⟨fun m => Nat.le_of_eq (hk m).symm, fun m n hmn => .inr ⟨rfl, h m n hmn⟩⟩

theorem changeGet {k : Machine β → α × Machine β}
    (hk : ∀ m, interruptsIn (k m).2.events = interruptsIn m.events)
    (h : ∀ m n, R m n → (k n).1 = (k m).1 ∧ S (k m).2 (k n).2) :
    Steady p R S (modifyGet k) (modifyGet k) :=
  ⟨fun m => Nat.le_of_eq (hk m).symm, fun m n hmn => .inr (h m n hmn)⟩

theorem log (level : Log.Level) (message : String) (fields : List (String × Log.Content)) :
    Mirrors p s (log level message fields : Exec β Unit) :=
  change (fun m => interruptsIn_note m _) fun _ _ h => h.note _ _

theorem requireSession : Mirrors p s (requireSession : Exec β Unit) :=
  choose (c := fun m => !m.sessionOpen) (fun _ _ h => by rw [h.sessionOpen]) (fail _) done

theorem activeElement : Mirrors p s (activeElement : Exec β ElementRef) := by
  refine ⟨fun m => ?_, fun m n h => ?_⟩
  · rw [activeElement_apply]
    split <;> exact Nat.le_refl _
  · rw [activeElement_apply, activeElement_apply, h.active]
    cases m.active with
    | none => exact .inr ⟨rfl, s, h⟩
    | some e => exact .inr ⟨rfl, h⟩

theorem stopIfInterrupted : Mirrors p s (stopIfInterrupted : Exec β Unit) := by
  refine choose (fun m n h => ?_) (bind (log _ _ _) fun _ => fail _) done
  exact h.time.calm_lowered.trans h.time.lowered.symm

theorem sample (policy : DelayPolicy) :
    Mirrors p s (modifyGet (sampleOn setup policy) : Exec β Duration) :=
  changeGet (fun _ => rfl) fun _ _ h => h.sample setup policy

theorem perform (call : Call) : Mirrors p s (perform setup call) := by
  refine ⟨fun m => ?_, fun m n h => ?_⟩
  · exact interruptsIn_mono ⟨_, (callOn_events setup call m).symm⟩
  · exact (h.callOn setup call).imp_right fun h' => ⟨h.reply setup call, h'⟩

theorem demand (call : Call) : Mirrors p s (demand setup call) := by
  refine bind (perform call) fun reply => ?_
  cases reply with
  | error e => exact fail _
  | ok a => exact done

theorem waitRound (hclock : setup.clock.Periodic p) (deadline : Nat) :
    Steady p (Twin p s) (Twin p s) (waitRound setup deadline)
      (waitRound setup (deadline + s)) := by
  refine ⟨fun m => ?_, fun m n h => ?_⟩
  · exact interruptsIn_mono ⟨_, (m.passTo_events _ _).symm⟩
  · have hleft : deadline + s - n.time.now = deadline - m.time.now := by
      rw [h.time.now]
      omega
    rw [waitRound_apply, waitRound_apply, hleft]
    exact (h.wait hclock _).imp_right fun h' => ⟨rfl, h'⟩

theorem pause (hclock : setup.clock.Periodic p) (d : Duration) :
    Steady p (Twin p s) (Twins p) (pause setup d) (pause setup d) := by
  refine ⟨fun m => ?_, fun m n h => ?_⟩
  · exact interruptsIn_mono ⟨_, (pauseOn_events setup d m).symm⟩
  · exact (h.pause hclock d).imp_right fun h' => ⟨rfl, h'⟩

theorem activate (e : ElementRef) : Mirrors p s (activate e : Exec β Unit) := by
  refine change (fun _ => rfl) fun m n h => ?_
  exact ⟨h.store, h.browser, h.sessionOpen, rfl, h.policy, h.drawn, h.time, h.calls⟩

end Steady

end BrowserScript.Run
