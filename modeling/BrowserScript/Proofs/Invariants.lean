import BrowserScript.Proofs.Moves

/-!
# What runs keep

An invariant of a run is what every move, every pause and every note in the log keeps.  It may be
weakened once the run has stopped, because from then on there are only notes and a last pause.
-/

namespace BrowserScript.Run

variable {β : Type}

/-- Where a part of a run leaves the machine: `I` holds if it goes on, `J` if it stops. -/
abbrev Leaves (I J : Machine β → Prop) : Except Halt Unit × Machine β → Prop :=
  Ends (fun _ => I) fun _ => J

theorem Leaves.both {I : Machine β → Prop} {r : Except Halt Unit × Machine β}
    (h : Leaves I I r) : I r.2 := by
  obtain ⟨halt | _, m⟩ := r <;> exact h

/-- What a run keeps: `I` as long as it goes on, `J` once it has stopped. -/
structure Invariant (setup : Setup β) (I J : Machine β → Prop) : Prop where
  move : ∀ {m m'}, I m → Move setup m m' → I m'
  pause : ∀ {m} d, I m → I (pauseOn setup d m)
  stop : ∀ {m}, I m → J m
  leave : ∀ {m call e}, I m → m.Live → call.leaves = true → (callOn setup call m).1 = .error e →
    J (callOn setup call m).2
  quiet_stopped : ∀ {m m'}, J m → Quiet m m' → J m'
  pause_stopped : ∀ {m} d, J m → J (pauseOn setup d m)

namespace Invariant

variable {setup : Setup β} {I J : Machine β → Prop}

theorem moves (h : Invariant setup I J) {m m' : Machine β} (hm : I m)
    (hmoves : Moves setup m m') : I m' := by
  induction hmoves with
  | refl => exact hm
  | tail _ hmove ih => exact h.move ih hmove

theorem halts (h : Invariant setup I J) {m m' : Machine β} (hm : I m)
    (hhalts : Halts setup m m') : J m' := by
  cases hhalts with
  | after hmoves => exact h.stop (h.moves hm hmoves)
  | leave call e hmoves hlive hcall hreply =>
    exact h.leave (h.moves hm hmoves) hlive hcall hreply

theorem goes (h : Invariant setup I J) {P : Machine β → Prop} {x : Exec β Unit}
    {Q : Unit → Machine β → Prop} (hx : Goes setup P x Q) (m : Machine β) (hP : P m) (hm : I m) :
    Leaves I J (x m) := by
  have hends := (hx.ensures m).ends m ⟨.refl, hP⟩
  rcases hxm : x m with ⟨halt | a, m'⟩
  · rw [hxm] at hends
    exact h.halts hm hends.1
  · rw [hxm] at hends
    exact h.moves hm hends.1

theorem paceOn (h : Invariant setup I J) {m : Machine β} (hm : I m) : I (paceOn setup m) := by
  have hsample : I (sampleOn setup m.policy m).2 :=
    h.move hm (.quiet (.of_trace_eq rfl rfl rfl rfl rfl))
  rw [paceOn_eq]
  split
  · exact hsample
  · exact h.pause _ hsample

theorem paceOn_stopped (h : Invariant setup I J) {m : Machine β} (hm : J m) :
    J (Run.paceOn setup m) := by
  have hsample : J (sampleOn setup m.policy m).2 :=
    h.quiet_stopped hm (.of_trace_eq rfl rfl rfl rfl rfl)
  rw [paceOn_eq]
  split
  · exact hsample
  · exact h.pause_stopped _ hsample

theorem settleOn (h : Invariant setup I J) {r : Except Halt Unit × Machine β}
    (hr : Leaves I J r) : Leaves I J (r.1, settleOn setup r.2 r.1) := by
  obtain ⟨outcome, m⟩ := r
  match outcome, hr with
  | .ok (), hr => exact h.paceOn hr
  | .error .unfinished, hr => exact hr
  | .error (.failed e), hr =>
    have hreport : J (reportOn e m) := by
      unfold reportOn
      split
      · exact hr
      · exact h.quiet_stopped hr (.note _ _)
      · exact h.quiet_stopped hr (.note _ _)
    change J (if e.isDomain then Run.paceOn setup (reportOn e m) else reportOn e m)
    split
    · exact h.paceOn_stopped hreport
    · exact hreport

theorem respan (h : Invariant setup I J) {r : Except Halt Unit × Machine β} (hr : Leaves I J r)
    (spans : List Log.Span) : Leaves I J (r.1, { r.2 with spans }) := by
  obtain ⟨outcome, m⟩ := r
  cases outcome with
  | ok _ => exact h.move hr (.quiet (.of_trace_eq rfl rfl rfl rfl rfl))
  | error halt => exact h.quiet_stopped hr (.of_trace_eq rfl rfl rfl rfl rfl)

theorem runInstruction (h : Invariant setup I J) (i : Instruction) {m : Machine β} (hm : I m)
    (hdown : m.time.raised = false) : Leaves I J (runInstruction setup i m) := by
  have hstep : Goes setup (·.time.raised = false) (interruptibleStep setup i) fun _ _ => True :=
    .bind (step_goes setup i) fun _ => .weaken .stopIfInterrupted fun _ _ _ => trivial
  have hstart : I { m with spans := m.spans ++ [instructionSpan i] } :=
    h.move hm (.quiet (.of_trace_eq rfl rfl rfl rfl rfl))
  have hstepped := h.goes hstep { m with spans := m.spans ++ [instructionSpan i] } hdown hstart
  exact h.respan (h.settleOn hstepped) m.spans

/-- A run keeps what its moves and pauses keep. -/
theorem runInstructions (h : Invariant setup I J) (script : List Instruction) {m : Machine β}
    (hm : I m) : Leaves I J (runInstructions setup script m) := by
  induction script generalizing m with
  | nil => exact hm
  | cons i rest ih =>
    cases hraised : m.time.raised with
    | true =>
      rw [runInstructions_of_raised setup i rest hraised]
      exact h.stop (h.move hm (.quiet (.note m _)))
    | false =>
      have hi := h.runInstruction i hm hraised
      rcases hx : Run.runInstruction setup i m with ⟨halt | _, m'⟩
      · rw [hx] at hi
        rw [runInstructions_of_error rest hraised hx]
        exact hi
      · rw [hx] at hi
        rw [runInstructions_of_ok rest hraised hx]
        exact ih hi

end Invariant

theorem Move.grows {setup : Setup β} {m m' : Machine β} (h : Move setup m m') :
    m.events <+: m'.events := by
  have hcall : ∀ call, m.events <+: (callOn setup call m).2.events :=
    fun call => ⟨_, (callOn_events setup call m).symm⟩
  cases h with
  | quiet hquiet =>
    obtain ⟨logs, hevents, -⟩ := hquiet.trace
    exact ⟨logs, hevents.symm⟩
  | poll d => exact ⟨_, (m.passTo_events _ _).symm⟩
  | rest d _ => exact ⟨_, (pauseOn_events setup d m).symm⟩
  | ask call _ _ => exact hcall call
  | leave call a _ _ _ => exact hcall call
  | find l _ =>
    rw [takeElement_events]
    exact hcall (.find l)
  | focus _ =>
    rw [takeElement_events]
    exact hcall .activeElement
  | use call e _ _ _ => exact hcall call
  | start name options _ =>
    rw [takeSession_events]
    exact hcall (.openSession name options)
  | finish _ =>
    have hended : (callOn setup .closeSession
        { m with sessionOpen := false, active := none }).2.events = m.events ++ _ :=
      callOn_events setup .closeSession _
    exact ⟨_, hended.symm⟩

/-- A run only adds to the trace. -/
theorem grows_invariant (setup : Setup β) (base : List Event) :
    Invariant setup (base <+: ·.events) (base <+: ·.events) where
  move h hmove := h.trans hmove.grows
  pause d h := h.trans ⟨_, (pauseOn_events setup d _).symm⟩
  stop := id
  leave h _ _ _ := h.trans ⟨_, (callOn_events setup _ _).symm⟩
  quiet_stopped h hquiet := by
    obtain ⟨logs, hevents, -⟩ := hquiet.trace
    exact h.trans ⟨logs, hevents.symm⟩
  pause_stopped d h := h.trans ⟨_, (pauseOn_events setup d _).symm⟩

theorem settleOn_grows (setup : Setup β) (m : Machine β) (outcome : Except Halt Unit) :
    m.events <+: (settleOn setup m outcome).events := by
  have hstart : Leaves (m.events <+: ·.events) (m.events <+: ·.events) (outcome, m) := by
    cases outcome <;> exact List.prefix_refl _
  exact ((grows_invariant setup m.events).settleOn hstart).both

theorem runInstructions_grows (setup : Setup β) (script : List Instruction) (m : Machine β) :
    m.events <+: (runInstructions setup script m).2.events :=
  ((grows_invariant setup m.events).runInstructions script (List.prefix_refl _)).both

theorem release_grows (setup : Setup β) (m : Machine β) :
    m.events <+: (release setup m).events := by
  cases hopen : m.sessionOpen with
  | true =>
    rw [release_of_open hopen, Machine.note_eq]
    have hclose : (callOn setup .closeSession
        { m with sessionOpen := false, active := none }).2.events = m.events ++ _ :=
      callOn_events setup .closeSession _
    refine .trans ⟨_, hclose.symm⟩ ?_
    simp [Machine.events]
  | false => simp [release_of_closed hopen]

theorem run_grows (setup : Setup β) (script : List Instruction) (m : Machine β) :
    m.events <+: (run setup script m).2.events :=
  (runInstructions_grows setup script m).trans (release_grows setup _)

end BrowserScript.Run
