import BrowserScript.Run

/-!
# Traces of runs

A machine only adds to its trace, so the events between two moments of a run are the end of the
later trace.  Each elementary change of a machine is written here as one equation that says which
fields it sets and which events it adds; the equations of the parts of a run follow from these.
-/

namespace BrowserScript.Run

variable {β α γ : Type}

structure Answered where
  call : Call
  reply : Except BrowserError call.Answer

namespace Event

def answered? : Event → Option Answered
  | .call _ made reply => some ⟨made, reply⟩
  | _ => none

def isLog : Event → Bool
  | .log .. => true
  | _ => false

/-- Whether an event is an interrupt that no pause cleared. -/
def isInterrupt : Event → Bool
  | .interrupt .. => true
  | _ => false

/-- Whether an event is a call or a note of the remote browser. -/
def isTraffic : Event → Bool
  | .call .. => true
  | .log _ entry => entry.origin == .remote
  | .interrupt .. => false

end Event

def answeredIn (events : List Event) : List Answered := events.filterMap Event.answered?

def callsIn (events : List Event) : List Call := (answeredIn events).map (·.call)

@[simp] theorem answeredIn_append (xs ys : List Event) :
    answeredIn (xs ++ ys) = answeredIn xs ++ answeredIn ys :=
  List.filterMap_append

@[simp] theorem callsIn_append (xs ys : List Event) :
    callsIn (xs ++ ys) = callsIn xs ++ callsIn ys := by
  simp [callsIn]

@[simp] theorem answeredIn_call_cons (time : Nat) (call : Call)
    (reply : Except BrowserError call.Answer) (rest : List Event) :
    answeredIn (.call time call reply :: rest) = ⟨call, reply⟩ :: answeredIn rest := rfl

/-- No event of a log is a call. -/
theorem answeredIn_logs {events : List Event} (h : ∀ e ∈ events, e.isLog = true) :
    answeredIn events = [] := by
  rw [answeredIn, List.filterMap_eq_nil_iff]
  intro e he
  cases e with
  | log time entry => rfl
  | call time call reply => exact absurd (h _ he) (by simp [Event.isLog])
  | interrupt time place => rfl

/-- What is no traffic is no call. -/
theorem answeredIn_of_no_traffic {events : List Event} (h : ∀ e ∈ events, e.isTraffic = false) :
    answeredIn events = [] := by
  rw [answeredIn, List.filterMap_eq_nil_iff]
  intro e he
  cases e with
  | log time entry => rfl
  | call time call reply => exact absurd (h _ he) (by simp [Event.isTraffic])
  | interrupt time place => rfl

def Machine.events (m : Machine β) : List Event := m.trace.toList

/-- What happened from one moment of a run to a later one. -/
def eventsBetween (m m' : Machine β) : List Event := m'.events.drop m.events.length

theorem eventsBetween_eq {m m' : Machine β} {events : List Event}
    (h : m'.events = m.events ++ events) : eventsBetween m m' = events := by
  rw [eventsBetween, h, List.drop_left]

/-- The log entries that a machine adds, inside its open spans. -/
def Machine.logged (m : Machine β) (entries : List Log.Entry) : List Event :=
  entries.map fun entry => .log m.time.now { entry with spans := m.spans ++ entry.spans }

theorem Machine.isLog_of_mem_logged {m : Machine β} {entries : List Log.Entry} {e : Event}
    (h : e ∈ m.logged entries) : e.isLog = true := by
  obtain ⟨entry, _, rfl⟩ := List.mem_map.mp h
  rfl

/-- The interrupt that is raised from one moment to a later one, if it is. -/
def raisedOn (t t' : Timeline) (place : Place) : List Event :=
  if !t.raised && t'.raised then [.interrupt t'.now place] else []

theorem Machine.note_eq (m : Machine β) (entry : Log.Entry) :
    m.note entry = { m with trace := m.trace ++ (m.logged [entry]).toArray } := by
  simp [Machine.note, Machine.logged]

theorem Machine.noteAll_eq (m : Machine β) (entries : List Log.Entry) :
    m.noteAll entries = { m with trace := m.trace ++ (m.logged entries).toArray } := by
  induction entries generalizing m with
  | nil => simp [Machine.noteAll, Machine.logged]
  | cons entry rest ih =>
    have hrest : (m.note entry).noteAll rest = _ := ih (m.note entry)
    rw [Machine.noteAll] at hrest ⊢
    rw [List.foldl_cons, hrest, Machine.note_eq]
    simp [Machine.logged]

theorem Machine.passTo_eq (m : Machine β) (time : Timeline) (place : Place) :
    m.passTo time place =
      { m with time, trace := m.trace ++ (raisedOn m.time time place).toArray } := by
  unfold Machine.passTo raisedOn
  split <;> simp

theorem Machine.passTo_events (m : Machine β) (time : Timeline) (place : Place) :
    (m.passTo time place).events = m.events ++ raisedOn m.time time place := by
  rw [Machine.passTo_eq]
  simp [Machine.events]

theorem mem_raisedOn {t t' : Timeline} {place : Place} {e : Event} :
    e ∈ raisedOn t t' place ↔
      t.raised = false ∧ t'.raised = true ∧ e = .interrupt t'.now place := by
  unfold raisedOn
  cases t.raised <;> cases t'.raised <;> simp

/-- Interrupts are no calls. -/
theorem answeredIn_raisedOn (t t' : Timeline) (place : Place) :
    answeredIn (raisedOn t t' place) = [] := by
  unfold raisedOn
  split <;> rfl

/-- What a pause adds to the trace: an interrupt raised at its very end, or the note that it was cut
short. -/
def afterPause (setup : Setup β) (d : Duration) (m : Machine β) : List Event :=
  let paused := m.time.pause setup.clock d
  raisedOn m.time paused.2 .deadline ++
    if paused.1 then [] else ({ m with time := paused.2 }).logged [DelayPolicy.interruptedNote]

/-- A pause changes the time, and nothing else but the trace. -/
theorem pauseOn_eq (setup : Setup β) (d : Duration) (m : Machine β) :
    pauseOn setup d m =
      { m with
        time := (m.time.pause setup.clock d).2
        trace := m.trace ++ (afterPause setup d m).toArray } := by
  have h : pauseOn setup d m =
      if (m.time.pause setup.clock d).1 then m.passTo (m.time.pause setup.clock d).2 .deadline
      else (m.passTo (m.time.pause setup.clock d).2 .deadline).note
        DelayPolicy.interruptedNote := rfl
  rw [h, Machine.passTo_eq, Machine.note_eq]
  cases hend : (m.time.pause setup.clock d).1 <;> simp [afterPause, hend, Machine.logged]

theorem pauseOn_events (setup : Setup β) (d : Duration) (m : Machine β) :
    (pauseOn setup d m).events = m.events ++ afterPause setup d m := by
  rw [pauseOn_eq]
  simp [Machine.events]

theorem answeredIn_afterPause (setup : Setup β) (d : Duration) (m : Machine β) :
    answeredIn (afterPause setup d m) = [] := by
  rw [afterPause, answeredIn_append, answeredIn_raisedOn]
  apply answeredIn_logs
  intro e he
  split at he
  · nomatch he
  · exact Machine.isLog_of_mem_logged he

def answerTime (setup : Setup β) (call : Call) (m : Machine β) : Timeline :=
  let response := setup.backend.answer call m.browser
  let passed := m.time.passTo (m.time.now + response.latency)
  if response.raises then passed.raise else passed

/-- What a call adds to the trace after itself: an interrupt raised meanwhile and the notes of the
browser. -/
def afterCall (setup : Setup β) (call : Call) (m : Machine β) : List Event :=
  raisedOn m.time (answerTime setup call m) .call ++
    ({ m with time := answerTime setup call m }).logged
      (setup.backend.answer call m.browser).notes

theorem callOn_fst (setup : Setup β) (call : Call) (m : Machine β) :
    (callOn setup call m).1 = (setup.backend.answer call m.browser).reply := rfl

/-- A call changes the browser and the time, and nothing else but the trace. -/
theorem callOn_snd (setup : Setup β) (call : Call) (m : Machine β) :
    (callOn setup call m).2 =
      { m with
        browser := (setup.backend.answer call m.browser).next
        time := answerTime setup call m
        trace := m.trace ++ (.call m.time.now call (callOn setup call m).1 ::
          afterCall setup call m).toArray } := by
  have h : (callOn setup call m).2 =
      (({ m with
        browser := (setup.backend.answer call m.browser).next
        trace := m.trace.push (.call m.time.now call (callOn setup call m).1) } :
          Machine β).passTo (answerTime setup call m) .call).noteAll
        (setup.backend.answer call m.browser).notes := rfl
  rw [h, Machine.passTo_eq, Machine.noteAll_eq]
  simp [afterCall, Machine.logged]

theorem callOn_events (setup : Setup β) (call : Call) (m : Machine β) :
    (callOn setup call m).2.events =
      m.events ++ .call m.time.now call (callOn setup call m).1 :: afterCall setup call m := by
  rw [callOn_snd]
  simp [Machine.events]

/-- A call is the only call among the events it adds. -/
theorem answeredIn_afterCall (setup : Setup β) (call : Call) (m : Machine β) :
    answeredIn (afterCall setup call m) = [] := by
  rw [afterCall, answeredIn_append, answeredIn_raisedOn,
    answeredIn_logs fun _ => Machine.isLog_of_mem_logged, List.append_nil]

theorem answeredIn_callOn (setup : Setup β) (call : Call) (m : Machine β) :
    answeredIn (callOn setup call m).2.events =
      answeredIn m.events ++ [⟨call, (callOn setup call m).1⟩] := by
  rw [callOn_events, answeredIn_append, answeredIn_call_cons, answeredIn_afterCall]

theorem callsIn_callOn (setup : Setup β) (call : Call) (m : Machine β) :
    callsIn (callOn setup call m).2.events = callsIn m.events ++ [call] := by
  rw [callsIn, answeredIn_callOn, List.map_append]
  rfl

end BrowserScript.Run
