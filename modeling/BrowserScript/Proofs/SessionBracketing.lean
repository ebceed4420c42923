import BrowserScript.Proofs.Invariants
import Mathlib.Computability.Language

/-!
# Sessions are bracketed

The calls of a run, read as a word over four letters, are a sequence of failed openings and of
sessions: an opening that succeeds, calls inside the session, and one close.  The invariant ties the
word so far to the machine: it is complete while no session is open, and lacks only its last close
while one is.
-/

namespace BrowserScript.Run

open Computability

variable {β : Type}

inductive Mark where
  | openFailed
  | opened
  | inner
  | closed
  deriving DecidableEq, Repr

/-- The mark of an answered call: a close counts whether or not it succeeds. -/
def Answered.mark : Answered → Mark
  | ⟨.openSession .., .ok _⟩ => .opened
  | ⟨.openSession .., .error _⟩ => .openFailed
  | ⟨.closeSession, _⟩ => .closed
  | _ => .inner

def marksIn (events : List Event) : List Mark := (answeredIn events).map Answered.mark

/-- Failed openings and complete sessions, in any order. -/
def sessionWords : Language Mark :=
  ({[.openFailed]} + {[.opened]} * {[.inner]}∗ * {[.closed]})∗

/-- Such a word followed by a session that is not closed yet. -/
def openWords : Language Mark := sessionWords * {[.opened]} * {[.inner]}∗

theorem mem_singleton_word (x : Mark) : [x] ∈ ({[x]} : Language Mark) := rfl

/-- A word of a starred language goes on with a word of the language. -/
theorem kstar_append_mem {L : Language Mark} {u v : List Mark} (hu : u ∈ L∗) (hv : v ∈ L) :
    u ++ v ∈ L∗ := by
  have hle : L∗ * L ≤ L∗ := kstar_mul_le_kstar
  exact hle (Language.append_mem_mul hu hv)

theorem sessionWords_openFailed {w : List Mark} (h : w ∈ sessionWords) :
    w ++ [.openFailed] ∈ sessionWords :=
  kstar_append_mem h (Or.inl (mem_singleton_word .openFailed))

theorem sessionWords_opened {w : List Mark} (h : w ∈ sessionWords) :
    w ++ [.opened] ∈ openWords := by
  have hinner : [] ∈ ({[.inner]} : Language Mark)∗ := Language.nil_mem_kstar _
  have hopened := Language.append_mem_mul h (mem_singleton_word .opened)
  rw [← List.append_nil (w ++ [Mark.opened])]
  exact Language.append_mem_mul hopened hinner

theorem openWords_inner {w : List Mark} (h : w ∈ openWords) : w ++ [.inner] ∈ openWords := by
  obtain ⟨u, hu, v, hv, rfl⟩ := Language.mem_mul.mp h
  rw [List.append_assoc]
  exact Language.append_mem_mul hu (kstar_append_mem hv (mem_singleton_word .inner))

theorem openWords_closed {w : List Mark} (h : w ∈ openWords) : w ++ [.closed] ∈ sessionWords := by
  obtain ⟨u, hu, v, hv, rfl⟩ := Language.mem_mul.mp h
  obtain ⟨s, hs, o, ho, rfl⟩ := Language.mem_mul.mp hu
  rw [List.append_assoc, List.append_assoc, ← List.append_assoc o]
  have hsession := Language.append_mem_mul (Language.append_mem_mul ho hv)
    (mem_singleton_word .closed)
  exact kstar_append_mem hs (Or.inr hsession)

/-- The word of the calls since some events fits the state of the session. -/
def Tidy (base : List Event) (m : Machine β) : Prop :=
  ∃ events, m.events = base ++ events ∧
    (m.sessionOpen = true ∧ marksIn events ∈ openWords ∨
      m.sessionOpen = false ∧ m.active = none ∧ marksIn events ∈ sessionWords)

namespace Tidy

variable {base : List Event} {m m' : Machine β}

/-- Events that are no calls leave the word as it is. -/
theorem silent (h : Tidy base m) {more : List Event} (hsession : m'.sessionOpen = m.sessionOpen)
    (hactive : m'.active = m.active) (hevents : m'.events = m.events ++ more)
    (hmore : answeredIn more = []) : Tidy base m' := by
  obtain ⟨events, hbase, hword⟩ := h
  refine ⟨events ++ more, by rw [hevents, hbase, List.append_assoc], ?_⟩
  have hmarks : marksIn (events ++ more) = marksIn events := by simp [marksIn, hmore]
  rwa [hmarks, hsession, hactive]

theorem quiet (h : Tidy base m) (hquiet : Quiet m m') : Tidy base m' := by
  obtain ⟨logs, hevents, hlogs⟩ := hquiet.trace
  exact h.silent hquiet.sessionOpen hquiet.active hevents (answeredIn_logs hlogs)

theorem pause (h : Tidy base m) (setup : Setup β) (d : Duration) :
    Tidy base (pauseOn setup d m) := by
  have hevents := pauseOn_events setup d m
  rw [pauseOn_eq] at hevents ⊢
  exact h.silent rfl rfl hevents (answeredIn_afterPause setup d m)

theorem marksIn_callOn (setup : Setup β) (call : Call) {events : List Event}
    (hbase : m.events = base ++ events) :
    ∃ events', (callOn setup call m).2.events = base ++ events' ∧
      marksIn events' = marksIn events ++ [Answered.mark ⟨call, (callOn setup call m).1⟩] := by
  refine ⟨events ++ .call m.time.now call (callOn setup call m).1 :: afterCall setup call m, ?_, ?_⟩
  · rw [callOn_events, hbase, List.append_assoc]
  · simp [marksIn, answeredIn_afterCall]

/-- A call inside the session adds an inner letter, whatever becomes of the active element. -/
theorem inner (h : Tidy base m) (setup : Setup β) (call : Call) (active : Option ElementRef)
    (hopen : m.sessionOpen = true) (hcall : ∀ reply, Answered.mark ⟨call, reply⟩ = .inner) :
    Tidy base { (callOn setup call m).2 with active } := by
  obtain ⟨events, hbase, ⟨-, hword⟩ | ⟨hclosed, -⟩⟩ := h
  · obtain ⟨events', hbase', hmarks⟩ := marksIn_callOn setup call hbase
    refine ⟨events', hbase', .inl ⟨?_, ?_⟩⟩
    · rw [callOn_snd]
      exact hopen
    · rw [hmarks, hcall]
      exact openWords_inner hword
  · rw [hopen] at hclosed
    nomatch hclosed

theorem takeElement (h : Tidy base m) (setup : Setup β) {call : Call}
    {r : Except BrowserError ElementRef × Machine β} (hr : r.2 = (callOn setup call m).2)
    (hopen : m.sessionOpen = true) (hcall : ∀ reply, Answered.mark ⟨call, reply⟩ = .inner) :
    Tidy base (takeElement r) := by
  obtain ⟨reply, m'⟩ := r
  subst hr
  cases reply with
  | ok e => exact h.inner setup call (some e) hopen hcall
  | error e => exact h.inner setup call _ hopen hcall

/-- A close completes the word. -/
theorem close (h : Tidy base m) (setup : Setup β) (hopen : m.sessionOpen = true) :
    Tidy base
      (callOn setup .closeSession { m with sessionOpen := false, active := none }).2 := by
  obtain ⟨events, hbase, ⟨-, hword⟩ | ⟨hclosed, -⟩⟩ := h
  · have hbase₀ : ({ m with sessionOpen := false, active := none } : Machine β).events =
      base ++ events := hbase
    obtain ⟨events', hbase', hmarks⟩ := marksIn_callOn setup .closeSession hbase₀
    refine ⟨events', hbase', .inr ⟨?_, ?_, ?_⟩⟩
    · rw [callOn_snd]
    · rw [callOn_snd]
    · rw [hmarks]
      exact openWords_closed hword
  · rw [hopen] at hclosed
    nomatch hclosed

/-- An opening starts a session if it succeeds. -/
theorem start (h : Tidy base m) (setup : Setup β) (name : String) (options : List String)
    (hclosed : m.sessionOpen = false) :
    Tidy base (takeSession (callOn setup (.openSession name options) m)) := by
  obtain ⟨events, hbase, ⟨hopen, -⟩ | ⟨-, hactive, hword⟩⟩ := h
  · rw [hclosed] at hopen
    nomatch hopen
  · obtain ⟨events', hbase', hmarks⟩ := marksIn_callOn setup (.openSession name options) hbase
    cases hreply : (callOn setup (.openSession name options) m).1 with
    | ok a =>
      rw [hreply] at hmarks
      rw [takeSession_ok hreply]
      exact ⟨events', hbase', .inl ⟨rfl, hmarks ▸ sessionWords_opened hword⟩⟩
    | error e =>
      rw [hreply] at hmarks
      rw [takeSession_error hreply]
      refine ⟨events', hbase', .inr ⟨?_, ?_, hmarks ▸ sessionWords_openFailed hword⟩⟩
      · rw [callOn_snd]
        exact hclosed
      · rw [callOn_snd]
        exact hactive

end Tidy

theorem tidy_invariant (setup : Setup β) (base : List Event) :
    Invariant setup (Tidy base) (Tidy base) where
  move := by
    intro m m' h hmove
    cases hmove with
    | quiet hquiet => exact h.quiet hquiet
    | poll d =>
      have hevents := m.passTo_events (m.time.wait setup.clock d) .poll
      rw [Machine.passTo_eq] at hevents ⊢
      exact h.silent rfl rfl hevents (answeredIn_raisedOn _ _ _)
    | rest d _ => exact h.pause setup d
    | ask call hlive hcall =>
      refine h.inner setup call _ hlive.1 fun reply => ?_
      cases call <;> first | rfl | nomatch hcall
    | leave call a hlive hcall _ =>
      refine h.inner setup call none hlive.1 fun reply => ?_
      cases call <;> first | rfl | nomatch hcall
    | find l hlive => exact h.takeElement setup rfl hlive.1 fun _ => rfl
    | focus hlive => exact h.takeElement setup rfl hlive.1 fun _ => rfl
    | use call e hopen _ hcall =>
      refine h.inner setup call _ hopen fun reply => ?_
      cases call <;> first | rfl | nomatch hcall
    | start name options hclosed => exact h.start setup name options hclosed
    | finish hlive => exact h.close setup hlive.1
  pause := fun d h => h.pause setup d
  stop := id
  leave := by
    intro m call e h hlive hcall _
    refine h.inner setup call _ hlive.1 fun reply => ?_
    cases call <;> first | rfl | nomatch hcall
  quiet_stopped := Tidy.quiet
  pause_stopped := fun d h => h.pause setup d

def Machine.Idle (m : Machine β) : Prop := m.sessionOpen = false ∧ m.active = none

theorem tidy_release {setup : Setup β} {base : List Event} {m : Machine β} (h : Tidy base m) :
    Tidy base (release setup m) ∧ (release setup m).Idle := by
  cases hopen : m.sessionOpen with
  | true =>
    rw [release_of_open hopen]
    refine ⟨(h.close setup hopen).quiet (.note _ _ (releaseNote_own _)), ?_⟩
    rw [callOn_snd]
    exact ⟨rfl, rfl⟩
  | false =>
    rw [release_of_closed hopen]
    refine ⟨h, hopen, ?_⟩
    obtain ⟨-, -, ⟨hopen', -⟩ | ⟨-, hactive, -⟩⟩ := h
    · rw [hopen] at hopen'
      nomatch hopen'
    · exact hactive

/-- A run from an idle machine is bracketed and leaves the machine idle. -/
theorem run_tidy (setup : Setup β) (script : List Instruction) {m : Machine β} (hidle : m.Idle) :
    Tidy m.events (run setup script m).2 ∧ (run setup script m).2.Idle := by
  have hstart : Tidy m.events m :=
    ⟨[], by simp, .inr ⟨hidle.1, hidle.2, Language.nil_mem_kstar _⟩⟩
  exact tidy_release ((tidy_invariant setup m.events).runInstructions script hstart).both

/-- A machine after some runs.  Before each of them the interrupt may be raised or lowered and
interrupts may be scheduled. -/
def afterRuns (setup : Setup β) (m : Machine β) : List (Timeline × List Instruction) → Machine β
  | [] => m
  | (time, script) :: rest => afterRuns setup (run setup script { m with time }).2 rest

theorem afterRuns_idle (setup : Setup β) (earlier : List (Timeline × List Instruction))
    {m : Machine β} (hidle : m.Idle) : (afterRuns setup m earlier).Idle := by
  induction earlier generalizing m with
  | nil => exact hidle
  | cons round rest ih =>
    have hstart : ({ m with time := round.1 } : Machine β).Idle := hidle
    exact ih (run_tidy setup round.2 hstart).2

/-- Whatever ran before, the calls of a run are failed openings and complete sessions, and the run
leaves no session open and no element active. -/
theorem run_brackets_sessions (setup : Setup β) (store : Variables) (browser : β)
    (policy : DelayPolicy) (earlier : List (Timeline × List Instruction)) (time : Timeline)
    (script : List Instruction) :
    let m : Machine β :=
      { afterRuns setup { Machine.start store browser with policy } earlier with time }
    let m' := (run setup script m).2
    m.events <+: m'.events ∧ marksIn (eventsBetween m m') ∈ sessionWords ∧
      m'.sessionOpen = false ∧ m'.active = none := by
  intro m m'
  have hidle : m.Idle := afterRuns_idle setup earlier ⟨rfl, rfl⟩
  obtain ⟨⟨events, hevents, hword⟩, hclosed, hactive⟩ := run_tidy setup script hidle
  refine ⟨⟨events, hevents.symm⟩, ?_, hclosed, hactive⟩
  rw [eventsBetween_eq hevents]
  rcases hword with ⟨hopen, -⟩ | ⟨-, -, hword⟩
  · rw [hclosed] at hopen
    nomatch hopen
  · exact hword

end BrowserScript.Run
