import BrowserScript.Proofs.Ensures
import Mathlib.Logic.Relation

/-!
# What a step can do

A step of a script is a sequence of moves.  Each move says what must hold before it: calls inside a
session need the session, and all but two of them a lowered interrupt; an element is used only while
it is active; a session is opened only while none is open.  What a run keeps follows from what each
kind of move keeps, without another look at the handlers.
-/

namespace BrowserScript

namespace Call

/-- Whether a call puts a question to the page or sets something in it: it opens and closes nothing,
stays on the page and hands out no element to use. -/
def asks : Call → Bool
  | .currentUrl | .windowHandles | .findAll _ | .execute .. | .setTimeouts .. => true
  | _ => false

def leaves : Call → Bool
  | .navigate _ | .back | .forward | .refresh => true
  | _ => false

def changesSession : Call → Bool
  | .openSession .. | .closeSession => true
  | _ => false

def used? : Call → Option ElementRef
  | .click e => some e
  | .sendKeys e _ => some e
  | _ => none

theorem changesSession_of_asks {call : Call} (h : call.asks = true) :
    call.changesSession = false := by
  cases call <;> first | rfl | nomatch h

theorem changesSession_of_leaves {call : Call} (h : call.leaves = true) :
    call.changesSession = false := by
  cases call <;> first | rfl | nomatch h

theorem changesSession_of_used? {call : Call} {e : ElementRef} (h : call.used? = some e) :
    call.changesSession = false := by
  cases call <;> first | rfl | nomatch h

end Call

namespace Run

variable {β α γ : Type}

/-- A session is open and the interrupt is not raised. -/
def Machine.Live (m : Machine β) : Prop := m.sessionOpen = true ∧ m.time.raised = false

/-- A change that concerns neither the browser, nor the session, nor the time; the trace grows by
log entries only, and none of them is a note of the remote browser. -/
structure Quiet (m m' : Machine β) : Prop where
  browser : m'.browser = m.browser
  sessionOpen : m'.sessionOpen = m.sessionOpen
  active : m'.active = m.active
  time : m'.time = m.time
  trace : ∃ logs : List Event, m'.events = m.events ++ logs ∧ ∀ e ∈ logs, e.isLog = true
  own : ∀ e ∈ eventsBetween m m', e.isTraffic = false

theorem Quiet.of_trace_eq {m m' : Machine β} (hbrowser : m'.browser = m.browser)
    (hsession : m'.sessionOpen = m.sessionOpen) (hactive : m'.active = m.active)
    (htime : m'.time = m.time) (htrace : m'.trace = m.trace) : Quiet m m' := by
  have hevents : m'.events = m.events ++ [] := by simp [Machine.events, htrace]
  refine ⟨hbrowser, hsession, hactive, htime, ⟨[], hevents, by simp⟩, ?_⟩
  rw [eventsBetween_eq hevents]
  simp

theorem Quiet.note (m : Machine β) (entry : Log.Entry)
    (hown : (entry.origin == .remote) = false := by rfl) : Quiet m (m.note entry) := by
  have hevents : (m.note entry).events = m.events ++ m.logged [entry] := by
    simp [Machine.note_eq, Machine.events]
  refine ⟨rfl, rfl, rfl, rfl, ⟨_, hevents, fun _ => Machine.isLog_of_mem_logged⟩, ?_⟩
  rw [eventsBetween_eq hevents]
  intro e he
  rw [Machine.logged, List.map_singleton, List.mem_singleton] at he
  rw [he]
  exact hown

/-- A change in which the browser has no part: only the time may pass, and the trace grows by no
traffic. -/
structure Silent (m m' : Machine β) : Prop where
  browser : m'.browser = m.browser
  sessionOpen : m'.sessionOpen = m.sessionOpen
  active : m'.active = m.active
  trace : ∃ more : List Event, m'.events = m.events ++ more ∧ ∀ e ∈ more, e.isTraffic = false

theorem Silent.quiet {m m' : Machine β} (h : Quiet m m') : Silent m m' := by
  obtain ⟨logs, hevents, -⟩ := h.trace
  refine ⟨h.browser, h.sessionOpen, h.active, logs, hevents, ?_⟩
  rw [← eventsBetween_eq hevents]
  exact h.own

theorem Silent.passTo (m : Machine β) (time : Timeline) (place : Place) :
    Silent m (m.passTo time place) := by
  have hevents := m.passTo_events time place
  rw [Machine.passTo_eq] at hevents ⊢
  refine ⟨rfl, rfl, rfl, _, hevents, ?_⟩
  intro e he
  rw [(mem_raisedOn.mp he).2.2]
  rfl

theorem Silent.pause (setup : Setup β) (d : Duration) (m : Machine β) :
    Silent m (pauseOn setup d m) := by
  have hevents := pauseOn_events setup d m
  rw [pauseOn_eq] at hevents ⊢
  refine ⟨rfl, rfl, rfl, _, hevents, ?_⟩
  intro e he
  rcases List.mem_append.mp he with he | he
  · rw [(mem_raisedOn.mp he).2.2]
    rfl
  · split at he
    · nomatch he
    · rw [Machine.logged, List.map_singleton, List.mem_singleton] at he
      rw [he]
      rfl

theorem Silent.answeredIn {m m' : Machine β} (h : Silent m m') :
    answeredIn m'.events = answeredIn m.events := by
  obtain ⟨more, hevents, hmore⟩ := h.trace
  rw [hevents, answeredIn_append, answeredIn_of_no_traffic hmore, List.append_nil]

/-- The machine that makes the element of a reply active. -/
def takeElement : Except BrowserError ElementRef × Machine β → Machine β
  | (.ok e, m) => { m with active := some e }
  | (.error _, m) => m

/-- The machine whose session is open if the reply says so. -/
def takeSession : Except BrowserError Unit × Machine β → Machine β
  | (.ok _, m) => { m with sessionOpen := true }
  | (.error _, m) => m

theorem takeElement_ok {r : Except BrowserError ElementRef × Machine β} {e : ElementRef}
    (h : r.1 = .ok e) : takeElement r = { r.2 with active := some e } := by
  obtain ⟨reply, m⟩ := r
  subst h
  rfl

theorem takeElement_error {r : Except BrowserError ElementRef × Machine β} {e : BrowserError}
    (h : r.1 = .error e) : takeElement r = r.2 := by
  obtain ⟨reply, m⟩ := r
  subst h
  rfl

theorem takeSession_ok {r : Except BrowserError Unit × Machine β} {a : Unit}
    (h : r.1 = .ok a) : takeSession r = { r.2 with sessionOpen := true } := by
  obtain ⟨reply, m⟩ := r
  subst h
  rfl

theorem takeSession_error {r : Except BrowserError Unit × Machine β} {e : BrowserError}
    (h : r.1 = .error e) : takeSession r = r.2 := by
  obtain ⟨reply, m⟩ := r
  subst h
  rfl

@[simp] theorem takeElement_time (r : Except BrowserError ElementRef × Machine β) :
    (takeElement r).time = r.2.time := by
  obtain ⟨_ | _, m⟩ := r <;> rfl

@[simp] theorem takeElement_events (r : Except BrowserError ElementRef × Machine β) :
    (takeElement r).events = r.2.events := by
  obtain ⟨_ | _, m⟩ := r <;> rfl

theorem takeSession_browser (r : Except BrowserError Unit × Machine β) :
    (takeSession r).browser = r.2.browser := by
  obtain ⟨_ | _, m⟩ := r <;> rfl

@[simp] theorem takeSession_time (r : Except BrowserError Unit × Machine β) :
    (takeSession r).time = r.2.time := by
  obtain ⟨_ | _, m⟩ := r <;> rfl

@[simp] theorem takeSession_events (r : Except BrowserError Unit × Machine β) :
    (takeSession r).events = r.2.events := by
  obtain ⟨_ | _, m⟩ := r <;> rfl

inductive Move (setup : Setup β) : Machine β → Machine β → Prop
  | quiet {m m' : Machine β} (h : Quiet m m') : Move setup m m'
  | poll (m : Machine β) (d : Duration) :
    Move setup m (m.passTo (m.time.wait setup.clock d) .poll)
  | rest (m : Machine β) (d : Duration) (hdown : m.time.raised = false) :
    Move setup m (pauseOn setup d m)
  | ask (m : Machine β) (call : Call) (hlive : m.Live) (hcall : call.asks = true) :
    Move setup m (callOn setup call m).2
  | leave (m : Machine β) (call : Call) (a : call.Answer) (hlive : m.Live)
    (hcall : call.leaves = true) (hreply : (callOn setup call m).1 = .ok a) :
    Move setup m { (callOn setup call m).2 with active := none }
  | find (m : Machine β) (l : Locator) (hlive : m.Live) :
    Move setup m (takeElement (callOn setup (.find l) m))
  | focus (m : Machine β) (hlive : m.Live) :
    Move setup m (takeElement (callOn setup .activeElement m))
  | use (m : Machine β) (call : Call) (e : ElementRef) (hopen : m.sessionOpen = true)
    (hactive : m.active = some e) (hcall : call.used? = some e) :
    Move setup m (callOn setup call m).2
  | start (m : Machine β) (name : String) (options : List String)
    (hclosed : m.sessionOpen = false) :
    Move setup m (takeSession (callOn setup (.openSession name options) m))
  | finish (m : Machine β) (hlive : m.Live) :
    Move setup m (callOn setup .closeSession { m with sessionOpen := false, active := none }).2

abbrev Moves (setup : Setup β) : Machine β → Machine β → Prop := Relation.ReflTransGen (Move setup)

/-- Moves up to where a step stops the run.  A page that cannot be left ends the step at once, with
the active element still in place. -/
inductive Halts (setup : Setup β) (m : Machine β) : Machine β → Prop
  | after {m' : Machine β} (h : Moves setup m m') : Halts setup m m'
  | leave {m' : Machine β} (call : Call) (e : BrowserError) (h : Moves setup m m')
    (hlive : m'.Live) (hcall : call.leaves = true)
    (hreply : (callOn setup call m').1 = .error e) : Halts setup m (callOn setup call m').2

theorem Halts.of_moves {setup : Setup β} {m m' m'' : Machine β} (h : Moves setup m m')
    (h' : Halts setup m' m'') : Halts setup m m'' := by
  cases h' with
  | after h₁ => exact .after (h.trans h₁)
  | leave call e h₁ hlive hcall hreply => exact .leave call e (h.trans h₁) hlive hcall hreply

def Reached (setup : Setup β) (m₀ : Machine β) (P : Machine β → Prop) (m : Machine β) : Prop :=
  Moves setup m₀ m ∧ P m

/-- The machines at which moves end that stop the run.  A wait that is given up for lack of rounds
was not interrupted. -/
def Stopped (setup : Setup β) (m₀ : Machine β) (halt : Halt) (m : Machine β) : Prop :=
  Halts setup m₀ m ∧ (halt = .unfinished → m.time.raised = false)

theorem Reached.move {setup : Setup β} {m₀ m m' : Machine β} {P Q : Machine β → Prop}
    (h : Reached setup m₀ P m) (hmove : Move setup m m') (hQ : Q m') : Reached setup m₀ Q m' :=
  ⟨h.1.tail hmove, hQ⟩

/-- A lookup keeps the session, whether or not it finds its element. -/
theorem Reached.find {setup : Setup β} {m₀ m m' : Machine β} {l : Locator}
    {reply : Except BrowserError ElementRef} (h : Reached setup m₀ Machine.Live m)
    (hcall : callOn setup (.find l) m = (reply, m')) :
    Reached setup m₀ (·.sessionOpen = true) (takeElement (reply, m')) := by
  have hmove : Move setup m _ := .find m l h.2
  have hkeep := congrArg (·.sessionOpen) (callOn_snd setup (.find l) m)
  rw [hcall] at hmove hkeep
  refine h.move hmove ?_
  cases reply with
  | ok e => exact hkeep.trans h.2.1
  | error e => exact hkeep.trans h.2.1

theorem Reached.stop {setup : Setup β} {m₀ m : Machine β} {P : Machine β → Prop}
    (h : Reached setup m₀ P m) (e : ScriptError) : Stopped setup m₀ (.failed e) m :=
  ⟨.after h.1, fun h => nomatch h⟩

/-- From where `P` holds, a part of a run only makes moves, and `Q` holds if it goes on. -/
structure Goes (setup : Setup β) (P : Machine β → Prop) (x : Exec β α)
    (Q : α → Machine β → Prop) : Prop where
  ensures : ∀ m₀, Ensures (Reached setup m₀ P) x (fun a => Reached setup m₀ (Q a))
    (Stopped setup m₀)

namespace Goes

variable {setup : Setup β} {P R : Machine β → Prop} {Q : α → Machine β → Prop}
  {S : γ → Machine β → Prop} {x : Exec β α} {f : α → Exec β γ}

theorem bind (hx : Goes setup P x Q) (hf : ∀ a, Goes setup (Q a) (f a) S) :
    Goes setup P (x >>= f) S :=
  ⟨fun m₀ => .bind (hx.ensures m₀) fun a => (hf a).ensures m₀⟩

theorem of_imp (hP : ∀ m, R m → P m) (hx : Goes setup P x Q) : Goes setup R x Q :=
  ⟨fun m₀ => .of_imp (fun m h => ⟨h.1, hP m h.2⟩) (hx.ensures m₀)⟩

theorem weaken {Q' : α → Machine β → Prop} (hx : Goes setup P x Q)
    (hQ : ∀ a m, Q a m → Q' a m) : Goes setup P x Q' :=
  ⟨fun m₀ => .weaken (hx.ensures m₀) fun a m h => ⟨h.1, hQ a m h.2⟩⟩

theorem ite {c : Prop} [Decidable c] {y : Exec β α} (hx : c → Goes setup P x Q)
    (hy : ¬c → Goes setup P y Q) : Goes setup P (if c then x else y) Q :=
  ⟨fun m₀ => .ite (fun h => (hx h).ensures m₀) fun h => (hy h).ensures m₀⟩

theorem done {a : α} (hQ : ∀ m, P m → Q a m) : Goes setup P (pure a) Q :=
  ⟨fun _ => .done fun m h => ⟨h.1, hQ m h.2⟩⟩

theorem read : Goes setup P (get : Exec β (Machine β)) fun a m => a = m ∧ P m :=
  ⟨fun _ => .read fun _ h => ⟨h.1, rfl, h.2⟩⟩

theorem fail (e : ScriptError) : Goes setup P (fail e : Exec β α) Q :=
  ⟨fun _ => .fail fun _ h => h.stop e⟩

theorem require (r : Except ScriptError α) : Goes setup P (require r) fun _ m => P m :=
  ⟨fun _ => .require (fun _ _ _ h => h) fun _ e _ h => h.stop e⟩

/-- A change of the machine that is one move. -/
theorem change {g : Machine β → Machine β} {Q : Unit → Machine β → Prop}
    (hmove : ∀ m, P m → Move setup m (g m)) (hQ : ∀ m, P m → Q () (g m)) :
    Goes setup P (modify g) Q :=
  ⟨fun _ => .change fun m h => h.move (hmove m h.2) (hQ m h.2)⟩

theorem log (hP : ∀ m entry, P m → P (m.note entry)) (level : Log.Level) (message : String)
    (fields : List (String × Log.Content)) :
    Goes setup P (log level message fields) fun _ m => P m :=
  change (fun m _ => .quiet (.note m _)) fun m hm => hP m _ hm

theorem requireSession : Goes setup P requireSession fun _ m => m.sessionOpen = true ∧ P m :=
  ⟨fun _ => .weaken (.requireSession fun _ h => h.stop _) fun _ _ h => ⟨h.2.1, h.1, h.2.2⟩⟩

theorem activeElement : Goes setup P activeElement fun e m => m.active = some e ∧ P m :=
  ⟨fun _ => .weaken (.activeElement fun _ _ h => h.stop _) fun _ _ h => ⟨h.2.1, h.1, h.2.2⟩⟩

theorem stopIfInterrupted :
    Goes setup P stopIfInterrupted fun _ m => m.time.raised = false ∧ P m := by
  refine ⟨fun m₀ => .weaken (.stopIfInterrupted fun m h => ?_) ?_⟩
  · exact (h.move (.quiet (.note m _)) trivial : Reached setup m₀ (fun _ => True) _).stop _
  · exact fun _ _ h => ⟨h.2.1, h.1, h.2.2⟩

/-- A wait that is not interrupted may be given up. -/
theorem giveUp : Goes setup (fun m => m.time.raised = false ∧ P m)
    (throw .unfinished : Exec β α) Q :=
  ⟨fun _ => .halt fun _ h => ⟨.after h.1, fun _ => h.2.1⟩⟩

theorem waitRound (deadline : Nat) :
    Goes setup (·.sessionOpen = true) (waitRound setup deadline)
      fun _ m => m.sessionOpen = true := by
  refine ⟨fun m₀ => .waitRound fun m d h => h.move (.poll m d) ?_⟩
  rw [Machine.passTo_eq]
  exact h.2

/-- A call that is one move whatever its reply. -/
theorem demand {call : Call} {Q : call.Answer → Machine β → Prop}
    (hmove : ∀ m, P m → Move setup m (callOn setup call m).2)
    (hQ : ∀ m a, P m → Q a (callOn setup call m).2) :
    Goes setup P (demand setup call) Q := by
  refine ⟨fun m₀ => .demand (fun m a _ h => ?_) fun m e _ h => ?_⟩
  · exact h.move (hmove m h.2) (hQ m a h.2)
  · exact ⟨.after (h.1.tail (hmove m h.2)), fun h => nomatch h⟩

/-- A call together with what the run makes of its answer. -/
theorem demandThen {call : Call} {g : call.Answer → Machine β → Machine β}
    {Q : Unit → Machine β → Prop}
    (hok : ∀ m a, (callOn setup call m).1 = .ok a → P m →
      Move setup m (g a (callOn setup call m).2))
    (hQ : ∀ m a, P m → Q () (g a (callOn setup call m).2))
    (herror : ∀ m e, (callOn setup call m).1 = .error e → P m →
      Halts setup m (callOn setup call m).2) :
    Goes setup P (Run.demand setup call >>= fun a => modify (g a)) Q := by
  refine ⟨fun m₀ => .bind (.demand (Q := fun a m' => ∃ m, (callOn setup call m).1 = .ok a ∧
    Reached setup m₀ P m ∧ m' = (callOn setup call m).2) ?_ ?_) fun a => .change ?_⟩
  · exact fun m a hreply h => ⟨m, hreply, h, rfl⟩
  · exact fun m e hreply h => ⟨.of_moves h.1 (herror m e hreply h.2), fun h => nomatch h⟩
  · rintro _ ⟨m, hreply, h, rfl⟩
    exact h.move (hok m a hreply h.2) (hQ m a h.2)

/-- A question keeps the session. -/
theorem ask {call : Call} (hcall : call.asks = true) :
    Goes setup Machine.Live (Run.demand setup call) fun _ m => m.sessionOpen = true := by
  refine demand (fun m hm => .ask m call hm hcall) fun m a hm => ?_
  rw [callOn_snd]
  exact hm.1

/-! ### Waiting for the page -/

/-- A lookup that finds its element does so in its last call; until then it only makes moves. -/
theorem findBefore (m₀ : Machine β) (l : Locator) (timeout : Duration) (deadline n : Nat) :
    Ensures (Reached setup m₀ (·.sessionOpen = true)) (findBefore setup l timeout deadline n)
      (fun e m' => ∃ m, Reached setup m₀ Machine.Live m ∧ callOn setup (.find l) m = (.ok e, m'))
      (Stopped setup m₀) := by
  induction n with
  | zero =>
    exact .bind (stopIfInterrupted.ensures m₀) fun _ =>
      .halt fun _ h => ⟨.after h.1, fun _ => h.2.1⟩
  | succ n ih =>
    refine .bind (stopIfInterrupted.ensures m₀) fun _ => ?_
    refine .bind (.perform (Q := fun reply m' => ∃ m, Reached setup m₀ Machine.Live m ∧
      callOn setup (.find l) m = (reply, m')) fun m h => ⟨m, ⟨h.1, h.2.2, h.2.1⟩, rfl⟩)
      fun reply => ?_
    cases reply with
    | ok e => exact .done fun _ h => h
    | error e =>
      -- The element is not there: the session stays, and the machine has moved.
      have hmiss : ∀ m', (∃ m, Reached setup m₀ Machine.Live m ∧
          callOn setup (.find l) m = (.error e, m')) →
          Reached setup m₀ (·.sessionOpen = true) m' := by
        rintro m' ⟨m, h, hcall⟩
        exact h.find hcall
      refine .of_imp hmiss ?_
      cases e with
      | noSuchElement what =>
        refine .bind (.read fun _ h => h) fun m' => .ite (fun _ => ?_) fun _ => ?_
        · exact .bind ((waitRound deadline).ensures m₀) fun _ => ih
        · exact .ite (fun _ => .fail fun _ h => h.stop _) fun _ => .fail fun _ h => h.stop _
      | _ => exact .fail fun _ h => h.stop _

/-- An element that is looked up is active once it is found. -/
theorem seek (l : Locator) (timeout : Duration) :
    Goes setup (·.sessionOpen = true) (seek setup l timeout) fun _ m => m.sessionOpen = true := by
  refine ⟨fun m₀ => .bind (.bind (.read fun _ h => h) fun _ => findBefore m₀ l timeout _ _) ?_⟩
  refine fun e => .change ?_
  rintro m' ⟨m, h, hcall⟩
  exact h.find hcall

theorem holds (c : Condition) :
    Goes setup Machine.Live (holds setup c) fun _ m => m.sessionOpen = true := by
  cases c with
  | present l => exact .bind (.ask rfl) fun _ => .done fun _ h => h
  | absent l => exact .bind (.ask rfl) fun _ => .done fun _ h => h
  | urlIs url => exact .bind (.ask rfl) fun _ => .done fun _ h => h
  | urlContains part => exact .bind (.ask rfl) fun _ => .done fun _ h => h

theorem holdsBefore (c : Condition) (timeout : Duration) (deadline n : Nat) :
    Goes setup (·.sessionOpen = true) (holdsBefore setup c timeout deadline n)
      fun _ m => m.sessionOpen = true := by
  induction n with
  | zero => exact .bind .stopIfInterrupted fun _ => .giveUp
  | succ n ih =>
    refine .bind .stopIfInterrupted fun _ => ?_
    refine .bind (.of_imp (fun m h => ⟨h.2, h.1⟩) (.holds c)) fun found => ?_
    cases found with
    | true => exact .done fun _ h => h
    | false =>
      refine .bind .read fun m₀ => .ite (fun _ => ?_) fun _ => .fail _
      exact .bind (.of_imp (fun _ h => h.2) (.waitRound deadline)) fun _ => ih

theorem waitFor (c : Condition) (timeout : Duration) :
    Goes setup (·.sessionOpen = true) (waitFor setup c timeout) fun _ m => m.sessionOpen = true :=
  .bind .read fun _ => .of_imp (fun _ h => h.2) (.holdsBefore c timeout _ _)

/-! ### The handlers -/

theorem startSession (name : String) (options : List String) :
    Goes setup (·.sessionOpen = false) (startSession setup name options) fun _ _ => True := by
  refine demandThen (fun m a hreply hclosed => ?_) (fun _ _ _ => trivial)
    fun m e hreply hclosed => ?_
  · have hmove : Move setup m _ := .start m name options hclosed
    rwa [takeSession_ok hreply] at hmove
  · have hmove : Move setup m _ := .start m name options hclosed
    rw [takeSession_error hreply] at hmove
    exact .after (.single hmove)

theorem endSession :
    Goes setup Machine.Live (endSession setup) fun _ m => m.sessionOpen = false := by
  -- The machine between the two parts is no machine of a move, so they are taken together.
  refine ⟨fun m₀ => .bind (.change (Q := fun _ m' => ∃ m, Reached setup m₀ Machine.Live m ∧
    m' = { m with sessionOpen := false, active := none }) fun m h => ⟨m, h, rfl⟩) fun _ => ?_⟩
  refine .bind (.demand ?_ ?_) fun _ => .done fun _ h => h
  · rintro _ a - ⟨m, h, rfl⟩
    refine h.move (.finish m h.2) ?_
    rw [callOn_snd]
  · rintro _ e - ⟨m, h, rfl⟩
    exact ⟨.after (h.1.tail (.finish m h.2)), fun h => nomatch h⟩

theorem leavePage {call : Call} (hcall : call.leaves = true) :
    Goes setup Machine.Live (leavePage setup call) fun _ _ => True :=
  demandThen (fun m a hreply hlive => .leave m call a hlive hcall hreply) (fun _ _ _ => trivial)
    fun _ e hreply hlive => .leave call e .refl hlive hcall hreply

theorem focus : Goes setup Machine.Live
    (Run.demand setup .activeElement >>= fun e => activate e) fun _ _ => True := by
  refine demandThen (fun m e hreply hlive => ?_) (fun _ _ _ => trivial) fun m e hreply hlive => ?_
  · have hmove : Move setup m _ := .focus m hlive
    rwa [takeElement_ok hreply] at hmove
  · have hmove : Move setup m _ := .focus m hlive
    rw [takeElement_error hreply] at hmove
    exact .after (.single hmove)

/-- A call that acts on the active element. -/
theorem use {call : Call} {e : ElementRef} (hcall : call.used? = some e) :
    Goes setup (fun m => m.active = some e ∧ m.sessionOpen = true) (Run.demand setup call)
      fun _ _ => True :=
  demand (fun m hm => .use m call e hm.2 hm.1 hcall) fun _ _ _ => trivial

/-- What an action that needs a session does once it is known to have one. -/
theorem inSession {x : Exec β Unit} (hx : Goes setup Machine.Live x fun _ _ => True) :
    Goes setup (·.time.raised = false) (Run.requireSession >>= fun _ => x) fun _ _ => True :=
  .bind .requireSession fun _ => hx

theorem sample (policy : DelayPolicy) :
    Goes setup (·.time.raised = false) (modifyGet (sampleOn setup policy))
      fun _ m => m.time.raised = false :=
  ⟨fun _ => .changeGet fun _ h => h.move (.quiet (.of_trace_eq rfl rfl rfl rfl rfl)) h.2⟩

theorem assignDefault (name text : String) :
    Goes setup P (Run.assignDefault name text) fun _ _ => True :=
  ⟨fun _ => .changeGet fun _ h => h.move (.quiet (.of_trace_eq rfl rfl rfl rfl rfl)) trivial⟩

theorem store (bound : Bound) (label text : String) {P : Machine β → Prop} :
    Goes setup P (store bound label text) fun _ _ => True := by
  refine .of_imp (fun _ _ => trivial) ?_
  unfold Run.store
  split
  · refine .bind (.log (fun _ _ h => h) _ _ _) fun _ => ?_
    exact .change (fun m _ => .quiet (.of_trace_eq rfl rfl rfl rfl rfl)) fun _ _ => trivial
  · exact .log (fun _ _ h => h) _ _ _

theorem openBrowser (bound : Bound) :
    Goes setup (·.time.raised = false) (openBrowser setup bound) fun _ _ => True := by
  refine .bind (.require _) fun name => .bind .read fun m₀ => ?_
  refine .ite (fun hopen => ?_) fun hclosed => ?_
  · have hlog : ∀ (m : Machine β) (entry : Log.Entry), m.Live → (m.note entry).Live :=
      fun _ _ h => h
    refine .bind (.of_imp (fun m h => ⟨h.1 ▸ hopen, h.2⟩) (.log hlog _ _ _)) fun _ => ?_
    refine .bind .endSession fun _ => .bind (.log (fun _ _ h => h) _ _ _) fun _ => ?_
    exact .startSession _ _
  · have hlog : ∀ (m : Machine β) (entry : Log.Entry),
        m.sessionOpen = false → (m.note entry).sessionOpen = false := fun _ _ h => h
    refine .bind (.of_imp ?_ (.log hlog _ _ _)) fun _ => .startSession _ _
    rintro m ⟨rfl, -⟩
    exact Bool.of_not_eq_true hclosed

end Goes

/-- Every handler keeps to the moves. -/
theorem handle_goes (setup : Setup β) (bound : Bound) (h : Handler) :
    Goes setup (·.time.raised = false) (handle setup bound h) fun _ _ => True := by
  have hlog : ∀ (m : Machine β) (entry : Log.Entry), True → True := fun _ _ h => h
  have hlive : ∀ (m : Machine β) (entry : Log.Entry), m.Live → (m.note entry).Live :=
    fun _ _ h => h
  cases h with
  | debug | info | warning | error =>
    rw [handle]
    exact .of_imp (fun _ _ => trivial) (.log hlog _ _ _)
  | set =>
    rw [handle]
    refine .bind (.require _) fun name => .bind (.require _) fun value => ?_
    refine .bind (.of_imp (fun _ _ => trivial) (.log hlog _ _ _)) fun _ => ?_
    exact .change (fun m _ => .quiet (.of_trace_eq rfl rfl rfl rfl rfl)) fun _ _ => trivial
  | default =>
    rw [handle]
    refine .bind (.require _) fun name => .bind (.require _) fun value => ?_
    refine .bind (.assignDefault _ _) fun written => .ite (fun _ => ?_) fun _ => ?_
    · exact .log hlog _ _ _
    · exact .done fun _ _ => trivial
  | delay =>
    rw [handle]
    refine .bind (.require _) fun text => .bind (.require _) fun policy => ?_
    have hquiet : ∀ m : Machine β, Quiet m { m.note policy.changeNote with policy } :=
      fun m => ⟨rfl, rfl, rfl, rfl, (Quiet.note m policy.changeNote).trace,
        (Quiet.note m policy.changeNote).own⟩
    exact .change (fun m _ => .quiet (hquiet m)) fun _ _ => trivial
  | sleep =>
    rw [handle]
    refine .bind (.require _) fun text => .bind (.require _) fun range => ?_
    refine .bind (.sample _) fun d => ?_
    have hdown : ∀ (m : Machine β) (entry : Log.Entry),
        m.time.raised = false → (m.note entry).time.raised = false := fun _ _ h => h
    refine .bind (.log hdown _ _ _) fun _ => ?_
    exact .change (fun m hm => .rest m d hm) fun _ _ => trivial
  | browser =>
    rw [handle]
    exact .openBrowser bound
  | close =>
    rw [handle]
    exact .inSession (.weaken .endSession fun _ _ _ => trivial)
  | visit =>
    rw [handle]
    refine .inSession (.bind (.require _) fun url => ?_)
    exact .bind (.log hlive _ _ _) fun _ => .leavePage rfl
  | back =>
    rw [handle]
    exact .inSession (.leavePage rfl)
  | forward =>
    rw [handle]
    exact .inSession (.leavePage rfl)
  | refresh =>
    rw [handle]
    exact .inSession (.leavePage rfl)
  | select =>
    rw [handle]
    refine .inSession (.bind (.require _) fun l => ?_)
    exact .bind (.of_imp (fun _ h => h.1) (.seek l _)) fun _ =>
      .weaken (.log (fun _ _ h => h) _ _ _) fun _ _ _ => trivial
  | focused =>
    rw [handle]
    exact .inSession .focus
  | click =>
    rw [handle]
    refine .inSession (.ite (fun _ => ?_) fun _ => ?_)
    · refine .bind (.require _) fun l => .bind (.of_imp (fun _ h => h.1) (.seek l _)) fun _ => ?_
      refine .bind .activeElement fun e => .bind (.use rfl) fun _ => ?_
      exact .done fun _ _ => trivial
    · refine .bind .activeElement fun e => .bind (.of_imp ?_ (.use (e := e) rfl)) fun _ => ?_
      · exact fun _ h => ⟨h.1, h.2.1⟩
      · exact .done fun _ _ => trivial
  | write =>
    rw [handle]
    refine .inSession (.bind .activeElement fun e => .bind (.of_imp ?_ (.use (e := e) rfl)) ?_)
    · exact fun _ h => ⟨h.1, h.2.1⟩
    · exact fun _ => .done fun _ _ => trivial
  | press =>
    rw [handle]
    refine .inSession (.bind .activeElement fun e => .bind (.require _) fun text => ?_)
    refine .bind (.of_imp ?_ (.use (e := e) rfl)) fun _ => .done fun _ _ => trivial
    exact fun _ h => ⟨h.1, h.2.1⟩
  | waitTill =>
    rw [handle]
    refine .inSession (.bind (.require _) fun c => ?_)
    exact .bind (.of_imp (fun _ h => h.1) (.waitFor c _)) fun _ =>
      .weaken (.log (fun _ _ h => h) _ _ _) fun _ _ _ => trivial
  | script =>
    rw [handle]
    exact .inSession (.bind (.ask rfl) fun result => .store _ _ _)
  | url =>
    rw [handle]
    exact .inSession (.bind (.ask rfl) fun url => .store _ _ _)
  | windows =>
    rw [handle]
    exact .inSession (.bind (.ask rfl) fun handles =>
      .weaken (.log (fun _ _ h => h) _ _ _) fun _ _ _ => trivial)
  | timeouts =>
    rw [handle]
    exact .inSession (.bind (.ask rfl) fun _ => .done fun _ _ => trivial)

/-- A step keeps to the moves, if it starts with the interrupt lowered. -/
theorem step_goes (setup : Setup β) (i : Instruction) :
    Goes setup (·.time.raised = false) (step setup i) fun _ _ => True := by
  rw [step]
  cases setup.registry.get? i.action with
  | none => exact .fail _
  | some action =>
    have hdown : ∀ (m : Machine β) (entry : Log.Entry),
        m.time.raised = false → (m.note entry).time.raised = false := fun _ _ h => h
    refine .bind .read fun m₀ => .of_imp (fun _ h => h.2) ?_
    refine .bind (.require _) fun args => .bind (.require _) fun bound => ?_
    exact .bind (.log hdown _ _ _) fun _ => handle_goes setup bound action.handler

end Run

end BrowserScript
