import BrowserScript.Proofs.Ensures
import Mathlib.Control.Monad.Basic

/-!
# Paced turns

A run takes turns, one for each instruction that is started: the step of the instruction, and then
one pause, or none where the run ends at once.  No handler but that of delays concerns the policy,
so the policy in force at the end of a turn is the one that the last successful delay announced.
-/

namespace BrowserScript

namespace DelayPolicy

def Allows : DelayPolicy → Duration → Prop
  | .off, d => d = 0
  | .fixed length, d => d = length
  | .range min max, d => if min < max then min ≤ d ∧ d < max else d = min

theorem allows_sample (policy : DelayPolicy) (draw : Nat) : policy.Allows (policy.sample draw) := by
  cases policy with
  | off => rfl
  | fixed length => rfl
  | range min max =>
    rw [Allows, sample]
    by_cases h : min < max
    · have hdraw : draw % (max - min) < max - min := Nat.mod_lt draw (Nat.sub_pos_of_lt h)
      rw [if_pos h, if_pos h]
      exact ⟨Nat.le_add_right _ _, Nat.add_lt_of_lt_sub' hdraw⟩
    · rw [if_neg h, if_neg h]

end DelayPolicy

/-- The moment after a pause that is asked for; one of no length is not taken. -/
def Timeline.rest (clock : Clock) (d : Duration) (t : Timeline) : Timeline :=
  if d = 0 then t else (t.pause clock d).2

namespace Run

variable {β α : Type}

/-! ### What every handler but one keeps -/

/-- A property that every change of a machine keeps, except that of the policy. -/
structure Abiding (setup : Setup β) (P : Machine β → Prop) : Prop where
  note : ∀ {m} entry, P m → P (m.note entry)
  call : ∀ {m} call, P m → P (callOn setup call m).2
  pass : ∀ {m} time place, P m → P (m.passTo time place)
  session : ∀ {m} sessionOpen active, P m → P { m with sessionOpen, active }
  store : ∀ {m} store, P m → P { m with store }
  drawn : ∀ {m} drawn, P m → P { m with drawn }

namespace Abiding

variable {setup : Setup β} {P : Machine β → Prop}

/-- Whether or not it fails, a part of a run keeps a property. -/
abbrev Keeps (P : Machine β → Prop) (x : Exec β α) : Prop :=
  Ensures P x (fun _ => P) (fun _ => P)

theorem lasting (h : Abiding setup P) : Lasting setup P (fun _ => P) where
  note := h.note
  call := h.call
  pass := h.pass
  session := h.session
  browser _ hm := hm
  timeout _ _ hm := hm
  exit hm := hm
  unfinished hm := hm

theorem require (r : Except ScriptError α) : Keeps P (Run.require r) :=
  .require (fun _ _ _ hm => hm) fun _ _ _ hm => hm

theorem requireSession : Keeps P Run.requireSession :=
  .weaken (.requireSession fun _ hm => hm) fun _ _ hm => hm.2

theorem activeElement : Keeps P Run.activeElement :=
  .weaken (.activeElement fun _ _ hm => hm) fun _ _ hm => hm.2

theorem log (h : Abiding setup P) (level : Log.Level) (message : String)
    (fields : List (String × Log.Content)) : Keeps P (Run.log level message fields) :=
  h.lasting.log level message fields

theorem demand (h : Abiding setup P) (call : Call) : Keeps P (Run.demand setup call) :=
  h.lasting.demand call

theorem activate (h : Abiding setup P) (e : ElementRef) : Keeps P (Run.activate e) :=
  .change fun _ hm => h.session _ (some e) hm

theorem assign (h : Abiding setup P) (name text : String) : Keeps P (Run.assign name text) :=
  .change fun _ hm => h.store _ hm

theorem pauseOn (h : Abiding setup P) (d : Duration) {m : Machine β} (hm : P m) :
    P (Run.pauseOn setup d m) := by
  have hpassed : P (m.passTo (m.time.pause setup.clock d).2 .deadline) := h.pass _ _ hm
  rw [Run.pauseOn]
  dsimp only
  split
  · exact hpassed
  · exact h.note _ hpassed

theorem leavePage (h : Abiding setup P) (call : Call) : Keeps P (Run.leavePage setup call) :=
  .bind (h.demand call) fun _ => .change fun _ hm => h.session _ none hm

theorem seek (h : Abiding setup P) (l : Locator) (timeout : Duration) :
    Keeps P (Run.seek setup l timeout) :=
  .bind (h.lasting.pollFind l timeout) fun e => h.activate e

theorem put (h : Abiding setup P) (bound : Bound) (label text : String) :
    Keeps P (Run.store bound label text) := by
  unfold Run.store
  split
  · exact .bind (h.log _ _ _) fun _ => h.assign _ _
  · exact h.log _ _ _

theorem openBrowser (h : Abiding setup P) (bound : Bound) :
    Keeps P (Run.openBrowser setup bound) := by
  have hstart : ∀ name options, Keeps P (startSession setup name options) :=
    fun name options => .bind (h.demand _) fun _ => .change fun _ hm => h.session true _ hm
  refine .bind (require _) fun name => .bind (.read fun _ hm => hm) fun m => ?_
  refine .ite (fun _ => ?_) fun _ => ?_
  · refine .bind (h.log _ _ _) fun _ => .bind h.lasting.endSession fun _ => ?_
    exact .bind (h.log _ _ _) fun _ => hstart _ _
  · exact .bind (h.log _ _ _) fun _ => hstart _ _

theorem handle (h : Abiding setup P) (bound : Bound) {handler : Handler}
    (hhandler : handler ≠ .delay) : Keeps P (Run.handle setup bound handler) := by
  have hdone : Keeps P (pure () : Exec β Unit) := .done fun _ hm => hm
  cases handler with
  | delay => exact absurd rfl hhandler
  | debug | info | warning | error =>
    rw [Run.handle]
    exact h.log _ _ _
  | set =>
    rw [Run.handle]
    refine .bind (require _) fun name => .bind (require _) fun value => ?_
    exact .bind (h.log _ _ _) fun _ => h.assign _ _
  | default =>
    rw [Run.handle]
    refine .bind (require _) fun name => .bind (require _) fun value => ?_
    refine .bind (.changeGet (Q := fun _ => P) fun _ hm => h.store _ hm) fun written => ?_
    exact .ite (fun _ => h.log _ _ _) fun _ => hdone
  | sleep =>
    rw [Run.handle]
    refine .bind (require _) fun text => .bind (require _) fun range => ?_
    refine .bind (.changeGet fun _ hm => h.drawn _ hm) fun d => .bind (h.log _ _ _) fun _ => ?_
    exact .change fun _ hm => h.pauseOn d hm
  | browser =>
    rw [Run.handle]
    exact h.openBrowser bound
  | close =>
    rw [Run.handle]
    exact .bind requireSession fun _ => h.lasting.endSession
  | visit =>
    rw [Run.handle]
    refine .bind requireSession fun _ => .bind (require _) fun url => ?_
    exact .bind (h.log _ _ _) fun _ => h.leavePage _
  | back | forward | refresh =>
    rw [Run.handle]
    exact .bind requireSession fun _ => h.leavePage _
  | select =>
    rw [Run.handle]
    refine .bind requireSession fun _ => .bind (require _) fun l => ?_
    exact .bind (h.seek l _) fun _ => h.log _ _ _
  | focused =>
    rw [Run.handle]
    exact .bind requireSession fun _ => .bind (h.demand _) fun e => h.activate e
  | click =>
    rw [Run.handle]
    refine .bind requireSession fun _ => .ite (fun _ => ?_) fun _ => ?_
    · refine .bind (require _) fun l => .bind (h.seek l _) fun _ => ?_
      exact .bind activeElement fun e => .bind (h.demand _) fun _ => hdone
    · exact .bind activeElement fun e => .bind (h.demand _) fun _ => hdone
  | write =>
    rw [Run.handle]
    refine .bind requireSession fun _ => .bind activeElement fun e => ?_
    exact .bind (h.demand _) fun _ => hdone
  | press =>
    rw [Run.handle]
    refine .bind requireSession fun _ => .bind activeElement fun e => ?_
    exact .bind (require _) fun text => .bind (h.demand _) fun _ => hdone
  | waitTill =>
    rw [Run.handle]
    refine .bind requireSession fun _ => .bind (require _) fun c => ?_
    exact .bind (h.lasting.waitFor c _) fun _ => h.log _ _ _
  | script | url =>
    rw [Run.handle]
    exact .bind requireSession fun _ => .bind (h.demand _) fun result => h.put _ _ _
  | windows =>
    rw [Run.handle]
    exact .bind requireSession fun _ => .bind (h.demand _) fun _ => h.log _ _ _
  | timeouts =>
    rw [Run.handle]
    exact .bind requireSession fun _ => .bind (h.demand _) fun _ => hdone

end Abiding

/-! ### The policy after a step -/

theorem abiding_policy (setup : Setup β) (policy : DelayPolicy) :
    Abiding setup (·.policy = policy) where
  note _ hm := hm
  call call hm := by
    rw [callOn_snd]
    exact hm
  pass time place hm := by
    rw [Machine.passTo_eq]
    exact hm
  session _ _ hm := hm
  store _ hm := hm
  drawn _ hm := hm

def spelled? (bound : Bound) : Option DelayPolicy := do
  let text ← (bound.text "policy").toOption
  (DelayPolicy.ofText text).toOption

/-- The policy that an instruction announces, if it is a delay whose words can be read. -/
def announced? (setup : Setup β) (i : Instruction) (vars : Variables) : Option DelayPolicy := do
  let action ← setup.registry.get? i.action
  if action.handler = .delay then
    let words ← (expandAll vars i.args).toOption
    let bound ← (Binding.bind vars action words).toOption
    spelled? bound
  else none

/-- A delay that succeeds puts the policy that it spells in force, and one that fails does not
change it. -/
theorem handle_delay_policy (setup : Setup β) (bound : Bound) (old : DelayPolicy) :
    Ensures (·.policy = old) (handle setup bound .delay) (fun _ m => spelled? bound = some m.policy)
      (fun _ m => m.policy = old) := by
  rw [handle]
  cases htext : bound.text "policy" with
  | error e => exact .missing fun _ hm => hm
  | ok text =>
    refine .given ?_
    cases hpolicy : DelayPolicy.ofText text with
    | error e => exact .missing fun _ hm => hm
    | ok policy =>
      have hspelled : spelled? bound = some policy := by
        simp [spelled?, htext, hpolicy, Except.toOption]
      exact .given (.change fun _ _ => hspelled)

/-- The policy after a step is the one that it announces, if it succeeds, or the one from before. -/
theorem step_policy (setup : Setup β) (i : Instruction) (m : Machine β) :
    Ensures (· = m) (step setup i)
      (fun _ m' => m'.policy = (announced? setup i m.store).getD m.policy)
      (fun _ m' => m'.policy = m.policy) := by
  rw [step]
  cases haction : setup.registry.get? i.action with
  | none => exact .fail fun _ hm => congrArg Machine.policy hm
  | some action =>
    refine .readBind fun n hn => ?_
    obtain rfl : m = n := hn.symm
    dsimp only
    cases hwords : expandAll m.store i.args with
    | error e => exact .missing fun _ hm => congrArg Machine.policy hm
    | ok words =>
      refine .given ?_
      cases hbind : Binding.bind m.store action words with
      | error e => exact .missing fun _ hm => congrArg Machine.policy hm
      | ok bound =>
        refine .given (.bind (Q := fun _ m' => m'.policy = m.policy) ?_ fun _ => ?_)
        · exact .change fun n hn => (congrArg Machine.policy hn : n.policy = m.policy)
        by_cases hdelay : action.handler = .delay
        · have hannounced : announced? setup i m.store = spelled? bound := by
            simp [announced?, haction, hdelay, hwords, hbind, Except.toOption]
          rw [hdelay, hannounced]
          refine .weaken (handle_delay_policy setup bound m.policy) fun _ m' hspelled => ?_
          rw [hspelled, Option.getD_some]
        · have hannounced : announced? setup i m.store = none := by
            simp [announced?, haction, hdelay]
          rw [hannounced, Option.getD_none]
          exact (abiding_policy setup m.policy).handle bound hdelay

/-! ### Turns -/

/-- The turn of an instruction, from the machine on which it starts. -/
structure Turn (β : Type) where
  instruction : Instruction
  start : Machine β

namespace Turn

def outcome (setup : Setup β) (t : Turn β) : Except Halt Unit :=
  (stepInSpan setup t.instruction t.start).1

def stepped (setup : Setup β) (t : Turn β) : Machine β :=
  (stepInSpan setup t.instruction t.start).2

def finish (setup : Setup β) (t : Turn β) : Machine β :=
  (runInstruction setup t.instruction t.start).2

/-- Whether a turn ends with a pause: its step succeeds and no interrupt is up, or it fails for a
cause that concerns the author of the script. -/
def rests (setup : Setup β) (t : Turn β) : Bool :=
  match t.outcome setup with
  | .ok () => !(t.stepped setup).time.raised
  | .error (.failed e) => e.isDomain
  | .error .unfinished => false

/-- The policy that a turn puts in force: only a delay that succeeds does. -/
def adopted? (setup : Setup β) (t : Turn β) : Option DelayPolicy :=
  match t.outcome setup with
  | .ok () => announced? setup t.instruction t.start.store
  | .error _ => none

end Turn

/-- The turns that a run takes: none once the interrupt is up, and the last is one that fails. -/
def turnsOf (setup : Setup β) : List Instruction → Machine β → List (Turn β)
  | [], _ => []
  | i :: rest, m =>
    if m.time.raised then []
    else
      ⟨i, m⟩ :: match runInstruction setup i m with
        | (.ok (), m') => turnsOf setup rest m'
        | (.error _, _) => []

def closing (setup : Setup β) (m : Machine β) (turns : List (Turn β)) : Machine β :=
  (turns.getLast?.map (Turn.finish setup)).getD m

/-- The policy in force after some turns: that of the last successful delay, or else the one from
the start. -/
def inForce (setup : Setup β) (initial : DelayPolicy) (turns : List (Turn β)) : DelayPolicy :=
  (turns.filterMap (Turn.adopted? setup)).getLast?.getD initial

/-- The end of a turn under a policy.  No time passes after the step but that of a single pause, if
there is one, and a number is drawn only for a pause between two different lengths. -/
inductive PacedBy (setup : Setup β) (policy : DelayPolicy) (t : Turn β) : Prop
  | once (d : Duration) (hrests : t.rests setup = true) (hlength : policy.Allows d)
    (htime : (t.finish setup).time = (t.stepped setup).time.rest setup.clock d)
    (hdrawn : (t.finish setup).drawn =
      (t.stepped setup).drawn + if policy.isRandom then 1 else 0)
  | never (hrests : t.rests setup = false)
    (htime : (t.finish setup).time = (t.stepped setup).time)
    (hdrawn : (t.finish setup).drawn = (t.stepped setup).drawn)

/-! ### One turn -/

structure SamePace (m m' : Machine β) : Prop where
  time : m'.time = m.time
  policy : m'.policy = m.policy
  drawn : m'.drawn = m.drawn

theorem SamePace.report (e : ScriptError) (m : Machine β) : SamePace m (reportOn e m) := by
  unfold reportOn
  split <;> exact ⟨rfl, rfl, rfl⟩

/-- The pause after an action changes the time and how many numbers are drawn, and nothing else but
the trace. -/
theorem exists_paceOn_eq (setup : Setup β) (m : Machine β) :
    ∃ trace, paceOn setup m =
      { m with
        time := m.time.rest setup.clock (m.policy.sample (setup.draws m.drawn))
        drawn := m.drawn + if m.policy.isRandom then 1 else 0
        trace } := by
  have hdrawn : (if m.policy.isRandom then m.drawn + 1 else m.drawn) =
      m.drawn + if m.policy.isRandom then 1 else 0 := by
    split <;> rfl
  rw [paceOn_eq, sampleOn, Timeline.rest, ← hdrawn]
  dsimp only
  split
  · exact ⟨m.trace, rfl⟩
  · rw [pauseOn_eq]
    exact ⟨_, rfl⟩

namespace Turn

/-- A turn ends with the pause after an action, if it rests, and else as the step and its report
leave it. -/
theorem exists_finish_eq (setup : Setup β) (t : Turn β) :
    ∃ reported, SamePace (t.stepped setup) reported ∧
      t.finish setup =
        { (if t.rests setup then paceOn setup reported else reported) with
          spans := t.start.spans } := by
  rcases hstep : stepInSpan setup t.instruction t.start with ⟨halt | ⟨⟩, m'⟩
  · simp only [rests, outcome, stepped, finish, hstep, runInstruction_of_error hstep]
    cases halt with
    | failed e => exact ⟨reportOn e m', .report e m', rfl⟩
    | unfinished => exact ⟨m', ⟨rfl, rfl, rfl⟩, rfl⟩
  · simp only [rests, outcome, stepped, finish, hstep, runInstruction_of_ok hstep]
    cases hraised : m'.time.raised with
    | true =>
      -- The step succeeds too late, and the run ends quietly.
      rw [stopIfInterrupted_of_raised hraised]
      exact ⟨m'.note stopNote, ⟨rfl, rfl, rfl⟩, rfl⟩
    | false =>
      rw [stopIfInterrupted_of_lowered hraised]
      exact ⟨m', ⟨rfl, rfl, rfl⟩, rfl⟩

/-- A turn is paced by the policy that its step leaves. -/
theorem pacedBy (setup : Setup β) (t : Turn β) : PacedBy setup (t.stepped setup).policy t := by
  obtain ⟨reported, hsame, hfinish⟩ := t.exists_finish_eq setup
  cases hrests : t.rests setup with
  | true =>
    obtain ⟨trace, hpaced⟩ := exists_paceOn_eq setup reported
    rw [hrests, if_pos rfl, hpaced] at hfinish
    refine .once _ hrests (DelayPolicy.allows_sample _ (setup.draws reported.drawn)) ?_ ?_
    · rw [hfinish, ← hsame.policy, ← hsame.time]
    · rw [hfinish, ← hsame.policy, ← hsame.drawn]
  | false =>
    rw [hrests] at hfinish
    refine .never hrests ?_ ?_
    · rw [hfinish]
      exact hsame.time
    · rw [hfinish]
      exact hsame.drawn

theorem finish_policy (setup : Setup β) (t : Turn β) :
    (t.finish setup).policy = (t.stepped setup).policy := by
  obtain ⟨reported, hsame, hfinish⟩ := t.exists_finish_eq setup
  obtain ⟨trace, hpaced⟩ := exists_paceOn_eq setup reported
  rw [hfinish, hpaced, ← hsame.policy]
  dsimp only
  split <;> rfl

/-- The policy that the step of a turn leaves is the one that it puts in force, if any. -/
theorem stepped_policy (setup : Setup β) (t : Turn β) :
    (t.stepped setup).policy = (t.adopted? setup).getD t.start.policy := by
  have hends : Ends
      (fun _ m => m.policy = (announced? setup t.instruction t.start.store).getD t.start.policy)
      (fun _ m => m.policy = t.start.policy) (stepInSpan setup t.instruction t.start) :=
    (step_policy setup t.instruction
      { t.start with spans := t.start.spans ++ [instructionSpan t.instruction] }).ends _ rfl
  rw [stepped, adopted?, outcome]
  rcases hstep : stepInSpan setup t.instruction t.start with ⟨halt | ⟨⟩, m'⟩
  · rwa [hstep] at hends
  · rwa [hstep] at hends

end Turn

/-! ### Whole runs -/

theorem closing_cons (setup : Setup β) (m : Machine β) (t : Turn β) (turns : List (Turn β)) :
    closing setup m (t :: turns) = closing setup (t.finish setup) turns := by
  rw [closing, closing, List.getLast?_cons]
  cases turns.getLast? <;> rfl

theorem inForce_cons (setup : Setup β) (initial : DelayPolicy) (t : Turn β)
    (turns : List (Turn β)) :
    inForce setup initial (t :: turns) =
      inForce setup ((t.adopted? setup).getD initial) turns := by
  rw [inForce, inForce, List.filterMap_cons]
  cases t.adopted? setup with
  | none => rfl
  | some policy =>
    rw [List.getLast?_cons]
    rfl

theorem inForce_singleton (setup : Setup β) (t : Turn β) :
    inForce setup t.start.policy [t] = (t.stepped setup).policy := by
  rw [inForce_cons, ← t.stepped_policy setup]
  rfl

section Turns

variable {setup : Setup β} {i : Instruction} {m m' : Machine β}

theorem turnsOf_of_raised (rest : List Instruction) (h : m.time.raised = true) :
    turnsOf setup (i :: rest) m = [] := by
  rw [turnsOf, if_pos h]

theorem turnsOf_of_ok (rest : List Instruction) (hdown : m.time.raised = false)
    (hrun : runInstruction setup i m = (.ok (), m')) :
    turnsOf setup (i :: rest) m = ⟨i, m⟩ :: turnsOf setup rest m' := by
  rw [turnsOf, hdown, hrun]
  rfl

theorem turnsOf_of_error (rest : List Instruction) {halt : Halt} (hdown : m.time.raised = false)
    (hrun : runInstruction setup i m = (.error halt, m')) :
    turnsOf setup (i :: rest) m = [⟨i, m⟩] := by
  rw [turnsOf, hdown, hrun]
  rfl

theorem Turn.finish_of_run {outcome : Except Halt Unit}
    (hrun : runInstruction setup i m = (outcome, m')) :
    Turn.finish setup ⟨i, m⟩ = m' := by
  rw [finish, hrun]

/-- After the turn of the first instruction come those of the rest, if any. -/
theorem exists_turnsOf_eq_cons (rest : List Instruction) (hdown : m.time.raised = false) :
    ∃ later, turnsOf setup (i :: rest) m = ⟨i, m⟩ :: later ∧
      (later = [] ∨ later = turnsOf setup rest (Turn.finish setup ⟨i, m⟩)) := by
  rcases hrun : runInstruction setup i m with ⟨halt | ⟨⟩, m'⟩
  · exact ⟨[], turnsOf_of_error rest hdown hrun, .inl rfl⟩
  · rw [Turn.finish_of_run hrun]
    exact ⟨_, turnsOf_of_ok rest hdown hrun, .inr rfl⟩

end Turns

/-- The turns are those of the first instructions of the script. -/
theorem turnsOf_instructions (setup : Setup β) (script : List Instruction) (m : Machine β) :
    (turnsOf setup script m).map (·.instruction) <+: script := by
  induction script generalizing m with
  | nil => exact List.nil_prefix
  | cons i rest ih =>
    cases hdown : m.time.raised with
    | true =>
      rw [turnsOf_of_raised rest hdown]
      exact List.nil_prefix
    | false =>
      obtain ⟨later, hturns, hlater⟩ := exists_turnsOf_eq_cons rest hdown
      rw [hturns, List.map_cons, List.cons_prefix_cons]
      refine ⟨rfl, ?_⟩
      rcases hlater with rfl | rfl
      · exact List.nil_prefix
      · exact ih _

/-- After its turns, a run only notes that it was stopped, if it was. -/
theorem runInstructions_eq_closing (setup : Setup β) (script : List Instruction) (m : Machine β) :
    ∃ notes, (runInstructions setup script m).2 =
      (closing setup m (turnsOf setup script m)).noteAll notes := by
  induction script generalizing m with
  | nil => exact ⟨[], rfl⟩
  | cons i rest ih =>
    cases hdown : m.time.raised with
    | true =>
      rw [runInstructions_of_raised setup i rest hdown, turnsOf_of_raised rest hdown]
      exact ⟨[stopNote], rfl⟩
    | false =>
      rcases hrun : runInstruction setup i m with ⟨halt | ⟨⟩, m'⟩
      · rw [runInstructions_of_error rest hdown hrun, turnsOf_of_error rest hdown hrun,
          closing_cons, Turn.finish_of_run hrun]
        exact ⟨[], rfl⟩
      · rw [runInstructions_of_ok rest hdown hrun, turnsOf_of_ok rest hdown hrun,
          closing_cons, Turn.finish_of_run hrun]
        exact ih m'

/-- Every turn starts where the turns before it end, and is paced by the policy then in force. -/
theorem turnsOf_pacedBy (setup : Setup β) (script : List Instruction) (m : Machine β)
    {before after : List (Turn β)} {t : Turn β}
    (h : turnsOf setup script m = before ++ t :: after) :
    t.start = closing setup m before ∧
      PacedBy setup (inForce setup m.policy (before ++ [t])) t := by
  induction script generalizing m before with
  | nil => simp [turnsOf] at h
  | cons i rest ih =>
    cases hdown : m.time.raised with
    | true => simp [turnsOf_of_raised rest hdown] at h
    | false =>
      obtain ⟨later, hturns, hlater⟩ := exists_turnsOf_eq_cons rest hdown
      rw [hturns] at h
      cases before with
      | nil =>
        obtain ⟨rfl, -⟩ := List.cons.inj h
        refine ⟨rfl, ?_⟩
        rw [List.nil_append, inForce_singleton setup ⟨i, m⟩]
        exact Turn.pacedBy setup ⟨i, m⟩
      | cons first before =>
        obtain ⟨rfl, hrest⟩ := List.cons.inj h
        rcases hlater with rfl | rfl
        · simp at hrest
        · rw [closing_cons, List.cons_append, inForce_cons]
          have hpolicy := (Turn.finish_policy setup ⟨i, m⟩).trans (Turn.stepped_policy setup ⟨i, m⟩)
          rw [← hpolicy]
          exact ih _ hrest

/-- Every turn is paced once by the policy then in force.  Whatever the browser answers and whenever
interrupts come, a run takes its turns one right after the other, and no time passes between them or
after the last one but that of the session's end.  After a step that succeeds with no interrupt up,
or that fails for a cause that concerns the author of the script, there is exactly one pause, and
otherwise none.  The pause has a length that is allowed by the policy of the last successful delay,
that of this very step included, or by the policy of the start if there is none. -/
theorem each_turn_paced_once (setup : Setup β) (script : List Instruction) (m : Machine β) :
    let turns := turnsOf setup script m
    turns.map (·.instruction) <+: script ∧
      (∃ notes, (run setup script m).2 =
        release setup ((closing setup m turns).noteAll notes)) ∧
      ∀ before t after, turns = before ++ t :: after →
        t.start = closing setup m before ∧
          PacedBy setup (inForce setup m.policy (before ++ [t])) t := by
  intro turns
  obtain ⟨notes, hnotes⟩ := runInstructions_eq_closing setup script m
  refine ⟨turnsOf_instructions setup script m, ⟨notes, congrArg (release setup) hnotes⟩, ?_⟩
  exact fun before t after h => turnsOf_pacedBy setup script m h

def delaying : Setup Unit where
  registry := ⟨[("delay", ⟨"delay", .delay, [.fixed "policy" .text]⟩)]⟩
  settings := {}
  backend := ⟨fun _ _ => ⟨.error .notConnected, (), 0, false, []⟩⟩
  clock := .millisecond
  draws _ := 7
  idleRounds := 0

/-- The second delay fails, and the pause after it is that of the first. -/
theorem each_turn_paced_once_delaying :
    let script : List Instruction := [⟨"a", 1, "delay", ["100ms"]⟩, ⟨"a", 2, "delay", ["soon"]⟩]
    let m : Machine Unit := { Machine.start .empty () with policy := .range 3 5 }
    let first : Turn Unit := ⟨⟨"a", 1, "delay", ["100ms"]⟩, m⟩
    let second : Turn Unit := ⟨⟨"a", 2, "delay", ["soon"]⟩, first.finish delaying⟩
    turnsOf delaying script m = [first] ++ second :: [] ∧
      inForce delaying m.policy ([first] ++ [second]) = .fixed 100000000 ∧
      PacedBy delaying (.fixed 100000000) second ∧
      (run delaying script m).2.time.now = 200000000 := by
  intro script m first second
  have hfirst : (runInstruction delaying first.instruction m).1 = .ok () := by decide +kernel
  have hsecond : (runInstruction delaying second.instruction second.start).1 =
      .error (.failed (.value "soon" (.type .duration))) := by decide +kernel
  have hturns : turnsOf delaying script m = [first] ++ second :: [] := by
    refine (turnsOf_of_ok _ rfl (Prod.ext hfirst rfl)).trans (congrArg (first :: ·) ?_)
    exact turnsOf_of_error [] (by decide +kernel) (Prod.ext hsecond rfl)
  have hpolicy : inForce delaying m.policy ([first] ++ [second]) = .fixed 100000000 := by
    decide +kernel
  obtain ⟨-, -, hturn⟩ := each_turn_paced_once delaying script m
  refine ⟨hturns, hpolicy, ?_, by decide +kernel⟩
  rw [← hpolicy]
  exact (hturn [first] second [] hturns).2

end Run

end BrowserScript
