import BrowserScript.Proofs.SessionBracketing

/-!
# Elements are used fresh

An element handle is good in the session and on the page that gave it.  A run uses only the handle
that the browser gave last, in the session that is open, and only as long as no call that changes
the session or leaves the page was made since, whether or not that call succeeded.

The active element is the handle that a later instruction may use, so the invariant is about it: as
long as a run goes on, an active element is fresh.  A page that cannot be left breaks this, but then
the run has stopped and uses no element any more.
-/

namespace BrowserScript

namespace Call

/-- Whether a call makes the elements worthless that were given before it. -/
def unsettles (call : Call) : Bool := call.changesSession || call.leaves

theorem used?_of_asks {call : Call} (h : call.asks = true) : call.used? = none := by
  cases call <;> first | rfl | nomatch h

theorem unsettles_of_asks {call : Call} (h : call.asks = true) : call.unsettles = false := by
  cases call <;> first | rfl | nomatch h

theorem used?_of_leaves {call : Call} (h : call.leaves = true) : call.used? = none := by
  cases call <;> first | rfl | nomatch h

theorem unsettles_of_used? {call : Call} {e : ElementRef} (h : call.used? = some e) :
    call.unsettles = false := by
  cases call <;> first | rfl | nomatch h

end Call

namespace Run

variable {β : Type}

namespace Answered

/-- The element that a call gives: a lookup of one element that succeeds, or the question for the
element in focus. -/
def element? : Answered → Option ElementRef
  | ⟨.find _, .ok e⟩ => some e
  | ⟨.activeElement, .ok e⟩ => some e
  | _ => none

def opens : Answered → Bool
  | ⟨.openSession .., .ok _⟩ => true
  | _ => false

theorem element?_of_asks {call : Call} (reply : Except BrowserError call.Answer)
    (h : call.asks = true) : element? ⟨call, reply⟩ = none := by
  cases call <;> first | rfl | nomatch h

theorem element?_of_used? {call : Call} (reply : Except BrowserError call.Answer) {e : ElementRef}
    (h : call.used? = some e) : element? ⟨call, reply⟩ = none := by
  cases call <;> first | rfl | nomatch h

end Answered

/-- After some calls a session is open: one was opened, and the session was not changed since. -/
def InSession (calls : List Answered) : Prop :=
  ∃ (outer : List Answered) (opening : Answered) (inner : List Answered),
    calls = outer ++ opening :: inner ∧ opening.opens = true ∧
      ∀ c ∈ inner, c.call.changesSession = false

/-- After some calls an element is fresh: it is the last that was given, it was given in the open
session, and no call since has made it worthless. -/
def Fresh (calls : List Answered) (e : ElementRef) : Prop :=
  ∃ (earlier : List Answered) (found : Answered) (since : List Answered),
    calls = earlier ++ found :: since ∧ found.element? = some e ∧ InSession earlier ∧
      ∀ c ∈ since, c.element? = none ∧ c.call.unsettles = false

def UsesFresh (calls : List Answered) : Prop :=
  ∀ (before : List Answered) (use : Answered) (after : List Answered) (e : ElementRef),
    calls = before ++ use :: after → use.call.used? = some e → Fresh before e

theorem InSession.opened {c : Answered} (calls : List Answered) (h : c.opens = true) :
    InSession (calls ++ [c]) :=
  ⟨calls, c, [], rfl, h, by simp⟩

theorem InSession.snoc {calls : List Answered} {c : Answered} (h : InSession calls)
    (hc : c.call.changesSession = false) : InSession (calls ++ [c]) := by
  obtain ⟨outer, opening, inner, rfl, hopens, hinner⟩ := h
  refine ⟨outer, opening, inner ++ [c], by simp, hopens, ?_⟩
  intro d hd
  rcases List.mem_append.mp hd with hd | hd
  · exact hinner d hd
  · rw [List.mem_singleton.mp hd]
    exact hc

theorem Fresh.found {calls : List Answered} {c : Answered} {e : ElementRef}
    (h : InSession calls) (hc : c.element? = some e) : Fresh (calls ++ [c]) e :=
  ⟨calls, c, [], rfl, hc, h, by simp⟩

theorem Fresh.snoc {calls : List Answered} {c : Answered} {e : ElementRef} (h : Fresh calls e)
    (hgives : c.element? = none) (hc : c.call.unsettles = false) : Fresh (calls ++ [c]) e := by
  obtain ⟨earlier, found, since, rfl, hfound, hsession, hsince⟩ := h
  refine ⟨earlier, found, since ++ [c], by simp, hfound, hsession, ?_⟩
  intro d hd
  rcases List.mem_append.mp hd with hd | hd
  · exact hsince d hd
  · rw [List.mem_singleton.mp hd]
    exact ⟨hgives, hc⟩

theorem UsesFresh.nil : UsesFresh [] := by
  intro before use after e h
  simp at h

/-- One more call keeps the uses fresh, if the element that it acts on is. -/
theorem UsesFresh.snoc {calls : List Answered} {c : Answered} (h : UsesFresh calls)
    (hc : ∀ e, c.call.used? = some e → Fresh calls e) : UsesFresh (calls ++ [c]) := by
  intro before use after e hsplit hused
  rcases List.eq_nil_or_concat after with rfl | ⟨middle, last, rfl⟩
  · obtain ⟨rfl, rfl⟩ := List.append_inj' hsplit rfl |>.imp_right List.head_eq_of_cons_eq
    exact hc e hused
  · have hinit : calls ++ [c] = (before ++ use :: middle) ++ [last] := by simpa using hsplit
    exact h before use middle e (List.append_inj' hinit rfl).1 hused

/-- What a run keeps even after it has stopped: the uses were fresh, and without a session no
element is active. -/
structure Careful (m : Machine β) : Prop where
  uses : UsesFresh (answeredIn m.events)
  closed : m.sessionOpen = false → m.active = none

/-- What a run keeps as long as it goes on: the active element is fresh. -/
structure Attentive (m : Machine β) : Prop extends Careful m where
  session : m.sessionOpen = true → InSession (answeredIn m.events)
  active : ∀ e, m.active = some e → Fresh (answeredIn m.events) e

theorem Careful.silent {m m' : Machine β} (h : Careful m) (hsilent : Silent m m') :
    Careful m' := by
  constructor
  · rw [hsilent.answeredIn]
    exact h.uses
  · rw [hsilent.sessionOpen, hsilent.active]
    exact h.closed

namespace Attentive

variable {m m' : Machine β}

theorem silent (h : Attentive m) (hsilent : Silent m m') : Attentive m' := by
  refine ⟨h.toCareful.silent hsilent, ?_, ?_⟩
  · rw [hsilent.sessionOpen, hsilent.answeredIn]
    exact h.session
  · rw [hsilent.active, hsilent.answeredIn]
    exact h.active

/-- A call inside the session that acts on no element but the active one.  What is active
afterwards has to be fresh. -/
theorem call (h : Attentive m) (setup : Setup β) (call : Call) (active : Option ElementRef)
    (hopen : m.sessionOpen = true) (hsession : call.changesSession = false)
    (huse : ∀ e, call.used? = some e → m.active = some e)
    (hactive : ∀ e, active = some e →
      Fresh (answeredIn m.events ++ [⟨call, (callOn setup call m).1⟩]) e) :
    Attentive { (callOn setup call m).2 with active } := by
  have hcalls : answeredIn ({ (callOn setup call m).2 with active } : Machine β).events =
      answeredIn m.events ++ [⟨call, (callOn setup call m).1⟩] := answeredIn_callOn setup call m
  have hstill : ({ (callOn setup call m).2 with active } : Machine β).sessionOpen = true := by
    rw [callOn_snd]
    exact hopen
  refine ⟨⟨?_, ?_⟩, ?_, ?_⟩
  · rw [hcalls]
    apply h.uses.snoc
    intro e he
    exact h.active e (huse e he)
  · intro hclosed
    rw [hstill] at hclosed
    nomatch hclosed
  · intro _
    rw [hcalls]
    exact (h.session hopen).snoc hsession
  · rw [hcalls]
    exact hactive

theorem keeps (h : Attentive m) (setup : Setup β) (call : Call) (hopen : m.sessionOpen = true)
    (huse : ∀ e, call.used? = some e → m.active = some e) (hcall : call.unsettles = false)
    (hgives : Answered.element? ⟨call, (callOn setup call m).1⟩ = none) :
    Attentive (callOn setup call m).2 := by
  have hsame : (callOn setup call m).2.active = m.active := by rw [callOn_snd]
  have hkept := h.call setup call m.active hopen (Bool.or_eq_false_iff.mp hcall).1 huse
    fun e he => (h.active e he).snoc hgives hcall
  rw [← hsame] at hkept
  exact hkept

theorem takes (h : Attentive m) (setup : Setup β) {call : Call}
    {r : Except BrowserError ElementRef × Machine β} (hr : r.2 = (callOn setup call m).2)
    (hopen : m.sessionOpen = true) (huse : call.used? = none) (hcall : call.unsettles = false)
    (hgives : Answered.element? ⟨call, (callOn setup call m).1⟩ = r.1.toOption) :
    Attentive (takeElement r) := by
  have hnone : ∀ e, call.used? = some e → m.active = some e := by
    rw [huse]
    nofun
  obtain ⟨reply, m'⟩ := r
  subst hr
  cases reply with
  | error e => exact h.keeps setup call hopen hnone hcall hgives
  | ok found =>
    apply h.call setup call (some found) hopen (Bool.or_eq_false_iff.mp hcall).1 hnone
    intro e he
    obtain rfl := Option.some.inj he
    exact .found (h.session hopen) hgives

/-- An opening finds no element active, and none is active after it. -/
theorem starts (h : Attentive m) (setup : Setup β) (name : String) (options : List String)
    (hclosed : m.sessionOpen = false) :
    Attentive (takeSession (callOn setup (.openSession name options) m)) := by
  have hcalls := answeredIn_callOn setup (.openSession name options) m
  have huses : UsesFresh (answeredIn (callOn setup (.openSession name options) m).2.events) := by
    rw [hcalls]
    exact h.uses.snoc nofun
  have hactive : (callOn setup (.openSession name options) m).2.active = none := by
    rw [callOn_snd]
    exact h.closed hclosed
  have hnone : ∀ e, (callOn setup (.openSession name options) m).2.active = some e →
      Fresh (answeredIn (callOn setup (.openSession name options) m).2.events) e := by
    intro e he
    rw [hactive] at he
    nomatch he
  cases hreply : (callOn setup (.openSession name options) m).1 with
  | error e =>
    rw [takeSession_error hreply]
    refine ⟨⟨huses, fun _ => hactive⟩, ?_, hnone⟩
    intro hopen
    rw [callOn_snd, hclosed] at hopen
    nomatch hopen
  | ok a =>
    rw [takeSession_ok hreply]
    refine ⟨⟨huses, fun _ => hactive⟩, ?_, hnone⟩
    intro _
    rw [hreply] at hcalls
    exact hcalls ▸ .opened _ rfl

end Attentive

/-- A close leaves no element active, also after a run that has stopped. -/
theorem Careful.closes {m : Machine β} (h : Careful m) (setup : Setup β) :
    Attentive (callOn setup .closeSession { m with sessionOpen := false, active := none }).2 := by
  refine ⟨⟨?_, ?_⟩, ?_, ?_⟩
  · rw [answeredIn_callOn]
    exact h.uses.snoc nofun
  · intro _
    rw [callOn_snd]
  · rw [callOn_snd]
    nofun
  · rw [callOn_snd]
    nofun

theorem attentive_invariant (setup : Setup β) :
    Invariant setup (Attentive : Machine β → Prop) Careful where
  move := by
    intro m m' h hmove
    cases hmove with
    | quiet hquiet => exact h.silent (.quiet hquiet)
    | poll d => exact h.silent (.passTo m _ _)
    | rest d _ => exact h.silent (.pause setup d m)
    | ask call hlive hcall =>
      apply h.keeps setup call hlive.1 _ (Call.unsettles_of_asks hcall)
      · exact Answered.element?_of_asks _ hcall
      · rw [Call.used?_of_asks hcall]
        nofun
    | leave call a hlive hcall _ =>
      apply h.call setup call none hlive.1 (Call.changesSession_of_leaves hcall)
      · rw [Call.used?_of_leaves hcall]
        nofun
      · nofun
    | find l hlive =>
      apply h.takes setup rfl hlive.1 rfl rfl
      cases (callOn setup (.find l) m).1 <;> rfl
    | focus hlive =>
      apply h.takes setup rfl hlive.1 rfl rfl
      cases (callOn setup .activeElement m).1 <;> rfl
    | use call e hopen hactive hcall =>
      apply h.keeps setup call hopen _ (Call.unsettles_of_used? hcall)
      · exact Answered.element?_of_used? _ hcall
      · rw [hcall, hactive]
        exact fun _ => id
    | start name options hclosed => exact h.starts setup name options hclosed
    | finish hlive => exact h.toCareful.closes setup
  pause d h := h.silent (.pause setup d _)
  stop := Attentive.toCareful
  leave := by
    -- The page could not be left: the element is still active, but the run is over.
    intro m call e h hlive hcall _
    constructor
    · rw [answeredIn_callOn]
      apply h.uses.snoc
      rw [Call.used?_of_leaves hcall]
      nofun
    · rw [callOn_snd]
      exact h.closed
  quiet_stopped h hquiet := h.silent (.quiet hquiet)
  pause_stopped d h := h.silent (.pause setup d _)

theorem Careful.release {m : Machine β} (h : Careful m) (setup : Setup β) :
    Attentive (release setup m) := by
  cases hopen : m.sessionOpen with
  | true =>
    rw [release_of_open hopen]
    exact (h.closes setup).silent (.quiet (.note _ _ (releaseNote_own _)))
  | false =>
    rw [release_of_closed hopen]
    refine ⟨h, ?_, ?_⟩
    · rw [hopen]
      nofun
    · rw [h.closed hopen]
      nofun

theorem run_attentive (setup : Setup β) (script : List Instruction) {m : Machine β}
    (h : Attentive m) : Attentive (run setup script m).2 := by
  have hends := (attentive_invariant setup).runInstructions script h
  have hcareful : Careful (runInstructions setup script m).2 := by
    rcases hrun : runInstructions setup script m with ⟨halt | _, m'⟩
    · rw [hrun] at hends
      exact hends
    · rw [hrun] at hends
      exact hends.toCareful
  exact hcareful.release setup

theorem afterRuns_attentive (setup : Setup β) (runs : List (Timeline × List Instruction))
    {m : Machine β} (h : Attentive m) : Attentive (afterRuns setup m runs) := by
  induction runs generalizing m with
  | nil => exact h
  | cons round rest ih =>
    have hstart : Attentive ({ m with time := round.1 } : Machine β) :=
      ⟨⟨h.uses, h.closed⟩, h.session, h.active⟩
    exact ih (run_attentive setup round.2 hstart)

/-- In any number of runs, the element that a click or a text goes to is the last that the browser
gave.  It was given in the session that is open, and since then no call has changed the session or
left the page, not even one that failed. -/
theorem used_element_is_fresh (setup : Setup β) (store : Variables) (browser : β)
    (policy : DelayPolicy) (runs : List (Timeline × List Instruction)) (before : List Answered)
    (use : Answered) (after : List Answered) (e : ElementRef)
    (hcalls : answeredIn (afterRuns setup { Machine.start store browser with policy } runs).events =
      before ++ use :: after) (hused : use.call.used? = some e) :
    Fresh before e := by
  have hstart : Attentive ({ Machine.start store browser with policy } : Machine β) :=
    ⟨⟨.nil, fun _ => rfl⟩, nofun, nofun⟩
  exact (afterRuns_attentive setup runs hstart).uses before use after e hcalls hused

/-- Four actions, and a browser in which a lookup finds its own text. -/
def finding : Setup Unit where
  registry := ⟨[("browser", ⟨"browser", .browser, [.fixed "name" .text]⟩),
    ("select", ⟨"select", .select, [.fixed "query" .text]⟩),
    ("back", ⟨"back", .back, []⟩),
    ("write", ⟨"write", .write, [.variadic "text" .text]⟩)]⟩
  settings := {}
  backend := ⟨fun
    | .find l, _ => ⟨.ok ⟨l.value⟩, (), 0, false, []⟩
    | .openSession .., _ => ⟨.ok (), (), 0, false, []⟩
    | .closeSession, _ => ⟨.ok (), (), 0, false, []⟩
    | .back, _ => ⟨.ok (), (), 0, false, []⟩
    | .sendKeys .., _ => ⟨.ok (), (), 0, false, []⟩
    | _, _ => ⟨.error .notConnected, (), 0, false, []⟩⟩
  clock := .millisecond
  draws _ := 0
  idleRounds := 0

/-- A script that goes back between two lookups and then writes. -/
def revisit : List Instruction :=
  [⟨"script", 1, "browser", ["firefox"]⟩, ⟨"script", 2, "select", ["#old"]⟩,
    ⟨"script", 3, "back", []⟩, ⟨"script", 4, "select", ["#new"]⟩,
    ⟨"script", 5, "write", ["text"]⟩]

def Answered.types (e : ElementRef) (text : String) : Answered → Bool
  | ⟨.sendKeys e' text', .ok _⟩ => decide (e' = e ∧ text' = text)
  | _ => false

theorem Answered.eq_of_types {e : ElementRef} {text : String} {a : Answered}
    (h : a.types e text = true) : a = ⟨.sendKeys e text, .ok ()⟩ := by
  unfold types at h
  split at h
  · obtain ⟨rfl, rfl⟩ := of_decide_eq_true h
    rfl
  · cases h

def revisitCalls : List Answered :=
  answeredIn (afterRuns finding { Machine.start .empty () with policy := .off }
    [(.start, revisit)]).events

theorem used_element_is_fresh_revisit :
    revisitCalls[4]? = some ⟨.sendKeys ⟨"#new"⟩ "text", .ok ()⟩ ∧
      Fresh (revisitCalls.take 4) ⟨"#new"⟩ := by
  have htypes : (revisitCalls[4]?).any (·.types ⟨"#new"⟩ "text") = true := by decide +kernel
  have huse : revisitCalls[4]? = some ⟨.sendKeys ⟨"#new"⟩ "text", .ok ()⟩ := by
    obtain ⟨use, hat, huse⟩ := (Option.any_eq_true _ _).mp htypes
    rw [hat, Answered.eq_of_types huse]
  obtain ⟨hlength, hget⟩ := List.getElem?_eq_some_iff.mp huse
  have hsplit : revisitCalls = revisitCalls.take 4 ++ revisitCalls[4] :: revisitCalls.drop 5 := by
    rw [← List.drop_eq_getElem_cons hlength, List.take_append_drop]
  rw [hget] at hsplit
  exact ⟨huse, used_element_is_fresh finding .empty () .off [(.start, revisit)] _ _ _ _ hsplit rfl⟩

end Run

end BrowserScript
