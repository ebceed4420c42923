import BrowserScript.Proofs.RemoteTraffic
import BrowserScript.Proofs.SessionBracketing

/-!
# Sessions at the remote browser

A run over the remote browser keeps two marks of an open session: its own flag and the identifier
that the browser learned.  They agree at every step, so the requests of a run are openings and
requests to the session that is open, and every session that is opened is deleted once.

Names that are not plain lead elsewhere, however: a handle can lead a click into a session that was
never announced, and an identifier can lead the close away from its session.
-/

namespace BrowserScript.Run

variable {σ : Type}

/-- The traffic of a call together with what arrives at the server. -/
structure Visit extends Traffic where
  delivered : List Delivery

namespace Visit

/-- An opening that failed, with at most the request for it and no session announced. -/
structure IsRefusal (base : String) (v : Visit) : Prop where
  call : v.answered.mark = .openFailed
  sends : v.requests = [] ∧ v.delivered = [] ∨
    Remote.Sends base "POST" [] v.requests v.delivered
  unannounced : ∀ d ∈ v.delivered, ∀ id, ¬ Announces d.reply id

structure Opens (base id : String) (v : Visit) : Prop where
  call : v.answered.mark = .opened
  sends : Remote.Sends base "POST" [] v.requests v.delivered
  announced : ∃ d, v.delivered = [d] ∧ Announces d.reply id

/-- A call inside a session, with the one request that is laid down for it, if any. -/
structure Inside (base id : String) (v : Visit) : Prop where
  call : v.answered.mark = .inner
  sends : match v.answered.call.endpoint? with
    | none => v.requests = [] ∧ v.delivered = []
    | some (method, names) => Remote.Sends base method (id :: names) v.requests v.delivered

/-- The close of a session, whether or not the server agrees. -/
structure Closes (base id : String) (v : Visit) : Prop where
  call : v.answered.mark = .closed
  sends : Remote.Sends base "DELETE" [id] v.requests v.delivered

end Visit

/-- Visits that keep to their sessions, with the session that is open at their end. -/
inductive Orderly (base : String) : List Visit → Option String → Prop
  | nil : Orderly base [] none
  | refused {w : List Visit} {v : Visit} (h : Orderly base w none) (hv : v.IsRefusal base) :
    Orderly base (w ++ [v]) none
  | opened {w : List Visit} {v : Visit} {id : String} (h : Orderly base w none)
    (hv : v.Opens base id) : Orderly base (w ++ [v]) (some id)
  | inside {w : List Visit} {v : Visit} {id : String} (h : Orderly base w (some id))
    (hv : v.Inside base id) : Orderly base (w ++ [v]) (some id)
  | closed {w : List Visit} {v : Visit} {id : String} (h : Orderly base w (some id))
    (hv : v.Closes base id) : Orderly base (w ++ [v]) none

/-- The calls among some events as visits that keep to their sessions, with the session open at
the end; `arrived` is what arrives at the server for them. -/
def Keeps (base : String) (events : List Event) (arrived : List Delivery)
    (session : Option String) : Prop :=
  ∃ visits : List Visit, visits.map Visit.toTraffic = trafficIn events ∧
    visits.flatMap Visit.delivered = arrived ∧ Orderly base visits session

/-- A machine whose traffic since some events keeps to its sessions; `earlier` is what the server
had got by then. -/
structure Tracked (base : String) (since : List Event) (earlier : List Delivery)
    (m : Machine (Remote (List Delivery × σ))) : Prop where
  address : m.browser.base = base
  traffic : ∃ events arrived, m.events = since ++ events ∧
    m.browser.received = earlier ++ arrived ∧ Keeps base events arrived m.browser.session

/-- A tracked machine whose flag agrees with the remote browser. -/
structure Linked (base : String) (since : List Event) (earlier : List Delivery)
    (m : Machine (Remote (List Delivery × σ))) : Prop extends Tracked base since earlier m where
  session : m.sessionOpen = m.browser.session.isSome

/-- A call whose visit fits what is open gives a link, once the flag is set to fit the session that
is open then. -/
theorem Tracked.call {base : String} {since : List Event} {earlier : List Delivery}
    {m m' : Machine (Remote (List Delivery × σ))} (h : Tracked base since earlier m)
    (setup : Setup (Remote (List Delivery × σ))) (call : Call) {handed : List (String × String)}
    {delivered : List Delivery} {session : Option String}
    (hserves : m.browser.Serves (setup.backend.answer call m.browser) handed delivered session)
    (horderly : ∀ w, Orderly base w m.browser.session →
      Orderly base (w ++ [⟨⟨⟨call, (callOn setup call m).1⟩, handed⟩, delivered⟩]) session)
    (hbrowser : m'.browser = (callOn setup call m).2.browser)
    (hevents : m'.events = (callOn setup call m).2.events)
    (hflag : m'.sessionOpen = session.isSome) :
    Linked base since earlier m' := by
  have hnext : m'.browser = (setup.backend.answer call m.browser).next := by
    rw [hbrowser, callOn_snd]
  obtain ⟨events, arrived, hbase, hreceived, visits, hvisits, harrived, hw⟩ := h.traffic
  obtain ⟨events', hbase', htraffic⟩ := trafficIn_callOn setup call m hbase
  rw [Traffic.ofLog, hserves.requests] at htraffic
  let visit : Visit := ⟨⟨⟨call, (callOn setup call m).1⟩, handed⟩, delivered⟩
  refine ⟨⟨?_, events', arrived ++ delivered, ?_, ?_, visits ++ [visit], ?_, ?_, ?_⟩, ?_⟩
  · rw [hnext, hserves.base, h.address]
  · rw [hevents, hbase']
  · rw [hnext, hserves.received, hreceived, List.append_assoc]
  · rw [htraffic, List.map_append, hvisits]
    rfl
  · rw [List.flatMap_append, harrived, List.flatMap_singleton]
  · rw [hnext, hserves.session]
    exact horderly _ hw
  · rw [hflag, hnext, hserves.session]

namespace Linked

variable {base : String} {since : List Event} {earlier : List Delivery}
  {m m' : Machine (Remote (List Delivery × σ))}

theorem silent (h : Linked base since earlier m) (hsilent : Silent m m') :
    Linked base since earlier m' := by
  obtain ⟨events, arrived, hevents, hreceived, hkeeps⟩ := h.traffic
  obtain ⟨more, hmore, hsame⟩ := hsilent.trace
  refine ⟨⟨?_, events ++ more, arrived, ?_, ?_, ?_⟩, ?_⟩
  · rw [hsilent.browser, h.address]
  · rw [hmore, hevents, List.append_assoc]
  · rwa [hsilent.browser]
  · rwa [Keeps, trafficIn_append_silent events hsame, hsilent.browser]
  · rw [hsilent.sessionOpen, hsilent.browser, h.session]

/-- With a session open, the remote browser has its identifier. -/
theorem id_of_open (h : Linked base since earlier m) (hopen : m.sessionOpen = true) :
    ∃ id, m.browser.session = some id := by
  rw [h.session] at hopen
  exact Option.isSome_iff_exists.mp hopen

theorem none_of_closed (h : Linked base since earlier m) (hclosed : m.sessionOpen = false) :
    m.browser.session = none := by
  rw [h.session] at hclosed
  exact Option.isSome_eq_false_iff.mp hclosed |> Option.isNone_iff_eq_none.mp

end Linked

section Runs

variable (setup : Setup (Remote (List Delivery × σ))) (server : Server σ)

/-- The setup whose browser is the remote one, at a server that keeps its requests. -/
def remotely : Setup (Remote (List Delivery × σ)) :=
  { setup with backend := Remote.backend server.recording }

variable {base : String} {since : List Event} {earlier : List Delivery}
  {m m' : Machine (Remote (List Delivery × σ))}

theorem Answered.mark_of_inside {call : Call} (hcall : call.changesSession = false)
    (reply : Except BrowserError call.Answer) : Answered.mark ⟨call, reply⟩ = .inner := by
  cases call <;> first | rfl | nomatch hcall

theorem Linked.inside (h : Linked base since earlier m) {call : Call}
    (hopen : m.sessionOpen = true) (hcall : call.changesSession = false)
    (hbrowser : m'.browser = (callOn (remotely setup server) call m).2.browser)
    (hevents : m'.events = (callOn (remotely setup server) call m).2.events)
    (hflag : m'.sessionOpen = (callOn (remotely setup server) call m).2.sessionOpen) :
    Linked base since earlier m' := by
  obtain ⟨id, hid⟩ := h.id_of_open hopen
  have hmark := Answered.mark_of_inside hcall (callOn (remotely setup server) call m).1
  have hstill : m'.sessionOpen = (some id).isSome := by
    rw [hflag, callOn_snd]
    exact hopen
  have hserves := Remote.answer_serves_inside server hid hcall
  have horderly : ∀ {handed : List (String × String)} {delivered : List Delivery},
      Visit.Inside base id
        ⟨⟨⟨call, (callOn (remotely setup server) call m).1⟩, handed⟩, delivered⟩ →
      ∀ w, Orderly base w m.browser.session → Orderly base
        (w ++ [⟨⟨⟨call, (callOn (remotely setup server) call m).1⟩, handed⟩, delivered⟩])
        (some id) := by
    intro handed delivered hinside w hw
    rw [hid] at hw
    exact hw.inside hinside
  cases hend : call.endpoint? with
  | none =>
    rw [hend] at hserves
    refine h.call (remotely setup server) call hserves (horderly ⟨hmark, ?_⟩) hbrowser hevents
      hstill
    dsimp only
    rw [hend]
    exact ⟨rfl, rfl⟩
  | some endpoint =>
    rw [hend] at hserves
    obtain ⟨handed, delivered, hserves, hsends⟩ := hserves
    refine h.call (remotely setup server) call hserves (horderly ⟨hmark, ?_⟩) hbrowser hevents
      hstill
    dsimp only
    rw [hend]
    rwa [h.address] at hsends

theorem Linked.takes (h : Linked base since earlier m) {call : Call}
    {r : Except BrowserError ElementRef × Machine (Remote (List Delivery × σ))}
    (hr : r.2 = (callOn (remotely setup server) call m).2) (hopen : m.sessionOpen = true)
    (hcall : call.changesSession = false) : Linked base since earlier (takeElement r) := by
  obtain ⟨reply, m'⟩ := r
  subst hr
  cases reply with
  | ok e => exact h.inside setup server hopen hcall rfl rfl rfl
  | error e => exact h.inside setup server hopen hcall rfl rfl rfl

theorem Linked.starts (h : Linked base since earlier m) (name : String) (options : List String)
    (hclosed : m.sessionOpen = false) :
    Linked base since earlier
      (takeSession (callOn (remotely setup server) (.openSession name options) m)) := by
  have hnone := h.none_of_closed hclosed
  have hreply : (callOn (remotely setup server) (.openSession name options) m).1 =
    (Remote.openSession server.recording m.browser name options).reply := rfl
  rcases Remote.openSession_serves server hnone name options with
    ⟨handed, delivered, e, herror, hserves, hsends, hnew⟩ |
    ⟨handed, d, id, hok, hserves, hsends, hnew⟩
  · rw [herror] at hreply
    apply h.call (remotely setup server) (.openSession name options) hserves _
      (takeSession_browser _) (takeSession_events _)
    · rw [takeSession_error hreply, callOn_snd]
      exact hclosed
    · intro w hw
      rw [hnone] at hw
      rw [h.address] at hsends
      rw [hreply]
      exact hw.refused ⟨rfl, hsends, hnew⟩
  · rw [hok] at hreply
    apply h.call (remotely setup server) (.openSession name options) hserves _
      (takeSession_browser _) (takeSession_events _)
    · rw [takeSession_ok hreply]
      rfl
    · intro w hw
      rw [hnone] at hw
      rw [h.address] at hsends
      rw [hreply]
      exact hw.opened ⟨rfl, hsends, d, rfl, hnew⟩

/-- The flag is lowered before the close is sent, so the link holds again only after it. -/
theorem Linked.closes (h : Linked base since earlier m) (hopen : m.sessionOpen = true) :
    Linked base since earlier (callOn (remotely setup server) .closeSession
      { m with sessionOpen := false, active := none }).2 := by
  obtain ⟨id, hid⟩ := h.id_of_open hopen
  have htracked : Tracked base since earlier
      ({ m with sessionOpen := false, active := none } : Machine (Remote (List Delivery × σ))) :=
    ⟨h.address, h.traffic⟩
  obtain ⟨handed, delivered, hserves, hsends⟩ := Remote.closeSession_serves server hid
  rw [h.address] at hsends
  apply htracked.call (remotely setup server) .closeSession hserves _ rfl rfl
  · rw [callOn_snd]
    rfl
  · intro w hw
    rw [hid] at hw
    exact hw.closed ⟨rfl, hsends⟩

theorem linked_invariant :
    Invariant (remotely setup server) (Linked (σ := σ) base since earlier)
      (Linked base since earlier) where
  move := by
    intro m m' h hmove
    cases hmove with
    | quiet hquiet => exact h.silent (.quiet hquiet)
    | poll d => exact h.silent (.passTo m _ _)
    | rest d _ => exact h.silent (.pause _ d m)
    | ask call hlive hcall =>
      exact h.inside setup server hlive.1 (Call.changesSession_of_asks hcall) rfl rfl rfl
    | leave call a hlive hcall _ =>
      exact h.inside setup server hlive.1 (Call.changesSession_of_leaves hcall) rfl rfl rfl
    | find l hlive => exact h.takes setup server rfl hlive.1 rfl
    | focus hlive => exact h.takes setup server rfl hlive.1 rfl
    | use call e hopen _ hcall =>
      exact h.inside setup server hopen (Call.changesSession_of_used? hcall) rfl rfl rfl
    | start name options hclosed => exact h.starts setup server name options hclosed
    | finish hlive => exact h.closes setup server hlive.1
  pause d h := h.silent (.pause _ d _)
  stop := id
  leave := by
    intro m call e h hlive hcall _
    exact h.inside setup server hlive.1 (Call.changesSession_of_leaves hcall) rfl rfl rfl
  quiet_stopped h hquiet := h.silent (.quiet hquiet)
  pause_stopped d h := h.silent (.pause _ d _)

theorem runInstructions_linked (script : List Instruction) (h : Linked base since earlier m) :
    Linked base since earlier (runInstructions (remotely setup server) script m).2 :=
  ((linked_invariant setup server).runInstructions script h).both

theorem Linked.release (h : Linked base since earlier m) :
    Linked base since earlier (release (remotely setup server) m) := by
  cases hopen : m.sessionOpen with
  | true =>
    rw [release_of_open hopen]
    exact (h.closes setup server hopen).silent (.quiet (.note _ _ (releaseNote_own _)))
  | false =>
    rw [release_of_closed hopen]
    exact h

/-- A machine without a session, in its own flag and at the remote browser, is linked. -/
theorem Linked.start (hidle : m.Idle) (hnone : m.browser.session = none) :
    Linked m.browser.base m.events m.browser.received m := by
  refine ⟨⟨rfl, [], [], by simp, by simp, ?_⟩, ?_⟩
  · rw [hnone]
    exact ⟨[], rfl, rfl, .nil⟩
  · rw [hnone]
    exact hidle.1

theorem run_linked (script : List Instruction) (hidle : m.Idle) (hnone : m.browser.session = none) :
    Linked m.browser.base m.events m.browser.received (run (remotely setup server) script m).2 ∧
      (run (remotely setup server) script m).2.browser.session = none := by
  have hlinked := (runInstructions_linked setup server script (.start hidle hnone)).release
    setup server
  exact ⟨hlinked, hlinked.none_of_closed (run_tidy (remotely setup server) script hidle).2.1⟩

theorem afterRuns_unlinked (runs : List (Timeline × List Instruction)) (hidle : m.Idle)
    (hnone : m.browser.session = none) :
    (afterRuns (remotely setup server) m runs).browser.base = m.browser.base ∧
      (afterRuns (remotely setup server) m runs).browser.session = none := by
  induction runs generalizing m with
  | nil => exact ⟨rfl, hnone⟩
  | cons round rest ih =>
    have hstart : ({ m with time := round.1 } : Machine (Remote (List Delivery × σ))).Idle := hidle
    obtain ⟨hlinked, hclosed⟩ := run_linked setup server round.2 hstart hnone
    obtain ⟨hbase, hsession⟩ := ih (run_tidy (remotely setup server) round.2 hstart).2 hclosed
    exact ⟨hbase.trans hlinked.address, hsession⟩

/-- Whatever ran before over a remote browser that started without a session, the requests that a
run hands to the client are openings and requests to the session that the reply to the last
opening announced, which is deleted once before the next is opened and before the run returns.  A
call hands over at most one request, and one inside a session just the one that is laid down for
it.  The server gets what the addresses lead to: with plain names, the places that they spell.
After every instruction, the run holds a session to be open just when the remote browser has one. -/
theorem remote_traffic_keeps_to_sessions (address : String) (state : σ) (store : Variables)
    (policy : DelayPolicy) (earlier : List (Timeline × List Instruction)) (time : Timeline)
    (script : List Instruction) :
    let setup := remotely setup server
    let m : Machine (Remote (List Delivery × σ)) :=
      { afterRuns setup
          { Machine.start store (.ofAddress address ([], state)) with policy } earlier with time }
    let m' := (run setup script m).2
    (∃ visits : List Visit, visits.map Visit.toTraffic = trafficIn (eventsBetween m m') ∧
      m'.browser.received = m.browser.received ++ visits.flatMap Visit.delivered ∧
      Orderly (Remote.trimSlashes address) visits none) ∧
    m'.sessionOpen = false ∧ m'.browser.session = none ∧
    ∀ n, (runInstructions setup (script.take n) m).2.sessionOpen =
      (runInstructions setup (script.take n) m).2.browser.session.isSome := by
  intro setup' m m'
  have hidle : m.Idle := afterRuns_idle setup' earlier ⟨rfl, rfl⟩
  obtain ⟨hbase, hnone⟩ : m.browser.base = Remote.trimSlashes address ∧ m.browser.session = none :=
    afterRuns_unlinked setup server earlier ⟨rfl, rfl⟩ rfl
  obtain ⟨hlinked, hclosed⟩ := run_linked setup server script hidle hnone
  obtain ⟨events, arrived, hevents, hreceived, visits, hvisits, harrived, horderly⟩ :=
    hlinked.traffic
  rw [hclosed, hbase] at horderly
  refine ⟨⟨visits, ?_, ?_, horderly⟩, (run_tidy setup' script hidle).2.1, hclosed, fun n => ?_⟩
  · rw [eventsBetween_eq hevents, hvisits]
  · rw [harrived, hreceived]
  · exact (runInstructions_linked setup server (script.take n) (.start hidle hnone)).session

end Runs

/-! ### A server that leads a run around -/

def guideBody (id handle asked : String) : String :=
  if asked = "session" then s!"\x7b\"value\":\x7b\"sessionId\":\"{id}\"\x7d\x7d"
  else if asked = "element" then
    s!"\x7b\"value\":\x7b\"{Remote.elementKey}\":\"{handle}\"\x7d\x7d"
  else "\x7b\"value\":null\x7d"

/-- A server that calls its sessions `id` and its elements `handle`.  It sends a client that
refreshes a page on to another session. -/
def guide (id handle : String) : Server Unit where
  exchange request _ :=
    let asked := match request.url.path with
      | .segments names => names.getLast?.getD ""
      | .plain _ => ""
    { reply := .response 200 (guideBody id handle asked)
      followed :=
        if asked = "refresh" then
          [⟨"GET", { request.url with path := .segments ["wd", "session", "S2", "url"] }, none⟩]
        else []
      next := () }

def guided : Setup (Remote (List Delivery × Unit)) where
  registry := ⟨[("browser", ⟨"browser", .browser, [.fixed "name" .text]⟩),
    ("select", ⟨"select", .select, [.fixed "query" .text]⟩),
    ("click", ⟨"click", .click, []⟩), ("refresh", ⟨"refresh", .refresh, []⟩)]⟩
  settings := {}
  backend := Remote.backend Server.unreachable.recording
  clock := .millisecond
  draws _ := 0
  idleRounds := 0

/-- A script that looks an element up, clicks it and refreshes the page. -/
def clickAndRefresh : List Instruction :=
  [⟨"script", 1, "browser", ["firefox"]⟩, ⟨"script", 2, "select", ["#link"]⟩,
    ⟨"script", 3, "click", []⟩, ⟨"script", 4, "refresh", []⟩]

def tour (id handle : String) : Machine (Remote (List Delivery × Unit)) :=
  (run (remotely guided (guide id handle)) clickAndRefresh
    (.start .empty (.ofAddress "http://h/wd/" ([], ())))).2

/-- What a server gets, each with the paths to which the client is sent on. -/
def placesIn (m : Machine (Remote (List Delivery × Unit))) :
    List (String × String × List String) :=
  m.browser.received.map fun d =>
    (d.request.method, d.request.url.path.text, d.followed.map (·.url.path.text))

def guideUrl : Url where
  scheme := "http"
  host := some (.named "h")
  path := .segments ["wd", "session"]

theorem guideUrl_sessionsAt : Remote.SessionsAt "http://h/wd" guideUrl ["wd"] where
  read := by decide +kernel
  path := rfl
  query := rfl
  fragment := rfl

theorem remote_traffic_keeps_to_sessions_tour :
    Remote.SessionsAt (Remote.trimSlashes "http://h/wd/") guideUrl ["wd"] ∧
      (∀ name ∈ ["S1", "element", "e", "click", "refresh"], Url.IsPlain name) ∧
      placesIn (tour "S1" "e") =
        [("POST", "/wd/session", []), ("POST", "/wd/session/S1/element", []),
          ("POST", "/wd/session/S1/element/e/click", []),
          ("POST", "/wd/session/S1/refresh", ["/wd/session/S2/url"]),
          ("DELETE", "/wd/session/S1", [])] ∧
      ∃ visits : List Visit, visits.map Visit.toTraffic = trafficIn (tour "S1" "e").events ∧
        (tour "S1" "e").browser.received = visits.flatMap Visit.delivered ∧
        Orderly (Remote.trimSlashes "http://h/wd/") visits none := by
  have hplain : ∀ name ∈ ["S1", "element", "e", "click", "refresh"], Url.IsPlain name :=
    fun name hname => .of_isOrdinary (by revert name; decide)
  -- With any names, so that the run is not evaluated to see that the theorem is about it.
  have hkeeps (id handle : String) : ∃ visits : List Visit,
      visits.map Visit.toTraffic = trafficIn (tour id handle).events ∧
        (tour id handle).browser.received = visits.flatMap Visit.delivered ∧
        Orderly (Remote.trimSlashes "http://h/wd/") visits none := by
    obtain ⟨visits, hvisits, hreceived, horderly⟩ := (remote_traffic_keeps_to_sessions guided
      (guide id handle) "http://h/wd/" () .empty .off [] .start clickAndRefresh).1
    exact ⟨visits, hvisits, hreceived, horderly⟩
  exact ⟨guideUrl_sessionsAt, hplain, by decide +kernel, hkeeps "S1" "e"⟩

def identifierIn? (reply : ServerReply) : Option String :=
  (Remote.valueOf guideUrl reply).toOption.bind fun value => (Remote.sessionOf value).toOption

theorem identifierIn?_of_announces {reply : ServerReply} {id : String} (h : Announces reply id) :
    identifierIn? reply = some id := by
  obtain ⟨value, hvalue, hid⟩ := (Remote.announces_iff guideUrl).mp h
  rw [identifierIn?, hvalue]
  exact congrArg Except.toOption hid

def longName (n : Nat) : String := String.ofList (List.replicate n 'a')

theorem longName_isPlain (n : Nat) : Url.IsPlain (longName n) := by
  refine .of_isOrdinary (List.all_eq_true.mpr fun c hc => ?_)
  rw [longName, String.toList_ofList] at hc
  rw [List.eq_of_mem_replicate hc]
  rfl

theorem utf8ByteSize_longName (n : Nat) : (longName n).utf8ByteSize = n := by
  induction n with
  | zero => rfl
  | succ n ih =>
    have hsize : 'a'.utf8Size = 1 := rfl
    rw [longName, List.replicate_succ, String.ofList_cons, String.utf8ByteSize_append,
      String.utf8ByteSize_singleton, hsize, ← longName, ih, Nat.add_comm]

/-- No request can be made to a session whose identifier is too long. -/
theorem addressOf_longName {n : Nat} (hn : 65534 < n) :
    (Remote.addressOf (Remote.placeText "http://h/wd" [longName n])).toOption = none := by
  have hsize (name : String) : name.utf8ByteSize ≤ ({ guideUrl with
      path := .segments (["wd"] ++ "session" :: [name]) } : Url).text.utf8ByteSize := by
    simp only [Url.text, Url.target, Url.Path.text, List.cons_append, List.nil_append, List.map,
      String.join, List.foldl, String.utf8ByteSize_append]
    omega
  rw [Remote.placeText, guideUrl_sessionsAt.addressOf_below (by simpa using longName_isPlain n),
    if_neg]
  · rfl
  · intro hle
    have hbound := (hsize _).trans hle
    rw [utf8ByteSize_longName] at hbound
    omega

theorem eq_of_announces_guideBody {asked id : String}
    (h : Announces (.response 200 (guideBody "S1" "../../S2/element/e" asked)) id) : id = "S1" := by
  have hid := identifierIn?_of_announces h
  by_cases hsession : asked = "session"
  · have hread : identifierIn? (.response 200 (guideBody "S1" "../../S2/element/e" "session")) =
        some "S1" := by decide +kernel
    rw [hsession, hread] at hid
    exact (Option.some.inj hid).symm
  by_cases helement : asked = "element"
  · have hread : identifierIn? (.response 200 (guideBody "S1" "../../S2/element/e" "element")) =
        none := by decide +kernel
    rw [helement, hread] at hid
    nomatch hid
  · have hread : identifierIn? (.response 200 "\x7b\"value\":null\x7d") = none := by decide +kernel
    rw [guideBody, if_neg hsession, if_neg helement, hread] at hid
    nomatch hid

/-- Names that are not plain lead a run away from its sessions: the server announces no session but
its own, yet a click arrives at another one if a handle has points in it, and the close arrives at
none if the identifier is two points.  A client that is sent on asks another session, too.  And no
request at all can be made to close a session whose identifier is too long. -/
theorem sessions_left_by_names :
    (∀ request s id, Announces ((guide "S1" "../../S2/element/e").exchange request s).reply id →
        id = "S1") ∧
      placesIn (tour "S1" "../../S2/element/e") =
        [("POST", "/wd/session", []), ("POST", "/wd/session/S1/element", []),
          ("POST", "/wd/session/S2/element/e/click", []),
          ("POST", "/wd/session/S1/refresh", ["/wd/session/S2/url"]),
          ("DELETE", "/wd/session/S1", [])] ∧
      placesIn (tour ".." "e") =
        [("POST", "/wd/session", []), ("POST", "/wd/element", []),
          ("POST", "/wd/element/e/click", []), ("POST", "/wd/refresh", ["/wd/session/S2/url"]),
          ("DELETE", "/wd/", [])] ∧
      (Remote.addressOf (Remote.placeText "http://h/wd" [longName 65535])).toOption = none := by
  exact ⟨fun _ _ _ => eq_of_announces_guideBody, by decide +kernel, by decide +kernel,
    addressOf_longName (by decide)⟩

end BrowserScript.Run
