import BrowserScript.Proofs.AddressesBelow
import BrowserScript.Proofs.Moves

/-!
# The traffic of a remote browser

The remote browser logs each request before it hands it to the client, so the requests that belong
to a call are read off the notes that follow the call in the trace.  What the client sends is what
the text of an address leads to: with plain names, the place that the names spell, and otherwise
perhaps another place or none.  A server that keeps what it gets shows which requests are sent,
where the client was led on, and which reply announced a session.
-/

namespace BrowserScript

/-- A request that the client could send, and what came of it. -/
structure Delivery where
  request : Request
  followed : List Request
  reply : ServerReply

def Delivery.line (d : Delivery) : String × Url := (d.request.method, d.request.url)

/-- A server that keeps the requests it gets, in order, beside its own state. -/
def Server.recording {σ : Type} (server : Server σ) : Server (List Delivery × σ) where
  exchange request s :=
    let done := server.exchange request s.2
    { reply := done.reply
      followed := done.followed
      next := (s.1 ++ [⟨request, done.followed, done.reply⟩], done.next)
      latency := done.latency
      raises := done.raises }

/-- A value that gives a session its identifier: a member of an object, or all that is in a list. -/
inductive NamesSession : Json → String → Prop
  | member {members : List (String × Json)} {id : String}
    (h : Dict.get? "sessionId" members = some (.string id)) : NamesSession (.object members) id
  | single (id : String) : NamesSession (.array [.string id]) id

/-- A reply that announces a session: the opening succeeded and its value names the session. -/
inductive Announces : ServerReply → String → Prop
  | success {status : Nat} {body id : String} {payload value : Json}
    (hstatus : 200 ≤ status ∧ status < 300) (hbody : Json.read? body = some payload)
    (hvalue : payload.get? "value" = some value) (hid : NamesSession value id) :
    Announces (.response status body) id

/-- The method of a request inside a session and the names that lead to its place below the
session.  There is no request if no time limit is to be set, and none that is inside the session
for a call that opens or closes it. -/
def Call.endpoint? : Call → Option (String × List String)
  | .openSession .. | .closeSession | .setTimeouts none none => none
  | .navigate _ => some ("POST", ["url"])
  | .back => some ("POST", ["back"])
  | .forward => some ("POST", ["forward"])
  | .refresh => some ("POST", ["refresh"])
  | .currentUrl => some ("GET", ["url"])
  | .windowHandles => some ("GET", ["window", "handles"])
  | .find _ => some ("POST", ["element"])
  | .findAll _ => some ("POST", ["elements"])
  | .activeElement => some ("GET", ["element", "active"])
  | .click e => some ("POST", ["element", e.id, "click"])
  | .sendKeys e _ => some ("POST", ["element", e.id, "value"])
  | .execute .. => some ("POST", ["execute", "sync"])
  | .setTimeouts .. => some ("POST", ["timeouts"])

namespace Log.Entry

def request? (entry : Log.Entry) : Option (String × String) :=
  match entry.origin, entry.message, entry.fields with
  | .remote, "webdriver request", [("method", .shown method), ("url", .shown url)] =>
    some (method, url)
  | _, _, _ => none

end Log.Entry

namespace Run

/-- What the remote browser handed to the client for a call, as its log has it. -/
structure Traffic where
  answered : Answered
  requests : List (String × String)

def Traffic.ofLog (answered : Answered) (entries : List Log.Entry) : Traffic :=
  ⟨answered, entries.filterMap Log.Entry.request?⟩

def notesIn : List Event → List Log.Entry
  | [] => []
  | .call .. :: _ => []
  | .log _ entry :: rest => entry :: notesIn rest
  | .interrupt .. :: rest => notesIn rest

/-- The traffic of the calls among some events: the notes up to the next call belong to a call. -/
def trafficIn : List Event → List Traffic
  | [] => []
  | .call _ call reply :: rest => .ofLog ⟨call, reply⟩ (notesIn rest) :: trafficIn rest
  | .log .. :: rest => trafficIn rest
  | .interrupt .. :: rest => trafficIn rest

/-! ### Reading the trace -/

theorem request?_of_ne {entry : Log.Entry} (h : entry.origin ≠ .remote) :
    entry.request? = none := by
  unfold Log.Entry.request?
  split
  · contradiction
  · rfl

/-- Entries that the remote browser did not make do not count as traffic. -/
theorem Traffic.ofLog_append {entries others : List Log.Entry} (answered : Answered)
    (h : ∀ entry ∈ others, entry.origin ≠ .remote) :
    ofLog answered (entries ++ others) = ofLog answered entries := by
  have hrequests : others.filterMap Log.Entry.request? = [] :=
    List.filterMap_eq_nil_iff.mpr fun entry he => request?_of_ne (h entry he)
  simp [ofLog, hrequests]

theorem notesIn_append_call (events : List Event) (time : Nat) (call : Call)
    (reply : Except BrowserError call.Answer) (rest : List Event) :
    notesIn (events ++ .call time call reply :: rest) = notesIn events := by
  induction events with
  | nil => rfl
  | cons e events ih => cases e <;> simp [notesIn, ih]

theorem notesIn_silent {more : List Event} (h : ∀ e ∈ more, e.isTraffic = false) :
    ∀ entry ∈ notesIn more, entry.origin ≠ .remote := by
  induction more with
  | nil => simp [notesIn]
  | cons e rest ih =>
    have hrest := ih fun e he => h e (List.mem_cons_of_mem _ he)
    have he := h e List.mem_cons_self
    cases e with
    | call time call reply => simp [notesIn]
    | log time entry =>
      have hentry : entry.origin ≠ .remote := by simpa [Event.isTraffic] using he
      simpa [notesIn] using ⟨hentry, hrest⟩
    | interrupt time place => exact hrest

theorem notesIn_append_silent {more : List Event} (events : List Event)
    (h : ∀ e ∈ more, e.isTraffic = false) :
    ∃ others, notesIn (events ++ more) = notesIn events ++ others ∧
      ∀ entry ∈ others, entry.origin ≠ .remote := by
  induction events with
  | nil => exact ⟨notesIn more, rfl, notesIn_silent h⟩
  | cons e rest ih =>
    obtain ⟨others, hothers, hown⟩ := ih
    cases e with
    | call time call reply => exact ⟨[], rfl, by simp⟩
    | log time entry => exact ⟨others, by simp [notesIn, hothers], hown⟩
    | interrupt time place => exact ⟨others, by simp [notesIn, hothers], hown⟩

/-- Events without traffic leave the traffic as it is: they add nothing to the last call. -/
theorem trafficIn_append_silent {more : List Event} (events : List Event)
    (h : ∀ e ∈ more, e.isTraffic = false) : trafficIn (events ++ more) = trafficIn events := by
  induction events with
  | nil =>
    induction more with
    | nil => rfl
    | cons e rest ih =>
      have hrest := ih fun e he => h e (List.mem_cons_of_mem _ he)
      cases e with
      | call time call reply => exact absurd (h _ List.mem_cons_self) (by simp [Event.isTraffic])
      | log time entry => exact hrest
      | interrupt time place => exact hrest
  | cons e rest ih =>
    cases e with
    | log time entry => exact ih
    | interrupt time place => exact ih
    | call time call reply =>
      obtain ⟨others, hothers, hown⟩ := notesIn_append_silent rest h
      simp only [List.cons_append, trafficIn, hothers, Traffic.ofLog_append _ hown, ih]

theorem trafficIn_of_no_calls {events : List Event} (h : answeredIn events = []) :
    trafficIn events = [] := by
  induction events with
  | nil => rfl
  | cons e rest ih =>
    cases e with
    | call time call reply => simp at h
    | log time entry => exact ih h
    | interrupt time place => exact ih h

/-- A call adds its own traffic at the end. -/
theorem trafficIn_append_call (events : List Event) (time : Nat) (call : Call)
    (reply : Except BrowserError call.Answer) {after : List Event} (h : answeredIn after = []) :
    trafficIn (events ++ .call time call reply :: after) =
      trafficIn events ++ [.ofLog ⟨call, reply⟩ (notesIn after)] := by
  induction events with
  | nil => simp [trafficIn, trafficIn_of_no_calls h]
  | cons e rest ih =>
    cases e with
    | log time entry => exact ih
    | interrupt time place => exact ih
    | call time' call' reply' =>
      simp only [List.cons_append, trafficIn, notesIn_append_call, ih]

theorem notesIn_logged {β : Type} (m : Machine β) (entries : List Log.Entry) :
    notesIn (m.logged entries) =
      entries.map fun entry => { entry with spans := m.spans ++ entry.spans } := by
  induction entries with
  | nil => rfl
  | cons entry rest ih => simpa [Machine.logged, notesIn] using ih

theorem notesIn_raisedOn_append (t t' : Timeline) (place : Place) (events : List Event) :
    notesIn (raisedOn t t' place ++ events) = notesIn events := by
  unfold raisedOn
  split <;> rfl

/-- The spans around a note do not matter for the traffic. -/
theorem Traffic.ofLog_spans (answered : Answered) (spans : List Log.Span)
    (entries : List Log.Entry) :
    ofLog answered (entries.map fun entry => { entry with spans := spans ++ entry.spans }) =
      ofLog answered entries := by
  simp only [ofLog, List.filterMap_map]
  rfl

/-- The traffic of a call is what the browser notes with its answer. -/
theorem trafficIn_callOn {β : Type} (setup : Setup β) (call : Call) (m : Machine β)
    {base events : List Event} (hbase : m.events = base ++ events) :
    ∃ events', (callOn setup call m).2.events = base ++ events' ∧
      trafficIn events' = trafficIn events ++ [.ofLog ⟨call, (callOn setup call m).1⟩
        (setup.backend.answer call m.browser).notes] := by
  refine ⟨events ++ .call m.time.now call (callOn setup call m).1 :: afterCall setup call m, ?_, ?_⟩
  · rw [callOn_events, hbase, List.append_assoc]
  · rw [trafficIn_append_call _ _ _ _ (answeredIn_afterCall setup call m), afterCall,
      notesIn_raisedOn_append, notesIn_logged, Traffic.ofLog_spans]

end Run

namespace Remote

/-! ### Sessions that a reply announces -/

theorem textOf_eq_ok_iff {v : Json} {s : String} : textOf v = .ok s ↔ v = .string s := by
  cases v <;> simp [textOf]

theorem sessionOf_eq_ok_iff {value : Json} {id : String} :
    sessionOf value = .ok id ↔ NamesSession value id := by
  constructor
  · intro h
    unfold sessionOf at h
    split at h
    · split at h
      · rename_i hmember
        rw [textOf_eq_ok_iff.mp h] at hmember
        exact .member hmember
      · nomatch h
    · nomatch h
    · rw [textOf_eq_ok_iff.mp h]
      exact .single id
    · split at h <;> nomatch h
    · nomatch h
  · rintro (hmember | _)
    · simp [sessionOf, hmember, textOf]
    · rfl

/-- The remote browser finds an identifier in a reply just when the reply announces it. -/
theorem announces_iff (url : Url) {reply : ServerReply} {id : String} :
    Announces reply id ↔ ∃ value, valueOf url reply = .ok value ∧ sessionOf value = .ok id := by
  constructor
  · rintro ⟨hstatus, hbody, hvalue, hid⟩
    refine ⟨_, ?_, sessionOf_eq_ok_iff.mpr hid⟩
    simp [valueOf, hbody, hvalue, hstatus]
  · rintro ⟨value, hvalue, hid⟩
    cases reply with
    | nothing => nomatch hvalue
    | response status body =>
      unfold valueOf at hvalue
      dsimp only at hvalue
      split at hvalue
      · nomatch hvalue
      · rename_i payload hbody
        split at hvalue
        · rename_i hstatus
          cases hmember : payload.get? "value" with
          | none =>
            rw [hmember] at hvalue
            rw [← Except.ok.inj hvalue] at hid
            nomatch hid
          | some v =>
            rw [hmember] at hvalue
            rw [← Except.ok.inj hvalue] at hid
            exact .success hstatus hbody hmember (sessionOf_eq_ok_iff.mp hid)
        · nomatch hvalue

/-! ### Requests below the sessions of a server -/

/-- The text of the address that names lead to below the sessions of a server. -/
def placeText (base : String) (names : List String) : String :=
  s!"{base}/session" ++ (Url.Path.segments names).text

theorem placeText_nil (base : String) : placeText base [] = s!"{base}/session" := by
  rw [placeText, ← String.toList_inj]
  simp [Url.toList_text_segments, Url.below]

theorem placeText_single (base id : String) : placeText base [id] = s!"{base}/session/{id}" := by
  rw [placeText, ← String.toList_inj]
  simp [Url.toList_text_segments, Url.below, toString]

theorem placeText_cons {path : String} {names : List String} (base id : String)
    (h : '/' :: path.toList = Url.below names) :
    placeText base (id :: names) = s!"{base}/session/{id}/{path}" := by
  rw [placeText, ← String.toList_inj]
  have hnames : Url.below (id :: names) = '/' :: id.toList ++ '/' :: path.toList := by
    rw [h]
    rfl
  simp [Url.toList_text_segments, hnames, toString]

/-- One request to the place that names lead to below the sessions of a server: `handed` is what
the client gets and `delivered` what arrives.  Plain names below the address where sessions are
opened lead to that very place, unless its address is too long for a request. -/
structure Sends (base method : String) (names : List String) (handed : List (String × String))
    (delivered : List Delivery) : Prop where
  handed : handed = [(method, placeText base names)]
  reaches : delivered.map Delivery.line =
    ((addressOf (placeText base names)).toOption.map (method, ·)).toList
  arrives : ∀ url root, SessionsAt base url root → (∀ name ∈ names, Url.IsPlain name) →
    let place := { url with path := .segments (root ++ "session" :: names) }
    delivered.map Delivery.line =
      if place.text.utf8ByteSize ≤ 65534 then [(method, place)] else []

theorem Sends.of_reaches {base method : String} {names : List String} {delivered : List Delivery}
    (h : delivered.map Delivery.line =
      ((addressOf (placeText base names)).toOption.map (method, ·)).toList) :
    Sends base method names [(method, placeText base names)] delivered where
  handed := rfl
  reaches := h
  arrives := by
    intro url root hat hnames place
    rw [h, placeText, hat.addressOf_below hnames]
    split <;> rfl

variable {σ α : Type}

def received (r : Remote (List Delivery × σ)) : List Delivery := r.server.1

/-- A response for which the remote browser hands the requests `handed` to the client and
`delivered` arrives; afterwards it has the session `session`. -/
structure Serves (r : Remote (List Delivery × σ))
    (response : Response (Remote (List Delivery × σ)) α) (handed : List (String × String))
    (delivered : List Delivery) (session : Option String) : Prop where
  requests : response.notes.filterMap Log.Entry.request? = handed
  base : response.next.base = r.base
  session : response.next.session = session
  received : response.next.received = r.received ++ delivered

/-- What is read out of a reply does not matter for the requests. -/
theorem Serves.same {α' : Type} {r : Remote (List Delivery × σ)}
    {response : Response (Remote (List Delivery × σ)) α}
    {response' : Response (Remote (List Delivery × σ)) α'} {handed : List (String × String)}
    {delivered : List Delivery} {session : Option String}
    (h : Serves r response handed delivered session) (hnext : response'.next = response.next)
    (hnotes : response'.notes = response.notes) : Serves r response' handed delivered session where
  requests := hnotes ▸ h.requests
  base := hnext ▸ h.base
  session := hnext ▸ h.session
  received := hnext ▸ h.received

/-- What becomes of a request: it cannot be made, or it arrives and gives what its reply holds. -/
inductive Carries (method address : String) :
    List Delivery → Except BrowserError Json → Prop
  | lost {e : BrowserError} (h : addressOf address = .error e) :
    Carries method address [] (.error e)
  | sent {url : Url} {d : Delivery} (h : addressOf address = .ok url)
    (hline : d.line = (method, url)) : Carries method address [d] (valueOf url d.reply)

theorem Carries.reaches {method address : String} {delivered : List Delivery}
    {reply : Except BrowserError Json} (h : Carries method address delivered reply) :
    delivered.map Delivery.line = ((addressOf address).toOption.map (method, ·)).toList := by
  cases h with
  | lost h => simp [h, Except.toOption]
  | sent h hline => simp [h, hline, Except.toOption]

theorem Carries.unannounced {method address : String} {delivered : List Delivery}
    {reply : Except BrowserError Json} (h : Carries method address delivered reply)
    (hnone : ∀ value, reply = .ok value → ∀ id, sessionOf value ≠ .ok id) :
    ∀ d ∈ delivered, ∀ id, ¬ Announces d.reply id := by
  cases h with
  | lost h => simp
  | @sent url d h hline =>
    intro d' hd' id hannounces
    rw [List.mem_singleton.mp hd'] at hannounces
    obtain ⟨value, hvalue, hid⟩ := (announces_iff url).mp hannounces
    exact hnone value hvalue id hid

theorem Carries.announced {method address : String} {delivered : List Delivery} {value : Json}
    {id : String} (h : Carries method address delivered (.ok value))
    (hid : sessionOf value = .ok id) : ∃ d, delivered = [d] ∧ Announces d.reply id := by
  generalize hreply : (Except.ok value : Except BrowserError Json) = reply at h
  cases h with
  | lost h => nomatch hreply
  | @sent url d h hline => exact ⟨d, rfl, (announces_iff url).mpr ⟨value, hreply.symm, hid⟩⟩

theorem send_serves (server : Server σ) (r : Remote (List Delivery × σ)) (method address : String)
    (body : Option Json) :
    ∃ delivered,
      Serves r (send server.recording r method address body) [(method, address)] delivered
        r.session ∧
      Carries method address delivered (send server.recording r method address body).reply := by
  have hnote : Log.Entry.request? (note .trace "webdriver request"
      [("method", .shown method), ("url", .shown address)]) = some (method, address) := rfl
  unfold send
  cases haddress : addressOf address with
  | error e => exact ⟨[], ⟨by simp [hnote], rfl, rfl, by simp⟩, .lost haddress⟩
  | ok url =>
    let done := server.exchange ⟨method, url, body⟩ r.server.2
    let d : Delivery := ⟨⟨method, url, body⟩, done.followed, done.reply⟩
    exact ⟨[d], ⟨by simp [hnote], rfl, rfl, rfl⟩, .sent haddress rfl⟩

/-- A response for which one request is sent below the sessions of the server. -/
def ServesAt (r : Remote (List Delivery × σ)) (response : Response (Remote (List Delivery × σ)) α)
    (method : String) (names : List String) (session : Option String) : Prop :=
  ∃ handed delivered, Serves r response handed delivered session ∧
    Sends r.base method names handed delivered

theorem inSession_serves (server : Server σ) {r : Remote (List Delivery × σ)} {id path : String}
    {names : List String} (hsession : r.session = some id)
    (hpath : '/' :: path.toList = Url.below names) (hne : path.isEmpty = false) (method : String)
    (body : Option Json) (read : Json → Except BrowserError α) :
    ServesAt r (inSession server.recording r method path body read) method (id :: names)
      (some id) := by
  have hurl : r.sessionUrl path = .ok (placeText r.base (id :: names)) := by
    rw [sessionUrl, hsession, placeText_cons r.base id hpath]
    simp only [hne]
    rfl
  obtain ⟨delivered, hserves, hcarries⟩ :=
    send_serves server r method (placeText r.base (id :: names)) body
  rw [hsession] at hserves
  refine ⟨_, delivered, ?_, .of_reaches hcarries.reaches⟩
  unfold inSession
  rw [hurl]
  dsimp only
  -- What the exchange yields does not matter, so it is not looked into.
  generalize send server.recording r method (placeText r.base (id :: names)) body = sent
    at hserves ⊢
  exact hserves.same rfl rfl

theorem closeSession_serves (server : Server σ) {r : Remote (List Delivery × σ)} {id : String}
    (hsession : r.session = some id) :
    ServesAt r (closeSession server.recording r) "DELETE" [id] none := by
  have hurl : r.sessionUrl "" = .ok (placeText r.base [id]) := by
    rw [sessionUrl, hsession, placeText_single]
    rfl
  obtain ⟨delivered, hserves, hcarries⟩ :=
    send_serves server { r with session := none } "DELETE" (placeText r.base [id]) none
  refine ⟨_, delivered, ?_, .of_reaches hcarries.reaches⟩
  unfold closeSession
  rw [hurl]
  dsimp only
  generalize send server.recording { r with session := none } "DELETE"
    (placeText r.base [id]) none = sent at hserves ⊢
  refine ⟨?_, hserves.base, hserves.session, hserves.received⟩
  rw [List.filterMap_append, hserves.requests]
  split <;> rfl

/-- An opening either fails and leaves the remote browser without a session, or it succeeds with
the one that the reply announces. -/
theorem openSession_serves (server : Server σ) {r : Remote (List Delivery × σ)}
    (hsession : r.session = none) (browser : String) (options : List String) :
    (∃ handed delivered e, (openSession server.recording r browser options).reply = .error e ∧
      Serves r (openSession server.recording r browser options) handed delivered none ∧
      (handed = [] ∧ delivered = [] ∨ Sends r.base "POST" [] handed delivered) ∧
      ∀ d ∈ delivered, ∀ id, ¬ Announces d.reply id) ∨
    ∃ handed d id, (openSession server.recording r browser options).reply = .ok () ∧
      Serves r (openSession server.recording r browser options) handed [d] (some id) ∧
      Sends r.base "POST" [] handed [d] ∧ Announces d.reply id := by
  unfold openSession
  cases hbody : capabilities browser options with
  | error e =>
    exact .inl ⟨[], [], e, rfl, ⟨rfl, rfl, hsession, by simp⟩, .inl ⟨rfl, rfl⟩, by simp⟩
  | ok body =>
    obtain ⟨delivered, hserves, hcarries⟩ := send_serves server r "POST" s!"{r.base}/session" body
    rw [hsession] at hserves
    have hsends : Sends r.base "POST" [] [("POST", s!"{r.base}/session")] delivered := by
      rw [← placeText_nil] at hcarries ⊢
      exact .of_reaches hcarries.reaches
    dsimp only
    generalize send server.recording r "POST" s!"{r.base}/session" body = sent
      at hserves hcarries ⊢
    cases hreply : sent.reply with
    | error e =>
      rw [hreply] at hcarries
      exact .inl ⟨_, delivered, e, rfl, hserves.same rfl rfl, .inr hsends,
        hcarries.unannounced (by simp)⟩
    | ok value =>
      rw [hreply] at hcarries
      dsimp only
      cases hid : sessionOf value with
      | error reason =>
        refine .inl ⟨_, delivered, _, rfl, hserves.same rfl rfl, .inr hsends,
          hcarries.unannounced ?_⟩
        intro value' hvalue id hid'
        rw [← Except.ok.inj hvalue, hid] at hid'
        nomatch hid'
      | ok id =>
        obtain ⟨d, rfl, hannounced⟩ := hcarries.announced hid
        refine .inr ⟨_, d, id, rfl, ⟨?_, hserves.base, rfl, hserves.received⟩, hsends, hannounced⟩
        rw [List.filterMap_append, hserves.requests]
        rfl

/-- A call inside a session sends the one request that is laid down for it, if any. -/
theorem answer_serves_inside (server : Server σ) {r : Remote (List Delivery × σ)} {id : String}
    (hsession : r.session = some id) {call : Call} (hcall : call.changesSession = false) :
    match call.endpoint? with
    | none => Serves r (answer server.recording call r) [] [] (some id)
    | some (method, names) =>
      ServesAt r (answer server.recording call r) method (id :: names) (some id) := by
  cases call with
  | openSession browser options => nomatch hcall
  | closeSession => nomatch hcall
  | navigate url => exact inSession_serves server hsession (by decide) (by simp) "POST" _ _
  | back => exact inSession_serves server hsession (by decide) (by simp) "POST" _ _
  | forward => exact inSession_serves server hsession (by decide) (by simp) "POST" _ _
  | refresh => exact inSession_serves server hsession (by decide) (by simp) "POST" _ _
  | currentUrl => exact inSession_serves server hsession (by decide) (by simp) "GET" _ _
  | windowHandles => exact inSession_serves server hsession (by decide) (by simp) "GET" _ _
  | find l => exact inSession_serves server hsession (by decide) (by simp) "POST" _ _
  | findAll l => exact inSession_serves server hsession (by decide) (by simp) "POST" _ _
  | activeElement => exact inSession_serves server hsession (by decide) (by simp) "GET" _ _
  | click e =>
    exact inSession_serves server hsession (by simp [Url.below, toString]) (by simp [toString])
      "POST" _ _
  | sendKeys e text =>
    exact inSession_serves server hsession (by simp [Url.below, toString]) (by simp [toString])
      "POST" _ _
  | execute script arguments =>
    exact inSession_serves server hsession (by decide) (by simp) "POST" _ _
  | setTimeouts pageLoad implicit =>
    by_cases hnone : (timeoutMembers pageLoad implicit).isEmpty
    · have hserves : Serves r (answer server.recording (.setTimeouts pageLoad implicit) r) [] []
          (some id) := by
        rw [answer, if_pos hnone]
        exact ⟨rfl, rfl, hsession, by simp⟩
      cases pageLoad <;> cases implicit <;> first | exact hserves | simp [timeoutMembers] at hnone
    · have hserves : ServesAt r (answer server.recording (.setTimeouts pageLoad implicit) r) "POST"
          [id, "timeouts"] (some id) := by
        rw [answer, if_neg hnone]
        exact inSession_serves server hsession (by decide) (by simp) "POST" _ _
      cases pageLoad <;> cases implicit <;> first | exact hserves | exact absurd rfl hnone

end Remote

end BrowserScript
