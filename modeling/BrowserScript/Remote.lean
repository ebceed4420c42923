import BrowserScript.Browser
import BrowserScript.Json.Reader
import BrowserScript.Url.Reader

/-!
# The remote browser

A browser behind a WebDriver server.  Every call but the opening of a session goes to the address
of the open session, and each call sends at most one request.  The text of that address is read as
an address before anything is sent, so the server sees what the text stands for.  The client that
carries requests and the server are one parameter: they answer a request from their own state or
leave it unanswered.
-/

namespace BrowserScript

structure Request where
  method : String
  url : Url
  body : Option Json

inductive ServerReply where
  | response (status : Nat) (body : String)
  /-- The request was not delivered, or not answered. -/
  | nothing

structure Exchange (σ : Type) where
  reply : ServerReply
  /-- The requests that the client makes on its own, as replies lead it elsewhere, before it gets
  the final one. -/
  followed : List Request := []
  /-- The state of the server afterwards. -/
  next : σ
  /-- How long the exchange takes. -/
  latency : Duration := 0
  /-- Whether the interrupt is raised meanwhile. -/
  raises : Bool := false

structure Server (σ : Type) where
  exchange : Request → σ → Exchange σ

def Server.unreachable : Server Unit := ⟨fun _ s => { reply := .nothing, next := s }⟩

/-- The state of the remote browser: the address of the server without slashes at its end, the
identifier of the open session and the state of the server. -/
structure Remote (σ : Type) where
  base : String
  session : Option String
  server : σ

namespace Remote

/-- The member under which an element handle is wrapped. -/
def elementKey : String := "element-6066-11e4-a52e-4f735466cecc"

def trimSlashes (url : String) : String :=
  String.ofList (url.toList.reverse.dropWhile (· == '/')).reverse

def ofAddress {σ : Type} (url : String) (server : σ) : Remote σ := ⟨trimSlashes url, none, server⟩

def describe : Json → String
  | .null => "null"
  | .bool b => if b then "boolean `true`" else "boolean `false`"
  | .integer n => s!"integer `{n}`"
  | .number x => s!"floating point `{NumberStyle.json.text x}`"
  | .string s => s!"string {Text.quoted s}"
  | .array _ => "sequence"
  | .object _ => "map"

def textOf : Json → Except String String
  | .string s => .ok s
  | v => .error s!"invalid type: {describe v}, expected a string"

def sessionOf : Json → Except String String
  | .object members =>
    match Dict.get? "sessionId" members with
    | some v => textOf v
    | none => .error "missing field `sessionId`"
  | .array [] => .error "invalid length 0, expected struct NewSession with 1 element"
  | .array [v] => textOf v
  | .array (v :: rest) =>
    match textOf v with
    | .ok _ => .error s!"invalid length {rest.length + 1}, expected fewer elements in array"
    | .error e => .error e
  | v => .error s!"invalid type: {describe v}, expected struct NewSession"

def errorParts? : Json → Option (String × String)
  | .object members =>
    match Dict.get? "error" members, Dict.get? "message" members with
    | some (.string error), none => some (error, "")
    | some (.string error), some (.string message) => some (error, message)
    | _, _ => none
  | .array [.string error] => some (error, "")
  | .array [.string error, .string message] => some (error, message)
  | _ => none

def errorOf (value : Json) : BrowserError :=
  match errorParts? value with
  | none => .protocol "unknown error" "malformed error response"
  | some (error, message) =>
    if error = "no such element" then .noSuchElement message
    else if error = "stale element reference" then .staleElement
    else if error = "invalid session id" then .notConnected
    else .protocol error message

def elementOf (value : Json) : Except BrowserError ElementRef :=
  match (value.get? elementKey).bind Json.string? with
  | some id => .ok ⟨id⟩
  | none =>
    .error (.protocol "invalid response" s!"expected an element reference, got {value.text}")

def elementsOf : List Json → Except BrowserError (List ElementRef)
  | [] => .ok []
  | v :: rest => do
    let e ← elementOf v
    let es ← elementsOf rest
    return e :: es

def nameSelector (value : String) : String :=
  let quoted := value.toList.flatMap fun c => if c = '"' then ['\\', '"'] else [c]
  "[name=\"" ++ String.ofList quoted ++ "\"]"

def locatorBody (l : Locator) : Json :=
  let (using_, value) := match l.strategy with
    | .css => ("css selector", l.value)
    | .name => ("css selector", nameSelector l.value)
    | .xpath => ("xpath", l.value)
    | .link => ("link text", l.value)
    | .partialLink => ("partial link text", l.value)
  .object [("using", .string using_), ("value", .string value)]

/-- The protocol's name of a browser and the member that holds its options. -/
def browserNames? (name : String) : Option (String × Option String) :=
  if name = "firefox" ∨ name = "ff" then some ("firefox", some "moz:firefoxOptions")
  else if name = "chrome" ∨ name = "chromium" then some ("chrome", some "goog:chromeOptions")
  else if name = "edge" ∨ name = "msedge" then some ("MicrosoftEdge", some "ms:edgeOptions")
  else if name = "safari" then some ("safari", none)
  else none

def capabilities (browser : String) (options : List String) : Except BrowserError Json :=
  let name := Text.lowerAscii browser
  match browserNames? name with
  | none => .error (.unsupported s!"browser {Text.quoted name}")
  | some (official, vendor) =>
    let arguments := Json.object [("args", .array (options.map .string))]
    let always := ("browserName", Json.string official) ::
      (vendor.map fun v => (v, arguments)).toList
    .ok (.object [("capabilities", .object [("alwaysMatch", .object always)])])

def note (level : Log.Level) (message : String) (fields : List (String × Log.Content)) :
    Log.Entry :=
  ⟨level, .remote, [], message, fields⟩

def valueOf (url : Url) : ServerReply → Except BrowserError Json
  | .nothing => .error (.transport s!"error sending request for url ({url.text})")
  | .response status body =>
    match Json.read? body with
    | none => .error (.transport "error decoding response body")
    | some payload =>
      let value := (payload.get? "value").getD .null
      if 200 ≤ status ∧ status < 300 then .ok value else .error (errorOf value)

/-- Whether a request can be made for an address: it goes over the web, it is not too long, and
its host has no character that a request cannot carry. -/
def isReachable (url : Url) : Bool :=
  let carried := match url.host with
    | some (.named name) => !name.toList.any fun c => ['"', '\x60', '\x7b', '\x7d'].contains c
    | _ => true
  (url.scheme == "http" || url.scheme == "https") && carried && url.text.utf8ByteSize ≤ 65534

def addressOf (text : String) : Except BrowserError Url :=
  match Url.ofText? text with
  | none => .error (.transport "builder error")
  | some read =>
    let url := read.forRequest
    if url.hasHost && isReachable url then .ok url
    else .error (.transport s!"builder error for url ({url.text})")

variable {σ : Type}

def send (server : Server σ) (r : Remote σ) (method address : String) (body : Option Json) :
    Response (Remote σ) Json :=
  let notes := [note .trace "webdriver request"
    [("method", .shown method), ("url", .shown address)]]
  match addressOf address with
  | .error e => ⟨.error e, r, 0, false, notes⟩
  | .ok url =>
    let done := server.exchange ⟨method, url, body⟩ r.server
    ⟨valueOf url done.reply, { r with server := done.next }, done.latency, done.raises, notes⟩

def sessionUrl (r : Remote σ) (path : String) : Except BrowserError String :=
  match r.session with
  | none => .error .notConnected
  | some id =>
    let start := s!"{r.base}/session/{id}"
    .ok (if path.isEmpty then start else s!"{start}/{path}")

def inSession {α : Type} (server : Server σ) (r : Remote σ) (method path : String)
    (body : Option Json) (read : Json → Except BrowserError α) : Response (Remote σ) α :=
  match r.sessionUrl path with
  | .error e => ⟨.error e, r, 0, false, []⟩
  | .ok url =>
    let sent := send server r method url body
    ⟨sent.reply >>= read, sent.next, sent.latency, sent.raises, sent.notes⟩

def post {α : Type} (server : Server σ) (r : Remote σ) (path : String) (body : Json)
    (read : Json → Except BrowserError α) : Response (Remote σ) α :=
  inSession server r "POST" path (some body) read

def get {α : Type} (server : Server σ) (r : Remote σ) (path : String)
    (read : Json → Except BrowserError α) : Response (Remote σ) α :=
  inSession server r "GET" path none read

/-- Opens a session: the identifier is kept once a reply gives one. -/
def openSession (server : Server σ) (r : Remote σ) (browser : String) (options : List String) :
    Response (Remote σ) Unit :=
  match capabilities browser options with
  | .error e => ⟨.error e, r, 0, false, []⟩
  | .ok body =>
    let sent := send server r "POST" s!"{r.base}/session" (some body)
    match sent.reply with
    | .error e => ⟨.error e, sent.next, sent.latency, sent.raises, sent.notes⟩
    | .ok value =>
      match sessionOf value with
      | .error reason =>
        ⟨.error (.protocol "invalid response" reason), sent.next, sent.latency, sent.raises,
          sent.notes⟩
      | .ok id =>
        let opened := note .debug "session opened"
          [("session", .shown id), ("browser", .literal browser)]
        ⟨.ok (), { sent.next with session := some id }, sent.latency, sent.raises,
          sent.notes ++ [opened]⟩

/-- Closes the session: its identifier is dropped whatever the server says. -/
def closeSession (server : Server σ) (r : Remote σ) : Response (Remote σ) Unit :=
  match r.sessionUrl "" with
  | .error e => ⟨.error e, r, 0, false, []⟩
  | .ok url =>
    let sent := send server { r with session := none } "DELETE" url none
    let closed := match sent.reply with
      | .ok _ => [note .debug "session closed" []]
      | .error _ => []
    ⟨sent.reply.map fun _ => (), sent.next, sent.latency, sent.raises, sent.notes ++ closed⟩

def timeoutMembers (pageLoad implicit : Option Duration) : List (String × Json) :=
  (implicit.map fun d => ("implicit", Json.integer (Duration.toMillis d))).toList ++
    (pageLoad.map fun d => ("pageLoad", Json.integer (Duration.toMillis d))).toList

def ignore (_ : Json) : Except BrowserError Unit := .ok ()

def answer (server : Server σ) : (call : Call) → Remote σ → Response (Remote σ) call.Answer
  | .openSession browser options, r => openSession server r browser options
  | .closeSession, r => closeSession server r
  | .navigate url, r => post server r "url" (.object [("url", .string url)]) ignore
  | .back, r => post server r "back" (.object []) ignore
  | .forward, r => post server r "forward" (.object []) ignore
  | .refresh, r => post server r "refresh" (.object []) ignore
  | .currentUrl, r => get server r "url" fun v => .ok (v.string?.getD "")
  | .windowHandles, r =>
    get server r "window/handles" fun v => .ok ((v.array?.getD []).filterMap Json.string?)
  | .find l, r => post server r "element" (locatorBody l) elementOf
  | .findAll l, r =>
    post server r "elements" (locatorBody l) fun v => elementsOf (v.array?.getD [])
  | .activeElement, r => get server r "element/active" elementOf
  | .click e, r => post server r s!"element/{e.id}/click" (.object []) ignore
  | .sendKeys e text, r =>
    post server r s!"element/{e.id}/value" (.object [("text", .string text)]) ignore
  | .execute script arguments, r =>
    post server r "execute/sync"
      (.object [("args", .array arguments), ("script", .string script)]) .ok
  | .setTimeouts pageLoad implicit, r =>
    let members := timeoutMembers pageLoad implicit
    if members.isEmpty then ⟨.ok (), r, 0, false, []⟩
    else post server r "timeouts" (.object members) ignore

def backend (server : Server σ) : Backend (Remote σ) := ⟨answer server⟩

end Remote

end BrowserScript
