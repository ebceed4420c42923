import BrowserScript.Error
import BrowserScript.Json
import BrowserScript.Log

/-!
# Browsers

What a run asks of a browser, as calls with typed answers.  A backend answers each call from its
own state; an answer may take time, may raise the interrupt and may leave notes in the log.
-/

namespace BrowserScript

inductive Strategy where
  | css
  | name
  | xpath
  | link
  | partialLink
  deriving DecidableEq, Repr

namespace Strategy

def text : Strategy → String
  | .css => "css"
  | .name => "name"
  | .xpath => "xpath"
  | .link => "link"
  | .partialLink => "partial-link"

def ofText? (s : String) : Option Strategy :=
  let name := Text.replaceChar '_' '-' (Text.lowerAscii s)
  if name = "css" ∨ name = "css-selector" then some .css
  else if name = "name" then some .name
  else if name = "xpath" then some .xpath
  else if name = "link" ∨ name = "link-text" then some .link
  else if name = "partial-link" ∨ name = "partial-link-text" then some .partialLink
  else none

end Strategy

structure Locator where
  strategy : Strategy
  value : String
  deriving DecidableEq, Repr

def Locator.text (l : Locator) : String := s!"{l.strategy.text}={l.value}"

/-- A handle of an element, valid in the session that gave it. -/
structure ElementRef where
  id : String
  deriving DecidableEq, Repr

inductive Call where
  | openSession (browser : String) (options : List String)
  | closeSession
  | navigate (url : String)
  | back
  | forward
  | refresh
  | currentUrl
  | windowHandles
  | find (locator : Locator)
  | findAll (locator : Locator)
  | activeElement
  | click (element : ElementRef)
  | sendKeys (element : ElementRef) (text : String)
  | execute (script : String) (arguments : List Json)
  | setTimeouts (pageLoad implicit : Option Duration)

namespace Call

abbrev Answer : Call → Type
  | .currentUrl => String
  | .windowHandles => List String
  | .find _ => ElementRef
  | .findAll _ => List ElementRef
  | .activeElement => ElementRef
  | .execute .. => Json
  | _ => Unit

def name : Call → String
  | .openSession .. => "open"
  | .closeSession => "close"
  | .navigate _ => "navigate"
  | .back => "back"
  | .forward => "forward"
  | .refresh => "refresh"
  | .currentUrl => "current_url"
  | .windowHandles => "window_handles"
  | .find _ => "find"
  | .findAll _ => "find_all"
  | .activeElement => "active_element"
  | .click _ => "click"
  | .sendKeys .. => "send_keys"
  | .execute .. => "execute"
  | .setTimeouts .. => "set_timeouts"

def arguments : Call → List String
  | .openSession browser options => browser :: options
  | .navigate url => [url]
  | .find l => [l.strategy.text, l.value]
  | .findAll l => [l.strategy.text, l.value]
  | .click e => [e.id]
  | .sendKeys e text => [e.id, text]
  | .execute script _ => [script]
  | .setTimeouts pageLoad implicit =>
    [Duration.shownOption pageLoad, Duration.shownOption implicit]
  | _ => []

end Call

structure Response (β α : Type) where
  reply : Except BrowserError α
  /-- The state of the backend afterwards. -/
  next : β
  /-- How long the call takes. -/
  latency : Duration := 0
  /-- Whether the interrupt is raised while the call is made. -/
  raises : Bool := false
  /-- What the backend logs, without spans of its own. -/
  notes : List Log.Entry := []

structure Backend (β : Type) where
  answer : (call : Call) → β → Response β call.Answer

end BrowserScript
