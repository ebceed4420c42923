import BrowserScript.Browser

/-!
# The recording browser

A browser in memory.  It writes down the calls it gets, keeps a history of pages, and finds every
element, or only the elements it was told of.
-/

namespace BrowserScript

structure Recorder where
  calls : List String := []
  isOpen : Bool := false
  closeCount : Nat := 0
  /-- The pages visited, oldest first. -/
  history : List String := []
  /-- Which page of the history is shown. -/
  position : Nat := 0
  /-- The only locator values that can be found; none if all can. -/
  elements : Option (List String) := none
  /-- What scripts return; null for all others. -/
  results : List (String × Json) := []
  focused : Option ElementRef := none

namespace Recorder

def record (r : Recorder) (call : String) : Recorder := { r with calls := call :: r.calls }

def callsInOrder (r : Recorder) : List String := r.calls.reverse

def exists? (r : Recorder) (l : Locator) : Bool :=
  match r.elements with
  | none => true
  | some values => values.contains l.value

def currentUrl (r : Recorder) : String := (r.history[r.position]?).getD "about:blank"

/-- Shows a new page: the pages after the current one are forgotten. -/
def navigate (r : Recorder) (url : String) : Recorder :=
  let kept := if r.history.isEmpty then [] else r.history.take (r.position + 1)
  { r with history := kept ++ [url], position := kept.length }

def back (r : Recorder) : Recorder := { r with position := r.position - 1 }

def forward (r : Recorder) : Recorder :=
  if r.position + 1 < r.history.length then { r with position := r.position + 1 } else r

def result (r : Recorder) (script : String) : Json :=
  ((r.results.find? (·.1 == script)).map (·.2)).getD .null

/-- Answers a call and writes it down; questions about the page, the windows and the focus are not
written down. -/
def answer : (call : Call) → Recorder → Response Recorder call.Answer
  | .openSession browser options, r =>
    let r := r.record (" ".intercalate ("open" :: browser :: options))
    ⟨.ok (), { r with isOpen := true, history := [], position := 0 }, 0, false, []⟩
  | .closeSession, r =>
    let r := r.record "close"
    ⟨.ok (), { r with isOpen := false, closeCount := r.closeCount + 1 }, 0, false, []⟩
  | .navigate url, r => ⟨.ok (), (r.record s!"navigate {url}").navigate url, 0, false, []⟩
  | .back, r => ⟨.ok (), (r.record "back").back, 0, false, []⟩
  | .forward, r => ⟨.ok (), (r.record "forward").forward, 0, false, []⟩
  | .refresh, r => ⟨.ok (), r.record "refresh", 0, false, []⟩
  | .currentUrl, r => ⟨.ok r.currentUrl, r, 0, false, []⟩
  | .windowHandles, r => ⟨.ok ["window-1"], r, 0, false, []⟩
  | .find l, r =>
    let reply := if r.exists? l then .ok ⟨l.value⟩ else .error (.noSuchElement l.text)
    ⟨reply, r.record s!"find {l.text}", 0, false, []⟩
  | .findAll l, r =>
    ⟨.ok (if r.exists? l then [⟨l.value⟩] else []), r.record s!"find_all {l.text}", 0, false, []⟩
  | .activeElement, r => ⟨.ok (r.focused.getD ⟨"body"⟩), r, 0, false, []⟩
  | .click e, r => ⟨.ok (), { r.record s!"click {e.id}" with focused := some e }, 0, false, []⟩
  | .sendKeys e text, r => ⟨.ok (), r.record s!"send_keys {e.id} {text}", 0, false, []⟩
  | .execute script _, r => ⟨.ok (r.result script), r.record s!"execute {script}", 0, false, []⟩
  | .setTimeouts pageLoad implicit, r =>
    let page := Duration.shownOption pageLoad
    let wait := Duration.shownOption implicit
    ⟨.ok (), r.record s!"timeouts page_load={page} implicit={wait}", 0, false, []⟩

def backend : Backend Recorder := ⟨answer⟩

end Recorder

end BrowserScript
