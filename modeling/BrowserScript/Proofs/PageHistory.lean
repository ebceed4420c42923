import BrowserScript.Recorder
import Mathlib.Data.List.Basic

/-!
# The history of the recording browser

The recording browser keeps its pages in one list and remembers which of them is shown.  What it
answers is what a browser with two stacks answers, one for the pages behind the current one and one
for those ahead of it.  The two are in step after any calls, and so the remembered place is always a
place of the list, unless nothing has been visited.
-/

namespace BrowserScript

/-- The pages of a browser with two buttons: those that one goes back to, the page shown, and those
that one goes forward to, the nearest ones first. -/
structure Pages where
  behind : List String := []
  current : Option String := none
  ahead : List String := []
  deriving DecidableEq, Repr

namespace Pages

def url (p : Pages) : String := p.current.getD "about:blank"

/-- Shows a new page: the current one goes on the stack behind it, and nothing is ahead. -/
def visit (p : Pages) (url : String) : Pages := ⟨p.current.toList ++ p.behind, some url, []⟩

def back (p : Pages) : Pages :=
  match p.behind with
  | [] => p
  | page :: rest => ⟨rest, some page, p.current.toList ++ p.ahead⟩

def forward (p : Pages) : Pages :=
  match p.ahead with
  | [] => p
  | page :: rest => ⟨p.current.toList ++ p.behind, some page, rest⟩

/-- What a call does to the pages.  A new session starts without any; closing a session, loading the
page again and every question leave them alone. -/
def follow (p : Pages) : Call → Pages
  | .openSession .. => {}
  | .navigate url => p.visit url
  | .back => p.back
  | .forward => p.forward
  | _ => p

def after (p : Pages) (calls : List Call) : Pages := calls.foldl follow p

end Pages

namespace Recorder

def after (r : Recorder) (calls : List Call) : Recorder :=
  calls.foldl (fun r call => (answer call r).next) r

/-- The history and the place in it are two stacks laid end to end. -/
structure Shows (r : Recorder) (p : Pages) : Prop where
  history : r.history = p.behind.reverse ++ (p.current.toList ++ p.ahead)
  position : r.position = p.behind.length
  blank : p.current = none → p.behind = [] ∧ p.ahead = []

namespace Shows

variable {r : Recorder} {p : Pages}

/-- The place shown is a place of the history, unless that is empty. -/
theorem inRange (h : r.Shows p) :
    (r.history = [] ∧ r.position = 0) ∨ r.position < r.history.length := by
  cases hcurrent : p.current with
  | none =>
    obtain ⟨hbehind, hahead⟩ := h.blank hcurrent
    left
    rw [h.history, h.position, hbehind, hahead, hcurrent]
    exact ⟨rfl, rfl⟩
  | some page =>
    right
    rw [h.history, h.position, hcurrent]
    simp

theorem currentUrl (h : r.Shows p) : r.currentUrl = p.url := by
  rw [Recorder.currentUrl, h.history, h.position, Pages.url]
  cases hcurrent : p.current with
  | none =>
    obtain ⟨hbehind, hahead⟩ := h.blank hcurrent
    rw [hbehind, hahead]
    rfl
  | some page => simp

/-- Cutting the history after the page shown leaves that page and those behind it. -/
theorem navigate (h : r.Shows p) (url : String) : (r.navigate url).Shows (p.visit url) := by
  have hkept : (if r.history.isEmpty then [] else r.history.take (r.position + 1)) =
      (p.current.toList ++ p.behind).reverse := by
    rw [h.history, h.position]
    cases hcurrent : p.current with
    | none =>
      obtain ⟨hbehind, hahead⟩ := h.blank hcurrent
      rw [hbehind, hahead]
      rfl
    | some page =>
      have hwhole : p.behind.reverse.take (p.behind.length + 1) = p.behind.reverse :=
        List.take_of_length_le (by simp)
      simp [List.take_append, hwhole]
  refine ⟨?_, ?_, fun hnone => nomatch hnone⟩
  · rw [Recorder.navigate, hkept]
    rfl
  · rw [Recorder.navigate, hkept, List.length_reverse]
    rfl

theorem back (h : r.Shows p) : r.back.Shows p.back := by
  obtain ⟨behind, current, ahead⟩ := p
  cases behind with
  | nil => exact ⟨h.history, congrArg (· - 1) h.position, h.blank⟩
  | cons page rest =>
    refine ⟨?_, congrArg (· - 1) h.position, fun hnone => nomatch hnone⟩
    rw [Recorder.back, h.history]
    simp [Pages.back]

theorem forward (h : r.Shows p) : r.forward.Shows p.forward := by
  obtain ⟨behind, current, ahead⟩ := p
  have hlength : r.history.length = behind.length + current.toList.length + ahead.length := by
    rw [h.history]
    simp [Nat.add_assoc]
  have hposition : r.position = behind.length := h.position
  cases ahead with
  | nil =>
    have hend : ¬ r.position + 1 < r.history.length := by
      rw [hlength, hposition]
      cases current <;> simp
    rw [Recorder.forward, if_neg hend]
    exact h
  | cons page rest =>
    obtain ⟨shown, rfl⟩ : ∃ shown, current = some shown := by
      cases current with
      | none => nomatch (h.blank rfl).2
      | some shown => exact ⟨shown, rfl⟩
    have hmore : r.position + 1 < r.history.length := by
      rw [hlength, hposition]
      simp
    rw [Recorder.forward, if_pos hmore]
    refine ⟨?_, ?_, fun hnone => nomatch hnone⟩
    · rw [h.history]
      simp [Pages.forward]
    · simp [Pages.forward, hposition]

/-- Every call keeps the two browsers in step. -/
theorem answer (h : r.Shows p) (call : Call) : (answer call r).next.Shows (p.follow call) := by
  cases call with
  | openSession browser options => exact ⟨rfl, rfl, fun _ => ⟨rfl, rfl⟩⟩
  | navigate url =>
    exact Shows.navigate (r := r.record _) ⟨h.history, h.position, h.blank⟩ url
  | back => exact Shows.back (r := r.record _) ⟨h.history, h.position, h.blank⟩
  | forward => exact Shows.forward (r := r.record _) ⟨h.history, h.position, h.blank⟩
  | _ => exact ⟨h.history, h.position, h.blank⟩

theorem after (h : r.Shows p) (calls : List Call) : (r.after calls).Shows (p.after calls) := by
  induction calls generalizing r p with
  | nil => exact h
  | cons call rest ih => exact ih (h.answer call)

end Shows

/-- The history of the recording browser works like two stacks.  After any calls to a new one,
whatever elements it can find and whatever its scripts return, the place it remembers is a place of
its history, or there is no history at all; and asked for the address it gives that of the page
which the two stacks show. -/
theorem history_refines_stacks (elements : Option (List String)) (results : List (String × Json))
    (calls : List Call) :
    let r := Recorder.after { elements, results } calls
    ((r.history = [] ∧ r.position = 0) ∨ r.position < r.history.length) ∧
      (answer .currentUrl r).reply = .ok (Pages.after {} calls).url := by
  have hstart : Shows { elements, results } {} := ⟨rfl, rfl, fun _ => ⟨rfl, rfl⟩⟩
  have hshows := hstart.after calls
  exact ⟨hshows.inRange, congrArg Except.ok hshows.currentUrl⟩

end Recorder

end BrowserScript
