import BrowserScript.Error
import BrowserScript.Log
import BrowserScript.Value.Reading

/-!
# Pacing

How long a run pauses after each action: not at all, for a fixed time, or for a time drawn from a
range.
-/

namespace BrowserScript

inductive DelayPolicy where
  | off
  | fixed (d : Duration)
  /-- Drawn from `min` up to, but not including, `max`. -/
  | range (min max : Duration)
  deriving DecidableEq, Repr

namespace DelayPolicy

def between (min max : Duration) : DelayPolicy :=
  if min = max then if min = 0 then .off else .fixed min else .range min max

def rangeError (text : String) : Reading.RangeError → ScriptError
  | .notDuration part => .value part (.type .duration)
  | .reversed => .value text .durationRange

def readRange (text : String) : Except ScriptError (Duration × Duration) :=
  match Reading.durationRange text with
  | .ok ends => .ok ends
  | .error e => .error (rangeError text e)

/-- The policy that a text spells: a word for none, a duration, or a range. -/
def ofText (text : String) : Except ScriptError DelayPolicy :=
  let trimmed := Text.trim text
  if ["off", "none", "no", "false", "0"].contains (Text.lowerAscii trimmed) then .ok .off
  else match readRange trimmed with
    | .ok (min, max) => .ok (between min max)
    | .error e => .error e

def isRandom : DelayPolicy → Bool
  | .range min max => min < max
  | _ => false

def sample (draw : Nat) : DelayPolicy → Duration
  | .off => 0
  | .fixed d => d
  | .range min max => if min < max then min + draw % (max - min) else min

def text : DelayPolicy → String
  | .off => "off"
  | .fixed d => d.shown
  | .range min max => s!"{min.shown}-{max.shown}"

def changeNote (policy : DelayPolicy) : Log.Entry :=
  ⟨.debug, .pacing, [], "delay policy changed", [("policy", .shown policy.text)]⟩

def interruptedNote : Log.Entry := ⟨.warn, .pacing, [], "wait interrupted", []⟩

def signalNote : Log.Entry := ⟨.warn, .pacing, [], "interrupted", []⟩

end DelayPolicy

end BrowserScript
