import BrowserScript.Duration

/-!
# Time and interrupts

The clock of a run and the interrupt flag.  Time passes only while something waits.  Interrupts to
come are listed with their times and are raised when a wait passes them.  A plain wait goes on to
its end; a pause ends at the interrupt and clears it.
-/

namespace BrowserScript

/-- How long waits take: a wait of `d` that starts at `t` ends at `ends t d`, never early. -/
structure Clock where
  ends : Nat → Duration → Nat
  le_ends : ∀ t d, t + d ≤ ends t d

/-- A clock without ticks: a wait takes exactly as long as it says, whenever it starts. -/
def Clock.exact : Clock where
  ends t d := t + d
  le_ends _ _ := Nat.le_refl _

def Clock.millisecond : Clock where
  ends t d := (t + d + 999999) / 1000000 * 1000000
  le_ends t d := by omega

/-- A clock that ticks in whole milliseconds and on which even the shortest wait takes time. -/
def Clock.ticking : Clock where
  ends t d := (t + max d 1 + 999999) / 1000000 * 1000000
  le_ends t d := by omega

/-- A moment of a run: the time, the interrupt flag and the interrupts to come. -/
structure Timeline where
  now : Nat
  raised : Bool
  upcoming : List Nat
  deriving DecidableEq, Repr

namespace Timeline

def start : Timeline := ⟨0, false, []⟩

def raise (t : Timeline) : Timeline := { t with raised := true }

def lower (t : Timeline) : Timeline := { t with raised := false }

def schedule (t : Timeline) (time : Nat) : Timeline := { t with upcoming := time :: t.upcoming }

/-- Lets time pass up to a moment; the interrupts on the way are raised. -/
def passTo (t : Timeline) (time : Nat) : Timeline :=
  if time ≤ t.now then t
  else
    { now := time
      raised := t.raised || t.upcoming.any (· ≤ time)
      upcoming := t.upcoming.filter (time < ·) }

def wait (clock : Clock) (d : Duration) (t : Timeline) : Timeline := t.passTo (clock.ends t.now d)

def nextBefore? (t : Timeline) (time : Nat) : Option Nat := (t.upcoming.filter (· < time)).min?

/-- Waits until the interrupt is raised or the time is over; an interrupt that ends the wait is
cleared.  Whether the wait went to its end comes first. -/
def pause (clock : Clock) (d : Duration) (t : Timeline) : Bool × Timeline :=
  let finish := clock.ends t.now d
  if t.raised then (false, t.lower)
  else match t.nextBefore? finish with
    | some time =>
      (false,
        { now := max t.now time
          raised := false
          upcoming := t.upcoming.filter (time < ·) })
    | none => (true, t.passTo finish)

def untilRaised (t : Timeline) : Timeline :=
  if t.raised then t
  else match t.upcoming.min? with
    | some time =>
      { now := max t.now time, raised := true, upcoming := t.upcoming.filter (time < ·) }
    | none => t

end Timeline

end BrowserScript
