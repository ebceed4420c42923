import BrowserScript.Timeline

/-!
# Clocks that drift apart

Two runs of which only one is interrupted read different clocks, but the difference is a whole
number of periods.  Waits and calls keep the difference; a pause that an interrupt cuts short
changes it.  Nothing else of the time differs, unless an interrupt is raised that stays up.
-/

namespace BrowserScript

/-- A clock on which every wait ends at a multiple of `p`, and which runs the same from one such
multiple as from the next.  With `p = 1` it says of waits what a backend without a clock says of
calls: how long one takes is no matter of when it starts. -/
structure Clock.Periodic (clock : Clock) (p : Nat) : Prop where
  dvd_ends : ∀ t d, p ∣ clock.ends t d
  ends_add : ∀ t d, clock.ends (t + p) d = clock.ends t d + p

theorem Clock.exact_periodic : Clock.exact.Periodic 1 where
  dvd_ends _ _ := Nat.one_dvd _
  ends_add t d := Nat.add_right_comm t 1 d

theorem Clock.millisecond_periodic : Clock.millisecond.Periodic 1000000 where
  dvd_ends _ _ := Nat.dvd_mul_left _ _
  ends_add t d := by
    simp only [Clock.millisecond]
    omega

theorem Clock.Periodic.ends_add_of_dvd {clock : Clock} {p s : Nat} (h : clock.Periodic p)
    (hs : p ∣ s) (t : Nat) (d : Duration) : clock.ends (t + s) d = clock.ends t d + s := by
  obtain ⟨k, rfl⟩ := hs
  induction k with
  | zero => rfl
  | succ k ih =>
    have hsum : t + p * (k + 1) = t + p * k + p := by rw [Nat.mul_succ, Nat.add_assoc]
    rw [hsum, h.ends_add, ih, Nat.mul_succ, Nat.add_assoc]

namespace Timeline

/-- No interrupt is raised in either of two timelines.  The second is `s` ahead, and no interrupt is
to come in it; in the first they may come at multiples of `p`. -/
structure Ahead (p s : Nat) (t u : Timeline) : Prop where
  now : u.now = t.now + s
  dvd : p ∣ s
  lowered : t.raised = false
  coming : ∀ time ∈ t.upcoming, t.now ≤ time ∧ p ∣ time
  calm_lowered : u.raised = false
  calm : u.upcoming = []

namespace Ahead

variable {p s : Nat} {t u : Timeline} {clock : Clock}

theorem passTo (h : Ahead p s t u) (time : Nat) :
    (t.passTo time).raised = true ∨ Ahead p s (t.passTo time) (u.passTo (time + s)) := by
  have hnow := h.now
  by_cases htime : time ≤ t.now
  · have hshifted : time + s ≤ u.now := by omega
    rw [Timeline.passTo, if_pos htime, Timeline.passTo, if_pos hshifted]
    exact .inr h
  · have hshifted : ¬time + s ≤ u.now := by omega
    rw [Timeline.passTo, if_neg htime, Timeline.passTo, if_neg hshifted]
    cases hany : t.upcoming.any (· ≤ time) with
    | true => exact .inl (Bool.or_true _)
    | false =>
      refine .inr ⟨rfl, h.dvd, ?_, ?_, ?_, ?_⟩
      · simp [h.lowered]
      · intro x hx
        obtain ⟨hmem, hlater⟩ := List.mem_filter.mp hx
        exact ⟨Nat.le_of_lt (of_decide_eq_true hlater), (h.coming x hmem).2⟩
      · simp [h.calm_lowered, h.calm]
      · simp [h.calm]

theorem wait (h : Ahead p s t u) (hclock : clock.Periodic p) (d : Duration) :
    (t.wait clock d).raised = true ∨ Ahead p s (t.wait clock d) (u.wait clock d) := by
  rw [Timeline.wait, Timeline.wait, h.now, hclock.ends_add_of_dvd h.dvd]
  exact h.passTo _

/-- A pause without interrupts to come goes to its end. -/
theorem calm_pause (h : Ahead p s t u) (d : Duration) :
    u.pause clock d = (true, u.passTo (clock.ends u.now d)) := by
  simp [Timeline.pause, h.calm_lowered, Timeline.nextBefore?, h.calm]

theorem calm_pause_now (h : Ahead p s t u) (d : Duration) :
    (u.passTo (clock.ends u.now d)) = ⟨clock.ends u.now d, false, []⟩ := by
  have hends := clock.le_ends u.now d
  unfold Timeline.passTo
  split
  case isTrue hle =>
    have hnow : clock.ends u.now d = u.now := by omega
    rw [hnow, ← h.calm_lowered, ← h.calm]
  case isFalse => simp [h.calm_lowered, h.calm]

/-- An interrupt that ends a pause leaves the other timeline ahead by a different number of
periods. -/
theorem pause (h : Ahead p s t u) (hclock : clock.Periodic p) (d : Duration) :
    (t.pause clock d).2.raised = true ∨
      ∃ s', Ahead p s' (t.pause clock d).2 (u.pause clock d).2 := by
  have hshift : clock.ends u.now d = clock.ends t.now d + s := by
    rw [h.now, hclock.ends_add_of_dvd h.dvd]
  rw [h.calm_pause]
  cases hnext : t.nextBefore? (clock.ends t.now d) with
  | none =>
    have hpause : t.pause clock d = (true, t.passTo (clock.ends t.now d)) := by
      simp [Timeline.pause, h.lowered, hnext]
    rw [hpause, hshift]
    exact (h.passTo _).imp_right fun h' => ⟨s, h'⟩
  | some time =>
    have hpause : t.pause clock d =
        (false, ⟨max t.now time, false, t.upcoming.filter (time < ·)⟩) := by
      simp [Timeline.pause, h.lowered, hnext]
    obtain ⟨hmem, hearly⟩ := List.mem_filter.mp (List.min?_mem hnext)
    obtain ⟨hlater, hdvd⟩ := h.coming time hmem
    have hbefore : time < clock.ends t.now d := of_decide_eq_true hearly
    rw [hpause, h.calm_pause_now, Nat.max_eq_right hlater]
    refine .inr ⟨clock.ends u.now d - time, ?_, ?_, rfl, ?_, rfl, rfl⟩
    · dsimp only
      omega
    · exact Nat.dvd_sub (hclock.dvd_ends _ _) hdvd
    · intro x hx
      obtain ⟨hmem, hlater⟩ := List.mem_filter.mp hx
      exact ⟨Nat.le_of_lt (of_decide_eq_true hlater), (h.coming x hmem).2⟩

end Ahead

end Timeline

end BrowserScript
