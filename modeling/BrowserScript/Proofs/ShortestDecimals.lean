import BrowserScript.Numeric.Shortest
import BrowserScript.Proofs.Rounding
import Mathlib.Algebra.Order.Floor.Semifield

/-!
# The shortest decimal of a rounded one

A decimal of at most fifteen digits that rounds to a number with all of its 53 bits is what the
number is written as.  The reals that round to the number lie closer together than two neighbours
among the decimals of fifteen digits, so the search finds no other decimal, and it finds this one
after fifteen digits at the latest.
-/

namespace BrowserScript.Decimal

open Binary64

variable {a b num den m c : ℕ} {e j k : ℤ}

/-! ### Comparisons in rationals -/

theorem scaledLe_iff (hden : 0 < den) :
    scaledLe a k num den = true ↔ (a : ℚ) * 10 ^ k ≤ num / den := by
  have hden' : (0 : ℚ) < den := by exact_mod_cast hden
  rw [le_div_iff₀ hden']
  unfold scaledLe
  split
  case isTrue hk =>
    lift k to ℕ using hk
    rw [decide_eq_true_iff, ← Nat.cast_le (α := ℚ)]
    simp
  case isFalse hk =>
    obtain ⟨i, rfl⟩ : ∃ i : ℕ, k = -i := ⟨(-k).toNat, by omega⟩
    rw [decide_eq_true_iff, ← Nat.cast_le (α := ℚ), zpow_neg, ← div_eq_mul_inv, div_mul_eq_mul_div,
      div_le_iff₀ (by positivity)]
    simp

theorem leScaled_iff (hden : 0 < den) :
    leScaled num den a k = true ↔ (num / den : ℚ) ≤ a * 10 ^ k := by
  have hden' : (0 : ℚ) < den := by exact_mod_cast hden
  rw [div_le_iff₀ hden']
  unfold leScaled
  split
  case isTrue hk =>
    lift k to ℕ using hk
    rw [decide_eq_true_iff, ← Nat.cast_le (α := ℚ)]
    simp
  case isFalse hk =>
    obtain ⟨i, rfl⟩ : ∃ i : ℕ, k = -i := ⟨(-k).toNat, by omega⟩
    rw [decide_eq_true_iff, ← Nat.cast_le (α := ℚ), zpow_neg, ← div_eq_mul_inv, div_mul_eq_mul_div,
      le_div_iff₀ (by positivity)]
    simp

theorem lt_pow_length (n : ℕ) : n < 10 ^ length n :=
  (Nat.length_toDigits_le_iff (by decide) Nat.length_toDigits_pos).mp le_rfl

theorem pow_length_le (hn : 0 < num) : 10 ^ (length num - 1) ≤ num := by
  rcases Nat.eq_zero_or_pos (length num - 1) with hone | hmore
  · rw [hone, pow_zero]
    exact hn
  · have hnot : ¬length num ≤ length num - 1 := by omega
    exact not_lt.mp (mt (Nat.length_toDigits_le_iff (by decide) hmore).mpr hnot)

theorem floorLog10_eq (hnum : 0 < num) (hden : 0 < den) :
    floorLog10 num den = Int.log 10 (num / den : ℚ) := by
  have hlow {n : ℕ} (hn : 0 < n) : ((10 : ℕ) : ℚ) ^ (length n - 1 : ℤ) ≤ n := by
    have hpos : 0 < length n := Nat.length_toDigits_pos
    rw [show (length n - 1 : ℤ) = ((length n - 1 : ℕ) : ℤ) by omega, zpow_natCast]
    exact_mod_cast pow_length_le hn
  have hhigh {n : ℕ} : (n : ℚ) < ((10 : ℕ) : ℚ) ^ (length n - 1 + 1 : ℤ) := by
    rw [sub_add_cancel, zpow_natCast]
    exact_mod_cast lt_pow_length n
  rw [log_div_eq (by decide) (hlow hnum) hhigh (hlow hden) hhigh]
  have hpower : (length num - 1 - (length den - 1) : ℤ) = length num - length den := by omega
  rw [hpower]
  refine if_congr ?_ rfl rfl
  rw [scaledLe_iff hden, Nat.cast_one, one_mul]
  rfl

theorem grid_eq (num den : ℕ) (k : ℤ) : grid num den k = ⌊(num / den / 10 ^ k : ℚ)⌋₊ := by
  unfold grid
  split
  case isTrue hk =>
    lift k to ℕ using hk
    rw [← Nat.floor_div_eq_div (K := ℚ), div_div]
    simp
  case isFalse hk =>
    obtain ⟨i, rfl⟩ : ∃ i : ℕ, k = -i := ⟨(-k).toNat, by omega⟩
    rw [← Nat.floor_div_eq_div (K := ℚ), zpow_neg, div_inv_eq_mul, div_mul_eq_mul_div]
    simp

/-! ### The interval of a number -/

theorem unit_eq (e : ℤ) : ((ratio 1 (e - 2)).1 : ℚ) / (ratio 1 (e - 2)).2 = 2 ^ e / 4 := by
  rw [ratio_eq, zpow_sub₀ two_ne_zero]
  norm_num

namespace Interval

theorem ofParts_den_pos (m : ℕ) (e : ℤ) : 0 < (ofParts m e).den := ratio_den_pos 1 (e - 2)

theorem ofParts_value (m : ℕ) (e : ℤ) :
    ((ofParts m e).value : ℚ) / (ofParts m e).den = m * 2 ^ e := by
  simp only [ofParts]
  push_cast
  rw [mul_div_assoc, unit_eq]
  ring

theorem ofParts_high (m : ℕ) (e : ℤ) :
    ((ofParts m e).high : ℚ) / (ofParts m e).den = (m + 1 / 2) * 2 ^ e := by
  simp only [ofParts]
  push_cast
  rw [mul_div_assoc, unit_eq]
  ring

theorem ofParts_low (hm : 0 < m) (e : ℤ) :
    ((ofParts m e).low : ℚ) / (ofParts m e).den = (m - reachBelow m e) * 2 ^ e := by
  simp only [ofParts, Nat.pow_eq]
  rw [Nat.cast_mul, mul_div_assoc, unit_eq, reachBelow]
  split
  · rw [Nat.cast_sub (by omega)]
    push_cast
    ring
  · rw [Nat.cast_sub (by omega)]
    push_cast
    ring

theorem holds_ofParts (hm : 0 < m) :
    (ofParts m e).holds a k = true ↔ RoundsTo (a * 10 ^ k) m e := by
  have hden := ofParts_den_pos m e
  unfold holds
  by_cases heven : m % 2 = 0
  · have hclosed : (ofParts m e).closed = true := by simpa [ofParts] using heven
    rw [if_pos hclosed, Bool.and_eq_true, leScaled_iff hden, scaledLe_iff hden, ofParts_low hm,
      ofParts_high]
    exact ⟨fun ⟨hlow, hhigh⟩ => ⟨hlow, hhigh, fun hodd => by omega⟩,
      fun h => ⟨h.low_le, h.le_high⟩⟩
  · have hopen : ¬(ofParts m e).closed = true := by simpa [ofParts] using heven
    rw [if_neg hopen, Bool.and_eq_true, Bool.not_eq_true', Bool.not_eq_true', ← Bool.not_eq_true,
      ← Bool.not_eq_true, leScaled_iff hden, scaledLe_iff hden, ofParts_low hm, ofParts_high,
      not_le, not_le]
    exact ⟨fun h => ⟨h.1.le, h.2.le, fun _ => h⟩, fun h => h.odd (by omega)⟩

end Interval

/-! ### The search -/

theorem floorLog10_ofParts (hm : 0 < m) (e : ℤ) :
    floorLog10 (Interval.ofParts m e).value (Interval.ofParts m e).den =
      Int.log 10 (m * 2 ^ e : ℚ) := by
  have hden := Interval.ofParts_den_pos m e
  have hvalue := Interval.ofParts_value m e
  have hpos : 0 < (Interval.ofParts m e).value := by
    refine Nat.pos_of_ne_zero fun hzero => ?_
    rw [hzero, Nat.cast_zero, zero_div, eq_comm, mul_eq_zero, Nat.cast_eq_zero] at hvalue
    exact hvalue.elim hm.ne' (by positivity)
  rw [floorLog10_eq hpos hden, hvalue]

/-- The decimal that is found for a count of digits rounds to the number. -/
theorem roundsTo_of_nearest? {count : ℕ} {d : Decimal} (hm : 0 < m)
    (h : (Interval.ofParts m e).nearest? count = some d) :
    d.exponent = Int.log 10 (m * 2 ^ e : ℚ) - count + 1 ∧
      RoundsTo (d.digits * 10 ^ d.exponent) m e := by
  simp only [Interval.nearest?, floorLog10_ofParts hm] at h
  split at h
  · rename_i hlow hhigh
    cases h
    refine ⟨rfl, ?_⟩
    dsimp only
    split
    · exact (Interval.holds_ofParts hm).mp hhigh
    · exact (Interval.holds_ofParts hm).mp hlow
  · rename_i hlow _
    cases h
    exact ⟨rfl, (Interval.holds_ofParts hm).mp hlow⟩
  · rename_i _ hhigh
    cases h
    exact ⟨rfl, (Interval.holds_ofParts hm).mp hhigh⟩
  · cases h

/-- If any decimal of some count of digits rounds to the number, one is found. -/
theorem isSome_nearest? {count : ℕ} (hm : 0 < m)
    (h : RoundsTo (a * 10 ^ (Int.log 10 (m * 2 ^ e : ℚ) - count + 1)) m e) :
    ((Interval.ofParts m e).nearest? count).isSome = true := by
  simp only [Interval.nearest?, floorLog10_ofParts hm, grid_eq, Interval.ofParts_value]
  generalize Int.log 10 (m * 2 ^ e : ℚ) - count + 1 = k at *
  have hunit : (0 : ℚ) < 10 ^ k := by positivity
  have hself := roundsTo_self m e
  -- The neighbours of the number are no further from it than the decimal on their side.
  have hnear : (Interval.ofParts m e).holds ⌊(m * 2 ^ e / 10 ^ k : ℚ)⌋₊ k = true ∨
      (Interval.ofParts m e).holds (⌊(m * 2 ^ e / 10 ^ k : ℚ)⌋₊ + 1) k = true := by
    rw [Interval.holds_ofParts hm, Interval.holds_ofParts hm]
    have hfloor : (⌊(m * 2 ^ e / 10 ^ k : ℚ)⌋₊ : ℚ) * 10 ^ k ≤ m * 2 ^ e := by
      rw [← le_div_iff₀ hunit]
      exact Nat.floor_le (by positivity)
    have hceil : (m * 2 ^ e : ℚ) ≤ (⌊(m * 2 ^ e / 10 ^ k : ℚ)⌋₊ + 1 : ℕ) * 10 ^ k := by
      rw [← div_le_iff₀ hunit]
      exact_mod_cast (Nat.lt_floor_add_one _).le
    generalize ⌊(m * 2 ^ e / 10 ^ k : ℚ)⌋₊ = g at *
    rcases Nat.lt_or_ge g a with hlt | hge
    · exact .inr (hself.between h hceil (by gcongr; exact hlt))
    · exact .inl (h.between hself (by gcongr) hfloor)
  split
  · rfl
  · rfl
  · rfl
  · rename_i hlow hhigh
    rw [hlow, hhigh] at hnear
    simp at hnear

/-! ### Fifteen digits -/

theorem ten_zpow_eq (l : ℤ) : ((10 : ℕ) : ℚ) ^ l = 10 ^ 15 * 10 ^ (l - 15) := by
  rw [← zpow_natCast, ← zpow_add₀ (by norm_num)]
  push_cast
  ring_nf

section Fifteen

variable (hnormal : 2 ^ 52 ≤ m)
include hnormal

theorem two_pow_mul_le (e : ℤ) : (2 : ℚ) ^ 52 * 2 ^ e ≤ m * 2 ^ e := by
  gcongr
  exact_mod_cast hnormal

/-- The reals that round to a number are closer together than decimals of fifteen digits. -/
theorem two_zpow_lt : (2 : ℚ) ^ e < 10 ^ (Int.log 10 (m * 2 ^ e : ℚ) - 14) := by
  have hunit : (0 : ℚ) < 2 ^ e := by positivity
  have hlog := Int.lt_zpow_succ_log_self (b := 10) (by decide) (m * 2 ^ e : ℚ)
  have hm := two_pow_mul_le hnormal e
  generalize Int.log 10 (m * 2 ^ e : ℚ) = l at *
  have hplace : l + 1 - 15 = l - 14 := by omega
  rw [ten_zpow_eq, hplace] at hlog
  by_contra hle
  have hten : (10 : ℚ) ^ 15 * 10 ^ (l - 14) ≤ 10 ^ 15 * 2 ^ e := by
    gcongr
    exact not_lt.mp hle
  have hfew : (2 : ℚ) ^ 52 * 2 ^ e < 10 ^ 15 * 2 ^ e := (hm.trans_lt hlog).trans_le hten
  have hbits := lt_of_mul_lt_mul_right hfew hunit.le
  norm_num at hbits

/-- A decimal of fifteen digits that rounds to a number has no digit behind the fifteenth of the
number. -/
theorem log_le_of_roundsTo (hc : c < 10 ^ 15) (h : RoundsTo (c * 10 ^ j) m e) :
    Int.log 10 (m * 2 ^ e : ℚ) - 14 ≤ j := by
  by_contra hlt
  have hm := two_pow_mul_le hnormal e
  have hpos : (0 : ℚ) < m * 2 ^ e := lt_of_lt_of_le (by positivity) hm
  have hlog := Int.zpow_log_le_self (b := 10) (by decide) hpos
  generalize Int.log 10 (m * 2 ^ e : ℚ) = l at *
  -- The decimal would be below a power of ten which the number is not below, by more than the
  -- reals that round to the number reach down.
  have hbelow : (c : ℚ) * 10 ^ j ≤ (10 ^ 15 - 1) * 10 ^ (l - 15) := by
    have hc' : (c : ℚ) ≤ 10 ^ 15 - 1 := by
      have : ((c + 1 : ℕ) : ℚ) ≤ (10 ^ 15 : ℕ) := Nat.cast_le.mpr hc
      push_cast at this
      linarith
    have hj : (10 : ℚ) ^ j ≤ 10 ^ (l - 15) := zpow_le_zpow_right₀ (by norm_num) (by omega)
    gcongr
  have habove : (m : ℚ) * 2 ^ e - 1 / 2 * 2 ^ e ≤ c * 10 ^ j := by
    have hreach := reachBelow_le m e
    calc (m : ℚ) * 2 ^ e - 1 / 2 * 2 ^ e = (m - 1 / 2) * 2 ^ e := by ring
      _ ≤ (m - reachBelow m e) * 2 ^ e := by gcongr
      _ ≤ c * 10 ^ j := h.low_le
  rw [ten_zpow_eq] at hlog
  norm_num at hm hbelow hlog
  linarith

/-- A decimal that rounds to a number has no more places before the point than the number has, up
to one. -/
theorem log_lt_of_roundsTo (hc : 0 < c) (h : RoundsTo (c * 10 ^ j) m e) :
    j < Int.log 10 (m * 2 ^ e : ℚ) + 2 := by
  have hunit : (0 : ℚ) < 2 ^ e := by positivity
  have hm := two_pow_mul_le hnormal e
  have hlog := Int.lt_zpow_succ_log_self (b := 10) (by decide) (m * 2 ^ e : ℚ)
  generalize Int.log 10 (m * 2 ^ e : ℚ) = l at *
  have hhigh := h.le_high
  have hc' : (1 : ℚ) * 10 ^ j ≤ c * 10 ^ j := by
    gcongr
    exact_mod_cast hc
  rw [← zpow_lt_zpow_iff_right₀ (show (1 : ℚ) < 10 by norm_num)]
  calc (10 : ℚ) ^ j ≤ (m + 1 / 2) * 2 ^ e := by linarith
    _ ≤ 10 * (m * 2 ^ e) := by
      norm_num at hm
      linarith
    _ < 10 * 10 ^ (l + 1) := by
      gcongr
      exact_mod_cast hlog
    _ = 10 ^ (l + 2) := by
      rw [← zpow_one_add₀ (by norm_num)]
      ring_nf

/-- Among the decimals of fifteen digits, only one rounds to a number. -/
theorem eq_of_roundsTo {l : ℤ} (hl : l = Int.log 10 (m * 2 ^ e : ℚ) - 14)
    (ha : RoundsTo (a * 10 ^ l) m e) (hb : RoundsTo (b * 10 ^ l) m e) : a = b := by
  have hlt := two_zpow_lt (e := e) hnormal
  rw [← hl] at hlt
  have key : ∀ {a b : ℕ}, RoundsTo (a * 10 ^ l) m e → RoundsTo (b * 10 ^ l) m e → ¬a < b := by
    intro a b ha hb hab
    have hstep : ((a + 1 : ℕ) : ℚ) * 10 ^ l ≤ b * 10 ^ l := by
      gcongr
      exact hab
    have hwidth := ha.sub_le hb
    push_cast at hstep
    linarith
  exact le_antisymm (not_lt.mp (key hb ha)) (not_lt.mp (key ha hb))

end Fifteen

/-- Of two decimals of one value, that without zeros at its end has the greater power of ten. -/
theorem exists_of_mul_pow_eq {p q : ℕ} (hc : c % 10 ≠ 0) (h : a * 10 ^ p = c * 10 ^ q) :
    ∃ t, q = p + t ∧ a = c * 10 ^ t := by
  have hpq : p ≤ q := by
    by_contra hlt
    obtain ⟨s, rfl⟩ : ∃ s, p = q + 1 + s := ⟨p - (q + 1), by omega⟩
    have hcancel : c = a * 10 ^ s * 10 := by
      apply Nat.eq_of_mul_eq_mul_right (show 0 < 10 ^ q by positivity)
      rw [← h]
      ring
    exact hc (by rw [hcancel, Nat.mul_mod_left])
  obtain ⟨t, rfl⟩ := Nat.exists_eq_add_of_le hpq
  refine ⟨t, rfl, Nat.eq_of_mul_eq_mul_right (show 0 < 10 ^ p by positivity) ?_⟩
  rw [h]
  ring

theorem strip_mul_pow {n t : ℕ} (hc : c % 10 ≠ 0) (ht : t ≤ n) :
    strip n ⟨c * 10 ^ t, k⟩ = ⟨c, k + t⟩ := by
  induction t generalizing n k with
  | zero =>
    cases n with
    | zero => simp [strip]
    | succ n => simp [strip, hc]
  | succ t ih =>
    obtain ⟨n, rfl⟩ : ∃ n', n = n' + 1 := ⟨n - 1, by omega⟩
    have hpos : 0 < c := Nat.pos_of_ne_zero fun h => hc (by rw [h])
    have hmod : c * 10 ^ (t + 1) % 10 = 0 ∧ c * 10 ^ (t + 1) ≠ 0 := by
      rw [pow_succ, ← mul_assoc]
      exact ⟨Nat.mul_mod_left _ _, by positivity⟩
    have hdiv : c * 10 ^ (t + 1) / 10 = c * 10 ^ t := by
      rw [pow_succ, ← mul_assoc]
      exact Nat.mul_div_cancel _ (by decide)
    rw [strip, if_pos hmod]
    dsimp only
    rw [hdiv, ih (by omega)]
    congr 1
    push_cast
    ring

/-- The first hit of a search through the naturals is no later than any hit. -/
theorem exists_findSome?_range {α : Type} {f : ℕ → Option α} {i n : ℕ} (hi : i < n)
    (hsome : (f i).isSome = true) :
    ∃ i' ≤ i, ∃ y, f i' = some y ∧ (List.range n).findSome? f = some y := by
  have hfound : ((List.range n).findSome? f).isSome = true := by
    rw [List.findSome?_isSome_iff]
    exact ⟨i, List.mem_range.mpr hi, hsome⟩
  obtain ⟨y, hy⟩ := Option.isSome_iff_exists.mp hfound
  obtain ⟨before, i', after, hsplit, hhit, hbefore⟩ := List.findSome?_eq_some_iff.mp hy
  refine ⟨i', ?_, y, hhit, hy⟩
  have hmem : i ∈ before ++ i' :: after := hsplit ▸ List.mem_range.mpr hi
  have hsorted : (before ++ i' :: after).Pairwise (· < ·) := hsplit ▸ List.pairwise_lt_range
  rcases List.mem_append.mp hmem with hskipped | hrest
  · rw [hbefore i hskipped] at hsome
    cases hsome
  · rcases List.mem_cons.mp hrest with rfl | hlater
    · exact le_rfl
    · have hcons := (List.pairwise_append.mp hsorted).2.1
      exact ((List.pairwise_cons.mp hcons).1 i hlater).le

theorem mul_zpow_add_natCast (a t : ℕ) (l : ℤ) :
    (a : ℚ) * 10 ^ (l + t) = (a * 10 ^ t : ℕ) * 10 ^ l := by
  rw [zpow_add₀ (by norm_num), zpow_natCast]
  push_cast
  ring

/-- A decimal of at most fifteen digits that rounds to a number of 53 bits is the shortest one. -/
theorem shortest_eq (hnormal : 2 ^ 52 ≤ m) (hc : c < 10 ^ 15) (hzero : c % 10 ≠ 0)
    (h : RoundsTo (c * 10 ^ j) m e) : shortest m e = ⟨c, j⟩ := by
  have hm : 0 < m := lt_of_lt_of_le (by norm_num) hnormal
  have hlog := log_le_of_roundsTo hnormal hc h
  have hfar := log_lt_of_roundsTo hnormal (Nat.pos_of_ne_zero fun h => hzero (by rw [h])) h
  obtain ⟨q, rfl⟩ : ∃ q : ℕ, j = Int.log 10 (m * 2 ^ e : ℚ) - 14 + q :=
    ⟨(j - (Int.log 10 (m * 2 ^ e : ℚ) - 14)).toNat, by omega⟩
  rw [mul_zpow_add_natCast] at h
  obtain ⟨n, hn, d, hd, hfind⟩ := exists_findSome?_range (i := 14) (n := 17)
    (f := fun n => (Interval.ofParts m e).nearest? (n + 1)) (by decide)
    (isSome_nearest? hm (a := c * 10 ^ q) (by
      push_cast at h ⊢
      convert h using 3
      ring))
  obtain ⟨hexponent, hrounds⟩ := roundsTo_of_nearest? hm hd
  -- What is found after fewer digits is the same multiple of the last of the fifteen.
  obtain ⟨digits, k⟩ := d
  obtain ⟨p, rfl⟩ : ∃ p : ℕ, k = Int.log 10 (m * 2 ^ e : ℚ) - 14 + p :=
    ⟨14 - n, by simp only at hexponent; push_cast at hexponent; omega⟩
  rw [mul_zpow_add_natCast] at hrounds
  have hsame : digits * 10 ^ p = c * 10 ^ q := eq_of_roundsTo hnormal rfl hrounds h
  obtain ⟨t, rfl, hdigits⟩ := exists_of_mul_pow_eq hzero hsame
  rw [shortest, if_neg hm.ne']
  dsimp only
  rw [hfind, hdigits]
  dsimp only
  rw [strip_mul_pow hzero (by omega)]
  congr 1
  push_cast
  ring

end BrowserScript.Decimal
