import BrowserScript.Numeric.Binary64
import Mathlib.Algebra.Order.Field.Power
import Mathlib.Data.Int.Log
import Mathlib.Data.Rat.Floor
import Mathlib.Tactic.FieldSimp
import Mathlib.Tactic.Linarith
import Mathlib.Tactic.Positivity
import Mathlib.Tactic.Ring

/-!
# Rounding to binary64 numbers

What rounding does, in rationals: a quotient below the limit becomes a finite number around which it
lies, at most half a step away and at a tie only if the mantissa is even.  From this alone follows
that a number is rounded to itself, and that the arithmetic of naturals up to `2 ^ 53` is exact.
-/

namespace BrowserScript.Binary64

variable {num den m m' : ℕ} {e e' : ℤ} {x y z : ℚ}

/-- Naturals less than one apart are equal. -/
theorem eq_of_cast_lt_add_one {a b : ℕ} (hab : (a : ℚ) < b + 1) (hba : (b : ℚ) < a + 1) :
    a = b := by
  have hab' : a < b + 1 := by exact_mod_cast hab
  have hba' : b < a + 1 := by exact_mod_cast hba
  omega

/-! ### Quotients -/

/-- Numbers between two powers that follow each other have the logarithm of the lower one. -/
theorem log_eq_of_between {b : ℕ} {k : ℤ} (hb : 1 < b) (hlow : (b : ℚ) ^ k ≤ x)
    (hhigh : x < (b : ℚ) ^ (k + 1)) : Int.log b x = k := by
  have hpos : 0 < x := lt_of_lt_of_le (zpow_pos (by exact_mod_cast Nat.zero_lt_of_lt hb) k) hlow
  have hle : k ≤ Int.log b x := (Int.zpow_le_iff_le_log hb hpos).mp hlow
  have hlt : Int.log b x < k + 1 := (Int.lt_zpow_iff_log_lt hb hpos).mp hhigh
  omega

/-- The logarithm of a quotient, from those of its parts. -/
theorem log_div_eq {b : ℕ} (hb : 1 < b) {p q : ℤ} {n d : ℚ} (hnLow : (b : ℚ) ^ p ≤ n)
    (hnHigh : n < (b : ℚ) ^ (p + 1)) (hdLow : (b : ℚ) ^ q ≤ d) (hdHigh : d < (b : ℚ) ^ (q + 1)) :
    Int.log b (n / d) = if (b : ℚ) ^ (p - q) ≤ n / d then p - q else p - q - 1 := by
  have hpos : (0 : ℚ) < b := by exact_mod_cast Nat.zero_lt_of_lt hb
  have hd : 0 < d := lt_of_lt_of_le (zpow_pos hpos q) hdLow
  split
  case isTrue h =>
    refine log_eq_of_between hb h ?_
    rw [div_lt_iff₀ hd]
    calc n < (b : ℚ) ^ (p + 1) := hnHigh
      _ = (b : ℚ) ^ (p - q + 1) * (b : ℚ) ^ q := by
        rw [← zpow_add₀ hpos.ne']
        ring_nf
      _ ≤ (b : ℚ) ^ (p - q + 1) * d := by gcongr
  case isFalse h =>
    refine log_eq_of_between hb ?_ ?_
    · rw [le_div_iff₀ hd]
      calc (b : ℚ) ^ (p - q - 1) * d ≤ (b : ℚ) ^ (p - q - 1) * (b : ℚ) ^ (q + 1) := by gcongr
        _ = (b : ℚ) ^ p := by
          rw [← zpow_add₀ hpos.ne']
          ring_nf
        _ ≤ n := hnLow
    · rw [sub_add_cancel]
      exact not_le.mp h

theorem scale_den_pos (num : ℕ) (hden : 0 < den) (e : ℤ) : 0 < (scale num den e).2 := by
  unfold scale
  split
  · exact Nat.mul_pos hden (Nat.pow_pos (by decide))
  · exact hden

theorem scale_eq (num den : ℕ) (e : ℤ) :
    ((scale num den e).1 : ℚ) / (scale num den e).2 = num / den / 2 ^ e := by
  unfold scale
  split
  case isTrue he =>
    lift e to ℕ using he
    simp [div_div]
  case isFalse he =>
    obtain ⟨k, rfl⟩ : ∃ k : ℕ, e = -k := ⟨(-e).toNat, by omega⟩
    simp [mul_div_right_comm]

theorem ratio_den_pos (m : ℕ) (e : ℤ) : 0 < (ratio m e).2 := scale_den_pos m one_pos (-e)

theorem ratio_eq (m : ℕ) (e : ℤ) : ((ratio m e).1 : ℚ) / (ratio m e).2 = m * 2 ^ e := by
  rw [ratio, scale_eq, Nat.cast_one, div_one, zpow_neg, div_inv_eq_mul]

theorem floorLog2_eq (hnum : 0 < num) (hden : 0 < den) :
    floorLog2 num den = Int.log 2 (num / den : ℚ) := by
  have hlow {n : ℕ} (hn : 0 < n) : ((2 : ℕ) : ℚ) ^ (n.log2 : ℤ) ≤ n :=
    mod_cast Nat.log2_self_le hn.ne'
  have hhigh {n : ℕ} : (n : ℚ) < ((2 : ℕ) : ℚ) ^ (n.log2 + 1 : ℤ) := mod_cast Nat.lt_log2_self
  have hscale : (scale num den (num.log2 - den.log2)).2 ≤ (scale num den (num.log2 - den.log2)).1 ↔
      ((2 : ℕ) : ℚ) ^ (num.log2 - den.log2 : ℤ) ≤ num / den := by
    have hpos := scale_den_pos num hden (num.log2 - den.log2)
    rw [← Nat.cast_le (α := ℚ), ← one_le_div (by exact_mod_cast hpos), scale_eq, Nat.cast_ofNat,
      one_le_div (by positivity)]
  rw [log_div_eq one_lt_two (hlow hnum) hhigh (hlow hden) hhigh]
  exact if_congr hscale rfl rfl

/-- A quotient rounded to a natural is at most a half away, and nearer if the natural is odd. -/
theorem divEven_near (num : ℕ) (hden : 0 < den) :
    (divEven num den : ℚ) - 1 / 2 ≤ num / den ∧ (num / den : ℚ) ≤ divEven num den + 1 / 2 ∧
      (divEven num den % 2 = 1 →
        (divEven num den : ℚ) - 1 / 2 < num / den ∧ (num / den : ℚ) < divEven num den + 1 / 2) := by
  have hden' : (0 : ℚ) < den := by exact_mod_cast hden
  have hdiv : (num / den : ℚ) = (num / den : ℕ) + (num % den : ℕ) / den := by
    rw [eq_comm, add_div' _ _ _ hden'.ne']
    congr 1
    exact_mod_cast Nat.div_add_mod' num den
  have hlt : ((num % den : ℕ) : ℚ) / den < 1 := by
    rw [div_lt_one (by positivity)]
    exact_mod_cast Nat.mod_lt num hden
  have hnonneg : (0 : ℚ) ≤ ((num % den : ℕ) : ℚ) / den := by positivity
  have hhalf : 2 * (num % den) < den ↔ ((num % den : ℕ) : ℚ) / den < 1 / 2 := by
    rw [div_lt_iff₀ (by positivity), ← Nat.cast_lt (α := ℚ)]
    push_cast
    constructor <;> intro h <;> linarith
  have hmore : den < 2 * (num % den) ↔ (1 / 2 : ℚ) < ((num % den : ℕ) : ℚ) / den := by
    rw [lt_div_iff₀ (by positivity), ← Nat.cast_lt (α := ℚ)]
    push_cast
    constructor <;> intro h <;> linarith
  rw [hdiv]
  generalize ((num % den : ℕ) : ℚ) / den = r at *
  simp only [divEven, hhalf, hmore]
  split_ifs with h1 h2 h3
  · exact ⟨by linarith, by linarith, fun _ => ⟨by linarith, by linarith⟩⟩
  · push_cast
    exact ⟨by linarith, by linarith, fun _ => ⟨by linarith, by linarith⟩⟩
  · exact ⟨by linarith, by linarith, fun hodd => by omega⟩
  · push_cast
    exact ⟨by linarith, by linarith, fun hodd => by omega⟩

/-! ### The reals that round to a number -/

/-- The parts that a number has once it is rounded: the mantissa has 53 bits, fewer only at the
least exponent. -/
structure IsCanonical (m : ℕ) (e : ℤ) : Prop where
  lt : m < 2 ^ 53
  minExponent_le : minExponent ≤ e
  le_maxExponent : e ≤ maxExponent
  normal : 2 ^ 52 ≤ m ∨ e = minExponent

/-- How far below a number its reals reach, in units of its last place.  The numbers below a power
of two lie closer. -/
def reachBelow (m : ℕ) (e : ℤ) : ℚ := if m = 2 ^ 52 ∧ minExponent < e then 1 / 4 else 1 / 2

/-- A real rounds to `m · 2 ^ e`: it is no further away than half the distance to the next number on
its side, and less far if the mantissa is odd. -/
structure RoundsTo (x : ℚ) (m : ℕ) (e : ℤ) : Prop where
  low_le : (m - reachBelow m e) * 2 ^ e ≤ x
  le_high : x ≤ (m + 1 / 2) * 2 ^ e
  odd : m % 2 = 1 → (m - reachBelow m e) * 2 ^ e < x ∧ x < (m + 1 / 2) * 2 ^ e

theorem reachBelow_pos (m : ℕ) (e : ℤ) : 0 < reachBelow m e := by
  unfold reachBelow
  split <;> norm_num

theorem reachBelow_le (m : ℕ) (e : ℤ) : reachBelow m e ≤ 1 / 2 := by
  unfold reachBelow
  split <;> norm_num

/-- A multiple of the unit rounds to the natural that it is near to.  A natural of 53 bits above
which it lies may be a power of two. -/
theorem roundsTo_of_near {n : ℕ} (hlow : (n : ℚ) - 1 / 2 ≤ y) (hhigh : y ≤ n + 1 / 2)
    (hodd : n % 2 = 1 → (n : ℚ) - 1 / 2 < y ∧ y < n + 1 / 2)
    (hnormal : 2 ^ 52 ≤ y ∨ e = minExponent) : RoundsTo (y * 2 ^ e) n e := by
  by_cases hpower : n = 2 ^ 52 ∧ minExponent < e
  · obtain ⟨rfl, he⟩ := hpower
    have hy : 2 ^ 52 ≤ y := hnormal.resolve_right he.ne'
    refine ⟨?_, ?_, fun h => by omega⟩
    · gcongr
      rw [reachBelow, if_pos ⟨rfl, he⟩]
      push_cast
      linarith
    · gcongr
  · have hreach : reachBelow n e = 1 / 2 := if_neg hpower
    refine ⟨by rw [hreach]; gcongr, by gcongr, fun h => ?_⟩
    obtain ⟨hlow', hhigh'⟩ := hodd h
    exact ⟨by rw [hreach]; gcongr, by gcongr⟩

/-- What is rounded up to 54 bits is one of the reals just below a power of two. -/
theorem roundsTo_of_carry (hlow : 2 ^ 53 - 1 / 2 ≤ y) (hhigh : y < 2 ^ 53)
    (he : minExponent ≤ e) : RoundsTo (y * 2 ^ e) (2 ^ 52) (e + 1) := by
  have hstep : (2 : ℚ) ^ (e + 1) = 2 * 2 ^ e := by rw [zpow_add_one₀ two_ne_zero, mul_comm]
  have hreach : reachBelow (2 ^ 52) (e + 1) = 1 / 4 := if_pos ⟨rfl, by omega⟩
  refine ⟨?_, ?_, fun h => by omega⟩
  · rw [hreach, hstep, ← mul_assoc]
    gcongr
    push_cast
    linarith
  · rw [hstep, ← mul_assoc]
    gcongr
    push_cast
    linarith

theorem roundsTo_self (m : ℕ) (e : ℤ) : RoundsTo (m * 2 ^ e) m e := by
  have hreach := reachBelow_pos m e
  have hlow : ((m : ℚ) - reachBelow m e) * 2 ^ e < m * 2 ^ e := by
    gcongr
    linarith
  have hhigh : (m : ℚ) * 2 ^ e < (m + 1 / 2) * 2 ^ e := by
    gcongr
    linarith
  exact ⟨hlow.le, hhigh.le, fun _ => ⟨hlow, hhigh⟩⟩

/-- What lies between two reals that round to a number rounds to it as well. -/
theorem RoundsTo.between (hx : RoundsTo x m e) (hz : RoundsTo z m e) (hxy : x ≤ y) (hyz : y ≤ z) :
    RoundsTo y m e :=
  ⟨hx.low_le.trans hxy, hyz.trans hz.le_high,
    fun hodd => ⟨(hx.odd hodd).1.trans_le hxy, hyz.trans_lt (hz.odd hodd).2⟩⟩

/-- Two reals that round to a number are at most a unit of its last place apart. -/
theorem RoundsTo.sub_le (hx : RoundsTo x m e) (hy : RoundsTo y m e) : y - x ≤ 2 ^ e := by
  have hreach := reachBelow_le m e
  calc y - x ≤ (m + 1 / 2) * 2 ^ e - (m - reachBelow m e) * 2 ^ e :=
        sub_le_sub hy.le_high hx.low_le
    _ = (1 / 2 + reachBelow m e) * 2 ^ e := by ring
    _ ≤ 1 * 2 ^ e := by
      gcongr
      linarith
    _ = 2 ^ e := one_mul _

/-- The exponent that the 53 bits of a positive rational end at. -/
def exponentOf (x : ℚ) : ℤ := max (Int.log 2 x - 52) minExponent

theorem div_exponentOf_lt (x : ℚ) : x / 2 ^ exponentOf x < 2 ^ 53 := by
  rw [div_lt_iff₀ (by positivity), ← zpow_natCast, ← zpow_add₀ two_ne_zero]
  have hlog : Int.log 2 x - 52 ≤ exponentOf x := le_max_left _ _
  calc x < ((2 : ℕ) : ℚ) ^ (Int.log 2 x + 1) := Int.lt_zpow_succ_log_self (by decide) x
    _ ≤ 2 ^ (((53 : ℕ) : ℤ) + exponentOf x) := by
      push_cast
      exact zpow_le_zpow_right₀ (by norm_num) (by omega)

theorem le_div_exponentOf (hx : 0 < x) :
    2 ^ 52 ≤ x / 2 ^ exponentOf x ∨ exponentOf x = minExponent := by
  refine (max_choice (Int.log 2 x - 52) minExponent).imp_left fun h => ?_
  rw [le_div_iff₀ (by positivity), ← zpow_natCast, ← zpow_add₀ two_ne_zero]
  calc (2 : ℚ) ^ (((52 : ℕ) : ℤ) + exponentOf x) = ((2 : ℕ) : ℚ) ^ Int.log 2 x := by
        rw [exponentOf, h]
        push_cast
        ring_nf
    _ ≤ x := Int.zpow_log_le_self (by decide) hx

/-- The rationals from here on are too great for any number. -/
def limit : ℚ := (2 ^ 53 - 1 / 2) * 2 ^ maxExponent

theorem lt_limit_of_le (hx : x ≤ 2 ^ 64) : x < limit := by
  have hpower : (2 : ℚ) ^ 12 ≤ 2 ^ maxExponent := by
    rw [← zpow_natCast]
    exact zpow_le_zpow_right₀ (by norm_num) (by decide)
  calc x ≤ 2 ^ 64 := hx
    _ < (2 ^ 53 - 1 / 2) * 2 ^ 12 := by norm_num
    _ ≤ limit := mul_le_mul_of_nonneg_left hpower (by norm_num)

theorem exponentOf_le (hx : 0 < x) (hlt : x < limit) : exponentOf x ≤ maxExponent := by
  have hpower : x < 2 ^ (maxExponent + 53) := by
    refine lt_trans hlt ?_
    rw [zpow_add₀ two_ne_zero, mul_comm, limit]
    gcongr
    norm_num
  have hlog : Int.log 2 x < maxExponent + 53 :=
    (Int.lt_zpow_iff_log_lt (b := 2) (by decide) hx).mp (mod_cast hpower)
  simp only [exponentOf, minExponent, maxExponent] at *
  omega

theorem round_eq (negative : Bool) (hnum : 0 < num) (hden : 0 < den) :
    round negative num den =
      let e := exponentOf (num / den)
      let n := divEven (scale num den e).1 (scale num den e).2
      if n = 2 ^ 53 then
        if maxExponent < e + 1 then .infinite negative else .finite negative (2 ^ 52) (e + 1)
      else if maxExponent < e then .infinite negative else .finite negative n e := by
  rw [round, if_neg (by omega), floorLog2_eq hnum hden]
  dsimp only
  by_cases hcarry : divEven (scale num den (exponentOf (num / den))).1
      (scale num den (exponentOf (num / den))).2 = 2 ^ 53
  · rw [exponentOf] at hcarry ⊢
    simp only [Nat.pow_eq, hcarry, if_true]
  · rw [exponentOf] at hcarry ⊢
    simp only [Nat.pow_eq, hcarry, if_false]

/-- Rounding gives a finite number that the quotient rounds to. -/
theorem exists_round_eq (negative : Bool) (num : ℕ) (hden : 0 < den)
    (hx : (num / den : ℚ) < limit) :
    ∃ m e, round negative num den = .finite negative m e ∧ IsCanonical m e ∧
      RoundsTo (num / den) m e := by
  rcases Nat.eq_zero_or_pos num with rfl | hnum
  · refine ⟨0, minExponent, by simp [round, zero], ⟨by decide, by decide, by decide, .inr rfl⟩, ?_⟩
    have h := roundsTo_of_near (e := minExponent) (y := 0) (n := 0) (by norm_num) (by norm_num)
      (by simp) (.inr rfl)
    simpa using h
  have hpos : (0 : ℚ) < num / den :=
    div_pos (by exact_mod_cast hnum) (by exact_mod_cast hden)
  rw [round_eq negative hnum hden]
  dsimp only
  have hnear := divEven_near (scale num den (exponentOf (num / den))).1
    (scale_den_pos num hden (exponentOf (num / den)))
  rw [scale_eq] at hnear
  have hbelow := div_exponentOf_lt (num / den : ℚ)
  have habove := le_div_exponentOf hpos
  have hmax := exponentOf_le hpos hx
  have hmin : minExponent ≤ exponentOf (num / den) := le_max_right _ _
  have hval : (num / den : ℚ) =
      num / den / 2 ^ exponentOf (num / den) * 2 ^ exponentOf (num / den) :=
    (div_mul_cancel₀ _ (by positivity)).symm
  generalize exponentOf (num / den) = e at *
  generalize divEven (scale num den e).1 (scale num den e).2 = n at *
  generalize (num / den / 2 ^ e : ℚ) = y at *
  obtain ⟨hlow, hhigh, hodd⟩ := hnear
  rw [hval]
  by_cases hcarry : n = 2 ^ 53
  · have hy : 2 ^ 53 - 1 / 2 ≤ y := by
      rw [hcarry] at hlow
      exact_mod_cast hlow
    -- At the greatest exponent the limit leaves no room for a carry.
    have hroom : e ≠ maxExponent := by
      rintro rfl
      rw [hval, limit] at hx
      exact absurd (lt_of_mul_lt_mul_right hx (by positivity)) (not_lt.mpr hy)
    refine ⟨2 ^ 52, e + 1, ?_, ⟨by norm_num, by omega, by omega, .inl le_rfl⟩,
      roundsTo_of_carry hy hbelow hmin⟩
    rw [if_pos hcarry, if_neg (by omega)]
  · have hn : n < 2 ^ 53 := by
      have h : (n : ℚ) < (2 ^ 53 + 1 : ℕ) := by
        push_cast
        linarith
      have h' := Nat.cast_lt.mp h
      omega
    refine ⟨n, e, ?_, ⟨hn, hmin, hmax, ?_⟩, roundsTo_of_near hlow hhigh hodd habove⟩
    · rw [if_neg hcarry, if_neg (by omega)]
    · refine habove.imp_left fun h => ?_
      have h' : ((2 ^ 52 : ℕ) : ℚ) < (n + 1 : ℕ) := by
        push_cast
        linarith
      exact Nat.lt_succ_iff.mp (Nat.cast_lt.mp h')

/-! ### Exact results -/

/-- A rational that is a number: a natural of 53 bits times a power of two within the limits. -/
def IsDyadic (x : ℚ) : Prop :=
  ∃ (k : ℕ) (j : ℤ), k < 2 ^ 53 ∧ minExponent ≤ j ∧ x = k * 2 ^ j ∧ x < limit

theorem isDyadic_natCast {n : ℕ} (hn : n ≤ 2 ^ 53) : IsDyadic n := by
  have hlt : (n : ℚ) < limit := lt_limit_of_le (by exact_mod_cast hn.trans (by decide))
  rcases hn.lt_or_eq with h | rfl
  · exact ⟨n, 0, h, by decide, by simp, hlt⟩
  · exact ⟨2 ^ 52, 1, by norm_num, by decide, by norm_num, hlt⟩

/-- Only one number is at a number. -/
theorem RoundsTo.eq_of_dyadic {k : ℕ} {j : ℤ} (h : RoundsTo (k * 2 ^ j) m e) (hm : IsCanonical m e)
    (hk : k < 2 ^ 53) (hj : minExponent ≤ j) : (m : ℚ) * 2 ^ e = k * 2 ^ j := by
  have hunit : (0 : ℚ) < 2 ^ e := by positivity
  have hreach := reachBelow_le m e
  rcases le_or_gt e j with hle | hlt
  · -- In units of the last place both are whole, and a half apart at most.
    obtain ⟨d, rfl⟩ : ∃ d : ℕ, j = e + d := ⟨(j - e).toNat, by omega⟩
    have hsplit : (k : ℚ) * 2 ^ (e + d) = (k * 2 ^ d : ℕ) * 2 ^ e := by
      rw [zpow_add₀ two_ne_zero, zpow_natCast]
      push_cast
      ring
    have hlow := h.low_le
    have hhigh := h.le_high
    rw [hsplit] at hlow hhigh ⊢
    rw [mul_le_mul_iff_left₀ hunit] at hlow hhigh
    have hsame : m = k * 2 ^ d := eq_of_cast_lt_add_one (by linarith) (by linarith)
    rw [hsame]
  · -- The number would have more bits than the rational.
    exfalso
    have hnormal : 2 ^ 52 ≤ m := hm.normal.resolve_right (by omega)
    obtain ⟨d, rfl⟩ : ∃ d : ℕ, e = j + 1 + d := ⟨(e - (j + 1)).toNat, by omega⟩
    have hreach' : (2 : ℚ) ^ 52 - 1 / 4 ≤ m - reachBelow m (j + 1 + d) := by
      rcases hnormal.eq_or_lt with rfl | hmore
      · rw [reachBelow, if_pos ⟨rfl, by omega⟩]
        norm_num
      · have : ((2 ^ 52 + 1 : ℕ) : ℚ) ≤ m := Nat.cast_le.mpr hmore
        push_cast at this
        linarith
    have hone : (1 : ℚ) ≤ 2 ^ d := one_le_pow₀ (by norm_num)
    have hbound : ((2 : ℚ) ^ 53 - 1 / 2) * 2 ^ j ≤ k * 2 ^ j := by
      calc ((2 : ℚ) ^ 53 - 1 / 2) * 2 ^ j = (2 ^ 52 - 1 / 4) * 1 * (2 * 2 ^ j) := by ring
        _ ≤ (m - reachBelow m (j + 1 + d)) * 2 ^ d * (2 * 2 ^ j) := by
          gcongr
        _ = (m - reachBelow m (j + 1 + d)) * 2 ^ (j + 1 + d) := by
          rw [zpow_add₀ two_ne_zero, zpow_add₀ two_ne_zero, zpow_natCast]
          ring
        _ ≤ k * 2 ^ j := h.low_le
    have hk' : (2 : ℚ) ^ 53 - 1 / 2 ≤ k := le_of_mul_le_mul_right hbound (by positivity)
    have hk'' : (k : ℚ) + 1 ≤ 2 ^ 53 := by exact_mod_cast hk
    linarith

theorem IsCanonical.eq_of_value (hm : IsCanonical m e) (hm' : IsCanonical m' e')
    (h : (m : ℚ) * 2 ^ e = m' * 2 ^ e') : m = m' ∧ e = e' := by
  have key : ∀ {m m' : ℕ} {e e' : ℤ}, IsCanonical m e → IsCanonical m' e' →
      (m : ℚ) * 2 ^ e = m' * 2 ^ e' → ¬e < e' := by
    intro m m' e e' hm hm' h hlt
    obtain ⟨d, rfl⟩ : ∃ d : ℕ, e' = e + 1 + d := ⟨(e' - (e + 1)).toNat, by omega⟩
    have hnormal : 2 ^ 52 ≤ m' := hm'.normal.resolve_right (by have := hm.minExponent_le; omega)
    have hunit : (0 : ℚ) < 2 ^ e := by positivity
    have hval : (m : ℚ) = (m' * 2 * 2 ^ d : ℕ) := by
      apply mul_right_cancel₀ hunit.ne'
      rw [h, zpow_add₀ two_ne_zero, zpow_add₀ two_ne_zero, zpow_natCast]
      push_cast
      ring
    have hval' := Nat.cast_injective hval
    have hone : 1 ≤ 2 ^ d := Nat.one_le_two_pow
    have hlt' := hm.lt
    nlinarith
  have heq : e = e' := le_antisymm (not_lt.mp (key hm' hm h.symm)) (not_lt.mp (key hm hm' h))
  subst heq
  refine ⟨?_, rfl⟩
  have h' := mul_right_cancel₀ (zpow_ne_zero e two_ne_zero) h
  exact_mod_cast h'

theorem IsCanonical.isDyadic (hm : IsCanonical m e) : IsDyadic (m * 2 ^ e) := by
  refine ⟨m, e, hm.lt, hm.minExponent_le, rfl, ?_⟩
  have hlt : (m : ℚ) + 1 ≤ 2 ^ 53 := by exact_mod_cast hm.lt
  have hpower : (2 : ℚ) ^ e ≤ 2 ^ maxExponent := zpow_le_zpow_right₀ (by norm_num) hm.le_maxExponent
  rw [limit]
  calc (m : ℚ) * 2 ^ e ≤ m * 2 ^ maxExponent := mul_le_mul_of_nonneg_left hpower m.cast_nonneg
    _ < (2 ^ 53 - 1 / 2) * 2 ^ maxExponent := by
      gcongr
      linarith

def Represents (b : Binary64) (x : ℚ) : Prop :=
  ∃ m e, b = .finite false m e ∧ IsCanonical m e ∧ (m : ℚ) * 2 ^ e = x

/-- A number is one that a nonnegative rational rounds to. -/
def IsNearest (b : Binary64) (x : ℚ) : Prop :=
  ∃ m e, b = .finite false m e ∧ IsCanonical m e ∧ RoundsTo x m e

variable {a b : Binary64}

theorem Represents.isNearest (h : Represents b x) : IsNearest b x := by
  obtain ⟨m, e, rfl, hm, rfl⟩ := h
  exact ⟨m, e, rfl, hm, roundsTo_self m e⟩

/-- What is a number is rounded to itself. -/
theorem IsNearest.represents (h : IsNearest b x) (hx : IsDyadic x) : Represents b x := by
  obtain ⟨m, e, rfl, hm, hrounds⟩ := h
  obtain ⟨k, j, hk, hj, rfl, -⟩ := hx
  exact ⟨m, e, rfl, hm, hrounds.eq_of_dyadic hm hk hj⟩

theorem isNearest_round (num : ℕ) (hden : 0 < den) (hx : (num / den : ℚ) < limit) :
    IsNearest (round false num den) (num / den) :=
  exists_round_eq false num hden hx

theorem IsDyadic.lt_limit (h : IsDyadic x) : x < limit := by
  obtain ⟨k, j, -, -, -, hlt⟩ := h
  exact hlt

theorem IsDyadic.represents_round (hden : 0 < den) (hx : IsDyadic (num / den)) :
    Represents (round false num den) (num / den) :=
  (isNearest_round num hden hx.lt_limit).represents hx

namespace Represents

theorem unique (ha : Represents a x) (hb : Represents b x) : a = b := by
  obtain ⟨m, e, rfl, hm, hx⟩ := ha
  obtain ⟨m', e', rfl, hm', hx'⟩ := hb
  obtain ⟨rfl, rfl⟩ := hm.eq_of_value hm' (hx.trans hx'.symm)
  rfl

theorem ofNat {n : ℕ} (hn : n ≤ 2 ^ 53) : Represents (Binary64.ofNat n) n := by
  have hdyadic : IsDyadic (n / (1 : ℕ)) := by simpa using isDyadic_natCast hn
  have h := hdyadic.represents_round one_pos
  rwa [Nat.cast_one, div_one] at h

theorem mul (ha : Represents a x) (hb : Represents b y) (hxy : IsDyadic (x * y)) :
    Represents (a.mul b) (x * y) := by
  obtain ⟨m, e, rfl, -, rfl⟩ := ha
  obtain ⟨n, f, rfl, -, rfl⟩ := hb
  have hratio : ((ratio (m * n) (e + f)).1 : ℚ) / (ratio (m * n) (e + f)).2 =
      m * 2 ^ e * (n * 2 ^ f) := by
    rw [ratio_eq, zpow_add₀ two_ne_zero]
    push_cast
    ring
  rw [← hratio] at hxy ⊢
  exact hxy.represents_round (ratio_den_pos _ _)

theorem div (ha : Represents a x) (hb : Represents b y) (hy : y ≠ 0) (hlt : x / y < limit) :
    IsNearest (a.div b) (x / y) := by
  obtain ⟨m, e, rfl, -, rfl⟩ := ha
  obtain ⟨n, f, rfl, -, rfl⟩ := hb
  have hn : n ≠ 0 := by
    rintro rfl
    simp at hy
  have hratio : ((scale m n (f - e)).1 : ℚ) / (scale m n (f - e)).2 =
      m * 2 ^ e / (n * 2 ^ f) := by
    rw [scale_eq, zpow_sub₀ two_ne_zero]
    field_simp
  rw [← hratio] at hlt ⊢
  rw [Binary64.div, if_neg hn]
  exact isNearest_round _ (scale_den_pos m (Nat.pos_of_ne_zero hn) _) hlt

theorem add (ha : Represents a x) (hb : Represents b y) (hxy : IsDyadic (x + y)) :
    Represents (a.add b) (x + y) := by
  obtain ⟨m, e, rfl, -, rfl⟩ := ha
  obtain ⟨n, f, rfl, -, rfl⟩ := hb
  -- Both terms are multiples of the lower of the two units.
  obtain ⟨low, hlow⟩ : ∃ low, low = min e f := ⟨_, rfl⟩
  obtain ⟨i, rfl⟩ : ∃ i : ℕ, e = low + i := ⟨(e - low).toNat, by omega⟩
  obtain ⟨j, rfl⟩ : ∃ j : ℕ, f = low + j := ⟨(f - low).toNat, by omega⟩
  have hsum : (m : ℚ) * 2 ^ (low + i : ℤ) + n * 2 ^ (low + j : ℤ) =
      (m * 2 ^ i + n * 2 ^ j : ℕ) * 2 ^ low := by
    rw [zpow_add₀ two_ne_zero, zpow_add₀ two_ne_zero, zpow_natCast, zpow_natCast]
    push_cast
    ring
  have hadd : Binary64.add (.finite false m (low + i)) (.finite false n (low + j)) =
      if m * 2 ^ i + n * 2 ^ j = 0 then zero false
      else Binary64.round false (ratio (m * 2 ^ i + n * 2 ^ j) low).1
        (ratio (m * 2 ^ i + n * 2 ^ j) low).2 := by
    have hcast : (m : ℤ) * (2 ^ i : ℕ) + n * (2 ^ j : ℕ) = (m * 2 ^ i + n * 2 ^ j : ℕ) := by
      push_cast
      rfl
    simp only [Binary64.add, ← hlow, add_sub_cancel_left, Int.toNat_natCast, Nat.pow_eq,
      Bool.false_eq_true, if_false, hcast, Int.natAbs_natCast, Int.natCast_eq_zero,
      Int.not_ofNat_neg, decide_false, Bool.and_self]
  rw [hadd]
  split
  case isTrue hzero =>
    rw [hsum, hzero, Nat.cast_zero, zero_mul]
    exact ⟨0, minExponent, rfl, ⟨by decide, by decide, by decide, .inr rfl⟩, by simp⟩
  case isFalse =>
    rw [hsum, ← ratio_eq] at hxy ⊢
    exact hxy.represents_round (ratio_den_pos _ _)

theorem nearestNat {n : ℕ} (hb : Represents b n) : b.nearestNat = some n := by
  obtain ⟨m, e, rfl, -, hn⟩ := hb
  have hpos := ratio_den_pos m e
  have hratio := ratio_eq m e
  rw [hn, div_eq_iff (by positivity)] at hratio
  have hexact : (ratio m e).1 = n * (ratio m e).2 := by exact_mod_cast hratio
  simp only [Binary64.nearestNat, Option.some.injEq, hexact]
  generalize (ratio m e).2 = d at *
  rw [show 2 * (n * d) + d = 2 * d * n + d by ring, Nat.mul_add_div (by omega),
    Nat.div_eq_of_lt (by omega), Nat.add_zero]

end Represents

/-! ### Decimals -/

def leastNormal : ℚ := 2 ^ (minExponent + 52)

theorem ten_pow_le_two_pow (b : ℕ) : 10 ^ (b * 3 / 10) ≤ 2 ^ b := by
  rw [← Nat.pow_le_pow_iff_left (n := 10) (by decide), ← pow_mul, ← pow_mul]
  calc 10 ^ (b * 3 / 10 * 10) ≤ 10 ^ (3 * b) := Nat.pow_le_pow_right (by decide) (by omega)
    _ = (10 ^ 3) ^ b := pow_mul 10 3 b
    _ ≤ (2 ^ 10) ^ b := Nat.pow_le_pow_left (by decide) b
    _ = 2 ^ (b * 10) := by rw [← pow_mul, mul_comm]

theorem two_pow_le_ten_pow (k : ℕ) : 2 ^ (3 * k) ≤ 10 ^ k := by
  rw [pow_mul]
  exact Nat.pow_le_pow_left (by decide) k

theorem limit_le_ten_zpow {j : ℤ} (hj : 400 ≤ j) : limit ≤ 10 ^ j := by
  lift j to ℕ using by omega
  calc limit ≤ 2 ^ 53 * 2 ^ maxExponent := by
        rw [limit]
        gcongr
        norm_num
    _ = 2 ^ (53 + maxExponent) := by
      rw [zpow_add₀ two_ne_zero]
      rfl
    _ ≤ 2 ^ ((3 * j : ℕ) : ℤ) := zpow_le_zpow_right₀ (by norm_num) (by
      simp only [maxExponent]
      omega)
    _ ≤ 10 ^ (j : ℤ) := by
      rw [zpow_natCast, zpow_natCast]
      exact_mod_cast two_pow_le_ten_pow j

theorem ten_zpow_le_leastNormal {j : ℤ} (hj : j ≤ -400) : 10 ^ j ≤ leastNormal := by
  obtain ⟨k, rfl⟩ : ∃ k : ℕ, j = -k := ⟨(-j).toNat, by omega⟩
  calc (10 : ℚ) ^ (-k : ℤ) ≤ 2 ^ (-(3 * k : ℕ) : ℤ) := by
        rw [zpow_neg, zpow_neg, zpow_natCast, zpow_natCast]
        gcongr
        exact_mod_cast two_pow_le_ten_pow k
    _ ≤ leastNormal := zpow_le_zpow_right₀ (by norm_num) (by
      simp only [minExponent]
      omega)

variable {digits : ℕ} {exponent : ℤ}

/-- The power of ten is computed wherever it leads to a number: where it is not, the bits of the
digits show that the decimal lies outside. -/
theorem ofDecimal_eq_round (negative : Bool)
    (hlow : digits ≠ 0 → leastNormal ≤ digits * 10 ^ exponent)
    (hhigh : (digits : ℚ) * 10 ^ exponent < limit) :
    ∃ num den : ℕ, 0 < den ∧ (num / den : ℚ) = digits * 10 ^ exponent ∧
      ofDecimal negative digits exponent = round negative num den := by
  by_cases hdigits : digits = 0
  · exact ⟨0, 1, one_pos, by simp [hdigits], by simp [hdigits, ofDecimal, round]⟩
  have hgreat : ¬400 < (digits.log2 : ℤ) * 3 / 10 + exponent := by
    intro h
    have hten : ((10 ^ (digits.log2 * 3 / 10) : ℕ) : ℚ) ≤ digits :=
      Nat.cast_le.mpr ((ten_pow_le_two_pow _).trans (Nat.log2_self_le hdigits))
    refine absurd hhigh (not_lt.mpr ?_)
    calc limit ≤ 10 ^ (((digits.log2 * 3 / 10 : ℕ) : ℤ) + exponent) :=
          limit_le_ten_zpow (by push_cast; omega)
      _ = (10 ^ (digits.log2 * 3 / 10) : ℕ) * 10 ^ exponent := by
        rw [zpow_add₀ (by norm_num), zpow_natCast]
        push_cast
        rfl
      _ ≤ digits * 10 ^ exponent := by gcongr
  have hsmall : ¬(digits.log2 : ℤ) / 3 + exponent < -400 := by
    intro h
    have hten : (digits : ℚ) < (10 ^ (digits.log2 / 3 + 1) : ℕ) := by
      refine Nat.cast_lt.mpr (Nat.lt_log2_self.trans_le ?_)
      calc 2 ^ (digits.log2 + 1) ≤ 2 ^ (3 * (digits.log2 / 3 + 1)) :=
            Nat.pow_le_pow_right (by decide) (by omega)
        _ ≤ 10 ^ (digits.log2 / 3 + 1) := two_pow_le_ten_pow _
    refine absurd (hlow hdigits) (not_le.mpr ?_)
    calc (digits : ℚ) * 10 ^ exponent < (10 ^ (digits.log2 / 3 + 1) : ℕ) * 10 ^ exponent := by
          gcongr
      _ = 10 ^ (((digits.log2 / 3 + 1 : ℕ) : ℤ) + exponent) := by
        rw [zpow_add₀ (by norm_num), zpow_natCast]
        push_cast
        rfl
      _ ≤ leastNormal := ten_zpow_le_leastNormal (by push_cast; omega)
  rw [ofDecimal, if_neg hdigits, if_neg hgreat, if_neg hsmall]
  split
  case isTrue hsign =>
    lift exponent to ℕ using hsign
    exact ⟨_, 1, one_pos, by simp, rfl⟩
  case isFalse hsign =>
    obtain ⟨k, rfl⟩ : ∃ k : ℕ, exponent = -k := ⟨(-exponent).toNat, by omega⟩
    refine ⟨_, _, ?_, ?_, rfl⟩
    · simp
    · simp [div_eq_mul_inv]

theorem Represents.ofDecimal {n : ℕ} (hn : n ≤ 2 ^ 53) :
    Represents (Binary64.ofDecimal false n 0) n := by
  have hdyadic := isDyadic_natCast hn
  have hlow : n ≠ 0 → leastNormal ≤ n * 10 ^ (0 : ℤ) := by
    intro hpos
    rw [zpow_zero, mul_one]
    calc leastNormal ≤ 2 ^ (0 : ℤ) := zpow_le_zpow_right₀ (by norm_num) (by decide)
      _ ≤ n := by exact_mod_cast Nat.one_le_iff_ne_zero.mpr hpos
  have hhigh : (n : ℚ) * 10 ^ (0 : ℤ) < limit := by simpa using hdyadic.lt_limit
  obtain ⟨num, den, hden, hvalue, hround⟩ := ofDecimal_eq_round false hlow hhigh
  rw [zpow_zero, mul_one] at hvalue
  rw [hround, ← hvalue]
  exact IsDyadic.represents_round hden (hvalue ▸ hdyadic)

end BrowserScript.Binary64
