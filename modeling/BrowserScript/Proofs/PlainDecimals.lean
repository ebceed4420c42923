import BrowserScript.Duration
import BrowserScript.Proofs.Numerals
import BrowserScript.Proofs.ShortestDecimals
import Mathlib.Data.List.DropRight
import Mathlib.Data.Nat.Factorization.Basic

/-!
# Plain decimals

A decimal is written plainly if no zero stands in front of its digits or behind the last digit after
its point.  A value has only one such text.  So what a number or a length of time is written as can
be told from its value alone, as long as rounding keeps the value: up to fifteen digits it does.
-/

namespace BrowserScript

open Reading Binary64

variable {ds whole fraction whole' fraction' : List Char}

/-! ### Runs of digits and their values -/

theorem toNat_sub_lt {c : Char} (h : isDigit c = true) : c.toNat - '0'.toNat < 10 := by
  have hrange : '0' ≤ c ∧ c ≤ '9' := by simpa [isDigit] using h
  have hhigh : c.toNat ≤ '9'.toNat := hrange.2
  have hnine : '9'.toNat = '0'.toNat + 9 := rfl
  omega

theorem digitChar_toNat_sub {c : Char} (h : isDigit c = true) :
    (c.toNat - '0'.toNat).digitChar = c := by
  have hrange : '0' ≤ c ∧ c ≤ '9' := by simpa [isDigit] using h
  have hlow : '0'.toNat ≤ c.toNat := hrange.1
  apply Char.toNat_inj.mp
  rw [Nat.toNat_digitChar_of_lt_ten (toNat_sub_lt h)]
  change 48 ≤ c.toNat at hlow
  change 48 + (c.toNat - 48) = c.toNat
  omega

theorem ofDigitChars_lt (hds : ∀ c ∈ ds, isDigit c = true) :
    Nat.ofDigitChars 10 ds 0 < 10 ^ ds.length := by
  induction ds with
  | nil => simp
  | cons c ds ih =>
    obtain ⟨hc, hrest⟩ := List.forall_mem_cons.mp hds
    have hdigit := toNat_sub_lt hc
    have hlt := ih hrest
    rw [Nat.ofDigitChars_cons, Nat.ofDigitChars_eq_ofDigitChars_zero, Nat.mul_zero, Nat.zero_add,
      List.length_cons, pow_succ]
    nlinarith

theorem ofDigitChars_append_zero (ds ds' : List Char) :
    Nat.ofDigitChars 10 (ds ++ ds') 0 =
      Nat.ofDigitChars 10 ds 0 * 10 ^ ds'.length + Nat.ofDigitChars 10 ds' 0 := by
  rw [Nat.ofDigitChars_append, Nat.ofDigitChars_eq_ofDigitChars_zero, Nat.mul_comm]

/-- A run without zeros in front is the decimal text of the number that it spells. -/
theorem toDigits_ofDigitChars (hds : isNumeral ds = true)
    (hlead : ds.head? = some '0' → ds = ['0']) :
    Nat.toDigits 10 (Nat.ofDigitChars 10 ds 0) = ds := by
  obtain ⟨hsome, hdigits⟩ := isNumeral_iff.mp hds
  clear hds
  induction ds using List.reverseRecOn with
  | nil => exact absurd rfl hsome
  | append_singleton ds c ih =>
    have hc : isDigit c = true := hdigits c (by simp)
    have hlast : Nat.ofDigitChars 10 (ds ++ [c]) 0 =
        Nat.ofDigitChars 10 ds 0 * 10 + (c.toNat - '0'.toNat) := by
      rw [ofDigitChars_append_zero, Nat.ofDigitChars_cons, Nat.ofDigitChars_nil]
      simp
    have hlt := toNat_sub_lt hc
    rw [hlast]
    cases ds with
    | nil =>
      rw [Nat.ofDigitChars_nil, Nat.zero_mul, Nat.zero_add, Nat.toDigits_of_lt_base hlt,
        digitChar_toNat_sub hc]
      rfl
    | cons d ds =>
      have hd : d ≠ '0' := by
        rintro rfl
        simpa using hlead rfl
      have hmore : Nat.toDigits 10 (Nat.ofDigitChars 10 (d :: ds) 0) = d :: ds := by
        refine ih (fun h => ?_) (by simp) fun c hc => hdigits c (by simp at hc ⊢; tauto)
        cases h
        exact absurd rfl hd
      have hpos : Nat.ofDigitChars 10 (d :: ds) 0 ≠ 0 := by
        intro hzero
        rw [hzero, Nat.toDigits_zero] at hmore
        exact hd (List.cons.inj hmore).1.symm
      rw [Nat.toDigits_of_base_le (by decide) (by omega), Nat.mul_comm, Nat.mul_add_div (by decide),
        Nat.div_eq_of_lt hlt, Nat.add_zero, hmore, Nat.mul_add_mod, Nat.mod_eq_of_lt hlt,
        digitChar_toNat_sub hc]

/-- Behind a one, zeros in front of a run are kept. -/
theorem toDigits_behind_one (hds : ∀ c ∈ ds, isDigit c = true) :
    Nat.toDigits 10 (10 ^ ds.length + Nat.ofDigitChars 10 ds 0) = '1' :: ds := by
  have hnumeral : isNumeral ('1' :: ds) = true :=
    isNumeral_iff.mpr ⟨by simp, List.forall_mem_cons.mpr ⟨rfl, hds⟩⟩
  have hvalue : Nat.ofDigitChars 10 ('1' :: ds) 0 = 10 ^ ds.length + Nat.ofDigitChars 10 ds 0 := by
    rw [Nat.ofDigitChars_cons, Nat.ofDigitChars_eq_ofDigitChars_zero]
    simp
  rw [← hvalue]
  exact toDigits_ofDigitChars hnumeral (by simp)

theorem ofDigitChars_mod_ten (ds : List Char) {c : Char} (hc : isDigit c = true) :
    Nat.ofDigitChars 10 (ds ++ [c]) 0 % 10 = 0 ↔ c = '0' := by
  have hlt := toNat_sub_lt hc
  rw [ofDigitChars_append_zero, Nat.ofDigitChars_cons, Nat.ofDigitChars_nil, List.length_singleton,
    pow_one, Nat.mul_zero, Nat.zero_add, Nat.mul_add_mod_self_right, Nat.mod_eq_of_lt hlt]
  constructor
  · intro hzero
    rw [← digitChar_toNat_sub hc, hzero]
    rfl
  · rintro rfl
    rfl

def decimalValue (whole fraction : List Char) : ℚ :=
  Nat.ofDigitChars 10 (whole ++ fraction) 0 / 10 ^ fraction.length

theorem decimalValue_eq_add (whole fraction : List Char) :
    decimalValue whole fraction =
      Nat.ofDigitChars 10 whole 0 + Nat.ofDigitChars 10 fraction 0 / 10 ^ fraction.length := by
  rw [decimalValue, ofDigitChars_append_zero]
  push_cast
  field_simp

/-- Digits before and after a point without superfluous zeros. -/
structure IsPlain (whole fraction : List Char) : Prop where
  isNumeral : isNumeral whole = true
  digits : ∀ c ∈ fraction, isDigit c = true
  lead : whole.head? = some '0' → whole = ['0']
  trail : fraction.getLast? ≠ some '0'

/-- A plain fraction has no more digits than any other of its value. -/
theorem length_le_of_fraction (hdigits : ∀ c ∈ fraction', isDigit c = true)
    (htrail : fraction'.getLast? ≠ some '0')
    (h : (Nat.ofDigitChars 10 fraction 0 : ℚ) / 10 ^ fraction.length =
      Nat.ofDigitChars 10 fraction' 0 / 10 ^ fraction'.length) :
    fraction'.length ≤ fraction.length := by
  by_contra hlt
  obtain ⟨s, hs⟩ : ∃ s, fraction'.length = fraction.length + (s + 1) :=
    ⟨fraction'.length - fraction.length - 1, by omega⟩
  have hmul : Nat.ofDigitChars 10 fraction' 0 = Nat.ofDigitChars 10 fraction 0 * 10 ^ s * 10 := by
    rw [hs, pow_add, div_eq_div_iff (by positivity) (by positivity)] at h
    have h' : (Nat.ofDigitChars 10 fraction' 0 : ℚ) =
        (Nat.ofDigitChars 10 fraction 0 * 10 ^ s * 10 : ℕ) := by
      apply mul_right_cancel₀ (b := (10 : ℚ) ^ fraction.length) (by positivity)
      rw [← h]
      push_cast
      ring
    exact_mod_cast h'
  rcases List.eq_nil_or_concat fraction' with rfl | ⟨init, c, rfl⟩
  · simp at hs
  · rw [List.concat_eq_append] at *
    have hzero := (ofDigitChars_mod_ten init (hdigits c (by simp))).mp
      (by rw [hmul, Nat.mul_mod_left])
    exact htrail (by simp [hzero])

/-- A value has only one plain text. -/
theorem IsPlain.eq_of_value (h : IsPlain whole fraction) (h' : IsPlain whole' fraction')
    (hvalue : decimalValue whole fraction = decimalValue whole' fraction') :
    whole = whole' ∧ fraction = fraction' := by
  have hbelow {ds : List Char} (hds : ∀ c ∈ ds, isDigit c = true) :
      (0 : ℚ) ≤ Nat.ofDigitChars 10 ds 0 / 10 ^ ds.length ∧
        (Nat.ofDigitChars 10 ds 0 : ℚ) / 10 ^ ds.length < 1 := by
    refine ⟨by positivity, ?_⟩
    rw [div_lt_one (by positivity)]
    exact_mod_cast ofDigitChars_lt hds
  obtain ⟨hlow, hhigh⟩ := hbelow h.digits
  obtain ⟨hlow', hhigh'⟩ := hbelow h'.digits
  rw [decimalValue_eq_add, decimalValue_eq_add] at hvalue
  have hwhole : Nat.ofDigitChars 10 whole 0 = Nat.ofDigitChars 10 whole' 0 :=
    eq_of_cast_lt_add_one (by linarith) (by linarith)
  rw [hwhole, add_right_inj] at hvalue
  refine ⟨?_, ?_⟩
  · rw [← toDigits_ofDigitChars h.isNumeral h.lead, hwhole,
      toDigits_ofDigitChars h'.isNumeral h'.lead]
  · -- Behind a one, digits of the same number are the decimal text of the same number.
    have hlength : fraction.length = fraction'.length :=
      le_antisymm (length_le_of_fraction h.digits h.trail hvalue.symm)
        (length_le_of_fraction h'.digits h'.trail hvalue)
    have hfraction : Nat.ofDigitChars 10 fraction 0 = Nat.ofDigitChars 10 fraction' 0 := by
      rw [hlength, div_left_inj' (by positivity)] at hvalue
      exact_mod_cast hvalue
    have hsame := toDigits_behind_one h.digits
    rw [hlength, hfraction, toDigits_behind_one h'.digits] at hsame
    exact (List.cons.inj hsame).2.symm

/-! ### Texts without superfluous zeros -/

/-- Digits without the zeros in front of them; of zeros alone one is left. -/
def withoutLead (ds : List Char) : List Char :=
  if ds.dropWhile (· == '0') = [] then ['0'] else ds.dropWhile (· == '0')

def withoutTrail (ds : List Char) : List Char := ds.rdropWhile (· == '0')

def plainly (whole fraction : List Char) : List Char :=
  pointed (withoutLead whole) (withoutTrail fraction)

theorem isPlain_trimmed (hwhole : ∀ c ∈ whole, isDigit c = true)
    (hfraction : ∀ c ∈ fraction, isDigit c = true) :
    IsPlain (withoutLead whole) (withoutTrail fraction) := by
  refine ⟨isNumeral_iff.mpr ⟨?_, ?_⟩, ?_, ?_, ?_⟩
  · unfold withoutLead
    split
    · simp
    · assumption
  · intro c hc
    unfold withoutLead at hc
    split at hc
    · rw [List.mem_singleton.mp hc]
      rfl
    · exact hwhole c ((List.dropWhile_suffix _).mem hc)
  · exact fun c hc => hfraction c ((List.rdropWhile_prefix _ _).mem hc)
  · intro hhead
    unfold withoutLead at hhead ⊢
    split at hhead
    · rw [if_pos ‹_›]
    · rename_i hsome
      have hnot := List.head_dropWhile_not (· == '0') hsome
      rw [List.head?_eq_some_head hsome, Option.some.injEq] at hhead
      rw [hhead] at hnot
      simp at hnot
  · intro hlast
    have hsome : withoutTrail fraction ≠ [] := by
      intro h
      simp [h] at hlast
    have hnot := List.rdropWhile_last_not (· == '0') fraction hsome
    rw [List.getLast?_eq_some_getLast hsome, Option.some.injEq] at hlast
    exact hnot (by simpa [withoutTrail] using hlast)

theorem eq_replicate_of_zeros (h : ∀ c ∈ ds, (c == '0') = true) :
    ds = List.replicate ds.length '0' :=
  List.eq_replicate_of_mem fun c hc => by simpa using h c hc

theorem decimalValue_withoutLead (whole fraction : List Char) :
    decimalValue (withoutLead whole) fraction = decimalValue whole fraction := by
  have hzeros := eq_replicate_of_zeros
    (List.all_eq_true.mp (List.all_takeWhile (p := (· == '0')) (l := whole)))
  have hwhole : Nat.ofDigitChars 10 whole 0 =
      Nat.ofDigitChars 10 (whole.dropWhile (· == '0')) 0 := by
    conv_lhs => rw [← List.takeWhile_append_dropWhile (p := (· == '0')) (l := whole), hzeros,
      Nat.ofDigitChars_append, Nat.ofDigitChars_replicate_zero, Nat.mul_zero]
  rw [decimalValue_eq_add, decimalValue_eq_add, hwhole, withoutLead]
  split
  · rename_i hnil
    rw [hnil]
    rfl
  · rfl

theorem decimalValue_withoutTrail (whole fraction : List Char) :
    decimalValue whole (withoutTrail fraction) = decimalValue whole fraction := by
  have hall : ∀ c ∈ fraction.rtakeWhile (· == '0'), (c == '0') = true := fun c hc =>
    List.mem_rtakeWhile_imp (p := (· == '0')) hc
  have hzeros := eq_replicate_of_zeros hall
  obtain ⟨n, hsplit⟩ : ∃ n, fraction = withoutTrail fraction ++ List.replicate n '0' :=
    ⟨_, by rw [withoutTrail, ← hzeros, List.rdropWhile_append_rtakeWhile]⟩
  conv_rhs => rw [hsplit]
  rw [decimalValue_eq_add, decimalValue_eq_add, ofDigitChars_append_zero,
    Nat.ofDigitChars_replicate_zero, Nat.mul_zero, Nat.add_zero, List.length_append,
    List.length_replicate, pow_add]
  push_cast
  field_simp

/-! ### The text of a decimal -/

theorem lead_toDigits {n : ℕ} (h : (Nat.toDigits 10 n).head? = some '0') :
    Nat.toDigits 10 n = ['0'] := by
  rcases Nat.eq_zero_or_pos n with rfl | hn
  · exact Nat.toDigits_zero 10
  · -- A zero in front would leave the number below the power of ten that its length shows.
    exfalso
    obtain ⟨rest, hrest⟩ := List.head?_eq_some_iff.mp h
    have hdigits := (isNumeral_iff.mp (isNumeral_toDigits n)).2
    have hvalue : Nat.ofDigitChars 10 (Nat.toDigits 10 n) 0 = n := Nat.ofDigitChars_ten_toDigits
    have hlow := Decimal.pow_length_le hn
    rw [Decimal.length, hrest, List.length_cons, Nat.add_sub_cancel] at hlow
    rw [hrest] at hdigits hvalue
    have hlt := ofDigitChars_lt (List.forall_mem_cons.mp hdigits).2
    rw [Nat.ofDigitChars_cons] at hvalue
    have hzero : 10 * 0 + ('0'.toNat - '0'.toNat) = 0 := rfl
    rw [hzero] at hvalue
    omega

theorem trail_toDigits {n : ℕ} (hn : n % 10 ≠ 0) : (Nat.toDigits 10 n).getLast? ≠ some '0' := by
  have hvalue : Nat.ofDigitChars 10 (Nat.toDigits 10 n) 0 = n := Nat.ofDigitChars_ten_toDigits
  intro hlast
  obtain ⟨init, hinit⟩ := List.getLast?_eq_some_iff.mp hlast
  rw [hinit] at hvalue
  exact hn (hvalue ▸ (ofDigitChars_mod_ten init (c := '0') rfl).mpr rfl)

/-- The digits of a number with zeros in front, so that there is one more than a count of places. -/
def padded (n places : ℕ) : List Char :=
  List.replicate (places + 1 - (Nat.toDigits 10 n).length) '0' ++ Nat.toDigits 10 n

theorem isDigit_of_mem_padded {n places : ℕ} {c : Char} (h : c ∈ padded n places) :
    isDigit c = true := by
  rcases List.mem_append.mp h with h | h
  · rw [List.eq_of_mem_replicate h]
    rfl
  · exact (isNumeral_iff.mp (isNumeral_toDigits n)).2 c h

theorem ofDigitChars_padded (n places : ℕ) : Nat.ofDigitChars 10 (padded n places) 0 = n := by
  rw [padded, Nat.ofDigitChars_append, Nat.ofDigitChars_replicate_zero, Nat.mul_zero,
    Nat.ofDigitChars_ten_toDigits]

theorem length_padded (n places : ℕ) :
    (padded n places).length = max (places + 1) (Nat.toDigits 10 n).length := by
  rw [padded, List.length_append, List.length_replicate]
  omega

theorem length_padded_of_lt {n places : ℕ} (h : n < 10 ^ (places + 1)) :
    (padded n places).length = places + 1 := by
  have hle := (Nat.length_toDigits_le_iff (by decide) places.succ_pos).mpr h
  rw [length_padded]
  omega

theorem getLast?_padded (n places : ℕ) :
    (padded n places).getLast? = (Nat.toDigits 10 n).getLast? := by
  rw [padded, List.getLast?_append_of_ne_nil _ Nat.toDigits_ne_nil]

theorem isPlain_padded {c places : ℕ} (hc : c % 10 ≠ 0) (hplaces : 0 < places) :
    IsPlain ((padded c places).take ((padded c places).length - places))
      ((padded c places).drop ((padded c places).length - places)) := by
  have hlength := length_padded c places
  refine ⟨isNumeral_iff.mpr ⟨?_, ?_⟩, ?_, ?_, ?_⟩
  · rw [Ne, List.take_eq_nil_iff, not_or]
    exact ⟨by omega, List.ne_nil_of_length_pos (by omega)⟩
  · exact fun d hd => isDigit_of_mem_padded (List.mem_of_mem_take hd)
  · exact fun d hd => isDigit_of_mem_padded (List.mem_of_mem_drop hd)
  · intro hhead
    rw [List.head?_take, if_neg (by omega)] at hhead
    by_cases hfew : (Nat.toDigits 10 c).length ≤ places
    · -- There is one place before the point, and a zero stands in it.
      obtain ⟨rest, hrest⟩ := List.head?_eq_some_iff.mp hhead
      rw [show (padded c places).length - places = 1 by omega, hrest]
      rfl
    · have hplain : padded c places = Nat.toDigits 10 c := by
        rw [padded, show places + 1 - (Nat.toDigits 10 c).length = 0 by omega]
        rfl
      rw [hplain] at hhead
      have hvalue : Nat.ofDigitChars 10 (Nat.toDigits 10 c) 0 = c := Nat.ofDigitChars_ten_toDigits
      rw [lead_toDigits hhead] at hvalue
      exact absurd (hvalue ▸ rfl) hc
  · rw [List.getLast?_drop, if_neg (by omega), getLast?_padded]
    exact trail_toDigits hc

/-- A decimal is written as the plain text of its value. -/
theorem exists_isPlain_positional {c : ℕ} (hc : c % 10 ≠ 0) (j : ℤ) :
    ∃ whole fraction, IsPlain whole fraction ∧ decimalValue whole fraction = c * 10 ^ j ∧
      NumberStyle.plain.positional ⟨c, j⟩ = String.ofList (pointed whole fraction) := by
  have hpos : c ≠ 0 := fun h => hc (by rw [h])
  have hvalue : Nat.ofDigitChars 10 (Nat.toDigits 10 c) 0 = c := Nat.ofDigitChars_ten_toDigits
  obtain ⟨hsome, hdigits⟩ := isNumeral_iff.mp (isNumeral_toDigits c)
  by_cases hj : 0 ≤ j
  · lift j to ℕ using hj
    refine ⟨Nat.toDigits 10 c ++ List.replicate j '0', [], ⟨?_, nofun, ?_, by simp⟩, ?_, ?_⟩
    · refine isNumeral_iff.mpr ⟨by simp [hsome], fun d hd => ?_⟩
      rcases List.mem_append.mp hd with hd | hd
      · exact hdigits d hd
      · rw [List.eq_of_mem_replicate hd]
        rfl
    · intro hhead
      rw [List.head?_append_of_ne_nil _ hsome] at hhead
      have hzero := lead_toDigits hhead
      rw [hzero] at hvalue
      exact absurd hvalue.symm hpos
    · rw [decimalValue_eq_add, ofDigitChars_append_zero, hvalue, Nat.ofDigitChars_replicate_zero]
      simp
    · simp [NumberStyle.positional, NumberStyle.plain, pointed, hpos]
  · obtain ⟨places, rfl, hplaces⟩ : ∃ places : ℕ, j = -places ∧ 0 < places :=
      ⟨(-j).toNat, by omega, by omega⟩
    have hlength := length_padded c places
    have hfraction : ((padded c places).drop ((padded c places).length - places)).length =
        places := by
      rw [List.length_drop]
      omega
    refine ⟨_, _, isPlain_padded hc hplaces, ?_, ?_⟩
    · rw [decimalValue, List.take_append_drop, ofDigitChars_padded, hfraction, zpow_neg,
        zpow_natCast, div_eq_mul_inv]
    · have hpoint : (padded c places).drop ((padded c places).length - places) ≠ [] := by
        intro h
        rw [h] at hfraction
        exact hplaces.ne hfraction
      rw [pointed, if_neg hpoint, NumberStyle.positional, if_neg hj]
      simp [padded]

/-! ### The text of a rounded decimal -/

/-- A natural has at most fifteen digits, zeros at its end apart. -/
def FewDigits (n : ℕ) : Prop := ∃ c t, c < 10 ^ 15 ∧ n = c * 10 ^ t

theorem FewDigits.exists_stripped {n : ℕ} (h : FewDigits n) (hn : n ≠ 0) :
    ∃ c t, c < 10 ^ 15 ∧ c % 10 ≠ 0 ∧ n = c * 10 ^ t := by
  obtain ⟨c, t, hc, hct⟩ := h
  obtain ⟨t', c', hc', hct'⟩ := Nat.exists_eq_pow_mul_and_not_dvd hn 10 (by decide)
  have hzero : c' % 10 ≠ 0 := mt Nat.dvd_of_mod_eq_zero hc'
  rw [Nat.mul_comm] at hct'
  obtain ⟨s, -, rfl⟩ := Decimal.exists_of_mul_pow_eq hzero (hct.symm.trans hct')
  exact ⟨c', t', (Nat.le_mul_of_pos_right _ (by positivity)).trans_lt hc, hzero, hct'⟩

theorem text_plain_finite (negative : Bool) (m : ℕ) (e : ℤ) :
    NumberStyle.plain.text (.finite negative m e) =
      (if negative then "-" else "") ++ NumberStyle.plain.positional (Decimal.shortest m e) := by
  simp only [NumberStyle.text, NumberStyle.decimalText, NumberStyle.plain, Option.any_none,
    Bool.or_self, Bool.false_eq_true, and_false, if_false]
  split <;> simp

/-- What rounds to a number of less than 53 bits is below all that have 53. -/
theorem two_pow_le_of_roundsTo {m : ℕ} {e : ℤ} {x : ℚ} (hm : IsCanonical m e) (h : RoundsTo x m e)
    (hx : leastNormal ≤ x) : 2 ^ 52 ≤ m := by
  by_contra hlt
  have he : e = minExponent := hm.normal.resolve_left hlt
  have hm' : (m : ℚ) + 1 ≤ 2 ^ 52 := by exact_mod_cast not_le.mp hlt
  have hbelow : ((m : ℚ) + 1 / 2) * 2 ^ e < leastNormal := by
    rw [leastNormal, he, zpow_add₀ two_ne_zero, mul_comm]
    gcongr
    norm_num
    linarith
  exact absurd (hx.trans h.le_high) (not_le.mpr hbelow)

/-- A decimal of at most fifteen digits is written plainly by the number that it rounds to. -/
theorem text_of_roundsTo {negative : Bool} {m n : ℕ} {e k : ℤ} (hm : IsCanonical m e)
    (h : RoundsTo (n * 10 ^ k) m e) (hfew : FewDigits n)
    (hleast : n ≠ 0 → leastNormal ≤ n * 10 ^ k) (hplain : IsPlain whole fraction)
    (hvalue : decimalValue whole fraction = n * 10 ^ k) :
    NumberStyle.plain.text (.finite negative m e) =
      (if negative then "-" else "") ++ String.ofList (pointed whole fraction) := by
  rw [text_plain_finite]
  congr 1
  by_cases hn : n = 0
  · have hzero : m = 0 := by
      have hexact := RoundsTo.eq_of_dyadic (k := 0) (j := 0) (by simpa [hn] using h) hm (by decide)
        (by decide)
      simpa [zpow_ne_zero] using hexact
    have hplain' : IsPlain ['0'] [] := ⟨rfl, nofun, fun _ => rfl, by simp⟩
    obtain ⟨rfl, rfl⟩ := hplain.eq_of_value hplain'
      (by rw [hvalue, hn]; simp [decimalValue, Nat.ofDigitChars_cons])
    simp [hzero, Decimal.shortest, NumberStyle.positional, NumberStyle.plain, pointed,
      Nat.toDigits_zero]
  · obtain ⟨c, t, hc, hzero, rfl⟩ := hfew.exists_stripped hn
    have hsame : ((c * 10 ^ t : ℕ) : ℚ) * 10 ^ k = c * 10 ^ (k + t) :=
      (Decimal.mul_zpow_add_natCast c t k).symm
    have hbits := two_pow_le_of_roundsTo hm h (hleast hn)
    rw [hsame] at h hvalue
    obtain ⟨whole', fraction', hplain', hvalue', htext⟩ := exists_isPlain_positional hzero (k + t)
    obtain ⟨rfl, rfl⟩ := hplain.eq_of_value hplain' (hvalue.trans hvalue'.symm)
    rw [Decimal.shortest_eq hbits hc hzero h, htext]

/-! ### Lengths of time in seconds -/

namespace Duration

variable {d : ℕ}

theorem second_eq : second = 10 ^ (8 + 1) := rfl

/-- Whole seconds and the fraction of one make up a length of time. -/
theorem div_add_mod_second (d : ℕ) :
    ((d / second : ℕ) : ℚ) + (d % second : ℕ) / 10 ^ 9 = d * 10 ^ (-9 : ℤ) := by
  have hsplit : (d : ℚ) = (d / second : ℕ) * 10 ^ 9 + (d % second : ℕ) := by
    exact_mod_cast (Nat.div_add_mod' d second).symm
  rw [hsplit]
  norm_num
  ring

/-- The digits of a fraction are those of its numerator, with zeros in front up to all places. -/
theorem fractionDigits_eq {part p : ℕ} (h : part < 10 ^ (p + 1)) :
    fractionDigits part (10 ^ (p + 1)) = withoutTrail (padded part p) := by
  have hdigits : ∀ c ∈ padded part p, isDigit c = true := fun c => isDigit_of_mem_padded
  have hone := toDigits_behind_one hdigits
  rw [length_padded_of_lt h, ofDigitChars_padded] at hone
  rw [fractionDigits, hone]
  rfl

/-- A length of time in exact seconds is written as the plain text of its value. -/
theorem exists_isPlain_inUnit (d : ℕ) :
    ∃ whole fraction, IsPlain whole fraction ∧
      decimalValue whole fraction = d * 10 ^ (-9 : ℤ) ∧
      inUnit d second "s" = String.ofList (pointed whole fraction) ++ "s" := by
  have hpart : d % second < 10 ^ (8 + 1) := Nat.mod_lt d (by decide)
  have hdigits : ∀ c ∈ padded (d % second) 8, isDigit c = true := fun c => isDigit_of_mem_padded
  refine ⟨Nat.toDigits 10 (d / second), withoutTrail (padded (d % second) 8), ?_, ?_, ?_⟩
  · have h := isPlain_trimmed (List.forall_mem_nil _) hdigits
    exact ⟨isNumeral_toDigits _, h.digits, lead_toDigits, h.trail⟩
  · rw [decimalValue_withoutTrail, decimalValue_eq_add, Nat.ofDigitChars_ten_toDigits,
      ofDigitChars_padded, length_padded_of_lt hpart]
    exact div_add_mod_second d
  · have hfraction := fractionDigits_eq hpart
    rw [← second_eq] at hfraction
    rw [inUnit, hfraction, Nat.toString_eq_ofList_toDigits]
    simp only [pointed]
    by_cases h : withoutTrail (padded (d % second) 8) = []
    · simp [h]
    · simp [h, String.append_assoc]

theorem represents_second : Represents (Binary64.ofNat second) (10 ^ 9) := by
  have h := Represents.ofNat (n := second) (by decide)
  exact_mod_cast h

/-- Below a second the fraction is rounded once. -/
theorem isNearest_seconds_of_lt (h : d < second) :
    IsNearest (seconds d) (d * 10 ^ (-9 : ℤ)) := by
  have hd : (d : ℚ) ≤ 10 ^ 9 := by exact_mod_cast h.le
  have hquotient : (d : ℚ) / 10 ^ 9 = d * 10 ^ (-9 : ℤ) := by norm_num [div_eq_mul_inv]
  have hbelow : (d : ℚ) / 10 ^ 9 < limit := by
    refine lt_limit_of_le ?_
    rw [div_le_iff₀ (by positivity)]
    linarith
  have hfraction := (Represents.ofNat (n := d) (h.le.trans (by decide))).div represents_second
    (by norm_num) hbelow
  rw [hquotient] at hfraction
  obtain ⟨m, e, hdiv, hm, hrounds⟩ := hfraction
  -- Adding zero to the rounded fraction leaves it as it is.
  have hself : Represents (.finite false m e) (m * 2 ^ e) := ⟨m, e, rfl, hm, rfl⟩
  have hzero : Represents (Binary64.ofNat 0) 0 := by
    have h := Represents.ofNat (n := 0) (by decide)
    exact_mod_cast h
  have hsum := hzero.add hself (by rw [zero_add]; exact hm.isDyadic)
  rw [zero_add] at hsum
  rw [seconds, Nat.div_eq_of_lt h, Nat.mod_eq_of_lt h, hdiv, hsum.unique hself]
  exact ⟨m, e, rfl, hm, hrounds⟩

/-- Where the fraction is a number itself, nothing is rounded.  A second has five to the ninth times
a power of two of nanoseconds. -/
theorem isNearest_seconds_of_dvd (h : 5 ^ 9 ∣ d) (hd : d < 2 ^ 64) :
    IsNearest (seconds d) (d * 10 ^ (-9 : ℤ)) := by
  have hwhole : (d / second : ℕ) < 2 ^ 35 := Nat.div_lt_of_lt_mul (hd.trans_le (by decide))
  obtain ⟨k, hk⟩ : 5 ^ 9 ∣ d % second := (Nat.dvd_mod_iff (by decide)).mpr h
  have hk' : k < 2 ^ 9 := by
    have hlt : 5 ^ 9 * k < 10 ^ 9 := hk ▸ Nat.mod_lt d (by decide)
    omega
  have hfraction : ((d % second : ℕ) : ℚ) / 10 ^ 9 = k * 2 ^ (-9 : ℤ) := by
    rw [hk]
    push_cast
    norm_num
    ring
  have hsum : ((d / second : ℕ) : ℚ) + (d % second : ℕ) / 10 ^ 9 =
      (d / second * 2 ^ 9 + k : ℕ) * 2 ^ (-9 : ℤ) := by
    rw [hfraction]
    push_cast
    norm_num
    ring
  have hk'' : (k : ℚ) ≤ 2 ^ 9 := by exact_mod_cast hk'.le
  have hdyadic : IsDyadic ((d % second : ℕ) / 10 ^ 9) := by
    refine ⟨k, -9, by omega, by decide, hfraction, lt_limit_of_le ?_⟩
    rw [hfraction]
    norm_num
    linarith
  have hdyadic' : IsDyadic ((d / second : ℕ) + (d % second : ℕ) / 10 ^ 9) := by
    refine ⟨d / second * 2 ^ 9 + k, -9, by omega, by decide, hsum, lt_limit_of_le ?_⟩
    have hd' : (d : ℚ) ≤ 2 ^ 64 := by exact_mod_cast hd.le
    calc ((d / second : ℕ) : ℚ) + (d % second : ℕ) / 10 ^ 9 = d * 10 ^ (-9 : ℤ) :=
          div_add_mod_second d
      _ ≤ d * 1 := by
        gcongr
        norm_num
      _ ≤ 2 ^ 64 := by rwa [mul_one]
  have hrest := ((Represents.ofNat (n := d % second)
    ((Nat.mod_lt d (by decide)).le.trans (by decide))).div represents_second (by norm_num)
    hdyadic.lt_limit).represents hdyadic
  have hseconds := (Represents.ofNat (n := d / second) (hwhole.le.trans (by decide))).add hrest
    hdyadic'
  rw [← div_add_mod_second]
  exact hseconds.isNearest

/-- A length of time below a second, or one that is a number of seconds itself, is written exactly
if it has few digits. -/
theorem text_eq_inUnit (hexact : d < second ∨ 5 ^ 9 ∣ d) (hfew : FewDigits d) (hd : d < 2 ^ 64) :
    text d = inUnit d second "s" := by
  obtain ⟨m, e, hseconds, hm, hrounds⟩ : IsNearest (seconds d) (d * 10 ^ (-9 : ℤ)) :=
    hexact.elim isNearest_seconds_of_lt fun h => isNearest_seconds_of_dvd h hd
  obtain ⟨whole, fraction, hplain, hvalue, htext⟩ := exists_isPlain_inUnit d
  have hleast : d ≠ 0 → leastNormal ≤ d * 10 ^ (-9 : ℤ) := by
    intro hpos
    have hone : (1 : ℚ) ≤ d := by exact_mod_cast Nat.one_le_iff_ne_zero.mpr hpos
    calc leastNormal ≤ 2 ^ (-30 : ℤ) := zpow_le_zpow_right₀ (by norm_num) (by decide)
      _ ≤ 1 * 10 ^ (-9 : ℤ) := by norm_num
      _ ≤ d * 10 ^ (-9 : ℤ) := by gcongr
  rw [Duration.text, hseconds, text_of_roundsTo hm hrounds hfew hleast hplain hvalue, htext]
  rfl

end Duration

end BrowserScript
