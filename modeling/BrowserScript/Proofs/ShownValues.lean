import BrowserScript.Proofs.PlainDecimals
import BrowserScript.Proofs.ValueForms

/-!
# Values read and shown again

A text without a declared type is read by its form and shown again by its value.  What has no form,
or a value that cannot be held, comes back as it was.  Of the rest the value comes back, in one
spelling: an integer without a sign and zeros that it does not need, a number without zeros that it
does not need, a duration in seconds.
-/

namespace BrowserScript.Reading

open Binary64

variable {s t : String}

theorem le_of_sumGroups {groups : List TimeGroup} {total d : Nat} (htotal : total ≤ maxNanoseconds)
    (h : sumGroups total groups = some d) : d ≤ maxNanoseconds := by
  induction groups generalizing total with
  | nil =>
    cases h
    exact htotal
  | cons g groups ih =>
    rw [sumGroups] at h
    obtain ⟨n, -, hrest⟩ := Option.bind_eq_some_iff.mp h
    split at hrest
    case isTrue hnext => exact ih hnext hrest
    case isFalse => cases hrest

theorem lt_of_duration? {d : Duration} (h : duration? s = some d) : d < 2 ^ 64 := by
  obtain ⟨groups, -, hsum⟩ := Option.bind_eq_some_iff.mp h
  exact Nat.lt_succ_of_le (le_of_sumGroups (Nat.zero_le _) hsum)

theorem fits_of_duration? {d : Duration} (h : duration? s = some d) :
    Form.duration.fits s.toList = true := by
  obtain ⟨groups, hgroups, -⟩ := Option.bind_eq_some_iff.mp h
  exact Option.isSome_iff_exists.mpr ⟨groups, hgroups⟩

/-- Only a boolean word is read as a boolean without being asked for one. -/
theorem lowerAscii_mem_of_auto {b : Bool} (h : auto s = .boolean b) :
    Text.lowerAscii s ∈ booleanWords := by
  have hread : boolean? s = some b := by
    have hvalue := value?_auto s
    rw [h] at hvalue
    simpa [Value.type, value?] using hvalue
  have hfits : Form.boolean.fits s.toList = true := by
    rcases auto_cases s with ⟨f, hfits, hauto⟩ | ⟨-, hauto⟩
    · rw [h] at hauto
      cases f with
      | boolean => exact hfits
      | integer => cases hnone : integer? s <;> simp [Form.read?, hnone] at hauto
      | number => cases hnone : decimal? s <;> simp [Form.read?, hnone] at hauto
      | duration => cases hnone : duration? s <;> simp [Form.read?, hnone] at hauto
    · simp [h] at hauto
  -- The digits that stand for booleans are too short for a word.
  have hlength : (Text.lowerAscii s).toList.length ≠ 1 := by
    obtain ⟨word, hword, hfold⟩ := isBooleanWord_iff.mp hfits
    have hlong : ∀ word ∈ booleanWords, word.toList.length ≠ 1 := by decide +kernel
    have hsame := congrArg List.length hfold
    rw [List.length_map] at hsame
    simpa [Text.lowerAscii, hsame] using hlong word hword
  have hlong : ∀ word ∈ ["true", "yes", "on", "1"] ++ ["false", "no", "off", "0"],
      word.toList.length ≠ 1 → word ∈ booleanWords := by decide +kernel
  refine hlong _ (List.mem_append.mpr ?_) hlength
  unfold boolean? at hread
  dsimp only at hread
  split at hread
  case isTrue hmem => exact .inl (List.contains_iff_mem.mp hmem)
  case isFalse =>
    split at hread
    case isTrue hmem => exact .inr (List.contains_iff_mem.mp hmem)
    case isFalse => cases hread

/-- The spelling in which the value of a text is shown.  A number with a point is covered up to
fifteen digits within the range of full precision.  A duration is covered up to fifteen digits if it
is below a second or a multiple of the 512th part of one; five to the ninth nanoseconds are one such
part. -/
inductive ShownAs (s : String) : String → Prop
  | text (h : ∀ f : Form, s.toList ∈ f.pattern → f.read? s = none) : ShownAs s s
  | integer {n : Int} (h : integer? s = some n) : ShownAs s (toString n)
  | number {before whole fraction : List Char}
      (hs : s.toList = before ++ (whole ++ '.' :: fraction)) (hbefore : IsSign before)
      (hwhole : ∀ c ∈ whole, isDigit c = true) (hfraction : isNumeral fraction = true)
      (hfew : FewDigits (Nat.ofDigitChars 10 (whole ++ fraction) 0))
      (hlow : decimalValue whole fraction ≠ 0 → leastNormal ≤ decimalValue whole fraction)
      (hhigh : decimalValue whole fraction < limit) :
      ShownAs s ((if before = ['-'] then "-" else "") ++ String.ofList (plainly whole fraction))
  | duration {d : Duration} (h : duration? s = some d)
      (hexact : d < Duration.second ∨ 5 ^ 9 ∣ d) (hfew : FewDigits d) :
      ShownAs s (Duration.inUnit d Duration.second "s")

theorem auto_of_pointed {before whole fraction : List Char}
    (hs : s.toList = before ++ (whole ++ '.' :: fraction)) (hbefore : IsSign before)
    (hwhole : ∀ c ∈ whole, isDigit c = true) (hfraction : isNumeral fraction = true) :
    auto s = .number (ofDecimal (decide (before = ['-']))
      (Nat.ofDigitChars 10 (whole ++ fraction) 0) (-fraction.length)) := by
  obtain ⟨hsome, hdigits⟩ := isNumeral_iff.mp hfraction
  have hform := decimalForm?_append hbefore hwhole hdigits
  rw [← hs] at hform
  have hfits : Form.number.fits s.toList = true :=
    isPointed_iff.mpr ⟨before, whole, fraction, hbefore, hwhole, hfraction, hs⟩
  rw [auto_of_fits hfits, Form.read?, decimal?, hform]
  simp [DecimalForm.number, numeral_eq_ofDigitChars]

/-- A number of few digits is shown with the digits that it was read from. -/
theorem text_ofDecimal {negative : Bool} {whole fraction : List Char}
    (hwhole : ∀ c ∈ whole, isDigit c = true) (hfraction : ∀ c ∈ fraction, isDigit c = true)
    (hfew : FewDigits (Nat.ofDigitChars 10 (whole ++ fraction) 0))
    (hlow : decimalValue whole fraction ≠ 0 → leastNormal ≤ decimalValue whole fraction)
    (hhigh : decimalValue whole fraction < limit) :
    NumberStyle.plain.text
        (ofDecimal negative (Nat.ofDigitChars 10 (whole ++ fraction) 0) (-fraction.length)) =
      (if negative then "-" else "") ++ String.ofList (plainly whole fraction) := by
  have hvalue : decimalValue whole fraction =
      Nat.ofDigitChars 10 (whole ++ fraction) 0 * 10 ^ (-fraction.length : ℤ) := by
    rw [decimalValue, zpow_neg, zpow_natCast, div_eq_mul_inv]
  have htrimmed := (decimalValue_withoutLead whole (withoutTrail fraction)).trans
    (decimalValue_withoutTrail whole fraction)
  have hlow' : Nat.ofDigitChars 10 (whole ++ fraction) 0 ≠ 0 →
      leastNormal ≤ Nat.ofDigitChars 10 (whole ++ fraction) 0 * 10 ^ (-fraction.length : ℤ) := by
    intro hpos
    rw [← hvalue]
    refine hlow ?_
    rw [hvalue]
    positivity
  rw [hvalue] at hhigh htrimmed
  obtain ⟨num, den, hden, hquotient, hround⟩ := ofDecimal_eq_round negative hlow' hhigh
  rw [← hquotient] at hhigh
  obtain ⟨m, e, hfinite, hm, hrounds⟩ := exists_round_eq negative num hden hhigh
  rw [hquotient] at hrounds
  rw [hround, hfinite]
  exact text_of_roundsTo hm hrounds hfew hlow' (isPlain_trimmed hwhole hfraction) htrimmed

/-- A text is shown again by its value. -/
theorem ShownAs.toText_auto (h : ShownAs s t) : (auto s).toText = t := by
  cases h with
  | text hnone =>
    rcases auto_cases s with ⟨f, hfits, hauto⟩ | ⟨-, hauto⟩
    · rw [hauto, hnone f (f.fits_iff_mem.mp hfits)]
      rfl
    · rw [hauto]
      rfl
  | integer hn => rw [auto_eq_integer_iff.mpr hn, Value.toText]
  | @number before whole fraction hs hbefore hwhole hfraction hfew hlow hhigh =>
    rw [auto_of_pointed hs hbefore hwhole hfraction, Value.toText,
      text_ofDecimal hwhole (isNumeral_iff.mp hfraction).2 hfew hlow hhigh]
    simp
  | duration hd hexact hfew =>
    rw [auto_of_fits (fits_of_duration? hd), Form.read?, hd]
    exact Duration.text_eq_inUnit hexact hfew (lt_of_duration? hd)

end BrowserScript.Reading
