import BrowserScript.Value.Reading
import Mathlib.Data.List.Basic

/-!
# Numerals and signs

Runs of digits as they stand in texts: where a run ends, the number that it spells, and the decimal
text of a number as such a run.  An integer is spelled by a run with or without a sign before it;
zeros at the front of the run change nothing.
-/

namespace BrowserScript.Reading

variable {c : Char} {cs ds rest : List Char}

/-! ### Runs of digits -/

theorem numeral_eq_ofDigitChars (start : Nat) (cs : List Char) :
    numeral start cs = Nat.ofDigitChars 10 cs start := by
  induction cs generalizing start with
  | nil => exact Nat.ofDigitChars_nil.symm
  | cons c cs ih =>
    rw [Nat.ofDigitChars_cons, ← ih]
    rfl

theorem isNumeral_iff : isNumeral cs = true ↔ cs ≠ [] ∧ ∀ c ∈ cs, isDigit c = true := by
  simp [isNumeral]

theorem isNumeral_toDigits (n : Nat) : isNumeral (Nat.toDigits 10 n) = true := by
  refine isNumeral_iff.mpr ⟨Nat.toDigits_ne_nil, fun c hc => ?_⟩
  exact Nat.isDigit_of_mem_toDigits (by decide) (by decide) hc

/-- A run of digits ends where something else follows it. -/
def Breaks (rest : List Char) : Prop := ∀ c ∈ rest.head?, isDigit c = false

theorem breaks_cons (h : isDigit c = false) : Breaks (c :: rest) := by
  intro d hd
  rw [List.head?_cons, Option.mem_some_iff] at hd
  rwa [← hd]

theorem takeWhile_isDigit_append (hds : ∀ c ∈ ds, isDigit c = true) (hrest : Breaks rest) :
    (ds ++ rest).takeWhile isDigit = ds := by
  rw [List.takeWhile_append_of_pos hds]
  cases rest with
  | nil => simp
  | cons c rest => simp [hrest c rfl]

theorem dropWhile_isDigit_append (hds : ∀ c ∈ ds, isDigit c = true) (hrest : Breaks rest) :
    (ds ++ rest).dropWhile isDigit = rest := by
  rw [List.dropWhile_append_of_pos hds]
  cases rest with
  | nil => rfl
  | cons c rest => simp [hrest c rfl]

theorem isDigit_of_mem_takeWhile (h : c ∈ cs.takeWhile isDigit) : isDigit c = true :=
  List.all_eq_true.mp List.all_takeWhile c h

/-- Digits before and after a point; with none after it there is no point either. -/
def pointed (whole fraction : List Char) : List Char :=
  whole ++ if fraction = [] then [] else '.' :: fraction

/-! ### Signs -/

def IsSign (sign : List Char) : Prop := sign = [] ∨ sign = ['+'] ∨ sign = ['-']

theorem exists_sign (cs : List Char) :
    ∃ before, IsSign before ∧ cs = before ++ (sign cs).2 ∧
      ((sign cs).1 = true ↔ before = ['-']) := by
  unfold sign
  split
  · exact ⟨['-'], .inr (.inr rfl), rfl, by simp⟩
  · exact ⟨['+'], .inr (.inl rfl), rfl, by simp⟩
  · exact ⟨[], .inl rfl, rfl, by simp⟩

/-- Before what starts with no sign, a sign is taken off whole. -/
theorem sign_append {before : List Char} (hbefore : IsSign before)
    (hcs : ∀ c ∈ cs.head?, c ≠ '+' ∧ c ≠ '-') :
    sign (before ++ cs) = (decide (before = ['-']), cs) := by
  rcases hbefore with rfl | rfl | rfl
  · cases cs with
    | nil => rfl
    | cons c cs =>
      obtain ⟨hplus, hminus⟩ := hcs c rfl
      rw [List.nil_append, sign]
      · rfl
      · rintro rest ⟨⟩
        exact hminus rfl
      · rintro rest ⟨⟩
        exact hplus rfl
  · rfl
  · rfl

theorem isDigit_ne_sign (h : isDigit c = true) : c ≠ '+' ∧ c ≠ '-' := by
  refine ⟨?_, ?_⟩ <;> rintro rfl <;> simp [isDigit] at h

theorem sign_append_numeral {before : List Char} (hbefore : IsSign before)
    (hds : isNumeral ds = true) : sign (before ++ ds) = (decide (before = ['-']), ds) := by
  refine sign_append hbefore fun c hc => isDigit_ne_sign ?_
  exact (isNumeral_iff.mp hds).2 c (List.mem_of_mem_head? hc)

/-! ### Integers -/

/-- A text spells an integer: digits, and before them perhaps a sign. -/
inductive SpellsInteger : List Char → Int → Prop
  | plain {ds : List Char} (hds : isNumeral ds = true) :
      SpellsInteger ds (Nat.ofDigitChars 10 ds 0)
  | plus {ds : List Char} (hds : isNumeral ds = true) :
      SpellsInteger ('+' :: ds) (Nat.ofDigitChars 10 ds 0)
  | minus {ds : List Char} (hds : isNumeral ds = true) :
      SpellsInteger ('-' :: ds) (-(Nat.ofDigitChars 10 ds 0 : Int))

def signed (negative : Bool) (ds : List Char) : Int :=
  if negative then -(numeral 0 ds : Int) else numeral 0 ds

theorem spellsInteger_iff {n : Int} : SpellsInteger cs n ↔
    isInteger cs = true ∧ n = signed (sign cs).1 (sign cs).2 := by
  constructor
  · rintro (@⟨ds, hds⟩ | @⟨ds, hds⟩ | @⟨ds, hds⟩)
    · have hsign := sign_append_numeral (.inl rfl) hds
      rw [List.nil_append] at hsign
      exact ⟨by rw [isInteger, hsign]; exact hds, by simp [hsign, signed, numeral_eq_ofDigitChars]⟩
    · exact ⟨hds, by simp [sign, signed, numeral_eq_ofDigitChars]⟩
    · exact ⟨hds, by simp [sign, signed, numeral_eq_ofDigitChars]⟩
  · rintro ⟨hform, rfl⟩
    obtain ⟨before, hbefore, hcs, hminus⟩ := exists_sign cs
    rw [isInteger] at hform
    generalize sign cs = parts at *
    obtain ⟨negative, ds⟩ := parts
    rcases hbefore with rfl | rfl | rfl <;> simp only at hcs hminus hform <;> subst hcs
    · have hplain : negative = false := by simpa using hminus
      simpa [signed, hplain, numeral_eq_ofDigitChars] using SpellsInteger.plain hform
    · have hplain : negative = false := by simpa using hminus
      simpa [signed, hplain, numeral_eq_ofDigitChars] using SpellsInteger.plus hform
    · have hnegative : negative = true := by simpa using hminus
      simpa [signed, hnegative, numeral_eq_ofDigitChars] using SpellsInteger.minus hform

/-- A text spells at most one integer. -/
theorem SpellsInteger.unique {n k : Int} (hn : SpellsInteger cs n) (hk : SpellsInteger cs k) :
    n = k := by
  rw [(spellsInteger_iff.mp hn).2, (spellsInteger_iff.mp hk).2]

theorem integer?_eq_some_iff {s : String} {n : Int} :
    integer? s = some n ↔ SpellsInteger s.toList n ∧ minInteger ≤ n ∧ n ≤ maxInteger := by
  rw [spellsInteger_iff, and_assoc]
  unfold integer?
  by_cases hform : isInteger s.toList = true
  · rw [if_pos hform]
    change (if minInteger ≤ signed (sign s.toList).1 (sign s.toList).2 ∧
      signed (sign s.toList).1 (sign s.toList).2 ≤ maxInteger then some _ else none) = _ ↔ _
    split
    case isTrue hrange =>
      constructor
      · rintro ⟨⟩
        exact ⟨hform, rfl, hrange⟩
      · rintro ⟨-, rfl, -⟩
        rfl
    case isFalse hrange =>
      constructor
      · rintro ⟨⟩
      · rintro ⟨-, rfl, hn⟩
        exact absurd hn hrange
  · rw [if_neg hform]
    simp [hform]

/-- The decimal text of an integer spells it. -/
theorem spellsInteger_toString (n : Int) : SpellsInteger (toString n).toList n := by
  have hrepr : toString n = n.repr := rfl
  have hdigits (k : Nat) : k.repr.toList = Nat.toDigits 10 k := by
    rw [Nat.repr_eq_ofList_toDigits, String.toList_ofList]
  have hvalue (k : Nat) : Nat.ofDigitChars 10 (Nat.toDigits 10 k) 0 = k :=
    Nat.ofDigitChars_ten_toDigits
  rw [hrepr, Int.repr_eq_if]
  split
  case isTrue hn =>
    rw [hdigits]
    have h := SpellsInteger.plain (isNumeral_toDigits n.toNat)
    rwa [hvalue, Int.toNat_of_nonneg hn] at h
  case isFalse hn =>
    rw [String.toList_append, hdigits]
    have h := SpellsInteger.minus (isNumeral_toDigits (-n).toNat)
    rwa [hvalue, Int.toNat_of_nonneg (by omega), Int.neg_neg] at h

end BrowserScript.Reading
