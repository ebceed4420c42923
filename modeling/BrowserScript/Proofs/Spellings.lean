import BrowserScript.Escape
import Mathlib.Data.List.Forall2
import Mathlib.Data.List.TakeWhile
import Mathlib.Data.Nat.Digits.Defs

/-!
# Spellings of characters

A character other than the backslash may be written as itself, and every character as a sequence
behind a backslash: a letter, two hexadecimal digits behind `x`, or one to six of them in braces
behind `u`.  No sequence is the start of another one, so a text that is put together from spellings
can be taken apart again, whatever stands next to them.  A backslash that starts no sequence stands
for itself; it is malformed for one of a few reasons, which are listed here.
-/

namespace BrowserScript.Escape

def IsHexDigit (c : Char) (d : Nat) : Prop :=
  d < 16 ∧ (c = d.digitChar ∨ c = d.digitChar.toUpper)

instance (c : Char) (d : Nat) : Decidable (IsHexDigit c d) := inferInstanceAs (Decidable (_ ∧ _))

def IsNumeral (digits : List Char) (n : Nat) : Prop :=
  ∃ ds, List.Forall₂ IsHexDigit digits ds ∧ n = Nat.ofDigits 16 ds.reverse

/-- The letters that name a character behind a backslash, with that character. -/
def shortForms : List (Char × Char) :=
  [('n', '\n'), ('t', '\t'), ('r', '\r'), ('0', Char.ofNat 0), ('\\', '\\'), ('\'', '\''),
    ('"', '"')]

inductive Sequence : Char → List Char → Prop
  | short {letter c : Char} (h : (letter, c) ∈ shortForms) : Sequence c [letter]
  | byte {c : Char} {digits : List Char} (hlength : digits.length = 2)
    (h : IsNumeral digits c.toNat) : Sequence c ('x' :: digits)
  | braced {c : Char} {digits : List Char} (hsome : 1 ≤ digits.length)
    (hfew : digits.length ≤ 6) (h : IsNumeral digits c.toNat) :
    Sequence c ('u' :: '\x7b' :: (digits ++ ['\x7d']))

inductive Spells : Char → List Char → Prop
  | itself {c : Char} (h : c ≠ '\\') : Spells c [c]
  | sequence {c : Char} {part : List Char} (h : Sequence c part) : Spells c ('\\' :: part)

/-- Why the text behind a backslash starts with no sequence. -/
inductive Malformed : List Char → Prop
  | atEnd : Malformed []
  | unknownLetter {letter : Char} {rest : List Char} (hshort : letter ∉ shortForms.map Prod.fst)
    (hlong : letter ≠ 'x' ∧ letter ≠ 'u') : Malformed (letter :: rest)
  | fewDigits {digits rest : List Char} (hfew : digits.length < 2)
    (hstop : ∀ c ∈ rest.head?, ∀ d, ¬ IsHexDigit c d) : Malformed ('x' :: (digits ++ rest))
  | unopened {rest : List Char} (h : rest.head? ≠ some '\x7b') : Malformed ('u' :: rest)
  | unclosed {rest : List Char} (h : '\x7d' ∉ rest) : Malformed ('u' :: '\x7b' :: rest)
  | noDigits (rest : List Char) : Malformed ('u' :: '\x7b' :: '\x7d' :: rest)
  | manyDigits {digits : List Char} (rest : List Char) (hclose : '\x7d' ∉ digits)
    (h : 6 < digits.length) : Malformed ('u' :: '\x7b' :: (digits ++ '\x7d' :: rest))
  | noNumeral {digits : List Char} (rest : List Char) (hclose : '\x7d' ∉ digits) {c : Char}
    (hc : c ∈ digits) (h : ∀ d, ¬ IsHexDigit c d) :
    Malformed ('u' :: '\x7b' :: (digits ++ '\x7d' :: rest))
  | surrogate {digits : List Char} (rest : List Char) {n : Nat} (h : IsNumeral digits n)
    (hlow : 0xd800 ≤ n) (hhigh : n ≤ 0xdfff) :
    Malformed ('u' :: '\x7b' :: (digits ++ '\x7d' :: rest))
  | tooLarge {digits : List Char} (rest : List Char) {n : Nat} (h : IsNumeral digits n)
    (hlarge : 0x10ffff < n) : Malformed ('u' :: '\x7b' :: (digits ++ '\x7d' :: rest))

/-- What a text stands for: each spelling for its character, and a backslash that starts no sequence
for itself, with the text behind it read from its first character on. -/
inductive Reads : List Char → List Char → Prop
  | nil : Reads [] []
  | spelling {c : Char} {part rest out : List Char} (h : Spells c part) (hrest : Reads rest out) :
    Reads (part ++ rest) (c :: out)
  | kept {rest out : List Char} (h : Malformed rest) (hrest : Reads rest out) :
    Reads ('\\' :: rest) ('\\' :: out)

/-! ### Numerals -/

theorem bounds_of_hexValue? {c : Char} {d : Nat} (h : hexValue? c = some d) :
    c.toNat < 128 ∧ d < 16 := by
  have hle : ∀ {a b : Char}, a ≤ b → a.toNat ≤ b.toNat := fun h => UInt32.le_iff_toNat_le.mp h
  obtain ⟨h0, h9, ha, hf, hA, hF⟩ : '0'.toNat = 48 ∧ '9'.toNat = 57 ∧ 'a'.toNat = 97 ∧
      'f'.toNat = 102 ∧ 'A'.toNat = 65 ∧ 'F'.toNat = 70 := by decide
  unfold hexValue? at h
  split_ifs at h with hdigit hlower hupper
  all_goals
    obtain rfl := Option.some.inj h
  · have := hle hdigit.1
    have := hle hdigit.2
    omega
  · have := hle hlower.1
    have := hle hlower.2
    omega
  · have := hle hupper.1
    have := hle hupper.2
    omega

theorem hexValue?_eq_some_iff {c : Char} {d : Nat} : hexValue? c = some d ↔ IsHexDigit c d := by
  constructor
  · intro h
    obtain ⟨hc, hd⟩ := bounds_of_hexValue? h
    have hall : ∀ n < 128, ∀ d < 16, hexValue? (Char.ofNat n) = some d →
        Char.ofNat n = d.digitChar ∨ Char.ofNat n = d.digitChar.toUpper := by decide +kernel
    have hspelled := hall c.toNat hc d hd
    rw [Char.ofNat_toNat] at hspelled
    exact ⟨hd, hspelled h⟩
  · rintro ⟨hd, h⟩
    have hall : ∀ d < 16, hexValue? d.digitChar = some d ∧
        hexValue? d.digitChar.toUpper = some d := by decide
    rcases h with rfl | rfl
    · exact (hall d hd).1
    · exact (hall d hd).2

theorem hexNumber?_eq_some_iff {digits : List Char} {start n : Nat} :
    hexNumber? start digits = some n ↔ ∃ ds, List.Forall₂ IsHexDigit digits ds ∧
      n = Nat.ofDigits 16 ds.reverse + 16 ^ ds.length * start := by
  induction digits generalizing start with
  | nil => simp [hexNumber?, eq_comm]
  | cons c digits ih =>
    simp only [hexNumber?, Option.bind_eq_some_iff, hexValue?_eq_some_iff, ih,
      List.forall₂_cons_left_iff]
    constructor
    · rintro ⟨d, hd, ds, hds, rfl⟩
      refine ⟨d :: ds, ⟨d, ds, hd, hds, rfl⟩, ?_⟩
      rw [Nat.ofDigits_reverse_cons, List.length_cons]
      ring
    · rintro ⟨_, ⟨d, ds, hd, hds, rfl⟩, rfl⟩
      refine ⟨d, hd, ds, hds, ?_⟩
      rw [Nat.ofDigits_reverse_cons, List.length_cons]
      ring

theorem hexNumber?_zero_eq_some_iff {digits : List Char} {n : Nat} :
    hexNumber? 0 digits = some n ↔ IsNumeral digits n := by
  rw [hexNumber?_eq_some_iff]
  simp [IsNumeral]

theorem hexNumber?_eq_none_iff {digits : List Char} {start : Nat} :
    hexNumber? start digits = none ↔ ∃ c ∈ digits, ∀ d, ¬ IsHexDigit c d := by
  induction digits generalizing start with
  | nil => simp [hexNumber?]
  | cons c digits ih =>
    cases hc : hexValue? c with
    | none =>
      have hstop : ∀ d, ¬ IsHexDigit c d := by simp [← hexValue?_eq_some_iff, hc]
      simp only [hexNumber?, hc, Option.bind_none, true_iff]
      exact ⟨c, List.mem_cons_self, hstop⟩
    | some d =>
      have hdigit : ¬ ∀ d, ¬ IsHexDigit c d := fun h => h d (hexValue?_eq_some_iff.mp hc)
      simp only [hexNumber?, hc, Option.bind_some, ih, List.exists_mem_cons_iff, hdigit, false_or]

theorem toNat_ofNat {n : Nat} (h : n.isValidChar) : (Char.ofNat n).toNat = n := by
  rw [Char.ofNat, dif_pos h]
  rfl

theorem charOf?_eq_some_iff {n : Nat} {c : Char} : charOf? n = some c ↔ n = c.toNat := by
  unfold charOf?
  constructor
  · intro h
    split at h
    · rename_i hn
      rw [← Option.some.inj h, toNat_ofNat hn]
    · nomatch h
  · rintro rfl
    have hc : c.toNat.isValidChar := c.valid
    rw [if_pos hc, Char.ofNat_toNat]

theorem hexNumber?_bind_charOf?_eq_some_iff {digits : List Char} {c : Char} :
    (hexNumber? 0 digits).bind charOf? = some c ↔ IsNumeral digits c.toNat := by
  simp [Option.bind_eq_some_iff, hexNumber?_zero_eq_some_iff, charOf?_eq_some_iff]

theorem braced?_eq_some_iff {digits : List Char} {c : Char} :
    braced? digits = some c ↔
      1 ≤ digits.length ∧ digits.length ≤ 6 ∧ IsNumeral digits c.toNat := by
  unfold braced?
  split
  · rename_i h
    simp only [reduceCtorEq, false_iff]
    rintro ⟨hsome, hfew, -⟩
    rcases h with h | h
    · simp [List.isEmpty_iff.mp h] at hsome
    · omega
  · rename_i h
    rw [not_or, List.isEmpty_iff, ← List.length_eq_zero_iff] at h
    rw [hexNumber?_bind_charOf?_eq_some_iff]
    constructor
    · intro hnumeral
      exact ⟨by omega, by omega, hnumeral⟩
    · rintro ⟨-, -, hnumeral⟩
      exact hnumeral

theorem IsNumeral.unique {digits : List Char} {m n : Nat} (hm : IsNumeral digits m)
    (hn : IsNumeral digits n) : m = n := by
  rw [← hexNumber?_zero_eq_some_iff] at hm hn
  exact Option.some.inj (hm.symm.trans hn)

theorem IsNumeral.isHexDigit {digits : List Char} {n : Nat} (h : IsNumeral digits n) {c : Char}
    (hc : c ∈ digits) : ∃ d, IsHexDigit c d := by
  by_contra hstop
  rw [not_exists] at hstop
  have hnone := (@hexNumber?_eq_none_iff digits 0).mpr ⟨c, hc, hstop⟩
  rw [hexNumber?_zero_eq_some_iff.mpr h] at hnone
  nomatch hnone

/-- A closing brace is no digit, so it ends the digits in front of it. -/
theorem IsNumeral.close_notMem {digits : List Char} {n : Nat} (h : IsNumeral digits n) :
    '\x7d' ∉ digits := by
  intro hmem
  obtain ⟨d, hd⟩ := h.isHexDigit hmem
  have hnone : hexValue? '\x7d' = none := by decide
  rw [hexValue?_eq_some_iff.mpr hd] at hnone
  nomatch hnone

/-! ### Sequences -/

theorem sequence?_byte (high low : Char) (after : List Char) :
    sequence? ('x' :: high :: low :: after) =
      ((hexNumber? 0 [high, low]).bind charOf?).map fun c => (c, after) := rfl

theorem short?_braced : short? 'u' = none := by decide

theorem sequence?_braced {digits : List Char} (hclose : '\x7d' ∉ digits) (after : List Char) :
    sequence? ('u' :: '\x7b' :: (digits ++ '\x7d' :: after)) =
      (braced? digits).map fun c => (c, after) := by
  have hdigits : ∀ c ∈ digits, (c != '\x7d') = true := by
    intro c hc
    simp only [bne_iff_ne, ne_eq]
    rintro rfl
    exact hclose hc
  have hdrop : (digits ++ '\x7d' :: after).dropWhile (· != '\x7d') = '\x7d' :: after := by
    rw [List.dropWhile_append_of_pos hdigits]
    rfl
  have htake : (digits ++ '\x7d' :: after).takeWhile (· != '\x7d') = digits := by
    rw [List.takeWhile_append_of_pos hdigits]
    simp
  simp only [sequence?, short?_braced, hdrop, htake]

/-- A sequence is read whatever follows it. -/
theorem Sequence.sequence?_append {c : Char} {part : List Char} (h : Sequence c part)
    (after : List Char) : sequence? (part ++ after) = some (c, after) := by
  cases h with
  | short h =>
    simp only [shortForms, List.mem_cons, Prod.mk.injEq, List.not_mem_nil, or_false] at h
    rcases h with ⟨rfl, rfl⟩ | ⟨rfl, rfl⟩ | ⟨rfl, rfl⟩ | ⟨rfl, rfl⟩ | ⟨rfl, rfl⟩ | ⟨rfl, rfl⟩ |
      ⟨rfl, rfl⟩ <;> rfl
  | byte hlength h =>
    obtain ⟨high, low, rfl⟩ := List.length_eq_two.mp hlength
    have hnamed := hexNumber?_bind_charOf?_eq_some_iff.mpr h
    simp [sequence?_byte, hnamed]
  | braced hsome hfew h =>
    have hnamed := braced?_eq_some_iff.mpr ⟨hsome, hfew, h⟩
    simp [sequence?_braced h.close_notMem, hnamed]

theorem sequence?_byte_eq_none {high low : Char}
    (h : ∃ c ∈ [high, low], ∀ d, ¬ IsHexDigit c d) (after : List Char) :
    sequence? ('x' :: high :: low :: after) = none := by
  rw [sequence?_byte, hexNumber?_eq_none_iff.mpr h]
  rfl

theorem sequence?_unclosed {body : List Char} (h : '\x7d' ∉ body) :
    sequence? ('u' :: '\x7b' :: body) = none := by
  have hdrop : body.dropWhile (· != '\x7d') = [] := by
    rw [List.dropWhile_eq_nil_iff]
    intro c hc
    simp only [bne_iff_ne, ne_eq]
    rintro rfl
    exact h hc
  simp only [sequence?, short?_braced, hdrop]

/-- Digits in braces that name no character. -/
theorem sequence?_braced_eq_none {digits : List Char} (hclose : '\x7d' ∉ digits)
    (h : ∀ c : Char, IsNumeral digits c.toNat → digits.length ≤ 6 → False) (after : List Char) :
    sequence? ('u' :: '\x7b' :: (digits ++ '\x7d' :: after)) = none := by
  have hnone : braced? digits = none := by
    rw [Option.eq_none_iff_forall_ne_some]
    intro c hc
    obtain ⟨-, hfew, hnumeral⟩ := braced?_eq_some_iff.mp hc
    exact h c hnumeral hfew
  rw [sequence?_braced hclose, hnone, Option.map_none]

theorem Malformed.sequence?_eq_none {rest : List Char} (h : Malformed rest) :
    sequence? rest = none := by
  cases h with
  | atEnd => rfl
  | @unknownLetter letter rest hshort hlong =>
    have hnone : short? letter = none := by
      simp only [shortForms, List.map_cons, List.map_nil, List.mem_cons, List.not_mem_nil, or_false,
        not_or] at hshort
      simp [short?, hshort]
    simp only [sequence?, hnone]
    split
    · rename_i h
      exact absurd h.symm (by simp)
    · exact absurd rfl hlong.1
    · exact absurd rfl hlong.2
    · rfl
  | @fewDigits digits rest hfew hstop =>
    cases digits with
    | nil =>
      rcases rest with _ | ⟨high, _ | ⟨low, after⟩⟩
      · rfl
      · rfl
      · exact sequence?_byte_eq_none ⟨high, by simp, hstop high rfl⟩ after
    | cons high digits =>
      have hnone : digits.length = 0 := by
        rw [List.length_cons] at hfew
        omega
      obtain rfl := List.length_eq_zero_iff.mp hnone
      rcases rest with _ | ⟨low, after⟩
      · rfl
      · exact sequence?_byte_eq_none ⟨low, by simp, hstop low rfl⟩ after
  | @unopened rest h =>
    cases rest with
    | nil => rfl
    | cons c body =>
      have hc : c ≠ '\x7b' := by simpa using h
      simp only [sequence?, short?_braced]
      split <;> simp_all
  | unclosed h => exact sequence?_unclosed h
  | noDigits rest => rfl
  | manyDigits rest hclose h =>
    exact sequence?_braced_eq_none hclose (fun c _ hfew => by omega) rest
  | noNumeral rest hclose hc h =>
    refine sequence?_braced_eq_none hclose (fun c hnumeral _ => ?_) rest
    obtain ⟨d, hd⟩ := hnumeral.isHexDigit hc
    exact h d hd
  | surrogate rest h hlow hhigh =>
    refine sequence?_braced_eq_none h.close_notMem (fun c hnumeral _ => ?_) rest
    have hvalid : c.toNat.isValidChar := c.valid
    rw [h.unique hnumeral] at hlow hhigh
    omega
  | tooLarge rest h hlarge =>
    refine sequence?_braced_eq_none h.close_notMem (fun c hnumeral _ => ?_) rest
    have hvalid : c.toNat.isValidChar := c.valid
    rw [h.unique hnumeral] at hlarge
    omega

theorem malformed_or_byte (rest : List Char) :
    Malformed ('x' :: rest) ∨ ∃ c part after, Sequence c part ∧ 'x' :: rest = part ++ after := by
  match rest with
  | [] => exact .inl (@Malformed.fewDigits [] [] (by simp) (by simp))
  | [high] => exact .inl (@Malformed.fewDigits [high] [] (by simp) (by simp))
  | high :: low :: after =>
    cases hnumber : hexNumber? 0 [high, low] with
    | none =>
      left
      obtain ⟨c, hc, hstop⟩ := hexNumber?_eq_none_iff.mp hnumber
      simp only [List.mem_cons, List.not_mem_nil, or_false] at hc
      rcases hc with hc | hc
      · rw [hc] at hstop
        exact @Malformed.fewDigits [] (high :: low :: after) (by simp) (by simpa using hstop)
      · rw [hc] at hstop
        exact @Malformed.fewDigits [high] (low :: after) (by simp) (by simpa using hstop)
    | some n =>
      right
      have hnumeral := hexNumber?_zero_eq_some_iff.mp hnumber
      -- Two digits are at most 255, so there is such a character.
      have hvalid : n.isValidChar := by
        obtain ⟨ds, hds, rfl⟩ := hnumeral
        simp only [List.forall₂_cons_left_iff, List.forall₂_nil_left_iff] at hds
        obtain ⟨a, _, ⟨ha, -⟩, ⟨b, _, ⟨hb, -⟩, rfl, rfl⟩, rfl⟩ := hds
        simp [Nat.ofDigits_cons]
        omega
      refine ⟨Char.ofNat n, ['x', high, low], after, .byte rfl ?_, rfl⟩
      rwa [toNat_ofNat hvalid]

theorem malformed_or_braced {digits : List Char} (hclose : '\x7d' ∉ digits) (after : List Char) :
    Malformed ('u' :: '\x7b' :: (digits ++ '\x7d' :: after)) ∨
      ∃ c, Sequence c ('u' :: '\x7b' :: (digits ++ ['\x7d'])) := by
  by_cases hempty : digits = []
  · subst hempty
    exact .inl (.noDigits after)
  by_cases hmany : 6 < digits.length
  · exact .inl (.manyDigits after hclose hmany)
  cases hnumber : hexNumber? 0 digits with
  | none =>
    obtain ⟨c, hc, hstop⟩ := hexNumber?_eq_none_iff.mp hnumber
    exact .inl (.noNumeral after hclose hc hstop)
  | some n =>
    have hnumeral := hexNumber?_zero_eq_some_iff.mp hnumber
    by_cases hlarge : 0x10ffff < n
    · exact .inl (.tooLarge after hnumeral hlarge)
    by_cases hsurrogate : 0xd800 ≤ n ∧ n ≤ 0xdfff
    · exact .inl (.surrogate after hnumeral hsurrogate.1 hsurrogate.2)
    have hvalid : n.isValidChar := by omega
    have hsome : 1 ≤ digits.length := List.length_pos_iff.mpr hempty
    rw [← toNat_ofNat hvalid] at hnumeral
    exact .inr ⟨Char.ofNat n, .braced hsome (by omega) hnumeral⟩

/-- What stands behind a backslash starts with a sequence, or something is wrong with it. -/
theorem malformed_or_sequence (rest : List Char) :
    Malformed rest ∨ ∃ c part after, Sequence c part ∧ rest = part ++ after := by
  match rest with
  | [] => exact .inl .atEnd
  | letter :: rest =>
    by_cases hshort : letter ∈ shortForms.map Prod.fst
    · obtain ⟨⟨_, c⟩, hform, rfl⟩ := List.mem_map.mp hshort
      exact .inr ⟨c, _, rest, .short hform, rfl⟩
    by_cases hbyte : letter = 'x'
    · subst hbyte
      exact malformed_or_byte rest
    by_cases hbraced : letter = 'u'
    · subst hbraced
      by_cases hopen : rest.head? = some '\x7b'
      · obtain ⟨body, rfl⟩ : ∃ body, rest = '\x7b' :: body := by
          simpa [List.head?_eq_some_iff] using hopen
        by_cases hmem : '\x7d' ∈ body
        · obtain ⟨digits, after, rfl, hclose⟩ := List.eq_append_cons_of_mem hmem
          rcases malformed_or_braced hclose after with h | ⟨c, hc⟩
          · exact .inl h
          · exact .inr ⟨c, _, after, hc, by simp⟩
        · exact .inl (.unclosed hmem)
      · exact .inl (.unopened hopen)
    · exact .inl (.unknownLetter hshort ⟨hbyte, hbraced⟩)

theorem malformed_iff {rest : List Char} :
    Malformed rest ↔ ∀ c part, Sequence c part → ¬ part <+: rest := by
  constructor
  · rintro h c part hpart ⟨after, rfl⟩
    have hnone := h.sequence?_eq_none
    rw [hpart.sequence?_append] at hnone
    nomatch hnone
  · intro h
    rcases malformed_or_sequence rest with hrest | ⟨c, part, after, hpart, rfl⟩
    · exact hrest
    · exact absurd (List.prefix_append part after) (h c part hpart)

/-! ### Texts -/

theorem Spells.decodeChars_append {c : Char} {part : List Char} (h : Spells c part)
    (rest : List Char) : decodeChars (part ++ rest) = c :: decodeChars rest := by
  cases h with
  | itself hc => exact decodeChars_of_ne hc rest
  | sequence h => exact decodeChars_of_some (h.sequence?_append rest)

theorem decodeChars_of_reads {text out : List Char} (h : Reads text out) :
    decodeChars text = out := by
  induction h with
  | nil => exact decodeChars_nil
  | spelling h _ ih => rw [h.decodeChars_append, ih]
  | kept h _ ih => rw [decodeChars_of_none h.sequence?_eq_none, ih]

theorem reads_decodeChars (text : List Char) : Reads text (decodeChars text) := by
  fun_induction decodeChars text with
  | case1 => exact .nil
  | case2 rest c after hnamed _ ih =>
    rcases malformed_or_sequence rest with hrest | ⟨c', part, after', hpart, rfl⟩
    · rw [hrest.sequence?_eq_none] at hnamed
      nomatch hnamed
    · rw [hpart.sequence?_append] at hnamed
      obtain ⟨rfl, rfl⟩ := Prod.mk.inj (Option.some.inj hnamed)
      exact .spelling (.sequence hpart) ih
  | case3 rest hnone ih =>
    rcases malformed_or_sequence rest with hrest | ⟨c, part, after, hpart, rfl⟩
    · exact .kept hrest ih
    · rw [hpart.sequence?_append] at hnone
      nomatch hnone
  | case4 c rest hc ih => exact .spelling (.itself hc) ih

theorem reads_flatten {s : List Char} {parts : List (List Char)}
    (h : List.Forall₂ Spells s parts) : Reads parts.flatten s := by
  induction h with
  | nil => exact .nil
  | cons hc _ ih => exact .spelling hc ih

/-- Decoding undoes every choice of spellings.  Every text is read in exactly one way, as spellings
and backslashes that start none; such a backslash is kept, and reading goes on right behind it.  It
starts none exactly for one of the listed reasons. -/
theorem decoding_undoes_spelling :
    (∀ (s : String) (parts : List (List Char)), List.Forall₂ Spells s.toList parts →
      decode (String.ofList parts.flatten) = s) ∧
    (∀ (text : String) (out : List Char),
      Reads text.toList out ↔ decode text = String.ofList out) ∧
    ∀ rest, Malformed rest ↔ ∀ c part, Sequence c part → ¬ part <+: rest := by
  refine ⟨fun s parts h => ?_, fun text out => ⟨fun h => ?_, fun h => ?_⟩, fun _ => malformed_iff⟩
  · rw [decode, String.toList_ofList, decodeChars_of_reads (reads_flatten h), String.ofList_toList]
  · rw [decode, decodeChars_of_reads h]
  · have hout : decodeChars text.toList = out := by
      simpa [decode] using congrArg String.toList h
    rw [← hout]
    exact reads_decodeChars text.toList

/-- Spellings with digits and a brace behind them that do not belong to them. -/
def mixedParts : List (List Char) :=
  [['\\', 'x', '4', '1'], ['1'], ['\\', 'u', '\x7b', '0', '1', 'f', '6', '0', '0', '\x7d'],
    ['\x7d'], ['\\', 'u', '\x7b', '0', '0', '0', '0', '5', 'C', '\x7d'], ['\\', '0'], ['7']]

theorem decoding_undoes_spelling_mixed :
    List.Forall₂ Spells "A1😀\x7d\\\x007".toList mixedParts ∧
    decode (String.ofList mixedParts.flatten) = "A1😀\x7d\\\x007" := by
  have hbyte : Sequence 'A' ['x', '4', '1'] := .byte rfl ⟨[4, 1], by decide, rfl⟩
  have hface : Sequence '😀' ('u' :: '\x7b' :: (['0', '1', 'f', '6', '0', '0'] ++ ['\x7d'])) :=
    .braced (by decide) (by decide) ⟨[0, 1, 15, 6, 0, 0], by decide, rfl⟩
  have hslash : Sequence '\\' ('u' :: '\x7b' :: (['0', '0', '0', '0', '5', 'C'] ++ ['\x7d'])) :=
    .braced (by decide) (by decide) ⟨[0, 0, 0, 0, 5, 12], by decide, rfl⟩
  have hspelled : List.Forall₂ Spells "A1😀\x7d\\\x007".toList mixedParts :=
    .cons (.sequence hbyte) <| .cons (.itself (by decide)) <| .cons (.sequence hface) <|
      .cons (.itself (by decide)) <| .cons (.sequence hslash) <|
      .cons (.sequence (.short (by decide))) <| .cons (.itself (by decide)) .nil
  exact ⟨hspelled, decoding_undoes_spelling.1 _ _ hspelled⟩

end BrowserScript.Escape
