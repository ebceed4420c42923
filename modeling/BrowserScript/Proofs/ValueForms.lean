import BrowserScript.Binding
import BrowserScript.Proofs.DurationGroups
import Mathlib.Algebra.Group.Int.Defs
import Mathlib.Computability.Language

/-!
# The forms of untyped values

Without a declared type a text is tried as an integer, a number with a point, a boolean word and a
duration.  Each of these forms is a regular language.  No text lies in two of them: a boolean word
has no digits, only a duration has digits and ends in something else, and only a number has a point
among the two that end in a digit.  So it does not matter which form is tried first, and what a text
is read as is decided by the one form that it has.
-/

open scoped Computability

namespace BrowserScript.Reading

variable {cs : List Char} {s : String}

/-! ### Patterns -/

namespace Pattern

def oneOf (p : Char → Bool) : Language Char := {cs | ∃ c, p c = true ∧ cs = [c]}

def digits : Language Char := (oneOf isDigit)∗

def numerals : Language Char := oneOf isDigit * digits

def signs : Language Char := 1 + {['+']} + {['-']}

def point : Language Char := {['.']}

def inAnyCase (word : String) : Language Char :=
  (word.toList.map fun letter => oneOf (foldLetter · == letter)).prod

def units : Language Char := {['m', 's']} + {['s']} + {['m']} + {['h']}

def groups : Language Char := (numerals + digits * point * numerals) * units

theorem mem_digits : cs ∈ digits ↔ ∀ c ∈ cs, isDigit c = true := by
  rw [digits, Language.mem_kstar]
  constructor
  · rintro ⟨parts, rfl, hparts⟩ c hc
    obtain ⟨part, hpart, hmem⟩ := List.mem_flatten.mp hc
    obtain ⟨d, hd, rfl⟩ := hparts part hpart
    rwa [List.mem_singleton.mp hmem]
  · intro h
    refine ⟨cs.map ([·]), by simp [← List.flatMap_def], fun part hpart => ?_⟩
    obtain ⟨c, hc, rfl⟩ := List.mem_map.mp hpart
    exact ⟨c, h c hc, rfl⟩

theorem mem_numerals : cs ∈ numerals ↔ isNumeral cs = true := by
  rw [numerals, Language.mem_mul, isNumeral_iff]
  constructor
  · rintro ⟨_, ⟨c, hc, rfl⟩, ds, hds, rfl⟩
    exact ⟨by simp, List.forall_mem_cons.mpr ⟨hc, mem_digits.mp hds⟩⟩
  · rintro ⟨hsome, h⟩
    obtain ⟨c, ds, rfl⟩ := List.exists_cons_of_ne_nil hsome
    obtain ⟨hc, hds⟩ := List.forall_mem_cons.mp h
    exact ⟨[c], ⟨c, hc, rfl⟩, ds, mem_digits.mpr hds, rfl⟩

theorem mem_signs : cs ∈ signs ↔ IsSign cs := or_assoc

theorem mem_inAnyCase {word : String} : cs ∈ inAnyCase word ↔ cs.map foldLetter = word.toList := by
  rw [inAnyCase]
  generalize word.toList = letters
  induction letters generalizing cs with
  | nil => simp [Language.mem_one]
  | cons letter letters ih =>
    rw [List.map_cons, List.prod_cons, Language.mem_mul]
    constructor
    · rintro ⟨_, ⟨c, hc, rfl⟩, rest, hrest, rfl⟩
      simp [beq_iff_eq.mp hc, ih.mp hrest]
    · intro h
      obtain ⟨c, rest, rfl, hc, hrest⟩ := List.map_eq_cons_iff.mp h
      exact ⟨[c], ⟨c, beq_iff_eq.mpr hc, rfl⟩, rest, ih.mpr hrest, rfl⟩

theorem mem_units : cs ∈ units ↔ ∃ u : TimeUnit, cs = u.letters := by
  constructor
  · rintro (((rfl | rfl) | rfl) | rfl)
    exacts [⟨.milliseconds, rfl⟩, ⟨.seconds, rfl⟩, ⟨.minutes, rfl⟩, ⟨.hours, rfl⟩]
  · rintro ⟨u, rfl⟩
    cases u
    exacts [.inl (.inl (.inl rfl)), .inl (.inl (.inr rfl)), .inl (.inr rfl), .inr rfl]

theorem mem_groups : cs ∈ groups ↔ ∃ g : TimeGroup, g.IsWritten ∧ cs = g.spelling := by
  rw [groups, Language.mem_mul]
  constructor
  · rintro ⟨amount, hamount, letters, hletters, rfl⟩
    obtain ⟨u, rfl⟩ := mem_units.mp hletters
    rcases hamount with hwhole | ⟨_, ⟨whole, hwhole, _, rfl, rfl⟩, fraction, hfraction, rfl⟩
    · obtain ⟨hsome, hdigits⟩ := isNumeral_iff.mp (mem_numerals.mp hwhole)
      exact ⟨⟨amount, [], u⟩, ⟨hdigits, nofun, .inl hsome⟩, by
        simp [TimeGroup.spelling, TimeGroup.amount, pointed]⟩
    · obtain ⟨hsome, hdigits⟩ := isNumeral_iff.mp (mem_numerals.mp hfraction)
      exact ⟨⟨whole, fraction, u⟩, ⟨mem_digits.mp hwhole, hdigits, .inr hsome⟩, by
        simp [TimeGroup.spelling, TimeGroup.amount, pointed, hsome]⟩
  · rintro ⟨⟨whole, fraction, u⟩, ⟨hwhole, hfraction, hdigits⟩, rfl⟩
    refine ⟨_, ?_, u.letters, mem_units.mpr ⟨u, rfl⟩, rfl⟩
    by_cases hpoint : fraction = []
    · have hsome : whole ≠ [] := by simpa [hpoint] using hdigits
      refine .inl (mem_numerals.mpr (isNumeral_iff.mpr ?_))
      simpa [TimeGroup.amount, pointed, hpoint] using ⟨hsome, hwhole⟩
    · refine .inr ⟨whole ++ ['.'], ⟨whole, mem_digits.mpr hwhole, ['.'], rfl, rfl⟩, fraction,
        mem_numerals.mpr (isNumeral_iff.mpr ⟨hpoint, hfraction⟩), ?_⟩
      simp [TimeGroup.amount, pointed, hpoint]

end Pattern

/-! ### Forms -/

inductive Form where
  | integer
  | number
  | boolean
  | duration
  deriving DecidableEq, Repr

namespace Form

def pattern : Form → Language Char
  | .integer => Pattern.signs * Pattern.numerals
  | .number => Pattern.signs * Pattern.digits * Pattern.point * Pattern.numerals
  | .boolean => Pattern.inAnyCase "true" + Pattern.inAnyCase "yes" + Pattern.inAnyCase "on" +
      Pattern.inAnyCase "false" + Pattern.inAnyCase "no" + Pattern.inAnyCase "off"
  | .duration => Pattern.groups * Pattern.groups∗

def fits : Form → List Char → Bool
  | .integer => isInteger
  | .number => isPointed
  | .boolean => isBooleanWord
  | .duration => isDuration

def read? (s : String) : Form → Option Value
  | .integer => (integer? s).map .integer
  | .number => (decimal? s).map .number
  | .boolean => (boolean? s).map .boolean
  | .duration => (duration? s).map .duration

end Form

theorem isInteger_iff_mem : isInteger cs = true ↔ cs ∈ Form.integer.pattern := by
  rw [Form.pattern, Language.mem_mul]
  constructor
  · intro h
    obtain ⟨before, hbefore, hcs, -⟩ := exists_sign cs
    exact ⟨before, Pattern.mem_signs.mpr hbefore, _, Pattern.mem_numerals.mpr h, hcs.symm⟩
  · rintro ⟨before, hbefore, ds, hds, rfl⟩
    have hnumeral := Pattern.mem_numerals.mp hds
    rw [isInteger, sign_append_numeral (Pattern.mem_signs.mp hbefore) hnumeral]
    exact hnumeral

/-- The parts of a number with a point are found where it is written with them. -/
theorem decimalForm?_append {before whole fraction : List Char} (hbefore : IsSign before)
    (hwhole : ∀ c ∈ whole, isDigit c = true) (hfraction : ∀ c ∈ fraction, isDigit c = true) :
    decimalForm? (before ++ (whole ++ '.' :: fraction)) =
      some ⟨decide (before = ['-']), whole, some fraction⟩ := by
  have hsign : sign (before ++ (whole ++ '.' :: fraction)) =
      (decide (before = ['-']), whole ++ '.' :: fraction) := by
    refine sign_append hbefore fun c hc => ?_
    cases whole with
    | nil =>
      cases hc
      decide
    | cons c whole =>
      cases hc
      exact isDigit_ne_sign (hwhole c (by simp))
  have hbreaks : Breaks ('.' :: fraction) := breaks_cons rfl
  simp only [decimalForm?, hsign, takeWhile_isDigit_append hwhole hbreaks,
    dropWhile_isDigit_append hwhole hbreaks]
  rw [if_pos (List.all_eq_true.mpr hfraction)]

theorem exists_of_decimalForm? {negative : Bool} {whole fraction : List Char}
    (h : decimalForm? cs = some ⟨negative, whole, some fraction⟩) :
    ∃ before, IsSign before ∧ (∀ c ∈ whole, isDigit c = true) ∧
      (∀ c ∈ fraction, isDigit c = true) ∧ cs = before ++ (whole ++ '.' :: fraction) := by
  obtain ⟨before, hbefore, hcs, -⟩ := exists_sign cs
  simp only [decimalForm?] at h
  split at h
  · simp at h
  · rename_i rest hrest
    split at h
    · rename_i hdigits
      simp only [Option.some.injEq, DecimalForm.mk.injEq] at h
      obtain ⟨-, rfl, rfl⟩ := h
      refine ⟨before, hbefore, fun c => isDigit_of_mem_takeWhile, List.all_eq_true.mp hdigits, ?_⟩
      rw [← hrest, List.takeWhile_append_dropWhile, ← hcs]
    · simp at h
  · simp at h

theorem isPointed_iff : isPointed cs = true ↔ ∃ before whole fraction, IsSign before ∧
    (∀ c ∈ whole, isDigit c = true) ∧ isNumeral fraction = true ∧
      cs = before ++ (whole ++ '.' :: fraction) := by
  constructor
  · intro h
    unfold isPointed at h
    split at h
    · rename_i negative whole d fraction hform
      obtain ⟨before, hbefore, hwhole, hfraction, hcs⟩ := exists_of_decimalForm? hform
      exact ⟨before, whole, _, hbefore, hwhole, isNumeral_iff.mpr ⟨by simp, hfraction⟩, hcs⟩
    · simp at h
  · rintro ⟨before, whole, fraction, hbefore, hwhole, hfraction, rfl⟩
    obtain ⟨hsome, hdigits⟩ := isNumeral_iff.mp hfraction
    obtain ⟨d, fraction, rfl⟩ := List.exists_cons_of_ne_nil hsome
    rw [isPointed, decimalForm?_append hbefore hwhole hdigits]

/-- A number that shows its type is a decimal number. -/
theorem isDecimal_of_isPointed (h : isPointed cs = true) : isDecimal cs = true := by
  obtain ⟨before, whole, fraction, hbefore, hwhole, hfraction, rfl⟩ := isPointed_iff.mp h
  obtain ⟨hsome, hdigits⟩ := isNumeral_iff.mp hfraction
  simp [isDecimal, decimalForm?_append hbefore hwhole hdigits, hsome]

theorem isPointed_iff_mem : isPointed cs = true ↔ cs ∈ Form.number.pattern := by
  rw [isPointed_iff, Form.pattern, Language.mem_mul]
  constructor
  · rintro ⟨before, whole, fraction, hbefore, hwhole, hfraction, rfl⟩
    refine ⟨before ++ whole ++ ['.'], ?_, fraction, Pattern.mem_numerals.mpr hfraction, by simp⟩
    exact Language.append_mem_mul (Language.append_mem_mul (Pattern.mem_signs.mpr hbefore)
      (Pattern.mem_digits.mpr hwhole)) rfl
  · rintro ⟨_, ⟨_, ⟨before, hbefore, whole, hwhole, rfl⟩, _, rfl, rfl⟩, fraction, hfraction, rfl⟩
    exact ⟨before, whole, fraction, Pattern.mem_signs.mp hbefore, Pattern.mem_digits.mp hwhole,
      Pattern.mem_numerals.mp hfraction, by simp⟩

def booleanWords : List String := ["true", "yes", "on", "false", "no", "off"]

theorem isBooleanWord_iff :
    isBooleanWord cs = true ↔ ∃ word ∈ booleanWords, cs.map foldLetter = word.toList := by
  rw [isBooleanWord, List.contains_iff_mem]
  constructor
  · intro h
    exact ⟨_, h, String.toList_ofList.symm⟩
  · rintro ⟨word, hword, h⟩
    rwa [h, String.ofList_toList]

theorem isBooleanWord_iff_mem : isBooleanWord cs = true ↔ cs ∈ Form.boolean.pattern := by
  rw [isBooleanWord_iff]
  simp only [booleanWords, Form.pattern, Language.mem_add, Pattern.mem_inAnyCase, List.mem_cons,
    List.not_mem_nil, or_false, exists_eq_or_imp, exists_eq_left, or_assoc]

theorem isDuration_iff : isDuration cs = true ↔ ∃ groups : List TimeGroup, groups ≠ [] ∧
    (∀ g ∈ groups, g.IsWritten) ∧ cs = groups.flatMap TimeGroup.spelling := by
  simp only [isDuration, Option.isSome_iff_exists, timeGroups?_eq_some_iff]

theorem isDuration_iff_mem : isDuration cs = true ↔ cs ∈ Form.duration.pattern := by
  rw [isDuration_iff, Form.pattern, Language.mem_mul]
  constructor
  · rintro ⟨groups, hsome, hgroups, rfl⟩
    obtain ⟨g, groups, rfl⟩ := List.exists_cons_of_ne_nil hsome
    obtain ⟨hg, hrest⟩ := List.forall_mem_cons.mp hgroups
    refine ⟨g.spelling, Pattern.mem_groups.mpr ⟨g, hg, rfl⟩, groups.flatMap TimeGroup.spelling, ?_,
      List.flatMap_cons.symm⟩
    rw [List.flatMap_def]
    refine Language.join_mem_kstar fun part hpart => ?_
    obtain ⟨g', hg', rfl⟩ := List.mem_map.mp hpart
    exact Pattern.mem_groups.mpr ⟨g', hrest g' hg', rfl⟩
  · rintro ⟨first, hfirst, _, ⟨parts, rfl, hparts⟩, rfl⟩
    obtain ⟨g, hg, rfl⟩ := Pattern.mem_groups.mp hfirst
    -- Every part of the repetition is a group, so the parts are the spellings of some groups.
    obtain ⟨groups, hgroups, rfl⟩ : ∃ groups : List TimeGroup, (∀ g ∈ groups, g.IsWritten) ∧
        parts = groups.map TimeGroup.spelling := by
      induction parts with
      | nil => exact ⟨[], nofun, rfl⟩
      | cons part parts ih =>
        obtain ⟨hpart, hrest⟩ := List.forall_mem_cons.mp hparts
        obtain ⟨g', hg', rfl⟩ := Pattern.mem_groups.mp hpart
        obtain ⟨groups, hgroups, rfl⟩ := ih hrest
        exact ⟨g' :: groups, List.forall_mem_cons.mpr ⟨hg', hgroups⟩, rfl⟩
    exact ⟨g :: groups, by simp, List.forall_mem_cons.mpr ⟨hg, hgroups⟩, by
      rw [List.flatMap_cons, List.flatMap_def]⟩

/-- A text is tried for a form by its pattern. -/
theorem Form.fits_iff_mem (f : Form) : f.fits cs = true ↔ cs ∈ f.pattern := by
  cases f with
  | integer => exact isInteger_iff_mem
  | number => exact isPointed_iff_mem
  | boolean => exact isBooleanWord_iff_mem
  | duration => exact isDuration_iff_mem

/-! ### What tells the forms apart -/

def EndsInDigit (cs : List Char) : Prop := ∃ c ∈ cs.getLast?, isDigit c = true

theorem EndsInDigit.exists_digit (h : EndsInDigit cs) : ∃ c ∈ cs, isDigit c = true := by
  obtain ⟨c, hc, hdigit⟩ := h
  exact ⟨c, List.mem_of_getLast? hc, hdigit⟩

theorem endsInDigit_append {before ds : List Char} (h : isNumeral ds = true) :
    EndsInDigit (before ++ ds) := by
  obtain ⟨hsome, hds⟩ := isNumeral_iff.mp h
  refine ⟨ds.getLast hsome, ?_, hds _ (List.getLast_mem hsome)⟩
  rw [List.getLast?_append_of_ne_nil _ hsome, List.getLast?_eq_some_getLast hsome]
  rfl

theorem IsSign.point_not_mem {before : List Char} (h : IsSign before) : '.' ∉ before := by
  rcases h with rfl | rfl | rfl <;> decide

theorem point_not_mem_of_isInteger (h : isInteger cs = true) : EndsInDigit cs ∧ '.' ∉ cs := by
  obtain ⟨before, hbefore, hcs, -⟩ := exists_sign cs
  have hds : isNumeral (sign cs).2 = true := h
  rw [hcs]
  refine ⟨endsInDigit_append hds, fun hmem => ?_⟩
  rcases List.mem_append.mp hmem with hmem | hmem
  · exact hbefore.point_not_mem hmem
  · have hpoint := (isNumeral_iff.mp hds).2 '.' hmem
    simp [isDigit] at hpoint

theorem point_mem_of_isPointed (h : isPointed cs = true) : EndsInDigit cs ∧ '.' ∈ cs := by
  obtain ⟨before, whole, fraction, -, -, hfraction, rfl⟩ := isPointed_iff.mp h
  refine ⟨?_, by simp⟩
  have hcut : before ++ (whole ++ '.' :: fraction) = before ++ whole ++ ['.'] ++ fraction := by simp
  rw [hcut]
  exact endsInDigit_append hfraction

theorem isDigit_foldLetter {c : Char} (h : isDigit c = true) : isDigit (foldLetter c) = true := by
  have hrange : '0' ≤ c ∧ c ≤ '9' := by simpa [isDigit] using h
  have hfold : foldLetter c = c := by
    have hs : c ≠ 'ſ' := by
      rintro rfl
      exact absurd hrange.2 (by decide)
    have hupper : ¬(c.val ≥ 'A'.val ∧ c.val ≤ 'Z'.val) := fun hcase =>
      absurd (UInt32.le_trans hcase.1 hrange.2) (by decide)
    rw [foldLetter, if_neg hs]
    exact dif_neg hupper
  rwa [hfold]

theorem no_digit_of_isBooleanWord (h : isBooleanWord cs = true) : ∀ c ∈ cs, isDigit c = false := by
  obtain ⟨word, hword, hcs⟩ := isBooleanWord_iff.mp h
  have hplain : ∀ word ∈ booleanWords, word.toList.any isDigit = false := by decide +kernel
  intro c hc
  by_contra hdigit
  have hmem : foldLetter c ∈ word.toList := hcs ▸ List.mem_map_of_mem hc
  have hfold := isDigit_foldLetter (Bool.of_not_eq_false hdigit)
  exact List.any_eq_false.mp (hplain word hword) _ hmem hfold

theorem TimeGroup.IsWritten.exists_digit {g : TimeGroup} (hg : g.IsWritten) :
    ∃ c ∈ g.spelling, isDigit c = true := by
  rcases hg.digits with hsome | hsome
  · obtain ⟨c, hc⟩ := List.exists_mem_of_ne_nil _ hsome
    exact ⟨c, by simp [spelling, amount, pointed, hc], hg.whole c hc⟩
  · obtain ⟨c, hc⟩ := List.exists_mem_of_ne_nil _ hsome
    exact ⟨c, by simp [spelling, amount, pointed, hsome, hc], hg.fraction c hc⟩

theorem exists_digit_of_isDuration (h : isDuration cs = true) :
    ¬EndsInDigit cs ∧ ∃ c ∈ cs, isDigit c = true := by
  obtain ⟨groups, hsome, hgroups, rfl⟩ := isDuration_iff.mp h
  refine ⟨?_, ?_⟩
  · -- The last character belongs to the unit of the last group.
    obtain ⟨init, g, rfl⟩ := (List.eq_nil_or_concat groups).resolve_left hsome
    rintro ⟨c, hc, hdigit⟩
    have hlast : (g.unit.letters).getLast? = some c := by
      rw [List.concat_eq_append, List.flatMap_append, List.flatMap_singleton, TimeGroup.spelling,
        ← List.append_assoc, List.getLast?_append_of_ne_nil _ g.unit.letters_ne_nil] at hc
      exact hc
    cases hunit : g.unit <;> rw [hunit] at hlast <;> cases hlast <;> simp [isDigit] at hdigit
  · obtain ⟨g, hg⟩ := List.exists_mem_of_ne_nil _ hsome
    obtain ⟨c, hc, hdigit⟩ := (hgroups g hg).exists_digit
    exact ⟨c, List.mem_flatMap.mpr ⟨g, hg, hc⟩, hdigit⟩

/-- No text has two forms. -/
theorem Form.eq_of_fits {f f' : Form} (h : f.fits cs = true) (h' : f'.fits cs = true) : f = f' := by
  have hinteger := @point_not_mem_of_isInteger cs
  have hnumber := @point_mem_of_isPointed cs
  have hboolean := @no_digit_of_isBooleanWord cs
  have hduration := @exists_digit_of_isDuration cs
  have hends := @EndsInDigit.exists_digit cs
  cases f <;> cases f' <;> simp only [Form.fits] at h h' <;> grind

/-! ### What a text is read as -/

/-- The value of a text by a form, if it has that form and can be read so. -/
def tried (s : String) (f : Form) : Option Value := if f.fits s.toList then f.read? s else none

/-- The first value that a text gives by the forms that are tried; a text that gives none stays as
it is. -/
def firstFit (forms : List Form) (s : String) : Value := (forms.findSome? (tried s)).getD (.text s)

theorem auto_eq_firstFit (s : String) :
    auto s = firstFit [.integer, .number, .boolean, .duration] s := by
  change ((((tried s .integer).or (tried s .number)).or (tried s .boolean)).or
    (tried s .duration)).getD (.text s) = _
  rw [firstFit]
  generalize tried s = tried
  simp only [List.findSome?]
  cases tried .integer <;> cases tried .number <;> cases tried .boolean <;>
    cases tried .duration <;> rfl

/-- Wherever the form of a text stands among those that are tried, it decides. -/
theorem firstFit_of_fits {forms : List Form} {f : Form} (hmem : f ∈ forms)
    (hfits : f.fits s.toList = true) : firstFit forms s = (f.read? s).getD (.text s) := by
  have hothers : ∀ f', f' ≠ f → tried s f' = none := fun f' hne =>
    if_neg fun h => hne (Form.eq_of_fits h hfits)
  have hown : tried s f = f.read? s := if_pos hfits
  obtain ⟨before, after, rfl, hbefore⟩ := List.eq_append_cons_of_mem hmem
  have hskip : before.findSome? (tried s) = none :=
    List.findSome?_eq_none_iff.mpr fun f' hf' => hothers f' fun h => hbefore (h ▸ hf')
  rw [firstFit, List.findSome?_append, hskip, Option.none_or, List.findSome?_cons, hown]
  cases hread : f.read? s with
  | some v => rfl
  | none =>
    -- The form may stand among those behind as well, and gives nothing there either.
    have hafter : after.findSome? (tried s) = none := by
      rw [List.findSome?_eq_none_iff]
      intro f' _
      by_cases h : f' = f
      · rw [h, hown, hread]
      · exact hothers f' h
    rw [hafter]

theorem firstFit_of_none {forms : List Form} (h : ∀ f : Form, f.fits s.toList = false) :
    firstFit forms s = .text s := by
  have hnone : forms.findSome? (tried s) = none :=
    List.findSome?_eq_none_iff.mpr fun f _ => if_neg (by simp [h f])
  rw [firstFit, hnone, Option.getD_none]

theorem auto_of_fits {f : Form} (h : f.fits s.toList = true) :
    auto s = (f.read? s).getD (.text s) := by
  rw [auto_eq_firstFit]
  exact firstFit_of_fits (by cases f <;> simp) h

theorem auto_of_none (h : ∀ f : Form, f.fits s.toList = false) : auto s = .text s := by
  rw [auto_eq_firstFit, firstFit_of_none h]

/-- A text has one form, or it stays as it is. -/
theorem auto_cases (s : String) :
    (∃ f : Form, f.fits s.toList = true ∧ auto s = (f.read? s).getD (.text s)) ∨
      (∀ f : Form, f.fits s.toList = false) ∧ auto s = .text s := by
  by_cases h : ∃ f : Form, f.fits s.toList = true
  · obtain ⟨f, hf⟩ := h
    exact .inl ⟨f, hf, auto_of_fits hf⟩
  · have hnone : ∀ f : Form, f.fits s.toList = false := fun f =>
      Bool.of_not_eq_true fun hf => h ⟨f, hf⟩
    exact .inr ⟨hnone, auto_of_none hnone⟩

/-- What is read by a form is the value that the text spells if that type is declared. -/
theorem Form.value?_of_read? {f : Form} {v : Value} (hfits : f.fits s.toList = true)
    (h : f.read? s = some v) : value? s v.type = some v := by
  have hnumber : f = .number → number? s = decimal? s := by
    rintro rfl
    exact if_pos (isDecimal_of_isPointed hfits)
  cases f <;> obtain ⟨x, hx, rfl⟩ := Option.map_eq_some_iff.mp h <;>
    simp [Value.type, value?, hx, hnumber]

theorem value?_auto (s : String) : value? s (auto s).type = some (auto s) := by
  rcases auto_cases s with ⟨f, hfits, hauto⟩ | ⟨-, hauto⟩
  · rw [hauto]
    cases hread : f.read? s with
    | none => rfl
    | some v => exact Form.value?_of_read? hfits hread
  · rw [hauto]
    rfl

/-- Untyped values are unambiguous.  A text is tried for each form by a pattern, at most one of the
four patterns matches it, and so any order of trying them gives the same value; and the value is the
one that the text spells if its type is declared. -/
theorem typing_is_unambiguous (s : String) :
    (∀ f : Form, f.fits s.toList = true ↔ s.toList ∈ f.pattern) ∧
      (∀ f f' : Form, s.toList ∈ f.pattern → s.toList ∈ f'.pattern → f = f') ∧
      (∀ forms : List Form, (∀ f, f ∈ forms) → firstFit forms s = auto s) ∧
      ∀ v, auto s = v → value? s v.type = some v := by
  refine ⟨fun f => f.fits_iff_mem, fun f f' h h' => ?_, fun forms hforms => ?_, ?_⟩
  · exact Form.eq_of_fits (f.fits_iff_mem.mpr h) (f'.fits_iff_mem.mpr h')
  · rcases auto_cases s with ⟨f, hfits, hauto⟩ | ⟨hnone, hauto⟩
    · rw [hauto, firstFit_of_fits (hforms f) hfits]
    · rw [hauto, firstFit_of_none hnone]
  · rintro v rfl
    exact value?_auto s

/-- A minute and a half starts like a number with a point, and is read as a duration from whichever
end the forms are tried. -/
theorem typing_is_unambiguous_reversed :
    (∀ f, f ∈ [Form.duration, .boolean, .number, .integer]) ∧
      "1.5m".toList ∈ Form.duration.pattern ∧
      (∀ f : Form, "1.5m".toList ∈ f.pattern → f = .duration) ∧
      firstFit [.duration, .boolean, .number, .integer] "1.5m" = auto "1.5m" ∧
      auto "1.5m" = .duration 90000000000 ∧
      value? "1.5m" .duration = some (.duration 90000000000) := by
  obtain ⟨hfits, hone, horder, hdeclared⟩ := typing_is_unambiguous "1.5m"
  have hall : ∀ f, f ∈ [Form.duration, .boolean, .number, .integer] := by
    intro f
    cases f <;> simp
  have hduration : "1.5m".toList ∈ Form.duration.pattern := (hfits .duration).mp (by decide +kernel)
  have hauto : auto "1.5m" = .duration 90000000000 := by decide +kernel
  exact ⟨hall, hduration, fun f hf => hone f .duration hf hduration, horder _ hall, hauto,
    hdeclared _ hauto⟩

/-! ### Integers -/

theorem fits_of_integer? {n : Int} (h : integer? s = some n) : Form.integer.fits s.toList = true :=
  (spellsInteger_iff.mp (integer?_eq_some_iff.mp h).1).1

theorem auto_eq_integer_iff {n : Int} : auto s = .integer n ↔ integer? s = some n := by
  constructor
  · intro h
    have hvalue := value?_auto s
    rw [h] at hvalue
    obtain ⟨k, hk, heq⟩ := Option.map_eq_some_iff.mp hvalue
    rwa [Value.integer.inj heq] at hk
  · intro h
    rw [auto_of_fits (fits_of_integer? h), Form.read?, h]
    rfl

/-- Integers are read exactly up to the limits of 64 bits.  A text is read as an integer if it is
digits, perhaps with a sign before them, of a value within the limits, and as that value, whatever
zeros stand in front; no other text is.  Beyond the limits it is an error where an integer is asked
for, and stays a text otherwise.  The decimal text of an integer within the limits is read as that
integer. -/
theorem integers_are_read_exactly (s : String) :
    (∀ n, integer? s = some n ↔ SpellsInteger s.toList n ∧ -2 ^ 63 ≤ n ∧ n ≤ 2 ^ 63 - 1) ∧
      (∀ n, auto s = .integer n ↔ integer? s = some n) ∧
      (∀ n, SpellsInteger s.toList n → n < -2 ^ 63 ∨ 2 ^ 63 - 1 < n →
        (∀ vars, Binding.convert vars .integer s = .error (.value s (.type .integer))) ∧
          auto s = .text s) ∧
      ∀ n : Int, -2 ^ 63 ≤ n → n ≤ 2 ^ 63 - 1 → auto (toString n) = .integer n := by
  refine ⟨fun n => integer?_eq_some_iff, fun n => auto_eq_integer_iff, fun n hn hrange => ?_,
    fun n hmin hmax => ?_⟩
  · have hnone : integer? s = none := by
      rw [Option.eq_none_iff_forall_ne_some]
      intro k hk
      obtain ⟨hspells, hmin, hmax⟩ := integer?_eq_some_iff.mp hk
      rw [hspells.unique hn] at hmin hmax
      simp only [minInteger, maxInteger] at hmin hmax
      omega
    refine ⟨fun vars => ?_, ?_⟩
    · simp [Binding.convert, value?, hnone]
    · rw [auto_of_fits (f := .integer) (spellsInteger_iff.mp hn).1, Form.read?, hnone]
      rfl
  · exact auto_eq_integer_iff.mpr
      (integer?_eq_some_iff.mpr ⟨spellsInteger_toString n, hmin, hmax⟩)

/-- One more than the greatest integer, with a sign and a zero before it, is an error where an
integer is asked for and a text elsewhere.  The least integer is read back from its text. -/
theorem integers_are_read_exactly_beyond :
    SpellsInteger "+09223372036854775808".toList 9223372036854775808 ∧
      (2 : Int) ^ 63 - 1 < 9223372036854775808 ∧
      (∀ vars, Binding.convert vars .integer "+09223372036854775808" =
        .error (.value "+09223372036854775808" (.type .integer))) ∧
      auto "+09223372036854775808" = .text "+09223372036854775808" ∧
      auto (toString (-2 ^ 63 : Int)) = .integer (-2 ^ 63) := by
  obtain ⟨-, -, hbeyond, hback⟩ := integers_are_read_exactly "+09223372036854775808"
  have hspells : SpellsInteger "+09223372036854775808".toList 9223372036854775808 :=
    spellsInteger_iff.mpr (by decide +kernel)
  obtain ⟨herror, htext⟩ := hbeyond _ hspells (.inr (by decide))
  exact ⟨hspells, by decide, herror, htext, hback (-2 ^ 63) (by decide) (by decide)⟩

end BrowserScript.Reading
