import BrowserScript.Proofs.PatternMatches
import BrowserScript.Proofs.ValueForms

/-!
# Scanning durations

A duration can be read with two patterns: one that a text has to match as a whole, and one for a
single group, searched for again and again.  The first accepts the texts that are written as groups,
and those can be taken apart in one way only.  The second finds these groups, one right behind the
other.  Both patterns try digits before a decimal and `ms` before `m`, but that is no choice: digits
end where a point or a unit begins, and no group starts with the `s` behind an `m`.
-/

open scoped Computability

namespace BrowserScript.Reading

variable {α : Type} {c : Char} {cs ds rest : List Char}

/-! ### The two patterns -/

def digitPattern : Text.Pattern := .one false Text.Pattern.digits

def numeralPattern : Text.Pattern := .both digitPattern (.many digitPattern)

def pointedPattern : Text.Pattern :=
  .both (.both (.many digitPattern) (.ofChar '.')) numeralPattern

def amountPattern : Text.Pattern := .either numeralPattern pointedPattern

def unitPattern : Text.Pattern :=
  .either (.either (.either (.both (.ofChar 'm') (.ofChar 's')) (.ofChar 's')) (.ofChar 'm'))
    (.ofChar 'h')

def groupPattern : Text.Pattern := .both amountPattern unitPattern

def durationPattern : Text.Pattern := .both groupPattern (.many groupPattern)

def durationExpression : Text.Expression := ⟨⟨true, true⟩, durationPattern⟩

theorem ofText?_durationExpression :
    Text.Expression.ofText? "^(?:(?:[0-9]+|[0-9]*\\.[0-9]+)(?:ms|s|m|h))+$" =
      some durationExpression := by
  decide +kernel

theorem ofText?_groupPattern :
    Text.Expression.ofText? "([0-9]+|[0-9]*\\.[0-9]+)(ms|s|m|h)" =
      some ⟨⟨false, false⟩, groupPattern⟩ := by
  decide +kernel

theorem admits_digits (c : Char) : Text.Pattern.admits false Text.Pattern.digits c = isDigit c := by
  simp [Text.Pattern.admits, Text.Pattern.digits, isDigit, Char.le_def, UInt32.le_iff_toNat_le]

theorem admits_ofChar {d : Char} :
    Text.Pattern.admits false [(d.toNat, d.toNat)] c = true ↔ c = d := by
  simp only [Text.Pattern.admits, List.any_cons, List.any_nil, Bool.or_false, bne_iff_ne, ne_eq,
    Bool.not_eq_false, Bool.and_eq_true, decide_eq_true_eq]
  constructor
  · rintro ⟨hle, hge⟩
    exact Char.toNat_inj.mp (Nat.le_antisymm hge hle)
  · rintro rfl
    exact ⟨Nat.le_refl _, Nat.le_refl _⟩

/-! ### Texts that are accepted -/

theorem language_digitPattern : digitPattern.language = Pattern.oneOf isDigit := by
  simp only [digitPattern, Text.Pattern.language, admits_digits]
  rfl

theorem language_ofChar (c : Char) : (Text.Pattern.ofChar c).language = {[c]} := by
  ext cs
  simp only [Text.Pattern.ofChar, Text.Pattern.language]
  constructor
  · rintro ⟨d, hd, rfl⟩
    rw [admits_ofChar.mp hd]
    rfl
  · rintro rfl
    exact ⟨c, admits_ofChar.mpr rfl, rfl⟩

theorem language_unitPattern : unitPattern.language = Pattern.units := by
  have hpair : ({['m']} : Language Char) * {['s']} = {['m', 's']} := Set.image2_singleton
  simp only [unitPattern, Text.Pattern.language, language_ofChar, hpair]
  rfl

theorem language_groupPattern : groupPattern.language = Pattern.groups := by
  simp only [groupPattern, amountPattern, numeralPattern, pointedPattern, Text.Pattern.language,
    language_digitPattern, language_ofChar, language_unitPattern]
  rfl

theorem accepts_durationPattern (s : String) :
    durationPattern.accepts s = isDuration s.toList := by
  have hlanguage : durationPattern.language = Form.duration.pattern := by
    rw [durationPattern, Text.Pattern.language, Text.Pattern.language, language_groupPattern]
    rfl
  rw [Bool.eq_iff_iff, Text.Pattern.accepts_iff_mem, hlanguage, isDuration_iff_mem]

/-! ### Ways to match -/

theorem ways_digitPattern_cons (c : Char) (cs : List Char) :
    digitPattern.ways (c :: cs) = if isDigit c then [([c], cs)] else [] := by
  simp only [digitPattern, Text.Pattern.ways, admits_digits]

theorem ways_ofChar_cons (d c : Char) (cs : List Char) :
    (Text.Pattern.ofChar d).ways (c :: cs) = if c = d then [([c], cs)] else [] := by
  simp only [Text.Pattern.ofChar, Text.Pattern.ways, admits_ofChar]

theorem ways_digitPattern_of_breaks (h : Breaks cs) : digitPattern.ways cs = [] := by
  cases cs with
  | nil => rfl
  | cons c cs => rw [ways_digitPattern_cons, if_neg (by simp [h c rfl])]

/-- Digits that may be repeated are taken one by one, and none of them last. -/
theorem ways_digits_cons (hc : isDigit c = true) (cs : List Char) :
    (Text.Pattern.many digitPattern).ways (c :: cs) =
      ((Text.Pattern.many digitPattern).ways cs).map (fun way => (c :: way.1, way.2)) ++
        [([], c :: cs)] := by
  simp only [Text.Pattern.ways, List.length_cons, Text.Pattern.repeatWays, ways_digitPattern_cons,
    if_pos hc, Text.Pattern.andThen]
  simp

theorem ways_digits_of_breaks (h : Breaks cs) :
    (Text.Pattern.many digitPattern).ways cs = [([], cs)] := by
  rw [Text.Pattern.ways]
  cases cs with
  | nil => rfl
  | cons c cs =>
    simp [Text.Pattern.repeatWays, ways_digitPattern_of_breaks h, Text.Pattern.andThen]

/-- What comes next finds nothing where it would have to start with a digit. -/
def StopsAtDigits (next : List Char × List Char → List α) : Prop :=
  ∀ taken c rest, isDigit c = true → next (taken, c :: rest) = []

theorem StopsAtDigits.comp {next : List Char × List Char → List α} (h : StopsAtDigits next)
    (f : List Char → List Char) : StopsAtDigits fun way => next (f way.1, way.2) :=
  fun taken c rest hc => h (f taken) c rest hc

/-- What cannot start with a digit comes behind all digits. -/
theorem flatMap_ways_digits (hds : ∀ c ∈ ds, isDigit c = true) (hrest : Breaks rest)
    {next : List Char × List Char → List α} (hnext : StopsAtDigits next) :
    ((Text.Pattern.many digitPattern).ways (ds ++ rest)).flatMap next = next (ds, rest) := by
  induction ds generalizing next with
  | nil => rw [List.nil_append, ways_digits_of_breaks hrest, List.flatMap_singleton]
  | cons d ds ih =>
    obtain ⟨hd, hds⟩ := List.forall_mem_cons.mp hds
    have hmore := ih hds (hnext.comp (d :: ·))
    rw [List.cons_append, ways_digits_cons hd, List.flatMap_append, List.flatMap_map, hmore,
      List.flatMap_singleton, hnext [] d _ hd, List.append_nil]

theorem flatMap_ways_numeral (hds : ∀ c ∈ ds, isDigit c = true) (hrest : Breaks rest)
    {next : List Char × List Char → List α} (hnext : StopsAtDigits next) :
    (numeralPattern.ways (ds ++ rest)).flatMap next = if ds = [] then [] else next (ds, rest) := by
  rw [numeralPattern, Text.Pattern.ways, Text.Pattern.flatMap_andThen]
  cases ds with
  | nil => simp [ways_digitPattern_of_breaks hrest]
  | cons d ds =>
    obtain ⟨hd, hds⟩ := List.forall_mem_cons.mp hds
    have hmore := flatMap_ways_digits hds hrest (hnext.comp (d :: ·))
    rw [List.cons_append, ways_digitPattern_cons, if_pos hd, List.flatMap_singleton,
      if_neg (List.cons_ne_nil d ds), ← hmore]
    rfl

/-- An amount is digits, or it has its point right behind the digits at its start. -/
theorem flatMap_ways_amountPattern (hds : ∀ c ∈ ds, isDigit c = true) (hrest : Breaks rest)
    {next : List Char × List Char → List α} (hnext : StopsAtDigits next) :
    (amountPattern.ways (ds ++ rest)).flatMap next =
      (if ds = [] then [] else next (ds, rest)) ++
        ((Text.Pattern.ofChar '.').ways rest).flatMap fun point =>
          (numeralPattern.ways point.2).flatMap fun fraction =>
            next (ds ++ point.1 ++ fraction.1, fraction.2) := by
  have hpoint : ∀ c, isDigit c = true → c ≠ '.' := by
    rintro c hc rfl
    nomatch hc
  rw [amountPattern, Text.Pattern.ways, List.flatMap_append, flatMap_ways_numeral hds hrest hnext]
  congr 1
  simp only [pointedPattern, Text.Pattern.ways, Text.Pattern.flatMap_andThen]
  refine flatMap_ways_digits hds hrest fun taken c rest hc => ?_
  simp only [ways_ofChar_cons, if_neg (hpoint c hc), List.flatMap_nil]

theorem ways_unitPattern_of_digit (hc : isDigit c = true) : unitPattern.ways (c :: cs) = [] := by
  have hne : ∀ d, isDigit d = false → c ≠ d := by
    rintro d hd rfl
    rw [hc] at hd
    nomatch hd
  simp [unitPattern, Text.Pattern.ways, Text.Pattern.andThen, ways_ofChar_cons, hne 'm' rfl,
    hne 's' rfl, hne 'h' rfl]

/-- Of the units that a text may start with the longer one is preferred. -/
theorem head?_ways_unitPattern (cs : List Char) :
    (unitPattern.ways cs).head? = (unit? cs).map fun found => (found.1.letters, found.2) := by
  rcases cs with _ | ⟨c, rest⟩
  · rfl
  simp only [unitPattern, Text.Pattern.ways, Text.Pattern.andThen, ways_ofChar_cons]
  by_cases hm : c = 'm'
  · subst hm
    rcases rest with _ | ⟨d, rest⟩
    · rfl
    by_cases hs : d = 's'
    · subst hs
      simp [ways_ofChar_cons, unit?, TimeUnit.letters]
    · simp [ways_ofChar_cons, hs, unit?, TimeUnit.letters]
  · by_cases hs : c = 's'
    · subst hs
      simp [unit?, TimeUnit.letters]
    by_cases hh : c = 'h'
    · subst hh
      simp [unit?, TimeUnit.letters]
    · simp [hm, hs, hh, unit?]

theorem breaks_dropWhile (cs : List Char) : Breaks (cs.dropWhile isDigit) := by
  intro c hc
  have hhead := List.head?_dropWhile_not isDigit cs
  rw [Option.mem_def.mp hc] at hhead
  simpa using hhead

theorem timeGroup?_of_point {body : List Char} (h : cs.dropWhile isDigit = '.' :: body) :
    timeGroup? cs =
      if body.takeWhile isDigit = [] then none
      else (unit? (body.dropWhile isDigit)).map fun found =>
        (⟨cs.takeWhile isDigit, body.takeWhile isDigit, found.1⟩, found.2) := by
  simp only [timeGroup?, h, List.isEmpty_iff]

theorem timeGroup?_of_ne (h : (cs.dropWhile isDigit).head? ≠ some '.') :
    timeGroup? cs =
      if cs.takeWhile isDigit = [] then none
      else (unit? (cs.dropWhile isDigit)).map fun found =>
        (⟨cs.takeWhile isDigit, [], found.1⟩, found.2) := by
  simp only [timeGroup?]
  split
  · rename_i hpoint
    exact absurd (by rw [hpoint]; rfl) h
  · simp only [List.isEmpty_iff]

/-- The units behind an amount that has been taken. -/
def unitsBehind (way : List Char × List Char) : List (List (List Char) × List Char) :=
  (unitPattern.ways way.2).map fun unit => ([way.1, unit.1], unit.2)

theorem stopsAtDigits_unitsBehind : StopsAtDigits unitsBehind := by
  intro taken c rest hc
  rw [unitsBehind, ways_unitPattern_of_digit hc, List.map_nil]

theorem unitsBehind_point (taken rest : List Char) : unitsBehind (taken, '.' :: rest) = [] := by
  simp [unitsBehind, unitPattern, Text.Pattern.ways, Text.Pattern.andThen, ways_ofChar_cons]

theorem head?_unitsBehind (amount rest : List Char) :
    (unitsBehind (amount, rest)).head? =
      (unit? rest).map fun found => ([amount, found.1.letters], found.2) := by
  rw [unitsBehind, List.head?_map, head?_ways_unitPattern, Option.map_map]
  rfl

theorem partWays_eq_flatMap (cs : List Char) :
    Text.Pattern.partWays [amountPattern, unitPattern] cs =
      (amountPattern.ways cs).flatMap unitsBehind := by
  unfold unitsBehind
  simp [Text.Pattern.partWays, ← List.map_eq_flatMap, Function.comp_def]

/-- A group is read at the start of a text as it is matched there. -/
theorem head?_partWays (cs : List Char) :
    (Text.Pattern.partWays [amountPattern, unitPattern] cs).head? =
      (timeGroup? cs).map fun found => ([found.1.amount, found.1.unit.letters], found.2) := by
  have hdigits (cs : List Char) : ∀ c ∈ cs.takeWhile isDigit, isDigit c = true :=
    fun c => isDigit_of_mem_takeWhile
  have hamount := flatMap_ways_amountPattern (hdigits cs) (breaks_dropWhile cs)
    stopsAtDigits_unitsBehind
  rw [List.takeWhile_append_dropWhile] at hamount
  rw [partWays_eq_flatMap, hamount]
  by_cases hpoint : (cs.dropWhile isDigit).head? = some '.'
  · obtain ⟨body, hbody⟩ : ∃ body, cs.dropWhile isDigit = '.' :: body := by
      simpa [List.head?_eq_some_iff] using hpoint
    have hfraction := flatMap_ways_numeral (hdigits body) (breaks_dropWhile body)
      (stopsAtDigits_unitsBehind.comp (cs.takeWhile isDigit ++ ['.'] ++ ·))
    rw [List.takeWhile_append_dropWhile] at hfraction
    rw [timeGroup?_of_point hbody, hbody, unitsBehind_point, ite_self, List.nil_append,
      ways_ofChar_cons, if_pos rfl, List.flatMap_singleton, hfraction]
    split
    · rfl
    · rename_i hsome
      simp [head?_unitsBehind, Function.comp_def, TimeGroup.amount, pointed, hsome]
  · have hnone : (Text.Pattern.ofChar '.').ways (cs.dropWhile isDigit) = [] := by
      cases hafter : cs.dropWhile isDigit with
      | nil => rfl
      | cons c after =>
        rw [hafter] at hpoint
        rw [ways_ofChar_cons, if_neg (by simpa using hpoint)]
    rw [timeGroup?_of_ne hpoint, hnone, List.flatMap_nil, List.append_nil]
    split
    · rfl
    · simp [head?_unitsBehind, Function.comp_def, TimeGroup.amount, pointed]

/-! ### Searches -/

/-- A text is written as groups, one behind the other. -/
def IsWrittenAs (cs : List Char) (groups : List TimeGroup) : Prop :=
  groups ≠ [] ∧ (∀ g ∈ groups, g.IsWritten) ∧ cs = groups.flatMap TimeGroup.spelling

/-- A group as it is found in a text: right behind what was found before, with its amount and its
unit. -/
def TimeGroup.found (g : TimeGroup) : Text.Pattern.Found := ⟨[], [g.amount, g.unit.letters]⟩

theorem IsWrittenAs.timeGroups?_eq {groups : List TimeGroup} (h : IsWrittenAs cs groups) :
    timeGroups? cs = some groups := timeGroups?_eq_some_iff.mpr h

theorem accepts_durationPattern_iff {s : String} :
    durationPattern.accepts s = true ↔ ∃ groups, IsWrittenAs s.toList groups := by
  rw [accepts_durationPattern, isDuration_iff]
  rfl

/-- One group after the other is found in a text that is read as groups. -/
theorem allMatches_of_timeGroups? {groups : List TimeGroup} (h : timeGroups? cs = some groups) :
    Text.Pattern.allMatches [amountPattern, unitPattern] cs = (groups.map TimeGroup.found, []) := by
  have hfirst {cs rest : List Char} {g : TimeGroup} (hg : timeGroup? cs = some (g, rest)) :=
    Text.Pattern.allMatches_of_head? (by rw [head?_partWays, hg, Option.map_some])
      (length_lt_of_timeGroup? hg)
  fun_induction timeGroups? cs generalizing groups with
  | case1 => cases h
  | case2 cs g hg =>
    cases h
    rw [hfirst hg, Text.Pattern.allMatches_nil]
    rfl
  | case3 cs g c rest hg hshort ih =>
    obtain ⟨groups', hmore, rfl⟩ := Option.map_eq_some_iff.mp h
    rw [hfirst hg, ih hmore]
    rfl

/-- Scanning a duration skips nothing.  The first expression matches a text, as one of the ways to
match its pattern takes the text whole, if and only if the text is written as groups; and it is
written so in one way only.  The matches of the second expression in such a text are these groups,
each right behind the one before and the last one at the end of the text.  They are the groups that
are read and added up, and a text that the first expression does not match is not read. -/
theorem scanning_skips_nothing (s : String) :
    Text.Expression.ofText? "^(?:(?:[0-9]+|[0-9]*\\.[0-9]+)(?:ms|s|m|h))+$" =
      some durationExpression ∧
    Text.Expression.ofText? "([0-9]+|[0-9]*\\.[0-9]+)(ms|s|m|h)" =
      some ⟨⟨false, false⟩, .both amountPattern unitPattern⟩ ∧
    (durationExpression.isMatch s = true ↔
      ∃ taken, (taken, []) ∈ durationPattern.ways s.toList) ∧
    (durationExpression.isMatch s = true ↔ ∃ groups, IsWrittenAs s.toList groups) ∧
    (∀ groups groups', IsWrittenAs s.toList groups → IsWrittenAs s.toList groups' →
      groups = groups') ∧
    (∀ groups, IsWrittenAs s.toList groups →
      Text.Pattern.allMatches [amountPattern, unitPattern] s.toList =
          (groups.map TimeGroup.found, []) ∧
        duration? s = sumGroups 0 groups) ∧
    (durationExpression.isMatch s = false → duration? s = none) := by
  have hwhole : durationExpression.isMatch s = durationPattern.accepts s :=
    Text.Expression.isMatch_of_edges rfl s
  rw [hwhole]
  refine ⟨ofText?_durationExpression, ofText?_groupPattern,
    Text.Pattern.accepts_iff_exists_way, accepts_durationPattern_iff,
    fun groups groups' h h' => ?_, fun groups h => ⟨?_, ?_⟩, fun h => ?_⟩
  · exact Option.some.inj (h.timeGroups?_eq.symm.trans h'.timeGroups?_eq)
  · exact allMatches_of_timeGroups? h.timeGroups?_eq
  · rw [duration?, h.timeGroups?_eq, Option.bind_some]
  · rw [accepts_durationPattern, isDuration, Option.isSome_eq_false_iff, Option.isNone_iff_eq_none]
      at h
    rw [duration?, h, Option.bind_none]

/-- Groups at whose borders a shorter amount or a shorter unit could be tried. -/
def closeGroups : List TimeGroup :=
  [⟨['1'], [], .minutes⟩, ⟨[], ['5'], .seconds⟩, ⟨['5'], [], .minutes⟩,
    ⟨['5'], [], .milliseconds⟩, ⟨['1'], ['5'], .minutes⟩, ⟨['3', '0'], [], .seconds⟩]

theorem scanning_skips_nothing_close :
    IsWrittenAs "1m.5s5m5ms1.5m30s".toList closeGroups ∧
    durationExpression.isMatch "1m.5s5m5ms1.5m30s" = true ∧
    Text.Pattern.allMatches [amountPattern, unitPattern] "1m.5s5m5ms1.5m30s".toList =
      ([⟨[], [['1'], ['m']]⟩, ⟨[], [['.', '5'], ['s']]⟩, ⟨[], [['5'], ['m']]⟩,
        ⟨[], [['5'], ['m', 's']]⟩, ⟨[], [['1', '.', '5'], ['m']]⟩, ⟨[], [['3', '0'], ['s']]⟩], []) ∧
    durationExpression.isMatch "1m5" = false ∧ duration? "1m5" = none := by
  obtain ⟨-, -, -, haccepts, -, hfound, -⟩ := scanning_skips_nothing "1m.5s5m5ms1.5m30s"
  obtain ⟨-, -, -, -, -, -, hrejected⟩ := scanning_skips_nothing "1m5"
  have hwritten : IsWrittenAs "1m.5s5m5ms1.5m30s".toList closeGroups :=
    timeGroups?_eq_some_iff.mp (by decide +kernel)
  have hnot : durationExpression.isMatch "1m5" = false := by decide +kernel
  exact ⟨hwritten, haccepts.mpr ⟨_, hwritten⟩, (hfound _ hwritten).1, hnot, hrejected hnot⟩

end BrowserScript.Reading
