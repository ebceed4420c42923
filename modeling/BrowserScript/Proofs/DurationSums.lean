import BrowserScript.Proofs.Rounding
import BrowserScript.Proofs.ValueForms

/-!
# Sums of durations

The amounts of a duration are multiplied by their units in binary64 numbers and added as naturals.
As long as an amount is whole and its nanoseconds stay within `2 ^ 53`, no rounding is involved, and
the sum of any number of such amounts is exact until it leaves 64 bits.
-/

namespace BrowserScript.Reading

/-- An amount of whole units: a run of digits and the unit. -/
structure WholeGroup where
  digits : List Char
  unit : TimeUnit
  isNumeral_digits : isNumeral digits = true

namespace WholeGroup

def spelling (g : WholeGroup) : List Char := g.digits ++ g.unit.letters

def nanoseconds (g : WholeGroup) : Nat := Nat.ofDigitChars 10 g.digits 0 * g.unit.nanoseconds

def toTimeGroup (g : WholeGroup) : TimeGroup := ⟨g.digits, [], g.unit⟩

variable {g : WholeGroup} {groups : List WholeGroup}

theorem isWritten_toTimeGroup (g : WholeGroup) : g.toTimeGroup.IsWritten := by
  obtain ⟨hsome, hdigits⟩ := isNumeral_iff.mp g.isNumeral_digits
  exact ⟨hdigits, nofun, .inl hsome⟩

theorem spelling_toTimeGroup (g : WholeGroup) : g.toTimeGroup.spelling = g.spelling := by
  simp [TimeGroup.spelling, TimeGroup.amount, pointed, toTimeGroup, spelling]

theorem timeGroups?_flatMap (hsome : groups ≠ []) :
    timeGroups? (groups.flatMap spelling) = some (groups.map toTimeGroup) := by
  have hwritten : ∀ g ∈ groups.map toTimeGroup, g.IsWritten := by
    intro g hg
    obtain ⟨g, -, rfl⟩ := List.mem_map.mp hg
    exact g.isWritten_toTimeGroup
  have h := timeGroups?_flatMap_spelling (by simpa using hsome) hwritten
  rwa [List.flatMap_map, funext spelling_toTimeGroup] at h

end WholeGroup

theorem TimeUnit.nanoseconds_pos (u : TimeUnit) : 0 < u.nanoseconds := by
  cases u <;> decide

theorem TimeUnit.nanoseconds_le (u : TimeUnit) : u.nanoseconds ≤ 2 ^ 53 := by
  cases u <;> decide

/-- Whole amounts within the exact range are converted to nanoseconds without rounding. -/
theorem WholeGroup.nanoseconds?_toTimeGroup {g : WholeGroup} (hg : g.nanoseconds ≤ 2 ^ 53) :
    g.toTimeGroup.nanoseconds? = some g.nanoseconds := by
  have hamount : Nat.ofDigitChars 10 g.digits 0 ≤ 2 ^ 53 :=
    (Nat.le_mul_of_pos_right _ g.unit.nanoseconds_pos).trans hg
  have hproduct : (Nat.ofDigitChars 10 g.digits 0 : ℚ) * g.unit.nanoseconds = g.nanoseconds := by
    rw [nanoseconds, Nat.cast_mul]
  have hexact := (Binary64.Represents.ofDecimal hamount).mul
    (Binary64.Represents.ofNat g.unit.nanoseconds_le)
    (by rw [hproduct]; exact Binary64.isDyadic_natCast hg)
  rw [hproduct] at hexact
  have hfits : g.nanoseconds ≤ maxNanoseconds := hg.trans (by decide)
  simp only [TimeGroup.nanoseconds?, toTimeGroup, List.append_nil, List.length_nil, Nat.cast_zero,
    Int.neg_zero, numeral_eq_ofDigitChars, hexact.nearestNat, Option.bind_some, if_pos hfits]

/-- The running sum is exact, and gives up as soon as it leaves 64 bits. -/
theorem sumGroups_map_toTimeGroup {groups : List WholeGroup} {total : Nat}
    (hgroups : ∀ g ∈ groups, g.nanoseconds ≤ 2 ^ 53) (htotal : total ≤ maxNanoseconds) :
    sumGroups total (groups.map WholeGroup.toTimeGroup) =
      if total + (groups.map WholeGroup.nanoseconds).sum ≤ maxNanoseconds then
        some (total + (groups.map WholeGroup.nanoseconds).sum)
      else none := by
  induction groups generalizing total with
  | nil => simp [sumGroups, htotal]
  | cons g groups ih =>
    obtain ⟨hg, hrest⟩ := List.forall_mem_cons.mp hgroups
    rw [List.map_cons, List.map_cons, sumGroups, WholeGroup.nanoseconds?_toTimeGroup hg,
      Option.bind_some, List.sum_cons, ← Nat.add_assoc]
    by_cases hnext : total + g.nanoseconds ≤ maxNanoseconds
    · rw [if_pos hnext, ih hrest hnext]
    · rw [if_neg hnext, if_neg (by omega)]

/-- Durations of whole amounts are summed exactly.  If the nanoseconds of every amount stay within
`2 ^ 53`, the text of the amounts one behind the other is the duration of their sum, also where no
type is declared; a sum beyond 64 bits is an error where a duration is asked for, and leaves a text
otherwise. -/
theorem whole_durations_are_summed_exactly (groups : List WholeGroup) (hsome : groups ≠ [])
    (hexact : ∀ g ∈ groups, g.nanoseconds ≤ 2 ^ 53) (text : String)
    (htext : text.toList = groups.flatMap WholeGroup.spelling) (sum : Duration)
    (hsum : sum = (groups.map WholeGroup.nanoseconds).sum) :
    (sum ≤ 2 ^ 64 - 1 →
      duration? text = some sum ∧
        (∀ vars, Binding.convert vars .duration text = .ok (.duration sum)) ∧
        auto text = .duration sum) ∧
      (2 ^ 64 - 1 < sum →
        duration? text = none ∧
          (∀ vars, Binding.convert vars .duration text =
            .error (.value text (.type .duration))) ∧
          auto text = .text text) := by
  have hgroups := WholeGroup.timeGroups?_flatMap hsome
  have hread : duration? text = if sum ≤ 2 ^ 64 - 1 then some sum else none := by
    rw [duration?, htext, hgroups, Option.bind_some,
      sumGroups_map_toTimeGroup hexact (Nat.zero_le _), Nat.zero_add, hsum]
    rfl
  have hform : Form.duration.fits text.toList = true := by
    rw [htext]
    exact Option.isSome_iff_exists.mpr ⟨_, hgroups⟩
  have hauto := auto_of_fits hform
  refine ⟨fun hfits => ?_, fun hbeyond => ?_⟩
  · have hsome : duration? text = some sum := by rw [hread, if_pos hfits]
    refine ⟨hsome, fun vars => ?_, ?_⟩
    · simp [Binding.convert, value?, hsome]
    · rw [hauto, Form.read?, hsome]
      rfl
  · have hnone : duration? text = none := by rw [hread, if_neg (not_le.mpr hbeyond)]
    refine ⟨hnone, fun vars => ?_, ?_⟩
    · simp [Binding.convert, value?, hnone]
    · rw [hauto, Form.read?, hnone]
      rfl

/-- The most hours whose nanoseconds stay within `2 ^ 53`. -/
def WholeGroup.mostHours : WholeGroup := ⟨['2', '5', '0', '1'], .hours, by decide⟩

/-- The most hours are a duration; two thousand and forty-nine times as many, written one behind the
other, are beyond 64 bits. -/
theorem whole_durations_are_summed_exactly_overflowing :
    WholeGroup.mostHours.nanoseconds ≤ 2 ^ 53 ∧
      auto "2501h" = .duration WholeGroup.mostHours.nanoseconds ∧
      ∃ text : String,
        text.toList = (List.replicate 2049 WholeGroup.mostHours).flatMap WholeGroup.spelling ∧
          2 ^ 64 - 1 <
            ((List.replicate 2049 WholeGroup.mostHours).map WholeGroup.nanoseconds).sum ∧
          duration? text = none ∧ auto text = .text text := by
  have hmost : WholeGroup.mostHours.nanoseconds ≤ 2 ^ 53 := by decide +kernel
  have hmany : ∀ g ∈ List.replicate 2049 WholeGroup.mostHours, g.nanoseconds ≤ 2 ^ 53 := by
    intro g hg
    rwa [List.eq_of_mem_replicate hg]
  have hsum : 2 ^ 64 - 1 <
      ((List.replicate 2049 WholeGroup.mostHours).map WholeGroup.nanoseconds).sum := by
    rw [List.map_replicate, List.sum_replicate]
    decide +kernel
  obtain ⟨honce, -⟩ := whole_durations_are_summed_exactly [WholeGroup.mostHours] (by simp)
    (by simpa using hmost) "2501h" (by decide +kernel) _ rfl
  obtain ⟨-, hbeyond⟩ := whole_durations_are_summed_exactly
    (List.replicate 2049 WholeGroup.mostHours) (mt (List.replicate_eq_nil_iff _).mp (by decide))
    hmany _ String.toList_ofList _ rfl
  obtain ⟨hnone, -, htext⟩ := hbeyond hsum
  exact ⟨hmost, by simpa using (honce (by decide +kernel)).2.2, _, String.toList_ofList, hsum,
    hnone, htext⟩

end BrowserScript.Reading
