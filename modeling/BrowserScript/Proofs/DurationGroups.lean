import BrowserScript.Proofs.Numerals

/-!
# The groups of a duration

A duration is written as amounts with units, one behind the other.  Reading takes such a text apart
into the groups that it was written with, and takes nothing else apart: digits end where a point or
a unit begins, and an `m` that an `s` follows is never the end of a group, since the next group
starts with a digit or a point.
-/

namespace BrowserScript.Reading

variable {cs rest : List Char} {g : TimeGroup} {u : TimeUnit}

def TimeUnit.letters : TimeUnit → List Char
  | .milliseconds => ['m', 's']
  | .seconds => ['s']
  | .minutes => ['m']
  | .hours => ['h']

namespace TimeGroup

def amount (g : TimeGroup) : List Char := pointed g.whole g.fraction

def spelling (g : TimeGroup) : List Char := g.amount ++ g.unit.letters

structure IsWritten (g : TimeGroup) : Prop where
  whole : ∀ c ∈ g.whole, isDigit c = true
  fraction : ∀ c ∈ g.fraction, isDigit c = true
  digits : g.whole ≠ [] ∨ g.fraction ≠ []

end TimeGroup

theorem TimeUnit.letters_ne_nil (u : TimeUnit) : u.letters ≠ [] := by
  cases u <;> simp [TimeUnit.letters]

theorem TimeUnit.breaks_letters_append (u : TimeUnit) (rest : List Char) :
    Breaks (u.letters ++ rest) := by
  cases u <;> exact breaks_cons rfl

/-- No unit starts with a point. -/
theorem TimeUnit.head?_letters_append_ne (u : TimeUnit) (rest : List Char) :
    (u.letters ++ rest).head? ≠ some '.' := by
  cases u <;> simp [TimeUnit.letters]

theorem unit?_letters_append (u : TimeUnit) (hrest : rest.head? ≠ some 's') :
    unit? (u.letters ++ rest) = some (u, rest) := by
  cases u with
  | milliseconds | seconds | hours => rfl
  | minutes =>
    cases rest with
    | nil => rfl
    | cons c rest =>
      have hc : c ≠ 's' := by simpa using hrest
      rw [TimeUnit.letters, List.singleton_append, unit?]
      intro rest' h
      exact hc (List.cons.inj h).1

theorem eq_of_unit? (h : unit? cs = some (u, rest)) : cs = u.letters ++ rest := by
  unfold unit? at h
  split at h <;> cases h <;> rfl

namespace TimeGroup

theorem IsWritten.timeGroup?_spelling (hg : g.IsWritten) (hrest : rest.head? ≠ some 's') :
    timeGroup? (g.spelling ++ rest) = some (g, rest) := by
  obtain ⟨whole, fraction, u⟩ := g
  obtain ⟨hwhole, hfraction, hdigits⟩ := hg
  have hunit := unit?_letters_append u hrest
  by_cases hpoint : fraction = []
  · subst hpoint
    have hbreaks := u.breaks_letters_append rest
    have hsome : whole ≠ [] := by simpa using hdigits
    simp only [spelling, amount, pointed, if_pos, List.append_nil, List.append_assoc, timeGroup?,
      takeWhile_isDigit_append hwhole hbreaks, dropWhile_isDigit_append hwhole hbreaks]
    split
    · rename_i body hbody
      exact absurd (by rw [hbody]; rfl) (u.head?_letters_append_ne rest)
    · simp [hsome, hunit]
  · have hbreaks : Breaks ('.' :: (fraction ++ (u.letters ++ rest))) := breaks_cons rfl
    have hafter := u.breaks_letters_append rest
    simp only [spelling, amount, pointed, if_neg hpoint, List.append_assoc, List.cons_append,
      timeGroup?, takeWhile_isDigit_append hwhole hbreaks, dropWhile_isDigit_append hwhole hbreaks,
      takeWhile_isDigit_append hfraction hafter, dropWhile_isDigit_append hfraction hafter]
    simp [hpoint, hunit]

theorem isWritten_of_timeGroup? (h : timeGroup? cs = some (g, rest)) :
    g.IsWritten ∧ cs = g.spelling ++ rest := by
  have hcs : cs = cs.takeWhile isDigit ++ cs.dropWhile isDigit :=
    List.takeWhile_append_dropWhile.symm
  simp only [timeGroup?] at h
  split at h
  · rename_i body hbody
    split at h
    · simp at h
    · rename_i hfraction
      obtain ⟨⟨u, after⟩, hunit, hg⟩ := Option.map_eq_some_iff.mp h
      obtain ⟨rfl, rfl⟩ := Prod.mk.inj hg
      have hpoint : body.takeWhile isDigit ≠ [] := by simpa using hfraction
      refine ⟨⟨fun c => isDigit_of_mem_takeWhile, fun c => isDigit_of_mem_takeWhile,
        .inr hpoint⟩, ?_⟩
      have hafter := eq_of_unit? hunit
      rw [hbody] at hcs
      conv_lhs => rw [hcs, ← List.takeWhile_append_dropWhile (p := isDigit) (l := body), hafter]
      simp [spelling, amount, pointed, hpoint]
  · split at h
    · simp at h
    · rename_i hwhole
      obtain ⟨⟨u, after⟩, hunit, hg⟩ := Option.map_eq_some_iff.mp h
      obtain ⟨rfl, rfl⟩ := Prod.mk.inj hg
      have hsome : cs.takeWhile isDigit ≠ [] := by simpa using hwhole
      refine ⟨⟨fun c => isDigit_of_mem_takeWhile, List.forall_mem_nil _, .inl hsome⟩, ?_⟩
      conv_lhs => rw [hcs, eq_of_unit? hunit]
      simp [spelling, amount, pointed]

/-- A group starts with a digit or a point. -/
theorem IsWritten.head?_spelling (hg : g.IsWritten) (rest : List Char) :
    ∃ c, (g.spelling ++ rest).head? = some c ∧ (isDigit c = true ∨ c = '.') := by
  obtain ⟨whole, fraction, u⟩ := g
  cases whole with
  | cons c whole => exact ⟨c, rfl, .inl (hg.whole c (by simp))⟩
  | nil =>
    have hpoint : fraction ≠ [] := by simpa using hg.digits
    exact ⟨'.', by simp [spelling, amount, pointed, hpoint], .inr rfl⟩

theorem IsWritten.spelling_ne_nil (hg : g.IsWritten) : g.spelling ≠ [] := by
  intro h
  obtain ⟨c, hc, -⟩ := hg.head?_spelling []
  simp [h] at hc

end TimeGroup

/-- Behind a group another one may stand, or nothing. -/
theorem head?_flatMap_spelling_ne {groups : List TimeGroup} (h : ∀ g ∈ groups, g.IsWritten) :
    (groups.flatMap TimeGroup.spelling).head? ≠ some 's' := by
  cases groups with
  | nil => simp
  | cons g groups =>
    obtain ⟨c, hc, hstart⟩ := (h g (by simp)).head?_spelling (groups.flatMap TimeGroup.spelling)
    rw [List.flatMap_cons, hc]
    rintro ⟨⟩
    simp [isDigit] at hstart

theorem timeGroups?_of_last (h : timeGroup? cs = some (g, [])) : timeGroups? cs = some [g] := by
  rw [timeGroups?]
  split <;> rename_i h' <;> rw [h] at h' <;> cases h'
  rfl

theorem timeGroups?_of_more (h : timeGroup? cs = some (g, rest)) (hrest : rest ≠ []) :
    timeGroups? cs = (timeGroups? rest).map (g :: ·) := by
  rw [timeGroups?]
  split <;> rename_i h' <;> rw [h] at h' <;> cases h'
  · exact absurd rfl hrest
  · rfl

theorem timeGroups?_flatMap_spelling {groups : List TimeGroup} (hsome : groups ≠ [])
    (h : ∀ g ∈ groups, g.IsWritten) :
    timeGroups? (groups.flatMap TimeGroup.spelling) = some groups := by
  induction groups with
  | nil => exact absurd rfl hsome
  | cons g groups ih =>
    obtain ⟨hg, hgroups⟩ := List.forall_mem_cons.mp h
    have hfirst := hg.timeGroup?_spelling (head?_flatMap_spelling_ne hgroups)
    rw [List.flatMap_cons]
    cases groups with
    | nil => exact timeGroups?_of_last hfirst
    | cons g' groups =>
      have hmore : (g' :: groups).flatMap TimeGroup.spelling ≠ [] := by
        rw [List.flatMap_cons]
        exact List.append_ne_nil_of_left_ne_nil (hgroups g' (by simp)).spelling_ne_nil _
      rw [timeGroups?_of_more hfirst hmore, ih (by simp) hgroups]
      rfl

/-- A text is taken apart into exactly those groups that it is written with. -/
theorem timeGroups?_eq_some_iff {groups : List TimeGroup} :
    timeGroups? cs = some groups ↔
      groups ≠ [] ∧ (∀ g ∈ groups, g.IsWritten) ∧ cs = groups.flatMap TimeGroup.spelling := by
  constructor
  · intro h
    fun_induction timeGroups? cs generalizing groups with
    | case1 => cases h
    | case2 cs g hg =>
      cases h
      obtain ⟨hwritten, hcs⟩ := TimeGroup.isWritten_of_timeGroup? hg
      exact ⟨by simp, by simpa using hwritten, by simpa using hcs⟩
    | case3 cs g c rest hg hshort ih =>
      obtain ⟨groups', hmore, rfl⟩ := Option.map_eq_some_iff.mp h
      obtain ⟨hwritten, hcs⟩ := TimeGroup.isWritten_of_timeGroup? hg
      obtain ⟨-, hall, hrest⟩ := ih hmore
      exact ⟨by simp, List.forall_mem_cons.mpr ⟨hwritten, hall⟩, by rw [hcs, hrest]; rfl⟩
  · rintro ⟨hsome, h, rfl⟩
    exact timeGroups?_flatMap_spelling hsome h

end BrowserScript.Reading
