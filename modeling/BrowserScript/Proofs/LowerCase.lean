import BrowserScript.Proofs.Spellings
import BrowserScript.Registry

/-!
# Lower case stays lower case

Lower-casing looks at the surroundings of a character, and one character becomes two.  Still, what
it gives is left alone by lower-casing it again, in whatever surroundings it stands then, because no
lower-case partner in the table has a partner of its own.  The table is too large to compare its
entries one by one: the characters with a partner and the partners are turned into the bits of one
number each, run by run, and the two numbers have no bit in common.  The name under which a registry
knows an action is therefore its own normal spelling.
-/

namespace BrowserScript

namespace Text

def union {α : Type} (f : α → Nat) (xs : List α) : Nat := xs.foldr (fun x bits => f x ||| bits) 0

theorem testBit_union {α : Type} (f : α → Nat) (xs : List α) (n : Nat) :
    (union f xs).testBit n = xs.any fun x => (f x).testBit n := by
  induction xs with
  | nil => exact Nat.zero_testBit n
  | cons x rest ih =>
    have hcons : union f (x :: rest) = f x ||| union f rest := rfl
    rw [hcons, Nat.testBit_or, ih, List.any_cons]

def bitsOf (groups : List (List Nat)) : Nat := union (union (2 ^ ·)) groups

theorem testBit_bitsOf {groups : List (List Nat)} {n : Nat} :
    (bitsOf groups).testBit n = true ↔ n ∈ groups.flatten := by
  simp [bitsOf, testBit_union, Nat.testBit_two_pow]

theorem notMem_of_bitsOf {groups others : List (List Nat)} (h : bitsOf groups &&& bitsOf others = 0)
    {n : Nat} (hn : n ∈ groups.flatten) : n ∉ others.flatten := by
  intro hother
  have hcommon : (bitsOf groups &&& bitsOf others).testBit n = true := by
    rw [Nat.testBit_and, testBit_bitsOf.mpr hn, testBit_bitsOf.mpr hother, Bool.and_self]
  rw [h, Nat.zero_testBit] at hcommon
  nomatch hcommon

def CaseRun.members (r : CaseRun) : List Nat :=
  (List.range ((r.last - r.first) / r.step + 1)).map fun i => r.first + i * r.step

theorem CaseRun.mem_members_of_holds {r : CaseRun} {n : Nat} (h : r.holds n = true) :
    n ∈ r.members := by
  obtain ⟨⟨hfirst, hlast⟩, hstep⟩ : (r.first ≤ n ∧ n ≤ r.last) ∧ (n - r.first) % r.step = 0 := by
    simpa [holds] using h
  have hle : (n - r.first) / r.step ≤ (r.last - r.first) / r.step :=
    Nat.div_le_div_right (by omega)
  have hn : r.first + (n - r.first) / r.step * r.step = n := by
    rw [Nat.div_mul_cancel (Nat.dvd_of_mod_eq_zero hstep)]
    omega
  exact List.mem_map.mpr ⟨_, List.mem_range.mpr (by omega), hn⟩

/-- Every code point that lower-casing changes: the members of the runs and the dotted capital I. -/
def capitals : List (List Nat) := [0x130] :: lowerRuns.map CaseRun.members

def partners : List (List Nat) :=
  lowerRuns.map fun r => r.members.map fun (n : Nat) => (n + r.shift).toNat

theorem notMem_capitals_of_mem_partners {n : Nat} (h : n ∈ partners.flatten) :
    n ∉ capitals.flatten :=
  notMem_of_bitsOf (by decide +kernel) h

theorem toNat_ofNat_cases (n : Nat) : (Char.ofNat n).toNat = n ∨ (Char.ofNat n).toNat = 0 := by
  by_cases hvalid : n.isValidChar
  · exact .inl (Escape.toNat_ofNat hvalid)
  · right
    rw [Char.ofNat, dif_neg hvalid]
    rfl

/-! ### Characters that lower-casing leaves alone -/

structure Settled (c : Char) : Prop where
  ne_dotted : c ≠ 'İ'
  holds_eq : ∀ r ∈ lowerRuns, r.holds c.toNat = false

namespace Settled

theorem of_notMem {c : Char} (h : c.toNat ∉ capitals.flatten) : Settled c := by
  refine ⟨?_, fun r hr => Bool.eq_false_iff.mpr fun hholds => h ?_⟩
  · rintro rfl
    exact h List.mem_cons_self
  · have hmember := CaseRun.mem_members_of_holds hholds
    exact List.mem_cons_of_mem _ (List.mem_flatten_of_mem (List.mem_map_of_mem hr) hmember)

theorem of_testBit {c : Char} (h : (bitsOf capitals).testBit c.toNat = false) : Settled c :=
  of_notMem fun hmem => Bool.eq_false_iff.mp h (testBit_bitsOf.mpr hmem)

theorem lowerChar_eq {c : Char} (h : Settled c) : lowerChar c = c := by
  unfold lowerChar
  split
  · unfold Char.toLower
    split
    case isTrue hupper =>
      have hA : 65 ≤ c.toNat := UInt32.le_iff_toNat_le.mp hupper.1
      have hZ : c.toNat ≤ 90 := UInt32.le_iff_toNat_le.mp hupper.2
      have hholds := h.holds_eq ⟨0x41, 0x5a, 1, 32⟩ List.mem_cons_self
      simp [CaseRun.holds, hA, hZ, Nat.mod_one] at hholds
    case isFalse => rfl
  · have hnone : lowerRuns.find? (·.holds c.toNat) = none :=
      List.find?_eq_none.mpr fun r hr => Bool.eq_false_iff.mp (h.holds_eq r hr)
    rw [hnone]

/-- A settled character stays in any surroundings. -/
theorem lowerAt_eq {c : Char} (h : Settled c) (before after : List Char) :
    lowerAt before c after = [c] := by
  have hsigma : c ≠ 'Σ' := by
    rintro rfl
    have hany : lowerRuns.any (·.holds 'Σ'.toNat) = true := by decide +kernel
    obtain ⟨r, hr, hholds⟩ := List.any_eq_true.mp hany
    exact Bool.eq_false_iff.mp (h.holds_eq r hr) hholds
  rw [lowerAt, if_neg hsigma, if_neg h.ne_dotted, h.lowerChar_eq]

theorem lowerFrom_eq {cs : List Char} (h : ∀ c ∈ cs, Settled c) (before : List Char) :
    lowerFrom before cs = cs := by
  induction cs generalizing before with
  | nil => rfl
  | cons c rest ih =>
    rw [lowerFrom_cons, (h c List.mem_cons_self).lowerAt_eq,
      ih fun d hd => h d (List.mem_cons_of_mem c hd)]
    rfl

theorem lowerChar {c : Char} (h : c ≠ 'İ') : Settled (lowerChar c) := by
  unfold Text.lowerChar
  split
  case isTrue hascii =>
    have hall : ∀ n < 0x80, (bitsOf capitals).testBit (Char.ofNat n).toLower.toNat = false := by
      decide +kernel
    have hcode := hall c.toNat hascii
    rw [Char.ofNat_toNat] at hcode
    exact of_testBit hcode
  case isFalse =>
    split
    case h_1 r hfind =>
      have hholds := List.find?_some hfind
      have hpartner : (c.toNat + r.shift).toNat ∈ partners.flatten :=
        List.mem_flatten_of_mem (List.mem_map_of_mem (List.mem_of_find?_eq_some hfind))
          (List.mem_map.mpr ⟨c.toNat, CaseRun.mem_members_of_holds hholds, rfl⟩)
      -- A number that is no code point would become the character zero, which is settled as well.
      rcases toNat_ofNat_cases (c.toNat + r.shift).toNat with hcode | hcode
      · refine of_notMem ?_
        rw [hcode]
        exact notMem_capitals_of_mem_partners hpartner
      · have hzero : (bitsOf capitals).testBit 0 = false := by decide +kernel
        exact of_testBit (hcode ▸ hzero)
    case h_2 hfind =>
      exact ⟨h, fun r hr => Bool.eq_false_iff.mpr (List.find?_eq_none.mp hfind r hr)⟩

theorem of_mem_lowerAt {before after : List Char} {c d : Char} (h : d ∈ lowerAt before c after) :
    Settled d := by
  have hall : (['ς', 'σ', 'i', Char.ofNat 0x307].all fun d =>
      (bitsOf capitals).testBit d.toNat == false) = true := by decide +kernel
  have hspecial : ∀ d ∈ ['ς', 'σ', 'i', Char.ofNat 0x307], Settled d :=
    fun d hd => of_testBit (beq_iff_eq.mp (List.all_eq_true.mp hall d hd))
  unfold lowerAt at h
  split_ifs at h with hsigma hfinal hdotted
  · exact hspecial d (by grind)
  · exact hspecial d (by grind)
  · exact hspecial d (by grind)
  · rw [List.mem_singleton.mp h]
    exact lowerChar hdotted

theorem of_mem_lowerFrom {before cs : List Char} {d : Char} (h : d ∈ lowerFrom before cs) :
    Settled d := by
  induction cs generalizing before with
  | nil => nomatch h
  | cons c rest ih =>
    rw [lowerFrom_cons, List.mem_append] at h
    exact h.elim of_mem_lowerAt ih

end Settled

end Text

/-- The normal spelling of a name is its own normal spelling. -/
theorem Action.normalizeName_normalizeName (name : String) :
    normalizeName (normalizeName name) = normalizeName name := by
  have hunderscore : Text.Settled '_' := Text.Settled.of_testBit (by decide +kernel)
  have hsettled : ∀ c ∈ (normalizeName name).toList, Text.Settled c ∧ c ≠ '-' := by
    intro c hc
    rw [normalizeName, Text.replaceChar, String.toList_ofList, List.mem_map] at hc
    obtain ⟨d, hd, rfl⟩ := hc
    rw [Text.lower, String.toList_ofList] at hd
    split
    · exact ⟨hunderscore, by decide⟩
    · exact ⟨Text.Settled.of_mem_lowerFrom hd, ‹_›⟩
  have hlower : Text.lower (normalizeName name) = normalizeName name := by
    rw [Text.lower, Text.Settled.lowerFrom_eq fun c hc => (hsettled c hc).1, String.ofList_toList]
  have hdashes : (normalizeName name).toList.map (fun c => if c = '-' then '_' else c) =
      (normalizeName name).toList := by
    refine (List.map_congr_left fun c hc => ?_).trans (List.map_id _)
    exact if_neg (hsettled c hc).2
  nth_rewrite 1 [normalizeName]
  rw [hlower, Text.replaceChar, hdashes, String.ofList_toList]

end BrowserScript
