import BrowserScript.Registry
import Mathlib.Data.List.Basic

/-!
# Accepted signatures

A registry checks neighbours only when it looks at the order of parameters, and counts when it looks
at those that take everything.  What it accepts is one relation between each parameter and every
later one: the kinds come in order, the names differ, and no two of them take the rest.
-/

namespace BrowserScript

/-- What an accepted signature says of a parameter and a later one. -/
structure Param.Precedes (p q : Param) : Prop where
  rank_le : p.kind.rank ≤ q.kind.rank
  name_ne : p.name ≠ q.name
  variadic_once : p.kind = .variadic → q.kind ≠ .variadic
  variadicKeyword_once : p.kind = .variadicKeyword → q.kind ≠ .variadicKeyword

namespace Registry

theorem pairwise_of_isOrdered {params : List Param} (h : isOrdered params = true) :
    params.Pairwise fun p q => p.kind.rank ≤ q.kind.rank := by
  fun_induction isOrdered params with
  | case1 => exact .nil
  | case2 p => exact List.pairwise_singleton _ p
  | case3 p q rest ih =>
    obtain ⟨hfirst, hrest⟩ : p.kind.rank ≤ q.kind.rank ∧ isOrdered (q :: rest) = true := by
      simpa using h
    have hpairs := ih hrest
    refine List.pairwise_cons.mpr ⟨fun r hr => ?_, hpairs⟩
    rcases List.mem_cons.mp hr with rfl | hr
    · exact hfirst
    · exact Nat.le_trans hfirst ((List.pairwise_cons.mp hpairs).1 r hr)

theorem pairwise_of_hasDistinctNames {params : List Param} (h : hasDistinctNames params = true) :
    params.Pairwise fun p q => p.name ≠ q.name := by
  induction params with
  | nil => exact .nil
  | cons p rest ih =>
    obtain ⟨hfirst, hrest⟩ : (∀ q ∈ rest, q.name ≠ p.name) ∧ hasDistinctNames rest = true := by
      simpa [hasDistinctNames] using h
    exact List.pairwise_cons.mpr ⟨fun q hq => (hfirst q hq).symm, ih hrest⟩

theorem pairwise_of_countP_le {params : List Param} {kind : ParamKind}
    (h : params.countP (·.kind == kind) ≤ 1) :
    params.Pairwise fun p q => p.kind = kind → q.kind ≠ kind := by
  induction params with
  | nil => exact .nil
  | cons p rest ih =>
    rw [List.countP_cons] at h
    refine List.pairwise_cons.mpr ⟨fun q hq hp hkind => ?_, ih (by omega)⟩
    have hq : 0 < rest.countP (·.kind == kind) := List.countP_pos_iff.mpr ⟨q, hq, by simp [hkind]⟩
    simp only [hp, beq_self_eq_true, ↓reduceIte] at h
    omega

/-- A signature without a fault is in order throughout. -/
theorem pairwise_of_fault? {name : String} {params : List Param} (h : fault? name params = none) :
    params.Pairwise Param.Precedes := by
  unfold fault? at h
  split_ifs at h with hvariadic hoptions hordered hnames
  have hranks := pairwise_of_isOrdered (by simpa using hordered)
  have hdistinct := pairwise_of_hasDistinctNames (by simpa using hnames)
  have hrest := pairwise_of_countP_le (Nat.le_of_not_lt hvariadic)
  have hextra := pairwise_of_countP_le (Nat.le_of_not_lt hoptions)
  refine ((hranks.and hdistinct).and (hrest.and hextra)).imp ?_
  rintro p q ⟨⟨hrank, hname⟩, hrest, hextra⟩
  exact ⟨hrank, hname, hrest, hextra⟩

end Registry

end BrowserScript
