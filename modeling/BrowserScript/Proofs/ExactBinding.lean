import BrowserScript.Proofs.Signatures
import BrowserScript.Proofs.Turns

/-!
# Exact binding

The order of an accepted signature says what is left at each turn: a fixed parameter finds the text
at its own position, the variadic one all texts after the fixed ones, a keyword parameter the
options that earlier ones have left.  Words bind exactly if each parameter can take what it finds
and nothing is left over in the end, and then each parameter holds what it took: names are distinct,
so no parameter touches what another one has bound.
-/

namespace BrowserScript

namespace Binding

/-! ### What words say about parameters -/

/-- The parameters that take one positional text each. -/
def fixedParams (action : Action) : List Param := action.params.filter (·.kind == .fixed)

/-- What lands on which parameter: the positional texts on the fixed ones by position, all further
ones on the variadic one, the option that it finds on a keyword parameter when it is its turn, and
every unclaimed option on the variadic keyword parameter. -/
inductive Lands (action : Action) (positional : List String) (named : Dict Named) :
    Param → Named → Prop
  | fixed {i : Nat} {p : Param} {raw : String} (hp : (fixedParams action)[i]? = some p)
    (hraw : positional[i]? = some raw) : Lands action positional named p (.text raw)
  | rest {p : Param} {raw : String} (hp : p ∈ action.params) (hkind : p.kind = .variadic)
    (hraw : raw ∈ positional.drop action.fixedCount) : Lands action positional named p (.text raw)
  | option {before after : List Param} {p : Param} {value : Named}
    (hp : action.params = before ++ p :: after) (hkind : p.kind = .keyword)
    (hvalue : found? p.name (unclaimed before named) = some value) :
    Lands action positional named p value
  | extra {p : Param} {key : String} {value : Named} (hp : p ∈ action.params)
    (hkind : p.kind = .variadicKeyword) (hvalue : (key, value) ∈ unclaimed action.params named) :
    Lands action positional named p value

/-- When positional texts and options can be bound to the parameters of an action. -/
structure Bindable (vars : Variables) (action : Action) (positional : List String)
    (named : Dict Named) : Prop where
  fixed : ∀ (i : Nat) (p : Param), (fixedParams action)[i]? = some p → positional.length ≤ i →
    p.hasDefault = true
  room : positional.length ≤ action.fixedCount ∨ ∃ p ∈ action.params, p.kind = .variadic
  option : ∀ before p after, action.params = before ++ p :: after → p.kind = .keyword →
    (found? p.name (unclaimed before named)).isSome = true ∨ p.hasDefault = true
  extra : unclaimed action.params named = [] ∨ ∃ p ∈ action.params, p.kind = .variadicKeyword
  text : ∀ p raw, Lands action positional named p (.text raw) →
    ∃ v, convert vars p.type raw = .ok v
  flag : ∀ p, Lands action positional named p .flag → p.type = .auto ∨ p.type = .boolean

def valuesOf (bound : Bound) (p : Param) : List Value :=
  match p.kind with
  | .fixed | .keyword => (bound.get? p.name).toList
  | .variadic => bound.rest
  | .variadicKeyword => bound.extra.map Prod.snd

/-- What is bound: everything that the words give, and nothing else. -/
structure Holds (vars : Variables) (action : Action) (positional : List String)
    (named : Dict Named) (bound : Bound) : Prop where
  name : bound.action = action.name
  fixed : ∀ (i : Nat) (p : Param), (fixedParams action)[i]? = some p →
    Option.Rel (fun raw v => convert vars p.type raw = .ok v) positional[i]? (bound.get? p.name)
  rest : ∀ p ∈ action.params, p.kind = .variadic →
    List.Forall₂ (fun raw v => convert vars p.type raw = .ok v)
      (positional.drop action.fixedCount) bound.rest
  noRest : (∀ p ∈ action.params, p.kind ≠ .variadic) → bound.rest = []
  option : ∀ before p after, action.params = before ++ p :: after → p.kind = .keyword →
    Option.Rel (ReadsAs vars p.type) (found? p.name (unclaimed before named)) (bound.get? p.name)
  extra : ∀ p ∈ action.params, p.kind = .variadicKeyword →
    List.Forall₂ (fun entry v => entry.1 = v.1 ∧ ReadsAs vars p.type entry.2 v.2)
      (unclaimed action.params named) bound.extra
  noExtra : (∀ p ∈ action.params, p.kind ≠ .variadicKeyword) → bound.extra = []
  others : ∀ name, (∀ p ∈ action.params, p.kind = .fixed ∨ p.kind = .keyword → p.name ≠ name) →
    bound.get? name = none
  typed : ∀ p ∈ action.params, p.type ≠ .auto → ∀ v ∈ valuesOf bound p, v.type = p.type

variable {vars : Variables} {action : Action}

/-! ### Turns of an accepted signature -/

section Turn

variable {before after : List Param} {p : Param} {positional : List String} {named : Dict Named}

theorem getElem?_fixedParams_iff {i : Nat} : (fixedParams action)[i]? = some p ↔
    ∃ before after, action.params = before ++ p :: after ∧ p.kind = .fixed ∧
      before.countP (·.kind == .fixed) = i := by
  constructor
  · intro h
    obtain ⟨hi, hp⟩ := List.getElem?_eq_some_iff.mp h
    have hcut : fixedParams action =
        (fixedParams action).take i ++ p :: (fixedParams action).drop (i + 1) := by
      rw [← hp, ← List.drop_eq_getElem_cons hi, List.take_append_drop]
    obtain ⟨before, rest, hparams, hbefore, hrest⟩ := List.filter_eq_append_iff.mp hcut
    obtain ⟨between, after, rfl, hbetween, hkind, -⟩ := List.filter_eq_cons_iff.mp hrest
    refine ⟨before ++ between, after, by rw [hparams, List.append_assoc], by simpa using hkind, ?_⟩
    rw [List.countP_append, List.countP_eq_length_filter, hbefore, List.countP_eq_zero.mpr hbetween,
      List.length_take, Nat.min_eq_left hi.le, Nat.add_zero]
  · rintro ⟨before, after, hparams, hkind, rfl⟩
    rw [fixedParams, hparams, List.filter_append, List.filter_cons_of_pos (by simp [hkind]),
      List.countP_eq_length_filter]
    simp

theorem positionalAfter_of_notMem (h : ∀ q ∈ before, q.kind ≠ .variadic) :
    positionalAfter before positional =
      positional.drop (before.countP (·.kind == .fixed)) := by
  have hnone : before.any (·.kind == .variadic) = false := by simpa using h
  simp [positionalAfter, hnone]

theorem unclaimed_append (others : List Param) :
    unclaimed (before ++ others) named = unclaimed others (unclaimed before named) := by
  induction before generalizing named with
  | nil => rfl
  | cons q before ih =>
    rw [List.cons_append, unclaimed, unclaimed]
    split
    · exact ih
    · exact ih

theorem unclaimed_of_notMem {params : List Param} (h : ∀ q ∈ params, q.kind ≠ .keyword) :
    unclaimed params named = named := by
  induction params with
  | nil => rfl
  | cons q params ih =>
    obtain ⟨hq, hparams⟩ := List.forall_mem_cons.mp h
    rw [unclaimed, if_neg hq, ih hparams]

variable (hparams : (before ++ p :: after).Pairwise Param.Precedes)

include hparams

theorem precedes_before : ∀ q ∈ before, q.Precedes p := fun q hq =>
  (List.pairwise_append.mp hparams).2.2 q hq p List.mem_cons_self

theorem precedes_after : ∀ q ∈ after, p.Precedes q :=
  (List.pairwise_cons.mp (List.pairwise_append.mp hparams).2.1).1

theorem positionalAfter_of_turn (hp : p.kind = .fixed ∨ p.kind = .variadic) :
    positionalAfter before positional =
      positional.drop (before.countP (·.kind == .fixed)) := by
  refine positionalAfter_of_notMem fun q hq hkind => ?_
  have hprecedes := precedes_before hparams q hq
  rcases hp with hp | hp
  · have hrank := hprecedes.rank_le
    simp [hkind, hp, ParamKind.rank] at hrank
  · exact hprecedes.variadic_once hkind hp

theorem countP_of_turn (hp : p.kind = .variadic) :
    before.countP (·.kind == .fixed) = (before ++ p :: after).countP (·.kind == .fixed) := by
  have hafter : after.countP (·.kind == .fixed) = 0 := by
    rw [List.countP_eq_zero]
    intro q hq hkind
    have hrank := (precedes_after hparams q hq).rank_le
    simp [beq_iff_eq.mp hkind, hp, ParamKind.rank] at hrank
  simp [hafter, hp]

theorem optionsAfter_of_turn : optionsAfter before named = unclaimed before named := by
  have hnone : before.any (·.kind == .variadicKeyword) = false := by
    simp only [List.any_eq_false, beq_iff_eq]
    intro q hq hkind
    have hprecedes := precedes_before hparams q hq
    have hrank := hprecedes.rank_le
    have honce := hprecedes.variadicKeyword_once hkind
    rw [hkind] at hrank
    cases hp : p.kind <;> simp_all [ParamKind.rank]
  simp [optionsAfter, hnone]

theorem unclaimed_of_turn (hp : p.kind = .variadicKeyword) :
    unclaimed (before ++ p :: after) named = unclaimed before named := by
  rw [unclaimed_append]
  refine unclaimed_of_notMem fun q hq hkind => ?_
  rcases List.mem_cons.mp hq with rfl | hq
  · rw [hp] at hkind
    nomatch hkind
  · have hrank := (precedes_after hparams q hq).rank_le
    simp [hkind, hp, ParamKind.rank] at hrank

end Turn

section Leftover

variable {positional : List String} {named : Dict Named}

theorem positionalAfter_eq_nil_iff : positionalAfter action.params positional = [] ↔
    positional.length ≤ action.fixedCount ∨ ∃ p ∈ action.params, p.kind = .variadic := by
  rw [positionalAfter, Action.fixedCount]
  split
  · rename_i hvariadic
    simpa using Or.inr (by simpa using hvariadic)
  · rename_i hvariadic
    have hnone : ¬ ∃ p ∈ action.params, p.kind = .variadic := by simpa using hvariadic
    rw [List.drop_eq_nil_iff, or_iff_left hnone]

theorem optionsAfter_eq_nil_iff : optionsAfter action.params named = [] ↔
    unclaimed action.params named = [] ∨ ∃ p ∈ action.params, p.kind = .variadicKeyword := by
  rw [optionsAfter]
  split
  · rename_i hextra
    simpa using Or.inr (by simpa using hextra)
  · rename_i hextra
    have hnone : ¬ ∃ p ∈ action.params, p.kind = .variadicKeyword := by simpa using hextra
    rw [or_iff_left hnone]

end Leftover

section Accepted

variable {positional : List String} {named : Dict Named}
  (hparams : action.params.Pairwise Param.Precedes)

include hparams

section Fits

variable {before after : List Param} {p : Param} (hturn : action.params = before ++ p :: after)

include hturn

theorem fits_fixed_iff (hkind : p.kind = .fixed) :
    Fits vars p (positionalAfter before positional) (optionsAfter before named) ↔
      (positional.length ≤ before.countP (·.kind == .fixed) → p.hasDefault = true) ∧
      ∀ raw ∈ positional[before.countP (·.kind == .fixed)]?,
        ∃ v, convert vars p.type raw = .ok v := by
  rw [positionalAfter_of_turn (hturn ▸ hparams) (.inl hkind)]
  simp only [Fits, hkind, List.head?_drop, List.drop_eq_nil_iff]

theorem fits_variadic_iff (hkind : p.kind = .variadic) :
    Fits vars p (positionalAfter before positional) (optionsAfter before named) ↔
      ∀ raw ∈ positional.drop action.fixedCount, ∃ v, convert vars p.type raw = .ok v := by
  rw [positionalAfter_of_turn (hturn ▸ hparams) (.inr hkind),
    countP_of_turn (hturn ▸ hparams) hkind, ← hturn]
  simp only [Fits, hkind, Action.fixedCount]

theorem fits_keyword_iff (hkind : p.kind = .keyword) :
    Fits vars p (positionalAfter before positional) (optionsAfter before named) ↔
      (found? p.name (unclaimed before named) = none → p.hasDefault = true) ∧
      ∀ value ∈ found? p.name (unclaimed before named), ∃ v, ReadsAs vars p.type value v := by
  rw [optionsAfter_of_turn (hturn ▸ hparams)]
  simp only [Fits, hkind]

theorem fits_variadicKeyword_iff (hkind : p.kind = .variadicKeyword) :
    Fits vars p (positionalAfter before positional) (optionsAfter before named) ↔
      ∀ entry ∈ unclaimed action.params named, ∃ v, ReadsAs vars p.type entry.2 v := by
  rw [hturn, unclaimed_of_turn (hturn ▸ hparams) hkind, optionsAfter_of_turn (hturn ▸ hparams)]
  simp only [Fits, hkind]

end Fits

/-- What lands on a parameter can be read. -/
theorem AllFit.readsAs (h : AllFit vars action.params positional named) {p : Param} {value : Named}
    (hlands : Lands action positional named p value) : ∃ v, ReadsAs vars p.type value v := by
  cases hlands with
  | fixed hp hraw =>
    obtain ⟨before, after, hturn, hkind, rfl⟩ := getElem?_fixedParams_iff.mp hp
    obtain ⟨-, hfirst⟩ := (fits_fixed_iff hparams hturn hkind).mp (h before p after hturn)
    obtain ⟨v, hv⟩ := hfirst _ hraw
    exact ⟨v, .text hv⟩
  | rest hp hkind hraw =>
    obtain ⟨before, after, hturn⟩ := List.append_of_mem hp
    have hall := (fits_variadic_iff hparams hturn hkind).mp (h before p after hturn)
    obtain ⟨v, hv⟩ := hall _ hraw
    exact ⟨v, .text hv⟩
  | @option before after _ _ hturn hkind hvalue =>
    obtain ⟨-, hfound⟩ := (fits_keyword_iff hparams hturn hkind).mp (h before p after hturn)
    exact hfound _ hvalue
  | extra hp hkind hvalue =>
    obtain ⟨before, after, hturn⟩ := List.append_of_mem hp
    exact (fits_variadicKeyword_iff hparams hturn hkind).mp (h before p after hturn) _ hvalue

theorem bindable_of_allFit (h : AllFit vars action.params positional named)
    (hpositional : positionalAfter action.params positional = [])
    (hnamed : optionsAfter action.params named = []) :
    Bindable vars action positional named where
  fixed i p hp hi := by
    obtain ⟨before, after, hturn, hkind, rfl⟩ := getElem?_fixedParams_iff.mp hp
    obtain ⟨hdefault, -⟩ := (fits_fixed_iff hparams hturn hkind).mp (h before p after hturn)
    exact hdefault hi
  room := positionalAfter_eq_nil_iff.mp hpositional
  option before p after hturn hkind := by
    obtain ⟨hdefault, -⟩ := (fits_keyword_iff hparams hturn hkind).mp (h before p after hturn)
    cases hfound : found? p.name (unclaimed before named) with
    | none => exact .inr (hdefault hfound)
    | some value => exact .inl rfl
  extra := optionsAfter_eq_nil_iff.mp hnamed
  text p raw hlands := by
    obtain ⟨v, hv⟩ := h.readsAs hparams hlands
    cases hv with
    | text hv => exact ⟨v, hv⟩
  flag p hlands := by
    obtain ⟨v, hv⟩ := h.readsAs hparams hlands
    cases hv with
    | flag htype => exact htype

theorem Bindable.allFit (h : Bindable vars action positional named) :
    AllFit vars action.params positional named := by
  have hreads : ∀ {p value}, Lands action positional named p value →
      ∃ v, ReadsAs vars p.type value v := by
    intro p value hlands
    cases value with
    | text raw =>
      obtain ⟨v, hv⟩ := h.text p raw hlands
      exact ⟨v, .text hv⟩
    | flag => exact ⟨_, .flag (h.flag p hlands)⟩
  intro before p after hturn
  have hmem : p ∈ action.params := by simp [hturn]
  cases hkind : p.kind with
  | fixed =>
    have hp := getElem?_fixedParams_iff.mpr ⟨before, after, hturn, hkind, rfl⟩
    refine (fits_fixed_iff hparams hturn hkind).mpr ⟨h.fixed _ p hp, fun raw hraw => ?_⟩
    exact h.text p raw (.fixed hp hraw)
  | variadic =>
    refine (fits_variadic_iff hparams hturn hkind).mpr fun raw hraw => ?_
    exact h.text p raw (.rest hmem hkind hraw)
  | keyword =>
    have hneeds := h.option before p after hturn hkind
    refine (fits_keyword_iff hparams hturn hkind).mpr ⟨fun hnone => ?_, fun value hvalue => ?_⟩
    · exact hneeds.resolve_left (by simp [hnone])
    · exact hreads (.option hturn hkind hvalue)
  | variadicKeyword =>
    refine (fits_variadicKeyword_iff hparams hturn hkind).mpr fun entry hentry => ?_
    exact hreads (.extra hmem hkind hentry)

end Accepted

/-! ### What is bound -/

/-- What no parameter touches stays as it is. -/
theorem eq_of_bindParams {γ : Type} (view : Bound → γ) {params : List Param} {s s' : Progress}
    (hkeep : ∀ p ∈ params, ∀ s s', Takes vars action p s s' → view s'.bound = view s.bound)
    (h : bindParams vars action params s = .ok s') : view s'.bound = view s.bound := by
  induction params generalizing s with
  | nil => rw [← Except.ok.inj h]
  | cons p rest ih =>
    obtain ⟨hp, hrest⟩ := List.forall_mem_cons.mp hkeep
    obtain ⟨middle, hfirst, hmore⟩ := exists_of_bind_eq_ok h
    rw [ih hrest hmore, hp s middle (takes_of_bindParam hfirst)]

section Takes

variable {p : Param} {s s' : Progress}

theorem Takes.get?_of_ne (h : Takes vars action p s s') {name : String}
    (hname : p.kind = .fixed ∨ p.kind = .keyword → p.name ≠ name) :
    s'.bound.get? name = s.bound.get? name := by
  cases h with
  | positional hkind hpositional hv =>
    simp [Bound.get?, Dict.get?_insert, (hname (.inl hkind)).symm]
  | option hkind hnamed hv =>
    simp [Bound.get?, Dict.get?_insert, (hname (.inr hkind)).symm]
  | _ => rfl

theorem Takes.rest_of_ne (h : Takes vars action p s s') (hkind : p.kind ≠ .variadic) :
    s'.bound.rest = s.bound.rest := by
  cases h with
  | rest hvariadic hvs => exact absurd hvariadic hkind
  | _ => rfl

theorem Takes.extra_of_ne (h : Takes vars action p s s') (hkind : p.kind ≠ .variadicKeyword) :
    s'.bound.extra = s.bound.extra := by
  cases h with
  | options hextra hvs => exact absurd hextra hkind
  | _ => rfl

theorem Takes.action_eq (h : Takes vars action p s s') : s'.bound.action = s.bound.action := by
  cases h <;> rfl

end Takes

/-- The turn of a parameter in a run that succeeds: what is left for it, and what it binds. -/
structure Turn (vars : Variables) (action : Action) (before : List Param) (p : Param)
    (start s₁ s₂ s : Progress) : Prop where
  takes : Takes vars action p s₁ s₂
  positional : s₁.positional = positionalAfter before start.positional
  named : s₁.named = optionsAfter before start.named
  unbound : s₁.bound.get? p.name = start.bound.get? p.name
  bound : s.bound.get? p.name = s₂.bound.get? p.name
  noRest : p.kind = .variadic → s₁.bound.rest = start.bound.rest
  rest : p.kind = .variadic → s.bound.rest = s₂.bound.rest
  noExtra : p.kind = .variadicKeyword → s₁.bound.extra = start.bound.extra
  extra : p.kind = .variadicKeyword → s.bound.extra = s₂.bound.extra

theorem exists_turn {before after : List Param} {p : Param} {start s : Progress}
    (hparams : (before ++ p :: after).Pairwise Param.Precedes)
    (hsorted : Dict.IsSorted start.named)
    (h : bindParams vars action (before ++ p :: after) start = .ok s) :
    ∃ s₁ s₂, Turn vars action before p start s₁ s₂ s := by
  rw [bindParams_append] at h
  obtain ⟨s₁, hbefore, hmore⟩ := exists_of_bind_eq_ok h
  obtain ⟨s₂, hp, hafter⟩ := exists_of_bind_eq_ok hmore
  have hprevious := precedes_before hparams
  have hlater := precedes_after hparams
  refine ⟨s₁, s₂, takes_of_bindParam hp, positional_of_bindParams hbefore,
    named_of_bindParams hbefore hsorted, ?_, ?_, fun hkind => ?_, fun hkind => ?_, fun hkind => ?_,
    fun hkind => ?_⟩
  · refine eq_of_bindParams (·.get? p.name) (fun q hq _ _ htakes => ?_) hbefore
    exact htakes.get?_of_ne fun _ => (hprevious q hq).name_ne
  · refine eq_of_bindParams (·.get? p.name) (fun q hq _ _ htakes => ?_) hafter
    exact htakes.get?_of_ne fun _ => (hlater q hq).name_ne.symm
  · refine eq_of_bindParams (·.rest) (fun q hq _ _ htakes => ?_) hbefore
    exact htakes.rest_of_ne fun hq' => (hprevious q hq).variadic_once hq' hkind
  · refine eq_of_bindParams (·.rest) (fun q hq _ _ htakes => ?_) hafter
    exact htakes.rest_of_ne ((hlater q hq).variadic_once hkind)
  · refine eq_of_bindParams (·.extra) (fun q hq _ _ htakes => ?_) hbefore
    exact htakes.extra_of_ne fun hq' => (hprevious q hq).variadicKeyword_once hq' hkind
  · refine eq_of_bindParams (·.extra) (fun q hq _ _ htakes => ?_) hafter
    exact htakes.extra_of_ne ((hlater q hq).variadicKeyword_once hkind)

namespace Turn

variable {before : List Param} {p : Param} {start s₁ s₂ s : Progress}

theorem holds_fixed (h : Turn vars action before p start s₁ s₂ s) (hkind : p.kind = .fixed)
    (hstart : start.bound.get? p.name = none) :
    Option.Rel (fun raw v => convert vars p.type raw = .ok v)
      (positionalAfter before start.positional).head? (s.bound.get? p.name) := by
  rw [← h.positional, h.bound]
  cases h.takes with
  | positional _ hpositional hv =>
    rw [hpositional, Bound.get?, Dict.get?_insert, if_pos rfl]
    exact .some hv
  | noPositional _ hpositional hdefault =>
    rw [hpositional, h.unbound, hstart]
    exact .none
  | rest hother | option hother | options hother | noOption hother =>
    simp [hkind] at hother

theorem holds_option (h : Turn vars action before p start s₁ s₂ s) (hkind : p.kind = .keyword)
    (hsorted : Dict.IsSorted start.named) (hstart : start.bound.get? p.name = none) :
    Option.Rel (ReadsAs vars p.type) (found? p.name (optionsAfter before start.named))
      (s.bound.get? p.name) := by
  have hkept : Dict.IsSorted s₁.named := by
    rw [h.named]
    exact isSorted_optionsAfter hsorted before
  rw [← h.named, h.bound]
  cases h.takes with
  | option _ hnamed hv =>
    rw [takeOption_eq hkept, Prod.mk.injEq] at hnamed
    rw [hnamed.1, Bound.get?, Dict.get?_insert, if_pos rfl]
    exact .some (convertNamed_eq_ok_iff.mp hv)
  | noOption _ hnamed hdefault =>
    rw [takeOption_eq hkept] at hnamed
    have hnone : found? p.name s₁.named = none := hnamed
    rw [hnone, h.unbound, hstart]
    exact .none
  | positional hother | rest hother | options hother | noPositional hother =>
    simp [hkind] at hother

theorem holds_rest (h : Turn vars action before p start s₁ s₂ s) (hkind : p.kind = .variadic)
    (hstart : start.bound.rest = []) :
    List.Forall₂ (fun raw v => convert vars p.type raw = .ok v)
      (positionalAfter before start.positional) s.bound.rest := by
  rw [← h.positional, h.rest hkind]
  cases h.takes with
  | rest _ hvs =>
    rw [h.noRest hkind, hstart]
    exact convertAll_eq_ok_iff.mp hvs
  | positional hother | option hother | options hother | noPositional hother | noOption hother =>
    simp [hkind] at hother

theorem holds_extra (h : Turn vars action before p start s₁ s₂ s)
    (hkind : p.kind = .variadicKeyword) (hsorted : Dict.IsSorted start.named)
    (hstart : start.bound.extra = []) :
    List.Forall₂ (fun entry v => entry.1 = v.1 ∧ ReadsAs vars p.type entry.2 v.2)
      (optionsAfter before start.named) s.bound.extra := by
  have hkept : Dict.IsSorted s₁.named := by
    rw [h.named]
    exact isSorted_optionsAfter hsorted before
  rw [← h.named, h.extra hkind]
  cases h.takes with
  | @options vs _ hvs =>
    have hread := convertOptions_eq_ok_iff.mp hvs
    have hkeys : Dict.keys s₁.named = Dict.keys vs := by
      rw [Dict.keys, Dict.keys, ← List.forall₂_eq_eq_eq, List.forall₂_map_left_iff,
        List.forall₂_map_right_iff]
      exact hread.imp fun _ _ h => h.1
    have hvalues : Dict.IsSorted vs := by
      rwa [Dict.IsSorted, ← hkeys]
    have hextra : Dict.insertAll vs s₁.bound.extra = vs := by
      rw [h.noExtra hkind, hstart]
      exact Dict.ofList_of_isSorted hvalues
    rwa [hextra]
  | positional hother | rest hother | option hother | noPositional hother | noOption hother =>
    simp [hkind] at hother

end Turn

theorem holds_of_bindParams {positional : List String} {named : Dict Named} {s : Progress}
    (hparams : action.params.Pairwise Param.Precedes) (hsorted : Dict.IsSorted named)
    (h : bindParams vars action action.params ⟨positional, named, ⟨action.name, [], [], []⟩⟩ =
      .ok s) : Holds vars action positional named s.bound := by
  -- The turn of each parameter in this run.
  have hturns : ∀ {before p after}, action.params = before ++ p :: after →
      (before ++ p :: after).Pairwise Param.Precedes ∧
      ∃ s₁ s₂, Turn vars action before p ⟨positional, named, ⟨action.name, [], [], []⟩⟩
        s₁ s₂ s := by
    intro before p after hturn
    rw [hturn] at hparams h
    exact ⟨hparams, exists_turn hparams hsorted h⟩
  have hfixed : ∀ (i : Nat) (p : Param), (fixedParams action)[i]? = some p →
      Option.Rel (fun raw v => convert vars p.type raw = .ok v) positional[i]?
        (s.bound.get? p.name) := by
    intro i p hp
    obtain ⟨before, after, hturn, hkind, rfl⟩ := getElem?_fixedParams_iff.mp hp
    obtain ⟨hpairs, s₁, s₂, hp⟩ := hturns hturn
    have hholds := hp.holds_fixed hkind rfl
    rwa [positionalAfter_of_turn hpairs (.inl hkind), List.head?_drop] at hholds
  have hrest : ∀ p ∈ action.params, p.kind = .variadic →
      List.Forall₂ (fun raw v => convert vars p.type raw = .ok v)
        (positional.drop action.fixedCount) s.bound.rest := by
    intro p hmem hkind
    obtain ⟨before, after, hturn⟩ := List.append_of_mem hmem
    obtain ⟨hpairs, s₁, s₂, hp⟩ := hturns hturn
    have hholds := hp.holds_rest hkind rfl
    rwa [positionalAfter_of_turn hpairs (.inr hkind), countP_of_turn hpairs hkind,
      ← hturn] at hholds
  have hoption : ∀ before p after, action.params = before ++ p :: after → p.kind = .keyword →
      Option.Rel (ReadsAs vars p.type) (found? p.name (unclaimed before named))
        (s.bound.get? p.name) := by
    intro before p after hturn hkind
    obtain ⟨hpairs, s₁, s₂, hp⟩ := hturns hturn
    have hholds := hp.holds_option hkind hsorted rfl
    rwa [optionsAfter_of_turn hpairs] at hholds
  have hextra : ∀ p ∈ action.params, p.kind = .variadicKeyword →
      List.Forall₂ (fun entry v => entry.1 = v.1 ∧ ReadsAs vars p.type entry.2 v.2)
        (unclaimed action.params named) s.bound.extra := by
    intro p hmem hkind
    obtain ⟨before, after, hturn⟩ := List.append_of_mem hmem
    obtain ⟨hpairs, s₁, s₂, hp⟩ := hturns hturn
    have hholds := hp.holds_extra hkind hsorted rfl
    rwa [optionsAfter_of_turn hpairs, ← unclaimed_of_turn hpairs hkind, ← hturn] at hholds
  refine ⟨?_, hfixed, hrest, fun hnone => ?_, hoption, hextra, fun hnone => ?_,
    fun name hname => ?_, fun p hmem htype v hv => ?_⟩
  · exact eq_of_bindParams (·.action) (fun q _ _ _ htakes => htakes.action_eq) h
  · exact eq_of_bindParams (·.rest) (fun q hq _ _ htakes => htakes.rest_of_ne (hnone q hq)) h
  · exact eq_of_bindParams (·.extra) (fun q hq _ _ htakes => htakes.extra_of_ne (hnone q hq)) h
  · exact eq_of_bindParams (·.get? name) (fun q hq _ _ htakes => htakes.get?_of_ne (hname q hq)) h
  · unfold valuesOf at hv
    cases hkind : p.kind with
    | fixed =>
      simp only [hkind, Option.mem_toList] at hv
      obtain ⟨before, after, hturn⟩ := List.append_of_mem hmem
      have hp := hfixed _ p (getElem?_fixedParams_iff.mpr ⟨before, after, hturn, hkind, rfl⟩)
      obtain ⟨raw, hconvert⟩ := exists_of_rel hp hv
      exact type_of_convert htype hconvert
    | variadic =>
      simp only [hkind] at hv
      obtain ⟨raw, hconvert⟩ := exists_forall₂_iff.mp ⟨_, (hrest p hmem hkind).flip⟩ v hv
      exact type_of_convert htype hconvert
    | keyword =>
      simp only [hkind, Option.mem_toList] at hv
      obtain ⟨before, after, hturn⟩ := List.append_of_mem hmem
      obtain ⟨value, hreads⟩ := exists_of_rel (hoption before p after hturn hkind) hv
      exact type_of_readsAs htype hreads
    | variadicKeyword =>
      simp only [hkind, List.mem_map] at hv
      obtain ⟨entry, hentry, rfl⟩ := hv
      obtain ⟨_, -, hreads⟩ := exists_forall₂_iff.mp ⟨_, (hextra p hmem hkind).flip⟩ entry hentry
      exact type_of_readsAs htype hreads

/-- Binding is exact.  Words bind to the parameters of an accepted signature exactly if each
parameter gets what it needs, what it gets can be read, and nothing is left over; and then each
parameter holds what it got, and nothing else is bound. -/
theorem binding_is_exact {name : String} {vars : Variables} {action : Action}
    (haccepted : Registry.fault? name action.params = none) (words : List String) :
    ((∃ bound, bind vars action words = .ok bound) ↔
      Bindable vars action (Arguments.split words).1 (Arguments.split words).2) ∧
    ∀ bound, bind vars action words = .ok bound →
      Holds vars action (Arguments.split words).1 (Arguments.split words).2 bound := by
  have hparams := Registry.pairwise_of_fault? haccepted
  have hsorted : Dict.IsSorted (Arguments.split words).2 := Dict.isSorted_ofList _
  refine ⟨⟨?_, fun h => ?_⟩, fun bound h => ?_⟩
  · rintro ⟨bound, h⟩
    obtain ⟨s, hs, hpositional, hnamed, -⟩ := exists_progress_of_bind h
    rw [positional_of_bindParams hs] at hpositional
    rw [named_of_bindParams hs hsorted] at hnamed
    exact bindable_of_allFit hparams (allFit_of_bindParams hs hsorted) hpositional hnamed
  · obtain ⟨s, hs⟩ : ∃ s, bindParams vars action action.params
        ⟨(Arguments.split words).1, (Arguments.split words).2, ⟨action.name, [], [], []⟩⟩ = .ok s :=
      (h.allFit hparams).exists_bindParams hsorted
    have hpositional : s.positional = [] := by
      rw [positional_of_bindParams hs]
      exact positionalAfter_eq_nil_iff.mpr h.room
    have hnamed : s.named = [] := by
      rw [named_of_bindParams hs hsorted]
      exact optionsAfter_eq_nil_iff.mpr h.extra
    refine ⟨s.bound, ?_⟩
    calc bind vars action words = finish action s := by
          rw [bind]
          simp only [hs]
          rfl
      _ = .ok s.bound := by rw [finish, hpositional, hnamed]
  · obtain ⟨s, hs, -, -, rfl⟩ := exists_progress_of_bind h
    exact holds_of_bindParams hparams hsorted hs

def probing : Action :=
  ⟨"probe", .info, [.fixed "count" .integer, (Param.fixed "label" .text).withDefault true,
    .variadic "more" .auto, .keyword "page_load" .duration, .variadicKeyword "options" .auto]⟩

theorem binding_is_exact_probing :
    let words := ["1", "x", "2", "--page-load", "3s", "--fast"]
    let bound : Bound := ⟨"probe", [("count", .integer 1), ("label", .text "x"),
      ("page_load", .duration 3000000000)], [.integer 2], [("fast", .boolean true)]⟩
    Registry.fault? "probe" probing.params = none ∧ bind .empty probing words = .ok bound ∧
      Bindable .empty probing ["1", "x", "2"] [("fast", .flag), ("page-load", .text "3s")] ∧
      Holds .empty probing ["1", "x", "2"] [("fast", .flag), ("page-load", .text "3s")] bound := by
  intro words bound
  have haccepted : Registry.fault? "probe" probing.params = none := by decide +kernel
  have hbind : bind .empty probing words = .ok bound := by decide +kernel
  have hsplit : Arguments.split words =
      (["1", "x", "2"], [("fast", .flag), ("page-load", .text "3s")]) := by decide +kernel
  obtain ⟨hbindable, hholds⟩ := @binding_is_exact "probe" .empty probing haccepted words
  rw [hsplit] at hbindable hholds
  exact ⟨haccepted, hbind, hbindable.mp ⟨bound, hbind⟩, hholds bound hbind⟩

end Binding

end BrowserScript
