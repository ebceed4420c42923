import BrowserScript.Proofs.Binding
import BrowserScript.Proofs.SplitPositions
import Mathlib.Data.List.Forall2

/-!
# The turns of parameters

Parameters take their arguments one after the other.  What is left of the arguments when it is the
turn of a parameter does not depend on the values, so it can be said in advance whether each
parameter gets something that it can take.  The turns all succeed exactly if each of them does.
-/

namespace BrowserScript

namespace Dict

variable {α : Type}

theorem get?_eq_none_iff {key : String} {d : Dict α} : get? key d = none ↔ key ∉ keys d := by
  induction d with
  | nil => simp
  | cons e d ih =>
    obtain ⟨k, v⟩ := e
    by_cases hkey : key = k
    · simp [get?_cons, hkey]
    · simp [get?_cons, hkey, ih]

theorem erase_eq_filter {d : Dict α} (h : IsSorted d) (key : String) :
    erase key d = d.filter (·.1 ≠ key) := by
  induction d with
  | nil => rfl
  | cons e d ih =>
    obtain ⟨hfirst, hrest⟩ := List.pairwise_cons.mp h
    unfold erase
    split
    · rename_i hkey
      subst hkey
      have hall : ∀ x ∈ d, decide (x.1 ≠ e.1) = true := by
        intro x hx
        simpa using (hfirst x.1 (List.mem_map_of_mem hx)).ne'
      rw [List.filter_cons_of_neg (by simp), List.filter_eq_self.mpr hall]
    · rename_i hkey
      simp [ih hrest, Ne.symm hkey]

theorem IsSorted.filter {d : Dict α} (h : IsSorted d) (keep : String × α → Bool) :
    IsSorted (d.filter keep) :=
  List.Pairwise.sublist (List.filter_sublist.map _) h

end Dict

namespace Binding

/-! ### Options and their readings -/

/-- The name under which an option is found: that of the parameter, or else the one with dashes. -/
def foundKey? (name : String) (named : Dict Named) : Option String :=
  [name, Text.replaceChar '_' '-' name].find? (· ∈ Dict.keys named)

def found? (name : String) (named : Dict Named) : Option Named :=
  (foundKey? name named).bind fun key => Dict.get? key named

/-- The options that keyword parameters leave, each taking the one that it finds, in order. -/
def unclaimed : List Param → Dict Named → Dict Named
  | [], named => named
  | p :: rest, named =>
    if p.kind = .keyword then
      unclaimed rest (named.filter fun entry => some entry.1 ≠ foundKey? p.name named)
    else unclaimed rest named

inductive ReadsAs (vars : Variables) (type : ValueType) : Named → Value → Prop
  | text {raw : String} {v : Value} (h : convert vars type raw = .ok v) :
    ReadsAs vars type (.text raw) v
  | flag (h : type = .auto ∨ type = .boolean) : ReadsAs vars type .flag (.boolean true)

variable {vars : Variables} {action : Action}

theorem takeOption_eq {named : Dict Named} (h : Dict.IsSorted named) (name : String) :
    takeOption name named =
      (found? name named, named.filter fun entry => some entry.1 ≠ foundKey? name named) := by
  have hfound : ∀ {key : String}, foundKey? name named = some key →
      (found? name named, named.filter fun entry => some entry.1 ≠ foundKey? name named) =
        (Dict.get? key named, Dict.erase key named) := by
    intro key hkey
    simp [found?, hkey, Dict.erase_eq_filter h]
  unfold takeOption
  dsimp only
  split
  · rename_i v hv
    have hname : name ∈ Dict.keys named := by
      by_contra hnone
      rw [Dict.get?_eq_none_iff.mpr hnone] at hv
      nomatch hv
    have hkey : foundKey? name named = some name := by simp [foundKey?, hname]
    rw [hfound hkey, hv]
  · rename_i hnone
    have hname : name ∉ Dict.keys named := Dict.get?_eq_none_iff.mp hnone
    by_cases hdashed : Text.replaceChar '_' '-' name ∈ Dict.keys named
    · have hkey : foundKey? name named = some (Text.replaceChar '_' '-' name) := by
        simp [foundKey?, hname, hdashed]
      rw [hfound hkey]
    · have hkey : foundKey? name named = none := by simp [foundKey?, hname, hdashed]
      have hall : named.filter (·.1 ≠ Text.replaceChar '_' '-' name) = named := by
        rw [List.filter_eq_self]
        intro entry hentry
        have hmem : entry.1 ∈ Dict.keys named := List.mem_map_of_mem hentry
        simp only [decide_eq_true_eq]
        intro heq
        rw [heq] at hmem
        exact hdashed hmem
      rw [Dict.erase_eq_filter h, hall, Dict.get?_eq_none_iff.mpr hdashed]
      simp [found?, hkey]

theorem convertNamed_eq_ok_iff {key : String} {type : ValueType} {value : Named} {v : Value} :
    convertNamed vars action key type value = .ok v ↔ ReadsAs vars type value v := by
  cases value with
  | text raw =>
    constructor
    · exact .text
    · rintro ⟨h⟩
      exact h
  | flag =>
    rw [convertNamed]
    split
    · rename_i htype
      constructor
      · rintro ⟨⟩
        exact .flag htype
      · rintro ⟨⟩
        rfl
    · rename_i htype
      constructor
      · intro h
        cases h
      · intro h
        cases h with
        | flag h => exact absurd h htype

theorem convertAll_eq_ok_iff {type : ValueType} {raws : List String} {vs : List Value} :
    convertAll vars type raws = .ok vs ↔
      List.Forall₂ (fun raw v => convert vars type raw = .ok v) raws vs := by
  induction raws generalizing vs with
  | nil => simp [convertAll, eq_comm]
  | cons raw rest ih =>
    rw [List.forall₂_cons_left_iff]
    constructor
    · intro h
      obtain ⟨v, hv, hmore⟩ := exists_of_bind_eq_ok h
      obtain ⟨vs', hvs, hall⟩ := exists_of_bind_eq_ok hmore
      exact ⟨v, vs', hv, ih.mp hvs, (Except.ok.inj hall).symm⟩
    · rintro ⟨v, vs', hv, hvs, rfl⟩
      rw [convertAll, hv, ih.mpr hvs]
      rfl

theorem convertOptions_eq_ok_iff {type : ValueType} {named : Dict Named} {vs : Dict Value} :
    convertOptions vars action type named = .ok vs ↔
      List.Forall₂ (fun entry v => entry.1 = v.1 ∧ ReadsAs vars type entry.2 v.2) named vs := by
  induction named generalizing vs with
  | nil => simp [convertOptions, eq_comm]
  | cons entry rest ih =>
    rw [List.forall₂_cons_left_iff]
    constructor
    · intro h
      obtain ⟨v, hv, hmore⟩ := exists_of_bind_eq_ok h
      obtain ⟨vs', hvs, hall⟩ := exists_of_bind_eq_ok hmore
      exact ⟨(entry.1, v), vs', ⟨rfl, convertNamed_eq_ok_iff.mp hv⟩, ih.mp hvs,
        (Except.ok.inj hall).symm⟩
    · rintro ⟨⟨_, v⟩, vs', ⟨rfl, hv⟩, hvs, rfl⟩
      rw [convertOptions, convertNamed_eq_ok_iff.mpr hv, ih.mpr hvs]
      rfl

theorem exists_forall₂_iff {α β : Type} {R : α → β → Prop} {xs : List α} :
    (∃ ys, List.Forall₂ R xs ys) ↔ ∀ x ∈ xs, ∃ y, R x y := by
  induction xs with
  | nil => simp
  | cons x xs ih =>
    rw [List.forall_mem_cons, ← ih]
    constructor
    · rintro ⟨_, hall⟩
      obtain ⟨y, ys, hy, hys, -⟩ := List.forall₂_cons_left_iff.mp hall
      exact ⟨⟨y, hy⟩, ys, hys⟩
    · rintro ⟨⟨y, hy⟩, ys, hys⟩
      exact ⟨y :: ys, .cons hy hys⟩

theorem exists_of_rel {α β : Type} {R : α → β → Prop} {x? : Option α} {y? : Option β}
    (h : Option.Rel R x? y?) {y : β} (hy : y ∈ y?) : ∃ x, R x y := by
  cases h with
  | none => nomatch hy
  | some hxy => exact ⟨_, Option.mem_some_iff.mp hy ▸ hxy⟩

theorem type_of_readsAs {type : ValueType} {value : Named} {v : Value} (htype : type ≠ .auto)
    (h : ReadsAs vars type value v) : v.type = type := by
  cases h with
  | text h => exact type_of_convert htype h
  | flag h => exact (h.resolve_left htype).symm

/-! ### The turn of a parameter -/

theorem found?_eq_none_iff {name : String} {named : Dict Named} :
    found? name named = none ↔ foundKey? name named = none := by
  cases hkey : foundKey? name named with
  | none => simp [found?, hkey]
  | some key =>
    have hmem : key ∈ Dict.keys named := by simpa using List.find?_some hkey
    simpa [found?, hkey, Dict.get?_eq_none_iff] using hmem

def leavesOptions (p : Param) (named : Dict Named) : Dict Named :=
  match p.kind with
  | .fixed | .variadic => named
  | .keyword => named.filter fun entry => some entry.1 ≠ foundKey? p.name named
  | .variadicKeyword => []

theorem isSorted_leavesOptions {named : Dict Named} (h : Dict.IsSorted named) (p : Param) :
    Dict.IsSorted (leavesOptions p named) := by
  unfold leavesOptions
  split
  · exact h
  · exact h
  · exact h.filter _
  · exact .nil

theorem Takes.named_eq {p : Param} {s s' : Progress} (h : Takes vars action p s s')
    (hsorted : Dict.IsSorted s.named) : s'.named = leavesOptions p s.named := by
  cases h with
  | positional hkind hpositional hv => simp [leavesOptions, hkind]
  | rest hkind hvs => simp [leavesOptions, hkind]
  | option hkind hnamed hv =>
    rw [takeOption_eq hsorted, Prod.mk.injEq] at hnamed
    simp only [leavesOptions, hkind]
    exact hnamed.2.symm
  | options hkind hvs => simp [leavesOptions, hkind]
  | noPositional hkind hpositional hdefault => simp [leavesOptions, hkind]
  | noOption hkind hnamed hdefault =>
    rw [takeOption_eq hsorted] at hnamed
    simp [leavesOptions, hkind, found?_eq_none_iff.mp hnamed]

/-- The positional texts that are left when some parameters have had their turn. -/
def positionalAfter (params : List Param) (positional : List String) : List String :=
  if params.any (·.kind == .variadic) then []
  else positional.drop (params.countP (·.kind == .fixed))

/-- The options that are left when some parameters have had their turn. -/
def optionsAfter (params : List Param) (named : Dict Named) : Dict Named :=
  if params.any (·.kind == .variadicKeyword) then [] else unclaimed params named

theorem positionalAfter_cons (p : Param) (rest : List Param) (positional : List String) :
    positionalAfter (p :: rest) positional = positionalAfter rest (leaves p positional) := by
  cases hkind : p.kind <;> simp [positionalAfter, leaves, hkind, Nat.add_comm]

theorem unclaimed_nil (params : List Param) : unclaimed params [] = [] := by
  induction params with
  | nil => rfl
  | cons p rest ih => simp [unclaimed, ih]

theorem optionsAfter_cons (p : Param) (rest : List Param) (named : Dict Named) :
    optionsAfter (p :: rest) named = optionsAfter rest (leavesOptions p named) := by
  cases hkind : p.kind <;>
    simp [optionsAfter, leavesOptions, unclaimed, unclaimed_nil, hkind]

theorem isSorted_optionsAfter {named : Dict Named} (h : Dict.IsSorted named)
    (params : List Param) : Dict.IsSorted (optionsAfter params named) := by
  induction params generalizing named with
  | nil => exact h
  | cons p rest ih =>
    rw [optionsAfter_cons]
    exact ih (isSorted_leavesOptions h p)

theorem named_of_bindParams {params : List Param} {s s' : Progress}
    (h : bindParams vars action params s = .ok s') (hsorted : Dict.IsSorted s.named) :
    s'.named = optionsAfter params s.named := by
  induction params generalizing s with
  | nil =>
    rw [← Except.ok.inj h]
    rfl
  | cons p rest ih =>
    obtain ⟨middle, hfirst, hrest⟩ := exists_of_bind_eq_ok h
    have hmiddle := (takes_of_bindParam hfirst).named_eq hsorted
    have hkept : Dict.IsSorted middle.named := by
      rw [hmiddle]
      exact isSorted_leavesOptions hsorted p
    rw [ih hrest hkept, optionsAfter_cons, hmiddle]

def Fits (vars : Variables) (p : Param) (positional : List String) (named : Dict Named) : Prop :=
  match p.kind with
  | .fixed => (positional = [] → p.hasDefault = true) ∧
      ∀ raw ∈ positional.head?, ∃ v, convert vars p.type raw = .ok v
  | .variadic => ∀ raw ∈ positional, ∃ v, convert vars p.type raw = .ok v
  | .keyword => (found? p.name named = none → p.hasDefault = true) ∧
      ∀ value ∈ found? p.name named, ∃ v, ReadsAs vars p.type value v
  | .variadicKeyword => ∀ entry ∈ named, ∃ v, ReadsAs vars p.type entry.2 v

theorem Takes.fits {p : Param} {s s' : Progress} (h : Takes vars action p s s')
    (hsorted : Dict.IsSorted s.named) : Fits vars p s.positional s.named := by
  cases h with
  | positional hkind hpositional hv => simp [Fits, hkind, hpositional, hv]
  | rest hkind hvs =>
    simp only [Fits, hkind]
    exact exists_forall₂_iff.mp ⟨_, convertAll_eq_ok_iff.mp hvs⟩
  | option hkind hnamed hv =>
    rw [takeOption_eq hsorted, Prod.mk.injEq] at hnamed
    simp only [Fits, hkind, hnamed.1, Option.mem_some_iff, forall_eq', reduceCtorEq,
      false_implies, true_and]
    exact ⟨_, convertNamed_eq_ok_iff.mp hv⟩
  | options hkind hvs =>
    simp only [Fits, hkind]
    intro entry hentry
    obtain ⟨v, -, hv⟩ := exists_forall₂_iff.mp ⟨_, convertOptions_eq_ok_iff.mp hvs⟩ entry hentry
    exact ⟨v.2, hv⟩
  | noPositional hkind hpositional hdefault => simp [Fits, hkind, hpositional, hdefault]
  | noOption hkind hnamed hdefault =>
    rw [takeOption_eq hsorted] at hnamed
    have hnone : found? p.name s.named = none := hnamed
    simp [Fits, hkind, hnone, hdefault]

theorem Fits.exists_bindParam {p : Param} {s : Progress} (hsorted : Dict.IsSorted s.named)
    (h : Fits vars p s.positional s.named) : ∃ s', bindParam vars action p s = .ok s' := by
  unfold bindParam
  cases hkind : p.kind with
  | fixed =>
    simp only [Fits, hkind] at h
    obtain ⟨hdefault, hfirst⟩ := h
    cases hpositional : s.positional with
    | nil => exact ⟨s, by simp [hdefault hpositional]⟩
    | cons raw rest =>
      obtain ⟨v, hv⟩ := hfirst raw (by simp [hpositional])
      simp only [hv]
      exact ⟨_, rfl⟩
  | variadic =>
    simp only [Fits, hkind] at h
    obtain ⟨vs, hvs⟩ := exists_forall₂_iff.mpr h
    simp only [convertAll_eq_ok_iff.mpr hvs]
    exact ⟨_, rfl⟩
  | keyword =>
    simp only [Fits, hkind] at h
    obtain ⟨hdefault, hvalue⟩ := h
    rw [takeOption_eq hsorted]
    cases hfound : found? p.name s.named with
    | none => exact ⟨s, by simp [hdefault hfound]⟩
    | some value =>
      obtain ⟨v, hv⟩ := hvalue value hfound
      simp only [convertNamed_eq_ok_iff.mpr hv]
      exact ⟨_, rfl⟩
  | variadicKeyword =>
    simp only [Fits, hkind] at h
    have hall : ∀ entry ∈ s.named, ∃ v : String × Value,
        entry.1 = v.1 ∧ ReadsAs vars p.type entry.2 v.2 := by
      intro entry hentry
      obtain ⟨v, hv⟩ := h entry hentry
      exact ⟨(entry.1, v), rfl, hv⟩
    obtain ⟨vs, hvs⟩ := exists_forall₂_iff.mpr hall
    simp only [convertOptions_eq_ok_iff.mpr hvs]
    exact ⟨_, rfl⟩

/-! ### A whole signature -/

theorem bindParams_append (before after : List Param) (s : Progress) :
    bindParams vars action (before ++ after) s =
      (bindParams vars action before s).bind (bindParams vars action after) := by
  induction before generalizing s with
  | nil => rfl
  | cons p before ih =>
    rw [List.cons_append, bindParams, bindParams]
    cases bindParam vars action p s with
    | error e => rfl
    | ok middle => exact ih middle

def AllFit (vars : Variables) (params : List Param) (positional : List String)
    (named : Dict Named) : Prop :=
  ∀ before p after, params = before ++ p :: after →
    Fits vars p (positionalAfter before positional) (optionsAfter before named)

theorem allFit_of_bindParams {params : List Param} {s s' : Progress}
    (h : bindParams vars action params s = .ok s') (hsorted : Dict.IsSorted s.named) :
    AllFit vars params s.positional s.named := by
  rintro before p after rfl
  rw [bindParams_append] at h
  obtain ⟨s₁, hbefore, hmore⟩ := exists_of_bind_eq_ok h
  obtain ⟨s₂, hp, -⟩ := exists_of_bind_eq_ok hmore
  have hnamed := named_of_bindParams hbefore hsorted
  have hkept : Dict.IsSorted s₁.named := by
    rw [hnamed]
    exact isSorted_optionsAfter hsorted before
  have hfits := (takes_of_bindParam hp).fits hkept
  rwa [positional_of_bindParams hbefore, hnamed] at hfits

theorem AllFit.exists_bindParams {params : List Param} {s : Progress}
    (hsorted : Dict.IsSorted s.named) (h : AllFit vars params s.positional s.named) :
    ∃ s', bindParams vars action params s = .ok s' := by
  induction params generalizing s with
  | nil => exact ⟨s, rfl⟩
  | cons p rest ih =>
    obtain ⟨middle, hmiddle⟩ : ∃ s', bindParam vars action p s = .ok s' :=
      (h [] p rest rfl).exists_bindParam hsorted
    have htakes := takes_of_bindParam hmiddle
    have hkept : Dict.IsSorted middle.named := by
      rw [htakes.named_eq hsorted]
      exact isSorted_leavesOptions hsorted p
    have hrest : AllFit vars rest middle.positional middle.named := by
      rintro before q after rfl
      have hq := h (p :: before) q after rfl
      rwa [positionalAfter_cons, optionsAfter_cons, ← htakes.positional_eq,
        ← htakes.named_eq hsorted] at hq
    obtain ⟨s', hs'⟩ := ih hkept hrest
    refine ⟨s', ?_⟩
    rw [bindParams, hmiddle]
    exact hs'

end Binding

end BrowserScript
