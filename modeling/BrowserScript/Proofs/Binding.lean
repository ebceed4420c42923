import BrowserScript.Binding

/-!
# Binding

What the parameters of an action do with its arguments.  A parameter fails only for a value or
because it misses its argument; that words are left over shows at the end.  The fixed parameters
take a positional text each and a variadic one takes the rest, so the words that are left over are
those that the arity of the action counts as too many.  Conversely, once binding succeeds, each
parameter that cannot be left out has a value, and the rest has the type of the variadic parameter.
-/

namespace BrowserScript

def FailsAs (kind : ScriptError → Bool) {α : Type} (r : Except ScriptError α) : Prop :=
  ∀ e, r = .error e → kind e = true

namespace FailsAs

variable {kind : ScriptError → Bool} {α γ : Type}

theorem ok (a : α) : FailsAs kind (.ok a) := fun _ h => nomatch h

theorem error {e : ScriptError} (he : kind e = true) : FailsAs kind (.error e : Except _ α) := by
  rintro _ ⟨⟩
  exact he

theorem bind {r : Except ScriptError α} {f : α → Except ScriptError γ} (hr : FailsAs kind r)
    (hf : ∀ a, FailsAs kind (f a)) : FailsAs kind (r >>= f) := by
  cases r with
  | error e => exact fun _ h => hr _ (by cases h; rfl)
  | ok a => exact hf a

theorem mono {other : ScriptError → Bool} {r : Except ScriptError α} (h : FailsAs kind r)
    (hother : ∀ e, kind e = true → other e = true) : FailsAs other r :=
  fun e he => hother e (h e he)

end FailsAs

/-- Whether an error says that a parameter and its argument do not fit. -/
def ScriptError.isMisfit : ScriptError → Bool
  | .value .. | .binding _ (.missingArgument ..) | .binding _ (.missingOption _)
  | .binding _ (.valueExpected ..) => true
  | _ => false

namespace Binding

/-! ### The errors of parameters -/

theorem convert_misfit (vars : Variables) (type : ValueType) (raw : String) :
    FailsAs ScriptError.isMisfit (convert vars type raw) := by
  unfold convert
  generalize (if type = .key then vars.getKey? raw else none) = constant
  cases constant with
  | some k => exact .ok _
  | none =>
    dsimp only
    split
    · exact .ok _
    · exact .error rfl

theorem convertNamed_misfit (vars : Variables) (action : Action) (key : String) (type : ValueType)
    (value : Named) : FailsAs ScriptError.isMisfit (convertNamed vars action key type value) := by
  cases value with
  | text raw => exact convert_misfit vars type raw
  | flag =>
    rw [convertNamed]
    split
    · exact .ok _
    · exact .error rfl

theorem convertAll_misfit (vars : Variables) (type : ValueType) (raws : List String) :
    FailsAs ScriptError.isMisfit (convertAll vars type raws) := by
  induction raws with
  | nil => exact .ok _
  | cons raw rest ih => exact .bind (convert_misfit vars type raw) fun v => .bind ih fun vs => .ok _

theorem convertOptions_misfit (vars : Variables) (action : Action) (type : ValueType)
    (named : Dict Named) :
    FailsAs ScriptError.isMisfit (convertOptions vars action type named) := by
  induction named with
  | nil => exact .ok _
  | cons entry rest ih =>
    exact .bind (convertNamed_misfit vars action entry.1 type entry.2) fun v =>
      .bind ih fun vs => .ok _

theorem bindParam_misfit (vars : Variables) (action : Action) (p : Param) (s : Progress) :
    FailsAs ScriptError.isMisfit (bindParam vars action p s) := by
  unfold bindParam
  cases p.kind with
  | fixed =>
    dsimp only
    split
    · exact .bind (convert_misfit vars p.type _) fun v => .ok _
    · split
      · exact .ok _
      · exact .error rfl
  | variadic => exact .bind (convertAll_misfit vars p.type s.positional) fun vs => .ok _
  | keyword =>
    dsimp only
    split
    · exact .bind (convertNamed_misfit vars action p.name p.type _) fun v => .ok _
    · split
      · exact .ok _
      · exact .error rfl
  | variadicKeyword =>
    exact .bind (convertOptions_misfit vars action p.type s.named) fun vs => .ok _

theorem bindParams_misfit (vars : Variables) (action : Action) (params : List Param)
    (s : Progress) : FailsAs ScriptError.isMisfit (bindParams vars action params s) := by
  induction params generalizing s with
  | nil => exact .ok _
  | cons p rest ih => exact .bind (bindParam_misfit vars action p s) fun s => ih s

/-! ### What a parameter takes -/

theorem exists_of_bind_eq_ok {ε α γ : Type} {r : Except ε α} {f : α → Except ε γ} {b : γ}
    (h : (r >>= f) = .ok b) :
    ∃ a, r = .ok a ∧ f a = .ok b := by
  cases r with
  | error e => nomatch h
  | ok a => exact ⟨a, rfl, h⟩

/-- What one parameter can take from the arguments, and what is left and bound afterwards. -/
inductive Takes (vars : Variables) (action : Action) (p : Param) (s : Progress) : Progress → Prop
  | positional {raw : String} {rest : List String} {v : Value} (hkind : p.kind = .fixed)
    (hpositional : s.positional = raw :: rest) (hv : convert vars p.type raw = .ok v) :
    Takes vars action p s { s with
      positional := rest
      bound := { s.bound with values := Dict.insert p.name v s.bound.values } }
  | rest {vs : List Value} (hkind : p.kind = .variadic)
    (hvs : convertAll vars p.type s.positional = .ok vs) :
    Takes vars action p s
      { s with positional := [], bound := { s.bound with rest := s.bound.rest ++ vs } }
  | option {value : Named} {named : Dict Named} {v : Value} (hkind : p.kind = .keyword)
    (hnamed : takeOption p.name s.named = (some value, named))
    (hv : convertNamed vars action p.name p.type value = .ok v) :
    Takes vars action p s { s with
      named
      bound := { s.bound with values := Dict.insert p.name v s.bound.values } }
  | options {vs : Dict Value} (hkind : p.kind = .variadicKeyword)
    (hvs : convertOptions vars action p.type s.named = .ok vs) :
    Takes vars action p s { s with
      named := []
      bound := { s.bound with extra := Dict.insertAll vs s.bound.extra } }
  | noPositional (hkind : p.kind = .fixed) (hpositional : s.positional = [])
    (hdefault : p.hasDefault = true) : Takes vars action p s s
  | noOption (hkind : p.kind = .keyword) (hnamed : (takeOption p.name s.named).1 = none)
    (hdefault : p.hasDefault = true) : Takes vars action p s s

theorem takes_of_bindParam {vars : Variables} {action : Action} {p : Param} {s s' : Progress}
    (h : bindParam vars action p s = .ok s') : Takes vars action p s s' := by
  unfold bindParam at h
  cases hkind : p.kind with
  | fixed =>
    simp only [hkind] at h
    split at h
    · rename_i raw rest hpositional
      obtain ⟨v, hv, hs⟩ := exists_of_bind_eq_ok h
      rw [← Except.ok.inj hs]
      exact .positional hkind hpositional hv
    · rename_i hpositional
      split at h
      · rename_i hdefault
        rw [← Except.ok.inj h]
        exact .noPositional hkind hpositional hdefault
      · nomatch h
  | variadic =>
    simp only [hkind] at h
    obtain ⟨vs, hvs, hs⟩ := exists_of_bind_eq_ok h
    rw [← Except.ok.inj hs]
    exact .rest hkind hvs
  | keyword =>
    simp only [hkind] at h
    split at h
    · rename_i value named hnamed
      obtain ⟨v, hv, hs⟩ := exists_of_bind_eq_ok h
      rw [← Except.ok.inj hs]
      exact .option hkind hnamed hv
    · rename_i hnamed
      split at h
      · rename_i hdefault
        rw [← Except.ok.inj h]
        exact .noOption hkind (by rw [hnamed]) hdefault
      · nomatch h
  | variadicKeyword =>
    simp only [hkind] at h
    obtain ⟨vs, hvs, hs⟩ := exists_of_bind_eq_ok h
    rw [← Except.ok.inj hs]
    exact .options hkind hvs

/-! ### The positional texts that are left -/

def leaves (p : Param) (positional : List String) : List String :=
  match p.kind with
  | .fixed => positional.drop 1
  | .variadic => []
  | .keyword | .variadicKeyword => positional

theorem Takes.positional_eq {vars : Variables} {action : Action} {p : Param} {s s' : Progress}
    (h : Takes vars action p s s') : s'.positional = leaves p s.positional := by
  cases h with
  | positional hkind hpositional hv => simp [leaves, hkind, hpositional]
  | rest hkind hvs => simp [leaves, hkind]
  | option hkind hnamed hv => simp [leaves, hkind]
  | options hkind hvs => simp [leaves, hkind]
  | noPositional hkind hpositional hdefault => simp [leaves, hkind, hpositional]
  | noOption hkind hnamed hdefault => simp [leaves, hkind]

/-- All parameters together take the texts of the fixed ones, or everything. -/
theorem positional_of_bindParams {vars : Variables} {action : Action} {params : List Param}
    {s s' : Progress} (h : bindParams vars action params s = .ok s') :
    s'.positional = if params.any (·.kind == .variadic) then []
      else s.positional.drop (params.countP (·.kind == .fixed)) := by
  induction params generalizing s with
  | nil =>
    rw [← Except.ok.inj h]
    rfl
  | cons p rest ih =>
    obtain ⟨middle, hfirst, hrest⟩ := exists_of_bind_eq_ok h
    rw [ih hrest, (takes_of_bindParam hfirst).positional_eq]
    cases hkind : p.kind <;> simp [leaves, hkind, Nat.add_comm]

/-- No word is left over if and only if the action can take as many positional words. -/
theorem excess?_eq_none_iff {action : Action} {words : List String} :
    action.excess? words = none ↔
      action.hasVariadic = true ∨ (Arguments.split words).1.length ≤ action.fixedCount := by
  unfold Action.excess?
  by_cases hvariadic : action.hasVariadic = true
  · simp [hvariadic]
  · simp [hvariadic]

/-- An action that can take some words can take as many or fewer positional ones. -/
theorem excess?_eq_none_of_le {action : Action} {words others : List String}
    (hle : (Arguments.split others).1.length ≤ (Arguments.split words).1.length)
    (h : action.excess? words = none) : action.excess? others = none := by
  rw [excess?_eq_none_iff] at h ⊢
  exact h.imp_right (Nat.le_trans hle)

theorem leftover_eq_nil_iff {vars : Variables} {action : Action} {words : List String}
    {named : Dict Named} {bound : Bound} {s : Progress}
    (h : bindParams vars action action.params ⟨(Arguments.split words).1, named, bound⟩ = .ok s) :
    s.positional = [] ↔ action.excess? words = none := by
  rw [positional_of_bindParams h, excess?_eq_none_iff, Action.hasVariadic, Action.fixedCount]
  by_cases hvariadic : action.params.any (·.kind == .variadic) = true
  · simp [hvariadic]
  · simp [hvariadic, List.drop_eq_nil_iff]

/-- Nothing is left over once words are bound. -/
theorem exists_progress_of_bind {vars : Variables} {action : Action} {words : List String}
    {bound : Bound} (h : bind vars action words = .ok bound) :
    ∃ s, bindParams vars action action.params ⟨(Arguments.split words).1, (Arguments.split words).2,
      ⟨action.name, [], [], []⟩⟩ = .ok s ∧ s.positional = [] ∧ s.named = [] ∧ s.bound = bound := by
  obtain ⟨s, hs, hfinish⟩ := exists_of_bind_eq_ok h
  unfold finish at hfinish
  split at hfinish
  · rename_i hpositional hnamed
    exact ⟨s, hs, hpositional, hnamed, Except.ok.inj hfinish⟩
  · nomatch hfinish
  · nomatch hfinish

/-- Words that can be bound are not too many. -/
theorem excess?_eq_none_of_bind {vars : Variables} {action : Action} {words : List String}
    {bound : Bound} (h : bind vars action words = .ok bound) : action.excess? words = none := by
  obtain ⟨s, hs, hpositional, -, -⟩ := exists_progress_of_bind h
  exact (leftover_eq_nil_iff hs).mp hpositional

/-- Words are reported as left over only if they are too many. -/
theorem excess?_ne_none_of_unexpected {vars : Variables} {action : Action}
    {words leftover : List String} {name usage : String}
    (h : bind vars action words = .error (.binding name (.unexpectedArguments leftover usage))) :
    action.excess? words ≠ none := by
  unfold bind at h
  dsimp only at h
  cases hs : bindParams vars action action.params
      ⟨(Arguments.split words).1, (Arguments.split words).2, ⟨action.name, [], [], []⟩⟩ with
  | error e =>
    rw [hs] at h
    have hmisfit := bindParams_misfit vars action _ _ e hs
    rw [show e = _ from Except.error.inj h] at hmisfit
    nomatch hmisfit
  | ok s =>
    rw [hs] at h
    rw [Ne, ← leftover_eq_nil_iff hs]
    intro hnil
    have hfinish : finish action s = _ := h
    cases hnamed : s.named <;> simp [finish, hnil, hnamed] at hfinish

/-! ### What is bound -/

/-- A text is read as a value of the type that is asked for. -/
theorem type_of_convert {vars : Variables} {type : ValueType} {raw : String} {v : Value}
    (htype : type ≠ .auto) (h : convert vars type raw = .ok v) : v.type = type := by
  unfold convert at h
  dsimp only at h
  split at h
  · rename_i k hconstant
    split at hconstant
    · rename_i hkey
      rw [← Except.ok.inj h, hkey]
      rfl
    · nomatch hconstant
  · split at h
    · rename_i w hread
      rw [← Except.ok.inj h]
      cases type with
      | auto => exact absurd rfl htype
      | text =>
        rw [← Option.some.inj hread]
        rfl
      | _ =>
        obtain ⟨x, -, hx⟩ := Option.map_eq_some_iff.mp hread
        rw [← hx]
        rfl
    · nomatch h

theorem type_of_convertAll {vars : Variables} {type : ValueType} (htype : type ≠ .auto)
    {raws : List String} {vs : List Value} (h : convertAll vars type raws = .ok vs) :
    ∀ v ∈ vs, v.type = type := by
  induction raws generalizing vs with
  | nil =>
    rw [← Except.ok.inj h]
    nofun
  | cons raw rest ih =>
    obtain ⟨first, hfirst, hmore⟩ := exists_of_bind_eq_ok h
    obtain ⟨others, hothers, hvs⟩ := exists_of_bind_eq_ok hmore
    rw [← Except.ok.inj hvs]
    exact List.forall_mem_cons.mpr ⟨type_of_convert htype hfirst, ih hothers⟩

/-- What is bound stays bound. -/
theorem Takes.isSome_get? {vars : Variables} {action : Action} {p : Param} {s s' : Progress}
    (h : Takes vars action p s s') {name : String} (hname : (s.bound.get? name).isSome = true) :
    (s'.bound.get? name).isSome = true := by
  unfold Bound.get? at hname ⊢
  cases h with
  | positional hkind hpositional hv =>
    rw [Dict.get?_insert]
    split
    · rfl
    · exact hname
  | option hkind hnamed hv =>
    rw [Dict.get?_insert]
    split
    · rfl
    · exact hname
  | _ => exact hname

theorem isSome_get?_of_bindParams {vars : Variables} {action : Action} {params : List Param}
    {s s' : Progress} (h : bindParams vars action params s = .ok s') {name : String}
    (hname : (s.bound.get? name).isSome = true) : (s'.bound.get? name).isSome = true := by
  induction params generalizing s with
  | nil =>
    rw [← Except.ok.inj h]
    exact hname
  | cons p rest ih =>
    obtain ⟨middle, hfirst, hrest⟩ := exists_of_bind_eq_ok h
    exact ih hrest ((takes_of_bindParam hfirst).isSome_get? hname)

end Binding

/-- Whether a parameter takes one argument and cannot do without it. -/
def Param.isRequired (p : Param) : Bool :=
  (p.kind == .fixed || p.kind == .keyword) && !p.hasDefault

namespace Binding

theorem Takes.isSome_of_isRequired {vars : Variables} {action : Action} {p : Param}
    {s s' : Progress} (h : Takes vars action p s s') (hp : p.isRequired = true) :
    (s'.bound.get? p.name).isSome = true := by
  cases h with
  | positional hkind hpositional hv => simp [Bound.get?, Dict.get?_insert]
  | option hkind hnamed hv => simp [Bound.get?, Dict.get?_insert]
  | rest hkind hvs => simp [Param.isRequired, hkind] at hp
  | options hkind hvs => simp [Param.isRequired, hkind] at hp
  | noPositional hkind hpositional hdefault => simp [Param.isRequired, hdefault] at hp
  | noOption hkind hnamed hdefault => simp [Param.isRequired, hdefault] at hp

theorem isSome_of_bindParams {vars : Variables} {action : Action} {params : List Param}
    {s s' : Progress} (h : bindParams vars action params s = .ok s') {p : Param}
    (hmem : p ∈ params) (hp : p.isRequired = true) : (s'.bound.get? p.name).isSome = true := by
  induction params generalizing s with
  | nil => nomatch hmem
  | cons first rest ih =>
    obtain ⟨middle, hfirst, hrest⟩ := exists_of_bind_eq_ok h
    rcases List.mem_cons.mp hmem with rfl | hmem
    · exact isSome_get?_of_bindParams hrest ((takes_of_bindParam hfirst).isSome_of_isRequired hp)
    · exact ih hrest hmem

/-- Every value of the rest was there before or has the type of a variadic parameter. -/
theorem Takes.rest_typed {vars : Variables} {action : Action} {p : Param} {s s' : Progress}
    (h : Takes vars action p s s') {type : ValueType} (htype : type ≠ .auto)
    (hp : p.kind = .variadic → p.type = type) (hs : ∀ v ∈ s.bound.rest, v.type = type) :
    ∀ v ∈ s'.bound.rest, v.type = type := by
  cases h with
  | rest hkind hvs =>
    rw [hp hkind] at hvs
    exact List.forall_mem_append.mpr ⟨hs, type_of_convertAll htype hvs⟩
  | _ => exact hs

theorem rest_typed_of_bindParams {vars : Variables} {action : Action} {params : List Param}
    {s s' : Progress} (h : bindParams vars action params s = .ok s') {type : ValueType}
    (htype : type ≠ .auto) (hparams : ∀ p ∈ params, p.kind = .variadic → p.type = type)
    (hs : ∀ v ∈ s.bound.rest, v.type = type) : ∀ v ∈ s'.bound.rest, v.type = type := by
  induction params generalizing s with
  | nil =>
    rw [← Except.ok.inj h]
    exact hs
  | cons p rest ih =>
    obtain ⟨middle, hfirst, hrest⟩ := exists_of_bind_eq_ok h
    obtain ⟨hp, hparams⟩ := List.forall_mem_cons.mp hparams
    exact ih hrest hparams ((takes_of_bindParam hfirst).rest_typed htype hp hs)

/-- A required parameter is bound. -/
theorem isSome_of_bind {vars : Variables} {action : Action} {words : List String} {bound : Bound}
    (h : bind vars action words = .ok bound) {p : Param} (hmem : p ∈ action.params)
    (hp : p.isRequired = true) : (bound.get? p.name).isSome = true := by
  obtain ⟨s, hs, -, -, rfl⟩ := exists_progress_of_bind h
  exact isSome_of_bindParams hs hmem hp

/-- The rest of the arguments has the type that the variadic parameters ask for. -/
theorem rest_typed_of_bind {vars : Variables} {action : Action} {words : List String}
    {bound : Bound} (h : bind vars action words = .ok bound) (type : ValueType)
    (htype : type ≠ .auto) (hparams : ∀ p ∈ action.params, p.kind = .variadic → p.type = type) :
    ∀ v ∈ bound.rest, v.type = type := by
  obtain ⟨s, hs, -, -, rfl⟩ := exists_progress_of_bind h
  exact rest_typed_of_bindParams hs htype hparams nofun

end Binding

end BrowserScript
