import BrowserScript.Proofs.Binding
import BrowserScript.Proofs.LowerCase
import BrowserScript.Proofs.Signatures

/-!
# Tables of actions

A registry is built from a table, one definition after the other.  A definition replaces what was
registered under its name, and a synonym copies what its target is at that moment, so the entries of
a registry may come from any place of the table.  Whatever the table, each entry of the registry
stands under its own name in its normal spelling and has a signature that the arguments can be bound
to from left to right.
-/

namespace BrowserScript

def Definition.name : Definition → String
  | .action raw _ _ => Action.normalizeName raw
  | .synonym raw _ => Action.normalizeName raw

namespace Registry

/-- What a definition stands for in the registry that it is added to. -/
inductive Defines (r : Registry) : Definition → Action → Prop
  | action {raw : String} {handler : Handler} {params : List Param}
    (h : fault? (Action.normalizeName raw) params = none) :
    Defines r (.action raw handler params) ⟨Action.normalizeName raw, handler, params⟩
  | synonym {raw target : String} {a : Action}
    (h : r.get? (Action.normalizeName target) = some a) :
    Defines r (.synonym raw target) { a with name := Action.normalizeName raw }

/-- A definition is added exactly if it stands for an action, which is entered under its name. -/
theorem add_eq_ok_iff {r r' : Registry} {d : Definition} :
    r.add d = .ok r' ↔ ∃ a, r.Defines d a ∧ r' = ⟨Dict.insert d.name a r.actions⟩ := by
  cases d with
  | action raw handler params =>
    constructor
    · intro h
      simp only [add] at h
      split at h
      · nomatch h
      · rename_i hfault
        exact ⟨_, .action hfault, (Except.ok.inj h).symm⟩
    · rintro ⟨_, hd, rfl⟩
      cases hd with
      | action hfault =>
        simp only [add, hfault]
        rfl
  | synonym raw target =>
    constructor
    · intro h
      simp only [add] at h
      split at h
      · nomatch h
      · rename_i a ha
        exact ⟨_, .synonym ha, (Except.ok.inj h).symm⟩
    · rintro ⟨_, hd, rfl⟩
      cases hd with
      | synonym ha =>
        simp only [add, ha]
        rfl

/-- What is found under a name in a registry that can be built. -/
structure WellFormedEntry (name : String) (a : Action) : Prop where
  name_eq : a.name = name
  normal : Action.normalizeName name = name
  variadic_once : a.params.countP (·.kind == .variadic) ≤ 1
  variadicKeyword_once : a.params.countP (·.kind == .variadicKeyword) ≤ 1
  ordered : a.params.Pairwise fun p q => p.kind.rank ≤ q.kind.rank
  distinct : (a.params.map Param.name).Nodup

def WellFormed (r : Registry) : Prop := ∀ name a, r.get? name = some a → WellFormedEntry name a

namespace WellFormed

variable {r r' : Registry}

theorem defines (h : r.WellFormed) {d : Definition} {a : Action} (hd : r.Defines d a) :
    WellFormedEntry d.name a := by
  cases hd with
  | @action raw handler params hfault =>
    unfold fault? at hfault
    split_ifs at hfault with hvariadic hoptions hordered hnames
    exact {
      name_eq := rfl
      normal := Action.normalizeName_normalizeName raw
      variadic_once := Nat.le_of_not_lt hvariadic
      variadicKeyword_once := Nat.le_of_not_lt hoptions
      ordered := pairwise_of_isOrdered (by simpa using hordered)
      distinct := List.pairwise_map.mpr (pairwise_of_hasDistinctNames (by simpa using hnames)) }
  | @synonym raw target a ha =>
    have hentry := h _ a ha
    exact { hentry with name_eq := rfl, normal := Action.normalizeName_normalizeName raw }

theorem add (h : r.WellFormed) {d : Definition} (hadd : r.add d = .ok r') : r'.WellFormed := by
  obtain ⟨a, hd, rfl⟩ := add_eq_ok_iff.mp hadd
  intro name b hb
  rw [get?, Dict.get?_insert] at hb
  split at hb
  · rename_i hname
    obtain rfl := Option.some.inj hb
    exact hname ▸ h.defines hd
  · exact h name b hb

end WellFormed

/-- What every added definition keeps is kept by a table. -/
theorem foldlM_keeps {P : Registry → Prop} {definitions : List Definition} {r r' : Registry}
    (hkeep : ∀ d ∈ definitions, ∀ {s s'}, s.add d = .ok s' → P s → P s')
    (h : definitions.foldlM add r = .ok r') (hr : P r) : P r' := by
  induction definitions generalizing r with
  | nil => exact Except.ok.inj h ▸ hr
  | cons d rest ih =>
    rw [List.foldlM_cons] at h
    obtain ⟨middle, hadd, hrest⟩ := Binding.exists_of_bind_eq_ok h
    refine ih (fun e he => hkeep e (List.mem_cons_of_mem d he)) hrest ?_
    exact hkeep d List.mem_cons_self hadd hr

/-- An entry stays as long as nothing else is defined under its name. -/
theorem get?_of_foldlM {definitions : List Definition} {r r' : Registry}
    (h : definitions.foldlM add r = .ok r') {name : String}
    (hother : ∀ d ∈ definitions, d.name ≠ name) : r'.get? name = r.get? name := by
  refine foldlM_keeps (P := fun s => s.get? name = r.get? name) (fun d hd s s' hadd hs => ?_) h rfl
  obtain ⟨a, -, rfl⟩ := add_eq_ok_iff.mp hadd
  rw [get?, Dict.get?_insert, if_neg (hother d hd).symm]
  exact hs

/-- A definition in the middle of a table stands for an action in the registry of what comes before
it, and its entry is in the end what the last definition of its name stands for. -/
theorem exists_defines_of_build {before after : List Definition} {d : Definition} {r : Registry}
    (h : build (before ++ d :: after) = .ok r) :
    ∃ r₀ a, build before = .ok r₀ ∧ r₀.Defines d a ∧
      ((∀ e ∈ after, e.name ≠ d.name) → r.get? d.name = some a) := by
  rw [build, List.foldlM_append] at h
  obtain ⟨r₀, hbefore, hrest⟩ := Binding.exists_of_bind_eq_ok h
  rw [List.foldlM_cons] at hrest
  obtain ⟨r₁, hadd, hafter⟩ := Binding.exists_of_bind_eq_ok hrest
  obtain ⟨a, hd, rfl⟩ := add_eq_ok_iff.mp hadd
  refine ⟨r₀, a, hbefore, hd, fun hother => ?_⟩
  rw [get?_of_foldlM hafter hother, get?, Dict.get?_insert, if_pos rfl]

/-- Every registry that can be built is well formed.  Each entry is stored under its own name, which
is a normal spelling; its parameters have at most one that takes the rest of the positional
arguments and at most one that takes the rest of the options, come in the order of their kinds and
differ in their names.  Each definition of the table stands for an action at its place, a synonym
for the action that its target was when the synonym was made, and the last definition of a name
decides what is registered under it. -/
theorem built_registry_is_wellFormed {definitions : List Definition} {r : Registry}
    (h : build definitions = .ok r) :
    r.WellFormed ∧
      ∀ before d after, definitions = before ++ d :: after →
        ∃ r₀ a, build before = .ok r₀ ∧ r₀.Defines d a ∧
          ((∀ e ∈ after, e.name ≠ d.name) → r.get? d.name = some a) := by
  have hempty : WellFormed empty := fun _ _ hnone => nomatch hnone
  refine ⟨foldlM_keeps (fun _ _ _ _ hadd hs => hs.add hadd) h hempty, ?_⟩
  rintro before d after rfl
  exact exists_defines_of_build h

def early : List Definition :=
  [.action "ΦΩΣ" .back [.fixed "page" .text, .keyword "by" .text]]

def late : List Definition := [.action "φΩς" .forward [.variadic "rest" .text]]

/-- A synonym keeps what its target was before the target was replaced. -/
theorem built_registry_is_wellFormed_replaced :
    ∃ r, build (early ++ .synonym "Go-Home" "φως" :: late) = .ok r ∧ r.WellFormed ∧
      r.get? "go_home" = some ⟨"go_home", .back, [.fixed "page" .text, .keyword "by" .text]⟩ ∧
      r.get? "φως" = some ⟨"φως", .forward, [.variadic "rest" .text]⟩ := by
  have hentries : ((build (early ++ .synonym "Go-Home" "φως" :: late)).toOption.map fun r =>
      (r.get? "go_home", r.get? "φως")) =
      some (some ⟨"go_home", .back, [.fixed "page" .text, .keyword "by" .text]⟩,
        some ⟨"φως", .forward, [.variadic "rest" .text]⟩) := by
    decide +kernel
  cases hbuild : build (early ++ .synonym "Go-Home" "φως" :: late) with
  | error fault =>
    rw [hbuild] at hentries
    nomatch hentries
  | ok r =>
    rw [hbuild] at hentries
    obtain ⟨hhome, hlight⟩ := Prod.mk.inj (Option.some.inj hentries)
    exact ⟨r, rfl, (built_registry_is_wellFormed hbuild).1, hhome, hlight⟩

end Registry

end BrowserScript
