import BrowserScript.Run.Step
import Mathlib.Data.List.TakeWhile

/-!
# Templates as sequences of pieces

A template is written by putting its pieces one after the other.  A piece has to stand where it can
be read again: a bare name must not run on into the next characters, and a lone dollar sign must not
start a reference with them.  Every text is written by exactly one sequence of such pieces, up to a
brace that is never closed, if there is one.  Expansion puts a text in the place of each piece, and
what it puts there is never looked at again.
-/

namespace BrowserScript

namespace Piece

def spelling : Piece → List Char
  | .literal c => [c]
  | .dollar => ['$', '$']
  | .braced name => '$' :: '\x7b' :: (name.toList ++ ['\x7d'])
  | .bare name => '$' :: name.toList
  | .lone => ['$']

def reference? : Piece → Option String
  | .braced name | .bare name => some name
  | _ => none

/-- The text that takes the place of a piece: that of its variable, inserted as it is. -/
def replacement (vars : Variables) : Piece → String
  | .literal c => String.singleton c
  | .dollar | .lone => "$"
  | .braced name | .bare name => ((vars.get? name).map Variable.toText).getD ""

end Piece

namespace Template

def isBareName : List Char → Bool
  | [] => false
  | c :: rest => isNameStart c && rest.all isNameChar

/-- A piece is read back from its spelling if these characters come after it. -/
def Stands (after : List Char) : Piece → Prop
  | .literal c => c ≠ '$'
  | .dollar => True
  | .braced name => '\x7d' ∉ name.toList
  | .bare name => isBareName name.toList = true ∧ ∀ c ∈ after.head?, isNameChar c = false
  | .lone => ∀ c ∈ after.head?, c ≠ '$' ∧ c ≠ '\x7b' ∧ isNameStart c = false

instance (after : List Char) : DecidablePred (Stands after)
  | .literal c => inferInstanceAs (Decidable (c ≠ '$'))
  | .dollar => inferInstanceAs (Decidable True)
  | .braced name => inferInstanceAs (Decidable ('\x7d' ∉ name.toList))
  | .bare _ => @instDecidableAnd _ _ _ after.head?.decidableForallMem
  | .lone => after.head?.decidableForallMem

def spell (pieces : List Piece) : List Char := pieces.flatMap Piece.spelling

/-- Each of some pieces is read back if these characters come after the last one. -/
def Stand (after : List Char) : List Piece → Prop
  | [] => True
  | p :: rest => Stands (spell rest ++ after) p ∧ Stand after rest

instance decidableStand (after : List Char) : (pieces : List Piece) → Decidable (Stand after pieces)
  | [] => inferInstanceAs (Decidable True)
  | p :: rest =>
    have := decidableStand after rest
    inferInstanceAs (Decidable (Stands (spell rest ++ after) p ∧ Stand after rest))

/-- The characters start with a brace of a reference that is never closed. -/
def IsUnclosed (cs : List Char) : Prop := ∃ body, cs = '$' :: '\x7b' :: body ∧ '\x7d' ∉ body

/-- A template is written by these characters: by its pieces alone, or by its pieces and a brace
that is never closed. -/
def Writes (t : Template) (cs : List Char) : Prop :=
  ∃ after, cs = spell t.pieces ++ after ∧ Stand after t.pieces ∧
    if t.closed then after = [] else IsUnclosed after

def references (pieces : List Piece) : List String := pieces.filterMap Piece.reference?

/-- The first of some pieces' references to a variable that is not set. -/
def firstMissing? (vars : Variables) (pieces : List Piece) : Option String :=
  (references pieces).find? fun name => !vars.contains name

/-- The texts that take the place of some pieces, one after the other. -/
def replaced (vars : Variables) (pieces : List Piece) : String :=
  String.join (pieces.map (Piece.replacement vars))

@[simp] theorem spell_nil : spell [] = [] := rfl

@[simp] theorem spell_cons (p : Piece) (rest : List Piece) :
    spell (p :: rest) = p.spelling ++ spell rest := rfl

/-! ### Reading pieces back -/

theorem takeWhile_of_boundary {p : Char → Bool} {name after : List Char}
    (hname : name.all p = true) (hafter : ∀ c ∈ after.head?, p c = false) :
    (name ++ after).takeWhile p = name ∧ (name ++ after).dropWhile p = after := by
  have hall : ∀ c ∈ name, p c = true := by simpa using hname
  rw [List.takeWhile_append_of_pos hall, List.dropWhile_append_of_pos hall]
  cases after with
  | nil => simp
  | cons c rest =>
    have hc : p c = false := hafter c (by simp)
    simp [hc]

theorem ofChars_dollar (after : List Char) :
    ofChars ('$' :: '$' :: after) = cons .dollar (ofChars after) := by
  rw [ofChars.eq_def]
  simp

theorem ofChars_braced {name : List Char} (hname : '\x7d' ∉ name) (after : List Char) :
    ofChars ('$' :: '\x7b' :: (name ++ '\x7d' :: after)) =
      cons (.braced (String.ofList name)) (ofChars after) := by
  have hall : name.all (· != '\x7d') = true := by
    simpa using fun c hc => ne_of_mem_of_not_mem hc hname
  have hstop : ∀ c ∈ ('\x7d' :: after).head?, (c != '\x7d') = false := by simp
  obtain ⟨htake, hdrop⟩ := takeWhile_of_boundary hall hstop
  rw [ofChars.eq_def]
  simp only [if_true]
  split
  · rename_i h
    rw [hdrop] at h
    cases h
  · rename_i c rest h
    rw [hdrop] at h
    obtain ⟨rfl, rfl⟩ := List.cons.inj h
    rw [htake]

theorem ofChars_unclosed {body : List Char} (hbody : '\x7d' ∉ body) :
    ofChars ('$' :: '\x7b' :: body) = ⟨[], false⟩ := by
  have hdrop : body.dropWhile (· != '\x7d') = [] := by
    simpa using fun c hc => ne_of_mem_of_not_mem hc hbody
  rw [ofChars.eq_def]
  simp only [if_true]
  split
  · rfl
  · rename_i h
    rw [hdrop] at h
    cases h

theorem ofChars_name {c : Char} (hc : isNameStart c = true) (rest : List Char) :
    ofChars ('$' :: c :: rest) =
      cons (.bare (String.ofList (c :: rest.takeWhile isNameChar)))
        (ofChars (rest.dropWhile isNameChar)) := by
  have hdollar : c ≠ '$' := by rintro rfl; nomatch hc
  have hbrace : c ≠ '\x7b' := by rintro rfl; nomatch hc
  rw [ofChars.eq_def]
  simp [hc]

theorem ofChars_lone {c : Char} (hdollar : c ≠ '$') (hbrace : c ≠ '\x7b')
    (hc : isNameStart c = false) (rest : List Char) :
    ofChars ('$' :: c :: rest) = cons .lone (ofChars (c :: rest)) := by
  rw [ofChars.eq_def]
  simp [hc]

theorem ofChars_end : ofChars ['$'] = cons .lone (ofChars []) := by
  simp [ofChars]

/-- A piece that stands where it may is the first that is read. -/
theorem ofChars_spelling_append {p : Piece} {after : List Char} (h : Stands after p) :
    ofChars (p.spelling ++ after) = cons p (ofChars after) := by
  cases p with
  | literal c => exact ofChars_of_ne h after
  | dollar => exact ofChars_dollar after
  | braced name =>
    have hread := ofChars_braced h after
    rw [String.ofList_toList] at hread
    simpa [Piece.spelling] using hread
  | bare name =>
    obtain ⟨hname, hafter⟩ := h
    cases hchars : name.toList with
    | nil =>
      rw [hchars] at hname
      nomatch hname
    | cons c rest =>
      rw [hchars, isBareName, Bool.and_eq_true] at hname
      obtain ⟨htake, hdrop⟩ := takeWhile_of_boundary hname.2 hafter
      have hread := ofChars_name hname.1 (rest ++ after)
      rw [htake, hdrop, ← hchars, String.ofList_toList] at hread
      simpa [Piece.spelling, hchars] using hread
  | lone =>
    cases after with
    | nil => exact ofChars_end
    | cons c rest =>
      obtain ⟨hdollar, hbrace, hc⟩ := h c (by simp)
      exact ofChars_lone hdollar hbrace hc rest

theorem ofChars_spell_append {pieces : List Piece} {after : List Char} (h : Stand after pieces) :
    ofChars (spell pieces ++ after) =
      ⟨pieces ++ (ofChars after).pieces, (ofChars after).closed⟩ := by
  induction pieces with
  | nil => rfl
  | cons p rest ih =>
    rw [spell_cons, List.append_assoc, ofChars_spelling_append h.1, ih h.2]
    rfl

theorem ofChars_of_writes {t : Template} {cs : List Char} (h : t.Writes cs) : ofChars cs = t := by
  obtain ⟨pieces, closed⟩ := t
  obtain ⟨after, rfl, hstand, hend⟩ := h
  rw [ofChars_spell_append hstand]
  cases closed with
  | true =>
    obtain rfl : after = [] := hend
    simp [ofChars]
  | false =>
    obtain ⟨body, rfl, hbody⟩ : IsUnclosed after := hend
    simp [ofChars_unclosed hbody]

/-! ### Every text is written by a template -/

theorem writes_cons {p : Piece} {t : Template} {cs : List Char} (hp : Stands cs p)
    (ht : t.Writes cs) : (cons p t).Writes (p.spelling ++ cs) := by
  obtain ⟨after, rfl, hstand, hend⟩ := ht
  exact ⟨after, by simp [cons], ⟨hp, hstand⟩, hend⟩

theorem writes_nil : (⟨[], true⟩ : Template).Writes [] := ⟨[], rfl, trivial, rfl⟩

/-- The pieces that are read from a text write it again. -/
theorem writes_ofChars (cs : List Char) : (ofChars cs).Writes cs := by
  fun_induction ofChars cs with
  | case1 => exact writes_nil
  | case2 => exact writes_cons (p := .lone) (by simp [Stands]) writes_nil
  | case3 body hdrop =>
    refine ⟨_, rfl, trivial, body, rfl, fun hmem => ?_⟩
    simpa using List.dropWhile_eq_nil_iff.mp hdrop _ hmem
  | case4 body brace after hdrop _ ih =>
    obtain rfl : brace = '\x7d' := by
      have hhead := List.head?_dropWhile_not (· != '\x7d') body
      simpa [hdrop] using hhead
    have hname : '\x7d' ∉ body.takeWhile (· != '\x7d') := by
      intro hmem
      simpa using List.mem_takeWhile_imp hmem
    have hcut := List.takeWhile_append_dropWhile (p := (· != '\x7d')) (l := body)
    rw [hdrop] at hcut
    have hwrites := writes_cons (p := .braced (String.ofList (body.takeWhile (· != '\x7d'))))
      (by simpa [Stands] using hname) ih
    simpa [Piece.spelling, hcut] using hwrites
  | case5 after ih => exact writes_cons (p := .dollar) trivial ih
  | case6 c after _ _ hstart _ ih =>
    have hstop : ∀ d ∈ (after.dropWhile isNameChar).head?, isNameChar d = false := by
      intro d hd
      have hhead := List.head?_dropWhile_not isNameChar after
      rw [Option.mem_def.mp hd] at hhead
      simpa using hhead
    have hname : isBareName (c :: after.takeWhile isNameChar) = true := by
      simp [isBareName, hstart, List.all_takeWhile]
    have hwrites := writes_cons (p := .bare (String.ofList (c :: after.takeWhile isNameChar)))
      ⟨by rwa [String.toList_ofList], hstop⟩ ih
    simpa [Piece.spelling] using hwrites
  | case7 c after hbrace hdollar hstart ih =>
    refine writes_cons (p := .lone) ?_ ih
    simpa [Stands] using ⟨hdollar, hbrace, Bool.of_not_eq_true hstart⟩
  | case8 c rest hc ih => exact writes_cons (p := .literal c) hc ih

/-- A text has one template that writes it: the one that is read from it. -/
theorem writes_iff {t : Template} {cs : List Char} : t.Writes cs ↔ t = ofChars cs := by
  constructor
  · intro h
    exact (ofChars_of_writes h).symm
  · rintro rfl
    exact writes_ofChars cs

/-! ### Replacing pieces -/

theorem value_of_reference {vars : Variables} {p : Piece} {name : String}
    (hp : p.reference? = some name) :
    value vars p =
      if vars.contains name then .ok (p.replacement vars) else .error (.missing name) := by
  have hname : value.reference vars name =
      if vars.contains name then .ok (((vars.get? name).map Variable.toText).getD "")
      else .error (.missing name) := by
    unfold value.reference Variables.contains
    cases vars.get? name <;> rfl
  cases p with
  | braced n => cases hp; exact hname
  | bare n => cases hp; exact hname
  | _ => nomatch hp

theorem value_of_no_reference {vars : Variables} {p : Piece} (hp : p.reference? = none) :
    value vars p = .ok (p.replacement vars) := by
  cases p with
  | literal c => rfl
  | dollar => rfl
  | lone => rfl
  | _ => nomatch hp

theorem replaced_cons (vars : Variables) (p : Piece) (rest : List Piece) :
    replaced vars (p :: rest) = p.replacement vars ++ replaced vars rest := by
  apply String.toList_injective
  simp [replaced]

/-- What a template is expanded to: the replacements of its pieces, unless a variable is missing or
a brace is not closed. -/
theorem join_eq (vars : Variables) (pieces : List Piece) (closed : Bool) :
    join vars pieces closed =
      match firstMissing? vars pieces with
      | some name => .error (.missing name)
      | none => if closed then .ok (replaced vars pieces) else .error .unclosed := by
  induction pieces with
  | nil => cases closed <;> rfl
  | cons p rest ih =>
    -- A piece whose text is known stands before whatever the rest comes to.
    have hknown : value vars p = .ok (p.replacement vars) →
        firstMissing? vars (p :: rest) = firstMissing? vars rest →
        join vars (p :: rest) closed = match firstMissing? vars (p :: rest) with
          | some name => .error (.missing name)
          | none => if closed then .ok (replaced vars (p :: rest)) else .error .unclosed := by
      intro hvalue hmissing
      rw [join, hvalue, hmissing]
      simp only [ih, replaced_cons]
      cases firstMissing? vars rest <;> cases closed <;> rfl
    cases hp : p.reference? with
    | none => exact hknown (value_of_no_reference hp) (by simp [firstMissing?, references, hp])
    | some name =>
      have hvalue : value vars p = _ := value_of_reference hp
      by_cases hset : vars.contains name = true
      · rw [if_pos hset] at hvalue
        exact hknown hvalue (by simp [firstMissing?, references, hp, hset])
      · rw [if_neg hset] at hvalue
        rw [join, hvalue]
        simp [firstMissing?, references, hp, hset]

end Template

namespace Run

open Template

theorem expandText_eq (vars : Variables) (text : String) :
    expandText vars text =
      match firstMissing? vars (ofChars text.toList).pieces with
      | some name => .error (.missingVariable name)
      | none =>
        if (ofChars text.toList).closed then .ok (replaced vars (ofChars text.toList).pieces)
        else .error (.unclosedBrace text) := by
  rw [expandText, expand, join_eq]
  cases firstMissing? vars (ofChars text.toList).pieces with
  | some name => rfl
  | none => cases (ofChars text.toList).closed <;> rfl

/-- Expansion is substitution in one pass.  For pieces that stand where they may, it succeeds if and
only if every variable that they refer to is set; it then gives the texts that take their places,
and otherwise it names the first variable that is missing.  Every text is written by one template
and no other: by pieces alone, or by pieces and a brace that is never closed.  With such a brace the
error names the first variable that is missing before it, or else the whole text. -/
theorem expansion_substitutes_once (vars : Variables) :
    (∀ pieces, Stand [] pieces →
      let result := expandText vars (String.ofList (spell pieces))
      ((∃ s, result = .ok s) ↔ ∀ name ∈ references pieces, vars.contains name = true) ∧
      (∀ s, result = .ok s → s = replaced vars pieces) ∧
      ∀ e, result = .error e →
        ∃ name, firstMissing? vars pieces = some name ∧ e = .missingVariable name) ∧
    ∀ text : String, ∃ t : Template, (∀ t' : Template, t'.Writes text.toList ↔ t' = t) ∧
      (t.closed = false → expandText vars text = .error
        (match firstMissing? vars t.pieces with
          | some name => .missingVariable name
          | none => .unclosedBrace text)) := by
  refine ⟨fun pieces hstand => ?_, fun text => ?_⟩
  · have hread : ofChars (spell pieces) = ⟨pieces, true⟩ :=
      ofChars_of_writes ⟨[], by simp, hstand, rfl⟩
    have hresult := expandText_eq vars (String.ofList (spell pieces))
    rw [String.toList_ofList, hread] at hresult
    have hset : firstMissing? vars pieces = none ↔
        ∀ name ∈ references pieces, vars.contains name = true := by simp [firstMissing?]
    rw [← hset]
    dsimp only
    rw [hresult]
    cases firstMissing? vars pieces with
    | some name =>
      refine ⟨by simp, nofun, ?_⟩
      rintro e ⟨⟩
      exact ⟨name, rfl, rfl⟩
    | none =>
      refine ⟨by simp, ?_, nofun⟩
      rintro s ⟨⟩
      rfl
  · refine ⟨ofChars text.toList, fun t' => writes_iff, fun hopen => ?_⟩
    rw [expandText_eq, hopen]
    cases firstMissing? vars (ofChars text.toList).pieces <;> rfl

/-- A dollar sign, a reference up against it, a literal and a dollar sign at the end. -/
def tight : List Piece := [.dollar, .bare "N", .literal '!', .lone]

theorem expansion_substitutes_once_tight :
    Stand [] tight ∧ expandText ⟨[("N", .text "$X")]⟩ "$$$N!$" = .ok "$$X!$" ∧
    expandText ⟨[]⟩ "$$$N!$" = .error (.missingVariable "N") ∧
    expandText ⟨[("N", .text "$X")]⟩ "$N$\x7bN" = .error (.unclosedBrace "$N$\x7bN") := by
  have hstand : Stand [] tight := by decide
  have htext : String.ofList (spell tight) = "$$$N!$" := by decide
  refine ⟨hstand, ?_, ?_, ?_⟩
  · obtain ⟨hiff, hvalue, -⟩ := (expansion_substitutes_once ⟨[("N", .text "$X")]⟩).1 tight hstand
    rw [htext] at hiff hvalue
    obtain ⟨s, hs⟩ := hiff.mpr (by decide)
    rw [hs, hvalue s hs]
    decide
  · obtain ⟨hiff, -, herror⟩ := (expansion_substitutes_once ⟨[]⟩).1 tight hstand
    rw [htext] at hiff herror
    cases hresult : expandText ⟨[]⟩ "$$$N!$" with
    | ok s => exact absurd (hiff.mp ⟨s, hresult⟩) (by decide)
    | error e =>
      obtain ⟨name, hname, rfl⟩ := herror e hresult
      obtain rfl : "N" = name := Option.some.inj hname
      rfl
  · obtain ⟨t, hone, hopen⟩ :=
      (expansion_substitutes_once ⟨[("N", .text "$X")]⟩).2 "$N$\x7bN"
    obtain rfl : ⟨[.bare "N"], false⟩ = t :=
      (hone _).mp ⟨"$\x7bN".toList, by decide, by decide, ['N'], by decide, by decide⟩
    exact hopen rfl

end Run

end BrowserScript
