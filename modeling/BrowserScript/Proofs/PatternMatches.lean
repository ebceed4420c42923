import BrowserScript.Text.Pattern
import Mathlib.Computability.Language

/-!
# Matches of patterns

A pattern stands for a language.  Reading a text one character after the other accepts exactly the
texts of that language.  A search has to say more than that: of the ways in which a pattern matches
at a place it takes the preferred one, the first of two choices before the second and one more
repetition before none.  So the ways are listed here in that order, each with what it takes and what
it leaves, and a search walks through a text until there is such a way.  A search that has to reach
both edges of the text comes to the same as reading the text as a whole.
-/

open scoped Computability

namespace BrowserScript.Text

namespace Pattern

variable {p q : Pattern} {c : Char} {cs taken rest : List Char}

/-! ### Languages -/

def admits (outside : Bool) (ranges : List (Nat × Nat)) (c : Char) : Bool :=
  ranges.any (fun r => r.1 ≤ c.toNat && c.toNat ≤ r.2) != outside

def language : Pattern → Language Char
  | .never => 0
  | .nothing => 1
  | .one outside ranges => {cs | ∃ c, admits outside ranges c = true ∧ cs = [c]}
  | .both p q => p.language * q.language
  | .either p q => p.language + q.language
  | .many p => p.language∗

theorem language_followedBy (p q : Pattern) :
    (p.followedBy q).language = p.language * q.language := by
  unfold followedBy
  split
  · simp [language]
  · simp [language]
  · simp [language]
  · simp [language]
  · rfl

theorem language_orElse (p q : Pattern) : (p.orElse q).language = p.language + q.language := by
  unfold orElse
  split
  · simp [language]
  · simp [language]
  · split
    · rename_i h
      rw [h, Language.add_self]
    · rfl

theorem acceptsEmpty_iff_mem : p.acceptsEmpty = true ↔ [] ∈ p.language := by
  induction p with
  | never => simp [acceptsEmpty, language]
  | nothing => simp [acceptsEmpty, language]
  | one outside ranges =>
    refine iff_of_false Bool.false_ne_true ?_
    rintro ⟨c, -, h⟩
    nomatch h
  | both p q hp hq => simp [acceptsEmpty, language, Language.mem_mul, hp, hq]
  | either p q hp hq => rw [acceptsEmpty, Bool.or_eq_true, hp, hq, language, Language.mem_add]
  | many p _ => simp [acceptsEmpty, language, Language.nil_mem_kstar]

/-- A text of two parts starts in the first of them, unless that is empty. -/
theorem cons_mem_mul {l m : Language Char} : c :: cs ∈ l * m ↔
    (∃ a b, c :: a ∈ l ∧ b ∈ m ∧ a ++ b = cs) ∨ [] ∈ l ∧ c :: cs ∈ m := by
  rw [Language.mem_mul]
  constructor
  · rintro ⟨_ | ⟨d, a⟩, ha, b, hb, h⟩
    · exact .inr ⟨ha, by rwa [← h]⟩
    · obtain ⟨rfl, hcs⟩ := List.cons.inj h
      exact .inl ⟨a, b, ha, hb, hcs⟩
  · rintro (⟨a, b, ha, hb, rfl⟩ | ⟨hempty, h⟩)
    · exact ⟨c :: a, ha, b, hb, rfl⟩
    · exact ⟨[], hempty, c :: cs, h, rfl⟩

/-- A text of repeated parts starts in a part that is not empty. -/
theorem mem_kstar_iff {l : Language Char} :
    cs ∈ l∗ ↔ cs = [] ∨ ∃ a b, a ≠ [] ∧ a ∈ l ∧ b ∈ l∗ ∧ a ++ b = cs := by
  constructor
  · intro h
    obtain ⟨parts, rfl, hparts⟩ := Language.mem_kstar_iff_exists_nonempty.mp h
    cases parts with
    | nil => exact .inl rfl
    | cons part parts =>
      obtain ⟨⟨hpart, hsome⟩, hrest⟩ := List.forall_mem_cons.mp hparts
      exact .inr ⟨part, parts.flatten, hsome, hpart,
        Language.join_mem_kstar fun part h => (hrest part h).1, rfl⟩
  · rintro (rfl | ⟨a, b, -, ha, hb, rfl⟩)
    · exact Language.nil_mem_kstar l
    · rw [← Language.one_add_self_mul_kstar_eq_kstar]
      exact .inr (Language.append_mem_mul ha hb)

/-- What a pattern asks of the rest of a text is met by exactly those rests that complete the
text. -/
theorem mem_language_after : cs ∈ (p.after c).language ↔ c :: cs ∈ p.language := by
  induction p generalizing cs with
  | never => simp [after, language]
  | nothing => simp [after, language]
  | one outside ranges =>
    have hone : c :: cs ∈ (Pattern.one outside ranges).language ↔
        admits outside ranges c = true ∧ cs = [] := by
      constructor
      · rintro ⟨d, hd, h⟩
        obtain ⟨rfl, rfl⟩ := List.cons.inj h
        exact ⟨hd, rfl⟩
      · rintro ⟨hc, rfl⟩
        exact ⟨c, hc, rfl⟩
    rw [hone]
    by_cases h : admits outside ranges c = true
    · have hafter : (Pattern.one outside ranges).after c = .nothing := if_pos h
      simp [hafter, h, language]
    · have hafter : (Pattern.one outside ranges).after c = .never := if_neg h
      simp [hafter, h, language]
  | both p q hp hq =>
    have hfirst : cs ∈ ((p.after c).followedBy q).language ↔
        ∃ a b, c :: a ∈ p.language ∧ b ∈ q.language ∧ a ++ b = cs := by
      simp only [language_followedBy, Language.mem_mul, hp]
      exact ⟨fun ⟨a, ha, b, hb, h⟩ => ⟨a, b, ha, hb, h⟩, fun ⟨a, b, ha, hb, h⟩ => ⟨a, ha, b, hb, h⟩⟩
    rw [language, cons_mem_mul, ← acceptsEmpty_iff_mem, after]
    split
    · rename_i hempty
      rw [language_orElse, Language.mem_add, hfirst, hq]
      simp [hempty]
    · rename_i hempty
      rw [hfirst]
      simp [hempty]
  | either p q hp hq => rw [after, language_orElse, Language.mem_add, hp, hq]; rfl
  | many p hp =>
    rw [after, language_followedBy, Language.mem_mul, language, @mem_kstar_iff (c :: cs)]
    constructor
    · rintro ⟨a, ha, b, hb, rfl⟩
      exact .inr ⟨c :: a, b, by simp, hp.mp ha, hb, rfl⟩
    · rintro (h | ⟨a, b, hsome, ha, hb, h⟩)
      · nomatch h
      · obtain ⟨d, a, rfl⟩ := List.exists_cons_of_ne_nil hsome
        obtain ⟨rfl, hcs⟩ := List.cons.inj h
        exact ⟨a, hp.mpr ha, b, hb, hcs⟩

/-- A pattern accepts exactly the texts of its language. -/
theorem accepts_iff_mem {s : String} : p.accepts s = true ↔ s.toList ∈ p.language := by
  rw [accepts]
  generalize s.toList = cs
  induction cs generalizing p with
  | nil => exact acceptsEmpty_iff_mem
  | cons c cs ih => rw [List.foldl_cons, ih, mem_language_after]

/-! ### Ways to match -/

/-- The ways to match one pattern after another: each of the first with each of the second at what
it leaves. -/
def andThen (ways : List (List Char × List Char))
    (next : List Char → List (List Char × List Char)) : List (List Char × List Char) :=
  ways.flatMap fun way => (next way.2).map fun more => (way.1 ++ more.1, more.2)

/-- The ways to repeat what `each` matches, at most `limit` times, more repetitions first.  What
matches nothing is not repeated. -/
def repeatWays (each : List Char → List (List Char × List Char)) :
    Nat → List Char → List (List Char × List Char)
  | 0, cs => [([], cs)]
  | limit + 1, cs =>
    andThen ((each cs).filter fun way => !way.1.isEmpty) (repeatWays each limit) ++ [([], cs)]

/-- The ways in which a pattern matches at the start of a text, the preferred ones first: what is
taken and what is left.  There are at most as many repetitions as characters. -/
def ways : Pattern → List Char → List (List Char × List Char)
  | .never, _ => []
  | .nothing, cs => [([], cs)]
  | .one .., [] => []
  | .one outside ranges, c :: cs => if admits outside ranges c then [([c], cs)] else []
  | .both p q, cs => andThen (p.ways cs) q.ways
  | .either p q, cs => p.ways cs ++ q.ways cs
  | .many p, cs => repeatWays p.ways cs.length cs

theorem mem_andThen {ways : List (List Char × List Char)}
    {next : List Char → List (List Char × List Char)} :
    (taken, rest) ∈ andThen ways next ↔
      ∃ a b middle, (a, middle) ∈ ways ∧ (b, rest) ∈ next middle ∧ a ++ b = taken := by
  simp only [andThen, List.mem_flatMap, List.mem_map, Prod.exists, Prod.mk.injEq]
  constructor
  · rintro ⟨a, middle, hfirst, b, rest', hnext, rfl, rfl⟩
    exact ⟨a, b, middle, hfirst, hnext, rfl⟩
  · rintro ⟨a, b, middle, hfirst, hnext, rfl⟩
    exact ⟨a, middle, hfirst, b, rest, hnext, rfl, rfl⟩

theorem flatMap_andThen {α : Type} (ways : List (List Char × List Char))
    (next : List Char → List (List Char × List Char)) (f : List Char × List Char → List α) :
    (andThen ways next).flatMap f =
      ways.flatMap fun way => (next way.2).flatMap fun more => f (way.1 ++ more.1, more.2) := by
  simp [andThen, List.flatMap_assoc, List.flatMap_map]

theorem mem_repeatWays {l : Language Char} {each : List Char → List (List Char × List Char)}
    (heach : ∀ cs taken rest, (taken, rest) ∈ each cs ↔ taken ∈ l ∧ taken ++ rest = cs)
    {limit : Nat} (hlimit : cs.length ≤ limit) :
    (taken, rest) ∈ repeatWays each limit cs ↔ taken ∈ l∗ ∧ taken ++ rest = cs := by
  induction limit generalizing cs taken with
  | zero =>
    obtain rfl := List.length_eq_zero_iff.mp (Nat.le_zero.mp hlimit)
    simp only [repeatWays, List.mem_singleton, Prod.mk.injEq, List.append_eq_nil_iff]
    constructor
    · rintro ⟨rfl, rfl⟩
      exact ⟨Language.nil_mem_kstar l, rfl, rfl⟩
    · rintro ⟨-, h⟩
      exact h
  | succ limit ih =>
    -- A repetition takes at least one character, so the limit suffices for what it leaves.
    have hmore {a middle : List Char} (hsome : a ≠ []) (h : a ++ middle = cs) :
        middle.length ≤ limit := by
      have hpos := List.length_pos_iff.mpr hsome
      rw [← h, List.length_append] at hlimit
      omega
    simp only [repeatWays, List.mem_append, mem_andThen, List.mem_filter, heach, Bool.not_eq_true',
      List.isEmpty_eq_false_iff, List.mem_singleton, Prod.mk.injEq]
    rw [mem_kstar_iff]
    constructor
    · rintro (⟨a, b, middle, ⟨⟨ha, hcut⟩, hsome⟩, hb, rfl⟩ | ⟨rfl, rfl⟩)
      · obtain ⟨hmem, rfl⟩ := (ih (hmore hsome hcut)).mp hb
        exact ⟨.inr ⟨a, b, hsome, ha, hmem, rfl⟩, by rw [List.append_assoc, hcut]⟩
      · exact ⟨.inl rfl, rfl⟩
    · rintro ⟨rfl | ⟨a, b, hsome, ha, hb, rfl⟩, h⟩
      · exact .inr ⟨rfl, h⟩
      · rw [List.append_assoc] at h
        exact .inl ⟨a, b, b ++ rest, ⟨⟨ha, h⟩, hsome⟩, (ih (hmore hsome h)).mpr ⟨hb, rfl⟩, rfl⟩

/-- The ways to match are the texts of the language that stand at the start. -/
theorem mem_ways_iff : (taken, rest) ∈ p.ways cs ↔ taken ∈ p.language ∧ taken ++ rest = cs := by
  induction p generalizing cs taken rest with
  | never => simp [ways, language]
  | nothing =>
    simp only [ways, language, List.mem_singleton, Prod.mk.injEq, Language.mem_one]
    constructor
    · rintro ⟨rfl, rfl⟩
      exact ⟨rfl, rfl⟩
    · rintro ⟨rfl, h⟩
      exact ⟨rfl, h⟩
  | one outside ranges =>
    cases cs with
    | nil =>
      simp only [ways, List.not_mem_nil, List.append_eq_nil_iff, false_iff]
      rintro ⟨⟨c, -, rfl⟩, h, -⟩
      nomatch h
    | cons c cs =>
      rw [ways]
      constructor
      · intro h
        split at h
        · rename_i hc
          obtain ⟨rfl, rfl⟩ := Prod.mk.inj (List.mem_singleton.mp h)
          exact ⟨⟨c, hc, rfl⟩, rfl⟩
        · nomatch h
      · rintro ⟨⟨d, hd, rfl⟩, h⟩
        obtain ⟨rfl, rfl⟩ := List.cons.inj h
        simp [hd]
  | both p q hp hq =>
    simp only [ways, language, mem_andThen, hp, hq, Language.mem_mul]
    constructor
    · rintro ⟨a, b, middle, ⟨ha, rfl⟩, ⟨hb, rfl⟩, rfl⟩
      exact ⟨⟨a, ha, b, hb, rfl⟩, List.append_assoc a b rest⟩
    · rintro ⟨⟨a, ha, b, hb, rfl⟩, rfl⟩
      exact ⟨a, b, b ++ rest, ⟨ha, (List.append_assoc a b rest).symm⟩, ⟨hb, rfl⟩, rfl⟩
  | either p q hp hq => simp only [ways, language, List.mem_append, hp, hq, Language.mem_add,
      or_and_right]
  | many p hp => exact mem_repeatWays (fun cs taken rest => hp) (Nat.le_refl _)

/-- A text is accepted if one of the ways takes it whole. -/
theorem accepts_iff_exists_way {s : String} :
    p.accepts s = true ↔ ∃ taken, (taken, []) ∈ p.ways s.toList := by
  simp [accepts_iff_mem, mem_ways_iff]

/-! ### Searches -/

/-- The ways to match patterns one behind the other, with what each of them takes. -/
def partWays : List Pattern → List Char → List (List (List Char) × List Char)
  | [], cs => [([], cs)]
  | p :: ps, cs =>
    (p.ways cs).flatMap fun way => (partWays ps way.2).map fun more => (way.1 :: more.1, more.2)

structure Found where
  /-- What was passed over on the way to the match. -/
  skipped : List Char
  /-- What each of the patterns takes. -/
  parts : List (List Char)
  deriving DecidableEq, Repr

/-- The preferred of the ways to match here that reaches the end of the text if it has to. -/
def firstWay? (edges : Edges) (ps : List Pattern) (cs : List Char) :
    Option (List (List Char) × List Char) :=
  (partWays ps cs).find? fun way => !edges.stop || way.2.isEmpty

/-- The match that starts first, of those the preferred one, and what is left behind it. -/
def search? (edges : Edges) (ps : List Pattern) (cs : List Char) : Option (Found × List Char) :=
  match firstWay? edges ps cs, cs with
  | some way, _ => some (⟨[], way.1⟩, way.2)
  | none, [] => none
  | none, c :: cs =>
    if edges.start then none
    else (search? edges ps cs).map fun next =>
      ({ next.1 with skipped := c :: next.1.skipped }, next.2)

/-- The matches in a text that need not reach its edges, each searched for behind the one before,
and what is left behind the last of them.  A match that takes nothing ends the search. -/
def allMatches (ps : List Pattern) (cs : List Char) : List Found × List Char :=
  match search? ⟨false, false⟩ ps cs with
  | none => ([], cs)
  | some (found, rest) =>
    if rest.length < cs.length then
      let more := allMatches ps rest
      (found :: more.1, more.2)
    else ([], cs)
termination_by cs.length

variable {ps : List Pattern} {edges : Edges}

theorem search?_of_firstWay? {parts : List (List Char)}
    (h : firstWay? edges ps cs = some (parts, rest)) :
    search? edges ps cs = some (⟨[], parts⟩, rest) := by
  cases cs <;> simp [search?, h]

@[simp]
theorem allMatches_nil (ps : List Pattern) : allMatches ps [] = ([], []) := by
  rw [allMatches]
  split
  · rfl
  · exact if_neg (Nat.not_lt_zero _)

/-- Where the patterns match at once, nothing is skipped. -/
theorem allMatches_of_head? {parts : List (List Char)}
    (h : (partWays ps cs).head? = some (parts, rest)) (hlt : rest.length < cs.length) :
    allMatches ps cs = (⟨[], parts⟩ :: (allMatches ps rest).1, (allMatches ps rest).2) := by
  have hfirst : firstWay? ⟨false, false⟩ ps cs = some (parts, rest) := by
    obtain ⟨more, hways⟩ := List.head?_eq_some_iff.mp h
    simp [firstWay?, hways]
  rw [allMatches, search?_of_firstWay? hfirst]
  exact if_pos hlt

/-- There is a way to match here if a text of the language stands here. -/
theorem isSome_firstWay?_iff : (firstWay? edges [p] cs).isSome = true ↔
    ∃ taken rest, taken ++ rest = cs ∧ taken ∈ p.language ∧ (edges.stop = true → rest = []) := by
  have hmem : ∀ parts rest, (parts, rest) ∈ partWays [p] cs ↔
      ∃ taken, parts = [taken] ∧ taken ∈ p.language ∧ taken ++ rest = cs := by
    intro parts rest
    simp only [partWays, List.map_singleton, List.mem_flatMap, List.mem_singleton, Prod.exists,
      Prod.mk.injEq, mem_ways_iff]
    constructor
    · rintro ⟨taken, rest, hway, rfl, rfl⟩
      exact ⟨taken, rfl, hway⟩
    · rintro ⟨taken, rfl, hway⟩
      exact ⟨taken, rest, hway, rfl, rfl⟩
  simp only [firstWay?, List.find?_isSome, Prod.exists, hmem, Bool.or_eq_true, Bool.not_eq_true',
    List.isEmpty_iff]
  constructor
  · rintro ⟨_, rest, ⟨taken, rfl, hmem, hcut⟩, hstop⟩
    exact ⟨taken, rest, hcut, hmem, fun h => hstop.resolve_left (by simp [h])⟩
  · rintro ⟨taken, rest, hcut, hmem, hstop⟩
    refine ⟨[taken], rest, ⟨taken, rfl, hmem, hcut⟩, ?_⟩
    cases h : edges.stop with
    | false => exact .inl rfl
    | true => exact .inr (hstop h)

/-- A search finds something if a text of the language stands somewhere, at the edges that it has to
reach. -/
theorem isSome_search?_iff : (search? edges [p] cs).isSome = true ↔
    ∃ before taken rest, before ++ (taken ++ rest) = cs ∧ taken ∈ p.language ∧
      (edges.start = true → before = []) ∧ (edges.stop = true → rest = []) := by
  induction cs with
  | nil =>
    have hsearch : (search? edges [p] []).isSome = (firstWay? edges [p] []).isSome := by
      cases hfirst : firstWay? edges [p] [] <;> simp [search?, hfirst]
    rw [hsearch, isSome_firstWay?_iff]
    constructor
    · rintro ⟨taken, rest, hcut, hmem, hstop⟩
      exact ⟨[], taken, rest, hcut, hmem, fun _ => rfl, hstop⟩
    · rintro ⟨before, taken, rest, hcut, hmem, -, hstop⟩
      exact ⟨taken, rest, (List.append_eq_nil_iff.mp hcut).2, hmem, hstop⟩
  | cons c cs ih =>
    have hsearch : (search? edges [p] (c :: cs)).isSome = true ↔
        (firstWay? edges [p] (c :: cs)).isSome = true ∨
          edges.start = false ∧ (search? edges [p] cs).isSome = true := by
      cases hfirst : firstWay? edges [p] (c :: cs) <;> cases hstart : edges.start <;>
        simp [search?, hfirst, hstart]
    rw [hsearch, isSome_firstWay?_iff, ih]
    constructor
    · rintro (⟨taken, rest, hcut, hmem, hstop⟩ | ⟨hfree, before, taken, rest, rfl, hmem, -, hstop⟩)
      · exact ⟨[], taken, rest, hcut, hmem, fun _ => rfl, hstop⟩
      · exact ⟨c :: before, taken, rest, rfl, hmem, by simp [hfree], hstop⟩
    · rintro ⟨_ | ⟨d, before⟩, taken, rest, hcut, hmem, hstart, hstop⟩
      · exact .inl ⟨taken, rest, hcut, hmem, hstop⟩
      · obtain ⟨rfl, hbehind⟩ := List.cons.inj hcut
        have hfree : edges.start = false := Bool.of_not_eq_true fun h => nomatch hstart h
        exact .inr ⟨hfree, before, taken, rest, hbehind, hmem, by simp [hfree], hstop⟩

end Pattern

def Expression.isMatch (e : Expression) (s : String) : Bool :=
  (Pattern.search? e.edges [e.pattern] s.toList).isSome

/-- An expression that has to reach both edges matches a text as a whole or not at all. -/
theorem Expression.isMatch_of_edges {e : Expression} (h : e.edges = ⟨true, true⟩) (s : String) :
    e.isMatch s = e.pattern.accepts s := by
  rw [Bool.eq_iff_iff, isMatch, Pattern.isSome_search?_iff, Pattern.accepts_iff_mem, h]
  constructor
  · rintro ⟨before, taken, rest, hcut, hmem, hstart, hstop⟩
    rw [hstart rfl, hstop rfl, List.nil_append, List.append_nil] at hcut
    rwa [← hcut]
  · intro hmem
    exact ⟨[], s.toList, [], by simp, hmem, fun _ => rfl, fun _ => rfl⟩

example : (Expression.ofText? "b+").map (·.isMatch "abba") = some true ∧
    (Expression.ofText? "^b+$").map (·.isMatch "abba") = some false := by
  decide +kernel

end BrowserScript.Text
