import BrowserScript.Escape
import BrowserScript.Remote
import Mathlib.Data.List.TakeWhile

/-!
# Selectors by name

The remote browser looks an element up by its name through a selector `[name="..."]`, which is read
by the rules of style sheets.  A quote in the name gets a backslash, so that it does not end the
quoted text.  A backslash gets none: it starts an escape that the name did not mean, takes the
backslash from a quote behind it, or hides the closing quote.  Exactly the names without a backslash
and without the characters that no quoted text can hold are read back.
-/

namespace BrowserScript

/-! ### Quoted texts in style sheets -/

namespace Css

def isHexDigit (c : Char) : Bool := (Escape.hexValue? c).isSome

def isBreak (c : Char) : Bool := c == '\n' || c == '\r' || c == '\x0c'

def replacement : Char := '\ufffd'

/-- A character as it is read: zero is replaced. -/
def shown (c : Char) : Char := if c.toNat = 0 then replacement else c

def charOf (n : Nat) : Char := if n = 0 then replacement else (Escape.charOf? n).getD replacement

/-- How many characters the line break at the start of a text takes. -/
def breakLength : List Char → Nat
  | [] => 0
  | c :: rest =>
    if c = '\r' ∧ rest.head? = some '\n' then 2 else if isBreak c then 1 else 0

def blankLength : List Char → Nat
  | [] => 0
  | c :: rest => if c = ' ' ∨ c = '\t' then 1 else breakLength (c :: rest)

/-- The digits at the start of a text that belong to one code point. -/
def codeDigits (cs : List Char) : List Char := (cs.takeWhile isHexDigit).take 6

/-- What the text after a backslash stands for, and how many of its characters belong to the escape:
a code point with one blank behind it, a line break that is left out, or any other character. -/
def escape : List Char → List Char × Nat
  | [] => ([], 0)
  | c :: rest =>
    if isHexDigit c then
      let digits := codeDigits (c :: rest)
      ([charOf ((Escape.hexNumber? 0 digits).getD 0)],
        digits.length + blankLength ((c :: rest).drop digits.length))
    else if isBreak c then ([], breakLength (c :: rest))
    else ([shown c], 1)

/-- Reads a quoted text up to its closing quote, without the first characters, which belong to an
escape: the text it stands for, and what follows the quote. -/
def readFrom : Nat → List Char → Option (List Char × List Char)
  | _, [] => none
  | skipped + 1, _ :: rest => readFrom skipped rest
  | 0, c :: rest =>
    if c = '"' then some ([], rest)
    else if c = '\\' then
      (readFrom (escape rest).2 rest).map fun r => ((escape rest).1 ++ r.1, r.2)
    else if isBreak c then none
    else (readFrom 0 rest).map fun r => (shown c :: r.1, r.2)

def readQuoted (cs : List Char) : Option (List Char × List Char) := readFrom 0 cs

/-- Whether a character stands for itself, or for itself after a backslash if it is a quote. -/
def isPlain (c : Char) : Bool := c != '\\' && !isBreak c && c.toNat != 0

theorem readFrom_eq_drop (n : Nat) (cs : List Char) : readFrom n cs = readFrom 0 (cs.drop n) := by
  induction n generalizing cs with
  | zero => rfl
  | succ n ih =>
    cases cs with
    | nil => rfl
    | cons c rest => exact ih rest

theorem readQuoted_escape (rest : List Char) :
    readQuoted ('\\' :: rest) = (readQuoted (rest.drop (escape rest).2)).map fun r =>
      ((escape rest).1 ++ r.1, r.2) := by
  have hread : readQuoted ('\\' :: rest) =
      (readFrom (escape rest).2 rest).map fun r => ((escape rest).1 ++ r.1, r.2) := rfl
  rw [hread, readFrom_eq_drop, readQuoted]

theorem readQuoted_other {c : Char} (hquote : c ≠ '"') (hback : c ≠ '\\') (rest : List Char) :
    readQuoted (c :: rest) =
      if isBreak c then none else (readQuoted rest).map fun r => (shown c :: r.1, r.2) := by
  rw [readQuoted, readFrom, if_neg hquote, if_neg hback, readQuoted]

/-- A character that is neither a quote nor a backslash. -/
def Harmless (c : Char) : Prop := c ≠ '"' ∧ c ≠ '\\'

theorem harmless_of_isHexDigit {c : Char} (h : isHexDigit c = true) : Harmless c := by
  constructor <;>
  · rintro rfl
    revert h
    decide

theorem harmless_of_isBreak {c : Char} (h : isBreak c = true) : Harmless c := by
  constructor <;>
  · rintro rfl
    revert h
    decide

theorem harmless_of_mem_break {cs : List Char} {c : Char} (h : c ∈ cs.take (breakLength cs)) :
    Harmless c := by
  cases cs with
  | nil => cases h
  | cons first rest =>
    rw [breakLength] at h
    split_ifs at h with hpair hbreak
    · obtain ⟨rfl, hnext⟩ := hpair
      cases rest with
      | nil => cases hnext
      | cons second _ =>
        obtain rfl := Option.some.inj hnext
        simp only [List.take_succ_cons, List.take_zero, List.mem_cons, List.not_mem_nil,
          or_false] at h
        rcases h with rfl | rfl <;> exact harmless_of_isBreak rfl
    · rw [List.take_succ_cons, List.take_zero, List.mem_singleton] at h
      exact h ▸ harmless_of_isBreak hbreak
    · cases h

theorem harmless_of_mem_blank {cs : List Char} {c : Char} (h : c ∈ cs.take (blankLength cs)) :
    Harmless c := by
  cases cs with
  | nil => cases h
  | cons first rest =>
    rw [blankLength] at h
    split_ifs at h with hblank
    · rw [List.take_succ_cons, List.take_zero, List.mem_singleton] at h
      subst h
      rcases hblank with rfl | rfl <;> exact ⟨by decide, by decide⟩
    · exact harmless_of_mem_break h

theorem breakLength_pos {c : Char} (h : isBreak c = true) (rest : List Char) :
    1 ≤ breakLength (c :: rest) := by
  rw [breakLength]
  split_ifs
  · exact Nat.le_succ 1
  · exact Nat.le_refl 1

theorem codeDigits_length_pos {c : Char} (h : isHexDigit c = true) (rest : List Char) :
    1 ≤ (codeDigits (c :: rest)).length := by
  rw [codeDigits, List.takeWhile_cons_of_pos h, List.take_succ_cons, List.length_cons]
  omega

theorem take_length_codeDigits (cs : List Char) :
    cs.take (codeDigits cs).length = codeDigits cs := by
  have hprefix : codeDigits cs <+: cs := (List.take_prefix _ _).trans (List.takeWhile_prefix _)
  exact (List.prefix_iff_eq_take.mp hprefix).symm

/-- What an escape at the start of a text stands for and takes: at most one character stands for at
least one, and if there are more, there is neither a quote nor a backslash among them. -/
structure Takes (cs : List Char) (e : List Char × Nat) : Prop where
  named : e.1.length ≤ 1
  taken : 1 ≤ e.2
  harmless : e.2 = 1 ∨ ∀ c ∈ cs.take e.2, Harmless c

theorem takes_escape (c : Char) (rest : List Char) : Takes (c :: rest) (escape (c :: rest)) := by
  rw [escape]
  split_ifs with hhex hbreak
  · have hpositive := codeDigits_length_pos hhex rest
    refine ⟨Nat.le_refl 1, Nat.le_add_right_of_le hpositive, .inr fun d hd => ?_⟩
    rw [List.take_add, List.mem_append, take_length_codeDigits] at hd
    rcases hd with hd | hd
    · exact harmless_of_isHexDigit (List.mem_takeWhile_imp (List.mem_of_mem_take hd))
    · exact harmless_of_mem_blank hd
  · have hharmless : ∀ d ∈ (c :: rest).take (breakLength (c :: rest)), Harmless d :=
      fun _ => harmless_of_mem_break
    exact ⟨Nat.zero_le 1, breakLength_pos hbreak rest, .inr hharmless⟩
  · exact ⟨Nat.le_refl 1, Nat.le_refl 1, .inl rfl⟩

end Css

/-! ### The name between the quotes -/

namespace Remote

/-- The characters of a name with a backslash before every quote. -/
def escapeQuotes (name : List Char) : List Char :=
  name.flatMap fun c => if c = '"' then ['\\', '"'] else [c]

theorem escapeQuotes_quote (rest : List Char) :
    escapeQuotes ('"' :: rest) = '\\' :: '"' :: escapeQuotes rest := rfl

theorem escapeQuotes_other {c : Char} (h : c ≠ '"') (rest : List Char) :
    escapeQuotes (c :: rest) = c :: escapeQuotes rest := by
  rw [escapeQuotes, List.flatMap_cons, if_neg h]
  rfl

/-- Escaping quotes changes nothing in a part without quotes and backslashes, and such a part ends
before the closing quote. -/
theorem drop_escapeQuotes {name rest : List Char} {n : Nat}
    (h : ∀ c ∈ (escapeQuotes name ++ '"' :: rest).take n, Css.Harmless c) :
    n ≤ name.length ∧
      (escapeQuotes name ++ '"' :: rest).drop n = escapeQuotes (name.drop n) ++ '"' :: rest := by
  induction n generalizing name with
  | zero => exact ⟨Nat.zero_le _, rfl⟩
  | succ n ih =>
    cases name with
    | nil => exact absurd rfl (h '"' List.mem_cons_self).1
    | cons c name =>
      by_cases hquote : c = '"'
      · subst hquote
        exact absurd rfl (h '\\' List.mem_cons_self).2
      · rw [escapeQuotes_other hquote] at h ⊢
        obtain ⟨hlength, hdrop⟩ := ih fun d hd => h d (List.mem_cons_of_mem c hd)
        exact ⟨Nat.succ_le_succ hlength, hdrop⟩

/-- A name of plain characters is read back. -/
theorem readQuoted_escapeQuotes {name : List Char} (h : ∀ c ∈ name, Css.isPlain c = true)
    (rest : List Char) : Css.readQuoted (escapeQuotes name ++ '"' :: rest) = some (name, rest) := by
  induction name with
  | nil => rfl
  | cons c name ih =>
    have hname := ih fun d hd => h d (List.mem_cons_of_mem c hd)
    by_cases hquote : c = '"'
    · subst hquote
      have hescape : ∀ cs, Css.escape ('"' :: cs) = (['"'], 1) := fun _ => rfl
      rw [escapeQuotes_quote, List.cons_append, List.cons_append, Css.readQuoted_escape, hescape,
        List.drop_succ_cons, List.drop_zero, hname]
      rfl
    · obtain ⟨⟨hback, hbreak⟩, hzero⟩ : (c ≠ '\\' ∧ Css.isBreak c = false) ∧ c.toNat ≠ 0 := by
        simpa [Css.isPlain] using h c List.mem_cons_self
      rw [escapeQuotes_other hquote, List.cons_append, Css.readQuoted_other hquote hback, hbreak,
        hname, Css.shown, if_neg hzero]
      rfl

/-- What an escape takes from a name that does not go on with a quote, it takes whole. -/
theorem drop_escape {c : Char} (hquote : c ≠ '"') (name rest : List Char) :
    ∃ n, 1 ≤ n ∧ n ≤ (c :: name).length ∧
      (Css.escape (escapeQuotes (c :: name) ++ '"' :: rest)).1.length ≤ 1 ∧
      (escapeQuotes (c :: name) ++ '"' :: rest).drop
          (Css.escape (escapeQuotes (c :: name) ++ '"' :: rest)).2 =
        escapeQuotes ((c :: name).drop n) ++ '"' :: rest := by
  have htakes := Css.takes_escape c (escapeQuotes name ++ '"' :: rest)
  rw [← List.cons_append, ← escapeQuotes_other hquote] at htakes
  rcases htakes.harmless with hone | hharmless
  · refine ⟨1, Nat.le_refl 1, Nat.le_add_left 1 _, htakes.named, ?_⟩
    rw [hone, escapeQuotes_other hquote]
    rfl
  · obtain ⟨hlength, hdrop⟩ := drop_escapeQuotes hharmless
    exact ⟨_, htakes.taken, hlength, htakes.named, hdrop⟩

/-- A backslash in a name costs a character: what is read from there on is no longer than what
stands behind it. -/
theorem length_le_of_backslash {name read : List Char}
    (hle : ∀ n read', Css.readQuoted (escapeQuotes (name.drop n) ++ ['"', ']']) =
      some (read', [']']) → read'.length ≤ (name.drop n).length)
    (h : Css.readQuoted ('\\' :: (escapeQuotes name ++ ['"', ']'])) = some (read, [']'])) :
    read.length ≤ name.length := by
  rw [Css.readQuoted_escape] at h
  obtain ⟨⟨read', rest⟩, hread, heq⟩ := Option.map_eq_some_iff.mp h
  obtain ⟨rfl, rfl⟩ := Prod.mk.inj heq
  cases name with
  | nil => nomatch hread
  | cons c name =>
    by_cases hquote : c = '"'
    · -- The backslash takes the one that was put before the quote, and the quote ends the text.
      subst hquote
      have hend : escapeQuotes name ++ ['"', ']'] = [']'] :=
        (Prod.mk.inj (Option.some.inj hread)).2
      have hlength := congrArg List.length hend
      simp at hlength
    · obtain ⟨n, hone, hn, hnamed, hdrop⟩ := drop_escape hquote name [']']
      rw [hdrop] at hread
      have hshort := hle n read' hread
      rw [List.length_drop] at hshort
      rw [List.length_append]
      dsimp only
      omega

/-- How a text that was read compares with a name: it is shorter, or it is the name, and the name
has neither a backslash nor a line break. -/
def FallsShort (name read : List Char) : Prop :=
  read.length < name.length ∨
    read = name.map Css.shown ∧ ∀ c ∈ name, c ≠ '\\' ∧ Css.isBreak c = false

theorem FallsShort.length_le {name read : List Char} (h : FallsShort name read) :
    read.length ≤ name.length := by
  rcases h with hlt | ⟨rfl, -⟩
  · exact Nat.le_of_lt hlt
  · rw [List.length_map]

theorem FallsShort.cons {name read : List Char} (h : FallsShort name read) {c : Char}
    (hback : c ≠ '\\') (hbreak : Css.isBreak c = false) :
    FallsShort (c :: name) (Css.shown c :: read) := by
  rcases h with hlt | ⟨rfl, hplain⟩
  · exact .inl (Nat.succ_lt_succ hlt)
  · exact .inr ⟨rfl, List.forall_mem_cons.mpr ⟨⟨hback, hbreak⟩, hplain⟩⟩

/-- Where the quoted text ends with the closing quote, a name with a backslash is not read whole. -/
theorem fallsShort_of_readQuoted {name read : List Char}
    (h : Css.readQuoted (escapeQuotes name ++ ['"', ']']) = some (read, [']'])) :
    FallsShort name read := by
  -- An escape takes several characters of the name at once, so the induction is on its length.
  induction hn : name.length using Nat.strong_induction_on generalizing name read with
  | _ n ih =>
    subst hn
    cases name with
    | nil =>
      obtain rfl : [] = read := (Prod.mk.inj (Option.some.inj h)).1
      exact .inr ⟨rfl, fun c hc => nomatch hc⟩
    | cons c name =>
      by_cases hquote : c = '"'
      · subst hquote
        obtain ⟨⟨read', rest⟩, hread, heq⟩ := Option.map_eq_some_iff.mp h
        obtain ⟨rfl, rfl⟩ := Prod.mk.inj heq
        exact (ih name.length (Nat.lt_succ_self _) hread rfl).cons (by decide) (by decide)
      · rw [escapeQuotes_other hquote, List.cons_append] at h
        by_cases hback : c = '\\'
        · subst hback
          have hle : ∀ n read', Css.readQuoted (escapeQuotes (name.drop n) ++ ['"', ']']) =
              some (read', [']']) → read'.length ≤ (name.drop n).length := by
            intro n read' hread
            have hshorter : (name.drop n).length < ('\\' :: name).length := by
              rw [List.length_drop, List.length_cons]
              omega
            exact (ih _ hshorter hread rfl).length_le
          exact .inl (Nat.lt_succ_of_le (length_le_of_backslash hle h))
        · rw [Css.readQuoted_other hquote hback] at h
          split_ifs at h with hbreak
          obtain ⟨⟨read', rest⟩, hread, heq⟩ := Option.map_eq_some_iff.mp h
          obtain ⟨rfl, rfl⟩ := Prod.mk.inj heq
          rw [Bool.not_eq_true] at hbreak
          exact (ih name.length (Nat.lt_succ_self _) hread rfl).cons hback hbreak

theorem isPlain_of_readQuoted {name : List Char}
    (h : Css.readQuoted (escapeQuotes name ++ ['"', ']']) = some (name, [']'])) :
    ∀ c ∈ name, Css.isPlain c = true := by
  obtain ⟨heq, hplain⟩ := (fallsShort_of_readQuoted h).resolve_left (Nat.lt_irrefl _)
  intro c hc
  have hshown : Css.shown c = c := by
    have hmap : name.map Css.shown = name.map id := by rw [← heq, List.map_id]
    exact List.map_inj_left.mp hmap c hc
  have hzero : c.toNat ≠ 0 := by
    intro hzero
    rw [Css.shown, if_pos hzero] at hshown
    rw [← hshown] at hzero
    nomatch hzero
  simp [Css.isPlain, hplain c hc, hzero]

/-- A lookup by name sends a selector with the name between quotes, and exactly the names of plain
characters are read back from there, up to the quote that closes it.  A name with a backslash never
is. -/
theorem name_is_selected_iff (name : String) :
    ∃ quoted : List Char,
      locatorBody ⟨.name, name⟩ = .object [("using", .string "css selector"),
        ("value", .string ("[name=\"" ++ String.ofList quoted ++ "\"]"))] ∧
      (Css.readQuoted (quoted ++ ['"', ']']) = some (name.toList, [']']) ↔
        ∀ c ∈ name.toList, Css.isPlain c = true) :=
  ⟨escapeQuotes name.toList, rfl, isPlain_of_readQuoted,
    fun hplain => readQuoted_escapeQuotes hplain [']']⟩

/-- A backslash at the end of a name hides the closing quote, one before a quote lets the name end
there, and one before digits stands for another character. -/
theorem backslash_misleads_selector :
    nameSelector "a\\" = "[name=\"a\\\"]" ∧
      Css.readQuoted "a\\\"]".toList = none ∧
      nameSelector "a\\\",b" = "[name=\"a\\\\\",b\"]" ∧
      Css.readQuoted "a\\\\\",b\"]".toList = some ("a\\".toList, ",b\"]".toList) ∧
      nameSelector "\\62" = "[name=\"\\62\"]" ∧
      Css.readQuoted "\\62\"]".toList = some ("b".toList, "]".toList) := by
  decide +kernel

end Remote

end BrowserScript
