import BrowserScript.Proofs.FailedSteps
import BrowserScript.Proofs.Includes
import Mathlib.Data.List.Forall2

/-!
# Arity

The compiler counts the positional words of a line as they are written; at run time they are counted
again, with escapes and variables replaced.  A word that is written as an option stays one, and a
word that becomes an option takes itself and perhaps its successor out of the count.  So the second
count never exceeds the first, and what passes the check of the compiler is never too much for the
action.  The counts are the same if no word becomes an option; otherwise the check can refuse a line
that could be run.
-/

namespace BrowserScript

namespace Arguments

def isOption (word : String) : Bool := (optionKey? word).isSome

theorem isOption_iff {word : String} :
    isOption word = true ↔ ∃ key, word.toList = '-' :: '-' :: key := by
  unfold isOption optionKey?
  constructor
  · intro h
    split at h
    · rename_i key hword
      exact ⟨key, hword⟩
    · nomatch h
  · rintro ⟨key, hword⟩
    rw [hword]
    rfl

/-- How many words are positional: those that are no option and do not follow one. -/
def positionalCount (afterOption : Bool) : List String → Nat
  | [] => 0
  | word :: rest =>
    if isOption word then positionalCount true rest
    else if afterOption then positionalCount false rest
    else positionalCount false rest + 1

theorem positionalCount_of_option {word : String} (h : isOption word = true) (afterOption : Bool)
    (rest : List String) :
    positionalCount afterOption (word :: rest) = positionalCount true rest := by
  simp [positionalCount, h]

theorem positionalCount_of_value {word : String} (h : isOption word = false)
    (rest : List String) :
    positionalCount true (word :: rest) = positionalCount false rest := by
  simp [positionalCount, h]

theorem positionalCount_of_free {word : String} (h : isOption word = false)
    (rest : List String) :
    positionalCount false (word :: rest) = positionalCount false rest + 1 := by
  simp [positionalCount, h]

@[simp]
theorem positional_cons_positional (word : String) (args : List Argument) :
    positional (.positional word :: args) = word :: positional args := rfl

@[simp]
theorem positional_cons_option (key : String) (value : Named) (args : List Argument) :
    positional (.option key value :: args) = positional args := rfl

/-- The splitter counts each word by itself and the one before it. -/
theorem length_positional_group (words : List String) :
    (positional (group words)).length = positionalCount false words := by
  fun_induction group words with
  | case1 => rfl
  | case2 word hword => simp [positional, positionalCount, isOption, hword]
  | case3 word key hword => simp [positional, positionalCount, isOption, hword]
  | case4 word next after hword ih =>
    have hfree : isOption word = false := by simp [isOption, hword]
    rw [positional_cons_positional, List.length_cons, ih, positionalCount_of_free hfree]
  | case5 word next after key hword hnext ih =>
    -- The next word is an option, so it does not matter what stands before it.
    have hoption : isOption word = true := by simp [isOption, hword]
    have hnext : isOption next = true := hnext
    rw [positional_cons_option, ih, positionalCount_of_option hoption,
      positionalCount_of_option hnext, positionalCount_of_option hnext]
  | case6 word next after key hword hnext ih =>
    have hoption : isOption word = true := by simp [isOption, hword]
    have hvalue : isOption next = false := by simpa [isOption] using hnext
    rw [positional_cons_option, ih, positionalCount_of_option hoption,
      positionalCount_of_value hvalue]

/-- With more options there are no more positional words. -/
theorem positionalCount_le {words others : List String}
    (h : List.Forall₂ (fun word other => isOption word = true → isOption other = true) words others)
    {before after : Bool} (hflag : before = true → after = true) :
    positionalCount after others ≤ positionalCount before words := by
  induction h generalizing before after with
  | nil => exact Nat.le_refl 0
  | @cons word other words others hword _ ih =>
    cases hoption : isOption word with
    | true =>
      rw [positionalCount_of_option hoption, positionalCount_of_option (hword hoption)]
      exact ih id
    | false =>
      have hfalse : ∀ flag, positionalCount flag others ≤ positionalCount false words :=
        fun flag => ih nofun
      cases hother : isOption other with
      | true =>
        -- The word has become an option.
        have hrest := hfalse true
        rw [positionalCount_of_option hother]
        cases before with
        | true => rwa [positionalCount_of_value hoption]
        | false =>
          rw [positionalCount_of_free hoption]
          omega
      | false =>
        have hrest := hfalse false
        cases before with
        | true =>
          rwa [hflag rfl, positionalCount_of_value hother, positionalCount_of_value hoption]
        | false =>
          rw [positionalCount_of_free hoption]
          cases after with
          | true =>
            rw [positionalCount_of_value hother]
            omega
          | false =>
            rw [positionalCount_of_free hother]
            omega

theorem length_split (words : List String) :
    (split words).1.length = positionalCount false words :=
  length_positional_group words

end Arguments

/-! ### Words that stay options -/

namespace Escape

theorem isOption_decode {word : String} (h : Arguments.isOption word = true) :
    Arguments.isOption (decode word) = true := by
  obtain ⟨key, hword⟩ := Arguments.isOption_iff.mp h
  rw [Arguments.isOption_iff, decode, hword, decodeChars_of_ne (by decide),
    decodeChars_of_ne (by decide), String.toList_ofList]
  exact ⟨_, rfl⟩

end Escape

namespace Template

/-- A character other than the dollar sign stays where it is. -/
theorem expand_literal {vars : Variables} {c : Char} {rest : List Char} {s t : String}
    (hc : c ≠ '$') (hs : s.toList = c :: rest) (h : expand vars s = .ok t) :
    ∃ more, expand vars (String.ofList rest) = .ok more ∧ t.toList = c :: more.toList := by
  rw [expand, hs, ofChars_of_ne hc] at h
  simp only [cons, join, value] at h
  rw [expand, String.toList_ofList]
  cases hjoin : join vars (ofChars rest).pieces (ofChars rest).closed with
  | error e => simp [hjoin, Except.map] at h
  | ok more =>
    rw [hjoin] at h
    refine ⟨more, rfl, ?_⟩
    rw [← Except.ok.inj h]
    simp

end Template

namespace Run

theorem isOption_expandText {vars : Variables} {raw s : String} (hs : expandText vars raw = .ok s)
    (h : Arguments.isOption raw = true) : Arguments.isOption s = true := by
  have hexpand : Template.expand vars raw = .ok s := by
    unfold expandText at hs
    split at hs
    · rename_i t ht
      rw [ht, ← Except.ok.inj hs]
    · nomatch hs
    · nomatch hs
  obtain ⟨key, hraw⟩ := Arguments.isOption_iff.mp h
  obtain ⟨more, hmore, hfirst⟩ := Template.expand_literal (by decide) hraw hexpand
  obtain ⟨last, -, hsecond⟩ :=
    Template.expand_literal (by decide) (String.toList_ofList (l := '-' :: key)) hmore
  exact Arguments.isOption_iff.mpr ⟨last.toList, by rw [hfirst, hsecond]⟩

theorem forall₂_of_expandAll {vars : Variables} {raws args : List String}
    (h : expandAll vars raws = .ok args) :
    List.Forall₂ (fun raw arg => expandText vars raw = .ok arg) raws args := by
  induction raws generalizing args with
  | nil =>
    rw [← Except.ok.inj h]
    exact .nil
  | cons raw rest ih =>
    obtain ⟨s, hs, hrest⟩ := Binding.exists_of_bind_eq_ok h
    obtain ⟨ss, hss, hargs⟩ := Binding.exists_of_bind_eq_ok hrest
    rw [← Except.ok.inj hargs]
    exact .cons hs (ih hss)

/-- Replacing escapes and variables leaves no more words positional. -/
theorem length_split_expandAll_le {vars : Variables} {words args : List String}
    (h : expandAll vars (words.map Escape.decode) = .ok args) :
    (Arguments.split args).1.length ≤ (Arguments.split words).1.length := by
  rw [Arguments.length_split, Arguments.length_split]
  have hwords := List.forall₂_map_left_iff.mp (forall₂_of_expandAll h)
  refine Arguments.positionalCount_le (hwords.imp fun word arg harg hword => ?_) id
  exact isOption_expandText harg (Escape.isOption_decode hword)

end Run

namespace Compile

theorem check_of_action {registry : Registry} {raw name : String} {args : List String}
    (h : statement registry raw = .action name args) :
    ∃ head words action, Words.split (Text.trim raw) = .ok (head :: words) ∧
      registry.get? name = some action ∧ action.excess? words = none ∧
      args = words.map Escape.decode := by
  obtain ⟨-, head, words, action, hwords, -, hcheck⟩ := words_of_action h
  exact ⟨head, words, action, hwords, hcheck⟩

/-- An instruction comes from a line with words that its action can take.  Whatever the variables
hold, no more of the words are positional once escapes and variables are replaced, so binding them
never leaves words over, and no run of the instruction reports that it does. -/
theorem compiled_words_never_exceed {registry : Registry} {tree : FileTree} {depth : Nat}
    {site : Site} {text : String} {i : Instruction}
    (h : .instruction i ∈ scanText registry tree depth site text) :
    (∃ raw head words action, Words.split (Text.trim raw) = .ok (head :: words) ∧
      registry.get? i.action = some action ∧ action.excess? words = none ∧
      i.args = words.map Escape.decode ∧
      ∀ vars args, Run.expandAll vars i.args = .ok args →
        (Arguments.split args).1.length ≤ (Arguments.split words).1.length ∧
        ∀ name leftover usage, Binding.bind vars action args ≠
          .error (.binding name (.unexpectedArguments leftover usage))) ∧
    ∀ (β : Type) (setup : Run.Setup β), setup.registry = registry →
      ∀ m m' name leftover usage, Run.step setup i m ≠
        (.error (.failed (.binding name (.unexpectedArguments leftover usage))), m') := by
  obtain ⟨raw, hraw⟩ := statement_of_instruction h
  obtain ⟨head, words, action, hwords, haction, hexcess, hargs⟩ := check_of_action hraw
  have hcount : ∀ vars args, Run.expandAll vars i.args = .ok args →
      (Arguments.split args).1.length ≤ (Arguments.split words).1.length := by
    intro vars args hexpand
    rw [hargs] at hexpand
    exact Run.length_split_expandAll_le hexpand
  have hbind : ∀ vars args, Run.expandAll vars i.args = .ok args →
      ∀ name leftover usage, Binding.bind vars action args ≠
        .error (.binding name (.unexpectedArguments leftover usage)) := by
    intro vars args hexpand name leftover usage hbind
    exact Binding.excess?_ne_none_of_unexpected hbind
      (Binding.excess?_eq_none_of_le (hcount vars args hexpand) hexcess)
  refine ⟨⟨raw, head, words, action, hwords, haction, hexcess, hargs,
    fun vars args hexpand => ⟨hcount vars args hexpand, hbind vars args hexpand⟩⟩, ?_⟩
  intro β setup hregistry m m' name leftover usage hstep
  obtain ⟨action', args, haction', hexpand, hunexpected⟩ := Run.bind_of_step_unexpected hstep
  rw [hregistry, haction] at haction'
  obtain rfl := Option.some.inj haction'
  exact hbind m.store args hexpand name leftover usage hunexpected

def assigning : Registry := ⟨[("set", ⟨"set", .set, Registry.assignmentParams⟩)]⟩

/-- An assignment to a variable that another variable names. -/
def indirect : Instruction := ⟨"script", 1, "set", ["$NAME", "value"]⟩

theorem compiled_words_never_exceed_indirect :
    .instruction indirect ∈ scanText assigning ⟨"", [], []⟩ 1 ⟨"script", "", [], []⟩
      "set $NAME value" ∧
    Run.expandAll ⟨[("NAME", .text "--name")]⟩ indirect.args = .ok ["--name", "value"] ∧
    ∀ (setup : Run.Setup Unit), setup.registry = assigning →
      ∀ m m' leftover usage, Run.step setup indirect m ≠
        (.error (.failed (.binding "set" (.unexpectedArguments leftover usage))), m') := by
  have hfound : .instruction indirect ∈ scanText assigning ⟨"", [], []⟩ 1
      ⟨"script", "", [], []⟩ "set $NAME value" := by
    decide +kernel
  refine ⟨hfound, by decide +kernel, fun setup hregistry m m' leftover usage => ?_⟩
  exact (compiled_words_never_exceed hfound).2 Unit setup hregistry m m' "set" leftover usage

end Compile

/-! ### Words that become options -/

namespace Run

/-- Words that the compiler counts as too many are as many when they are bound, and cannot be bound,
unless one of them comes to name an option when its escapes and variables are replaced. -/
theorem refused_words_never_bind {action : Action} {words args : List String} {vars : Variables}
    {given : Nat} (hexcess : action.excess? words = some given)
    (hargs : expandAll vars (words.map Escape.decode) = .ok args)
    (hkept : List.Forall₂
      (fun word arg => Arguments.isOption arg = true → Arguments.isOption word = true) words args) :
    action.excess? args = some given ∧ ∃ e, Binding.bind vars action args = .error e := by
  have hcount : (Arguments.split args).1.length = (Arguments.split words).1.length := by
    refine Nat.le_antisymm (length_split_expandAll_le hargs) ?_
    rw [Arguments.length_split, Arguments.length_split]
    exact Arguments.positionalCount_le hkept.flip id
  have hsame : action.excess? args = some given := by
    rw [← hexcess]
    unfold Action.excess?
    rw [hcount]
  refine ⟨hsame, ?_⟩
  cases hbind : Binding.bind vars action args with
  | error e => exact ⟨e, rfl⟩
  | ok bound =>
    rw [Binding.excess?_eq_none_of_bind hbind] at hsame
    nomatch hsame

def selecting : Action :=
  ⟨"select", .select, [.fixed "query" .text, Registry.byParam, Registry.timeoutParam]⟩

theorem refused_words_never_bind_selecting :
    selecting.excess? ["q", "$HOW"] = some 2 ∧
    selecting.excess? ["q", "css"] = some 2 ∧
    ∃ e, Binding.bind ⟨[("HOW", .text "css")]⟩ selecting ["q", "css"] = .error e := by
  have hexcess : selecting.excess? ["q", "$HOW"] = some 2 := by decide +kernel
  refine ⟨hexcess, refused_words_never_bind hexcess ?_ ?_⟩
  · decide +kernel
  · exact .cons (by decide +kernel) (.cons (by decide +kernel) .nil)

/-- The compiler refuses a word that a variable or an escape makes an option, and the word after it,
though both together can be bound. -/
theorem refused_words_can_bind :
    Registry.standard.get? "select" = some selecting ∧
    (selecting.excess? ["q", "$OPTION", "css"] = some 3 ∧
      expandAll ⟨[("OPTION", .text "--by")]⟩ (["q", "$OPTION", "css"].map Escape.decode) =
        .ok ["q", "--by", "css"] ∧
      Binding.bind ⟨[("OPTION", .text "--by")]⟩ selecting ["q", "--by", "css"] =
        .ok ⟨"select", [("by", .text "css"), ("query", .text "q")], [], []⟩) ∧
    (selecting.excess? ["q", "\\x2d\\x2dby", "css"] = some 3 ∧
      expandAll Variables.empty (["q", "\\x2d\\x2dby", "css"].map Escape.decode) =
        .ok ["q", "--by", "css"] ∧
      Binding.bind Variables.empty selecting ["q", "--by", "css"] =
        .ok ⟨"select", [("by", .text "css"), ("query", .text "q")], [], []⟩) := by
  decide +kernel

end Run

end BrowserScript
