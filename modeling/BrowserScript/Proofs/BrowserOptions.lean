import BrowserScript.Proofs.EqualWaits
import BrowserScript.Proofs.ShownValues

/-!
# The options of a browser

`browser` takes options of any name, reads their values without a declared type and hands them to
the browser that it opens.  What arrives there is the value and not the text: a text that has no
form arrives as it was written, and the others in the one spelling of their value.
-/

namespace BrowserScript

open Reading

theorem Registry.get?_browser : standard.get? "browser" = some
    ⟨"browser", .browser, [.fixed "name" .text, .variadicKeyword "options" .auto]⟩ := by
  decide +kernel

theorem Dict.mem_of_get? {α : Type} {key : String} {value : α} {d : Dict α}
    (h : Dict.get? key d = some value) : (key, value) ∈ d := by
  induction d with
  | nil => cases h
  | cons e d ih =>
    obtain ⟨k, v⟩ := e
    rw [Dict.get?_cons] at h
    split at h
    case isTrue hkey =>
      cases h
      rw [hkey]
      exact List.mem_cons_self
    case isFalse => exact List.mem_cons_of_mem _ (ih h)

namespace Arguments

/-- The value behind the last occurrence of an option is its value. -/
theorem get?_split_append (before : List String) {after : List String} {key value : String}
    (hvalue : isOption value = false) (hafter : "--" ++ key ∉ after) :
    Dict.get? key (split (before ++ ("--" ++ key) :: value :: after)).2 = some (.text value) := by
  obtain ⟨earlier, hearlier⟩ := exists_options_group_append before key (value :: after)
  have hnone : optionKey? value = none := by simpa [isOption] using hvalue
  have hlater : key ∉ (options (group (value :: after))).map Prod.fst := by
    rw [options_group_of_none hnone, mem_options_group]
    exact hafter
  have hown : valueAt (value :: after) 0 = .text value := by simp [valueAt, hvalue]
  rw [hown] at hearlier
  change Dict.get? key (Dict.ofList (options (group _))) = _
  rw [hearlier, Dict.get?_ofList_append hlater]

end Arguments

namespace Binding

def untyped : Named → Value
  | .text raw => auto raw
  | .flag => .boolean true

theorem convertOptions_auto (vars : Variables) (action : Action) (named : Dict Named) :
    convertOptions vars action .auto named = .ok (named.map fun e => (e.1, untyped e.2)) := by
  induction named with
  | nil => rfl
  | cons e named ih =>
    obtain ⟨key, value⟩ := e
    have hvalue : convertNamed vars action key .auto value = .ok (untyped value) := by
      cases value <;> rfl
    rw [convertOptions, hvalue, ih]
    rfl

theorem bind_browser (vars : Variables) {words : List String} {name : String}
    (hname : (Arguments.split words).1 = [name]) :
    bind vars ⟨"browser", .browser, [.fixed "name" .text, .variadicKeyword "options" .auto]⟩ words =
      .ok ⟨"browser", [("name", .text name)], [],
        (Arguments.split words).2.map fun e => (e.1, untyped e.2)⟩ := by
  have hsorted : Dict.IsSorted ((Arguments.split words).2.map fun e => (e.1, untyped e.2)) := by
    rw [Dict.IsSorted, Dict.keys, List.map_map]
    exact Dict.isSorted_ofList _
  refine bind_of_bindParams (Prod.ext hname rfl) ?_
  refine (bindParams_cons_of_ok rfl).trans (bindParams_cons_of_ok ?_)
  simp only [bindParam, Param.variadicKeyword, convertOptions_auto]
  exact congrArg (fun extra => Except.ok (Progress.mk [] [] ⟨"browser", _, [], extra⟩))
    (Dict.ofList_of_isSorted hsorted)

end Binding

namespace Run

variable {β : Type}

/-- What is neither true nor false is passed on by its text. -/
theorem mem_browserOptions {extra : Dict Value} {headless : Bool} {key : String} {v : Value}
    (hv : ∀ b, v ≠ .boolean b) (h : (key, v) ∈ extra) :
    s!"--{key}={v.toText}" ∈ browserOptions extra headless := by
  have htext : optionText? key v = some s!"--{key}={v.toText}" := by
    cases v with
    | boolean b => exact absurd rfl (hv b)
    | _ => rfl
  have hmem : s!"--{key}={v.toText}" ∈ extra.filterMap fun e => optionText? e.1 e.2 :=
    List.mem_filterMap.mpr ⟨(key, v), h, htext⟩
  unfold browserOptions
  dsimp only
  split
  · exact List.mem_append_left _ hmem
  · exact hmem

/-! ### Opening a session -/

/-- The calls by which a session is opened.  One that is open is closed first, and if that fails
none is opened. -/
inductive Opens (name : String) (options : List String) : Bool → List Answered → Prop
  | fresh (reply : Except BrowserError Unit) : Opens name options false
      [⟨.openSession name options, reply⟩]
  | replacing (reply : Except BrowserError Unit) : Opens name options true
      [⟨.closeSession, .ok ()⟩, ⟨.openSession name options, reply⟩]
  | stuck (e : BrowserError) : Opens name options true [⟨.closeSession, .error e⟩]

theorem answeredIn_note (m : Machine β) (entry : Log.Entry) :
    answeredIn (m.note entry).events = answeredIn m.events := by
  have hlogged : answeredIn (m.logged [entry]) = [] :=
    answeredIn_logs fun _ => Machine.isLog_of_mem_logged
  rw [Machine.note_eq]
  simp [Machine.events, hlogged]

theorem answeredIn_startSession (setup : Setup β) (name : String) (options : List String)
    (m : Machine β) :
    ∃ reply, answeredIn (startSession setup name options m).2.events =
      answeredIn m.events ++ [⟨.openSession name options, reply⟩] := by
  refine ⟨(callOn setup (.openSession name options) m).1, ?_⟩
  have hcall := answeredIn_callOn setup (.openSession name options) m
  rw [startSession, bind_apply, demand_apply]
  cases hreply : (callOn setup (.openSession name options) m).1 <;> rw [hreply] at hcall <;>
    exact hcall

theorem endSession_apply (setup : Setup β) (m : Machine β) :
    endSession setup m =
      demand setup .closeSession { m with sessionOpen := false, active := none } := by
  have hclose : endSession setup m =
      (demand setup .closeSession >>= pure) { m with sessionOpen := false, active := none } := rfl
  rw [hclose, bind_pure]

theorem log_bind_apply {α : Type} (level : Log.Level) (message : String)
    (fields : List (String × Log.Content)) (f : Unit → Exec β α) (m : Machine β) :
    (log level message fields >>= f) m = f () (m.note ⟨level, .executor, [], message, fields⟩) :=
  rfl

theorem opens_openBrowser (setup : Setup β) (m : Machine β) {bound : Bound} {name : String}
    (hname : bound.text "name" = .ok name) :
    ∃ answered, Opens name (browserOptions bound.extra setup.settings.headless) m.sessionOpen
        answered ∧
      answeredIn (openBrowser setup bound m).2.events = answeredIn m.events ++ answered := by
  rw [openBrowser, hname, require_bind_ok, bind_apply_ok (get_apply m)]
  cases hopen : m.sessionOpen with
  | false =>
    rw [if_neg (by simp)]
    dsimp only
    rw [log_bind_apply]
    obtain ⟨reply, hreply⟩ := answeredIn_startSession setup name
      (browserOptions bound.extra setup.settings.headless) (m.note _)
    exact ⟨_, .fresh reply, by rw [hreply, answeredIn_note]⟩
  | true =>
    rw [if_pos rfl, log_bind_apply, bind_apply, endSession_apply, demand_apply]
    generalize hm' : ({ m.note _ with sessionOpen := false, active := none } : Machine β) = m'
    have hbefore : answeredIn m'.events = answeredIn m.events := by
      rw [← hm']
      exact answeredIn_note m _
    have hclosed := answeredIn_callOn setup .closeSession m'
    rw [hbefore] at hclosed
    cases hreply : (callOn setup .closeSession m').1 with
    | error e =>
      rw [hreply] at hclosed
      exact ⟨_, .stuck e, hclosed⟩
    | ok answer =>
      cases answer
      rw [hreply] at hclosed
      dsimp only [Except.mapError]
      rw [log_bind_apply]
      obtain ⟨reply, hopened⟩ := answeredIn_startSession setup name
        (browserOptions bound.extra setup.settings.headless)
        ((callOn setup .closeSession m').2.note _)
      refine ⟨_, .replacing reply, ?_⟩
      rw [hopened, answeredIn_note, hclosed, List.append_assoc]
      rfl

/-- Options reach the browser by their values.  The words of `browser` are one name and options, and
one of these has a value that is no boolean word.  Then the session is opened with that option and
the text of its value, which is the value as it was written if it has no form or cannot be held, and
otherwise the one spelling of the integer, number or duration that it is read as.  Only if an open
session cannot be closed, none is opened. -/
theorem options_reach_the_browser_by_value (setup : Setup β) (m : Machine β) (i : Instruction)
    {before after : List String} {name key value : String}
    (hregistry : setup.registry = .standard) (haction : i.action = "browser")
    (hwords : expandAll m.store i.args = .ok (before ++ ("--" ++ key) :: value :: after))
    (hname : Arguments.positional
      (Arguments.group (before ++ ("--" ++ key) :: value :: after)) = [name])
    (hother : "--" ++ key ∉ before ++ after) (hvalue : Arguments.isOption value = false)
    (hboolean : Text.lowerAscii value ∉ booleanWords) :
    ∃ options answered, Opens name options m.sessionOpen answered ∧
      answeredIn (step setup i m).2.events = answeredIn m.events ++ answered ∧
      s!"--{key}={(auto value).toText}" ∈ options ∧
      ∀ shown, ShownAs value shown → (auto value).toText = shown := by
  have hget : setup.registry.get? i.action = Registry.standard.get? "browser" := by
    rw [hregistry, haction]
  obtain ⟨entry, hstep⟩ := step_apply (hget.trans Registry.get?_browser) hwords
    (Binding.bind_browser m.store hname)
  have hgiven := Arguments.get?_split_append before hvalue
    fun hmem => hother (List.mem_append_right before hmem)
  generalize before ++ ("--" ++ key) :: value :: after = words at *
  have hfirst : Bound.text ⟨"browser", [("name", .text name)], [],
      (Arguments.split words).2.map fun e => (e.1, Binding.untyped e.2)⟩ "name" = .ok name := rfl
  obtain ⟨answered, hopens, hanswered⟩ := opens_openBrowser setup (m.note entry) hfirst
  refine ⟨_, answered, hopens, ?_, mem_browserOptions ?_ ?_, fun shown => ShownAs.toText_auto⟩
  · rw [hstep, ← answeredIn_note m entry]
    exact hanswered
  · exact fun b hb => hboolean (lowerAscii_mem_of_auto hb)
  · exact List.mem_map.mpr ⟨_, Dict.mem_of_get? hgiven, rfl⟩

/-- A browser that opens and closes whatever it is asked to. -/
def willing : Setup Unit where
  registry := .standard
  settings := {}
  backend := ⟨fun
    | .openSession .., _ => ⟨.ok (), (), 0, false, []⟩
    | .closeSession, _ => ⟨.ok (), (), 0, false, []⟩
    | _, _ => ⟨.error .notConnected, (), 0, false, []⟩⟩
  clock := .millisecond
  draws _ := 0
  idleRounds := 0

/-- A number loses its last zero on the way. -/
theorem option_is_not_passed_as_written :
    let words := ["firefox", "--ratio", "1.50"]
    let m := Machine.start .empty ()
    let opened := (step willing ⟨"script", 1, "browser", words⟩ m).2
    expandAll m.store words = .ok words ∧
      Arguments.positional (Arguments.group words) = ["firefox"] ∧
      Arguments.isOption "1.50" = false ∧ Text.lowerAscii "1.50" ∉ booleanWords ∧
      (callsIn opened.events).map Call.arguments = [["firefox", "--ratio=1.5", "--headless"]] ∧
      ∀ call ∈ callsIn opened.events, "--ratio=1.50" ∉ call.arguments := by
  decide +kernel

theorem shownAs_without_last_zero : ShownAs "1.50" "1.5" := by
  have hdigits : Nat.ofDigitChars 10 (['1'] ++ ['5', '0']) 0 = 150 := by decide
  have hvalue : decimalValue ['1'] ['5', '0'] = 3 / 2 := by
    rw [decimalValue, hdigits]
    norm_num
  have hleast : Binary64.leastNormal ≤ 3 / 2 := by
    calc Binary64.leastNormal ≤ 2 ^ (0 : ℤ) := zpow_le_zpow_right₀ (by norm_num) (by decide)
      _ ≤ 3 / 2 := by norm_num
  have hplain : "1.5" = (if ([] : List Char) = ['-'] then "-" else "") ++
      String.ofList (plainly ['1'] ['5', '0']) := by decide
  rw [hplain]
  exact .number (by decide) (.inl rfl) (List.forall_mem_singleton.mpr rfl) (by decide)
    ⟨150, 0, by decide, hdigits⟩ (fun _ => hvalue ▸ hleast)
    (hvalue ▸ Binary64.lt_limit_of_le (by norm_num))

/-- The same number between other words, in a session that replaces another one. -/
theorem options_reach_the_browser_by_value_replacing :
    let m := { Machine.start (Variables.empty.set "which" (.text "firefox")) () with
      sessionOpen := true }
    let i : Instruction := ⟨"script", 1, "browser", ["--kiosk", "--ratio", "1.50", "$which"]⟩
    expandAll m.store i.args = .ok ["--kiosk", "--ratio", "1.50", "firefox"] ∧
      ∃ options answered, Opens "firefox" options true answered ∧
        answeredIn (step willing i m).2.events = answered ∧ "--ratio=1.5" ∈ options := by
  intro m i
  have hregistry : willing.registry = .standard := by rw [willing]
  have hwords : expandAll m.store i.args =
      .ok (["--kiosk"] ++ ("--" ++ "ratio") :: "1.50" :: ["firefox"]) := by decide +kernel
  have hname : Arguments.positional (Arguments.group
      (["--kiosk"] ++ ("--" ++ "ratio") :: "1.50" :: ["firefox"])) = ["firefox"] := by decide
  obtain ⟨options, answered, hopens, hanswered, hmem, hshown⟩ :=
    options_reach_the_browser_by_value willing m i hregistry rfl hwords hname (by decide)
      (by decide) (by decide)
  rw [hshown _ shownAs_without_last_zero] at hmem
  exact ⟨hwords, options, answered, hopens, hanswered, hmem⟩

end Run

end BrowserScript
