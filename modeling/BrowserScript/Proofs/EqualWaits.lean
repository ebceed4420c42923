import BrowserScript.Proofs.OptionPlaces
import BrowserScript.Proofs.PollingRounds
import BrowserScript.Proofs.VariableWrites

/-!
# Selecting and waiting for presence

`select` looks for an element, and `wait_till present` for a list of elements that is not empty.  On
a browser whose two lookups see the same page, the two loops go in step: after every round the
clocks agree, so they look at the same times, sleep as long, and come to the same end.  They differ
in the error of a wait that has no time at all.
-/

namespace BrowserScript

/-! ### The arguments of both actions -/

theorem Registry.get?_select : standard.get? "select" = some
    ⟨"select", .select, [.fixed "query" .text, byParam, timeoutParam]⟩ := by
  decide +kernel

theorem Registry.get?_wait_till : standard.get? "wait_till" = some ⟨"wait_till", .waitTill,
    [.fixed "condition" .text, .variadic "args" .text, timeoutParam, byParam]⟩ := by
  decide +kernel

namespace Binding

variable {vars : Variables} {action : Action} {s : Progress}

theorem bindParams_cons_of_ok {p : Param} {rest : List Param} {s' : Progress}
    (h : bindParam vars action p s = .ok s') :
    bindParams vars action (p :: rest) s = bindParams vars action rest s' := by
  rw [bindParams, h]
  rfl

/-- An option with a value that can be read. -/
theorem bindParam_given {name raw : String} {type : ValueType} {v : Value}
    (hname : Text.replaceChar '_' '-' name = name)
    (hget : Dict.get? name s.named = some (.text raw)) (hv : convert vars type raw = .ok v) :
    bindParam vars action (.keyword name type) s = .ok
      { s with
        named := Dict.erase name s.named
        bound := { s.bound with values := Dict.insert name v s.bound.values } } := by
  have htake := takeOption_of_plain name hname s.named
  rw [hget] at htake
  simp only [bindParam, Param.keyword, htake, convertNamed, hv]
  rfl

theorem bindParam_absent {name : String} {type : ValueType}
    (hname : Text.replaceChar '_' '-' name = name) (hget : Dict.get? name s.named = none) :
    bindParam vars action (.keyword name type) s = .ok s := by
  have htake := takeOption_of_plain name hname s.named
  rw [hget] at htake
  simp only [bindParam, Param.keyword, htake]
  rfl

theorem convert_duration (vars : Variables) {text : String} {d : Duration}
    (h : Reading.duration? text = some d) : convert vars .duration text = .ok (.duration d) := by
  simp [convert, Reading.value?, h]

theorem bind_of_bindParams {words positional : List String} {named : Dict Named} {bound : Bound}
    (hsplit : Arguments.split words = (positional, named))
    (h : bindParams vars action action.params ⟨positional, named, ⟨action.name, [], [], []⟩⟩ =
      .ok ⟨[], [], bound⟩) : bind vars action words = .ok bound := by
  rw [bind, hsplit]
  simp only [h]
  rfl

/-- The options of a wait: how the element is looked up, and for how long. -/
def waitOptions (way? : Option String) (text : String) : List (String × String) :=
  way?.toList.map ("by", ·) ++ [("timeout", text)]

variable {way? : Option String} {text : String} {timeout : Duration} {words : List String}

/-- Wherever the options stand, they are found under their names. -/
theorem split_of_placed {positional : List String}
    (hwords : Arguments.Placed positional (waitOptions way? text) words) :
    Arguments.split words = (positional,
      way?.toList.map (fun way => ("by", .text way)) ++ [("timeout", .text text)]) := by
  have hkeys : ((waitOptions way? text).map Prod.fst).Nodup := by cases way? <;> simp [waitOptions]
  have horder : ¬"timeout" < "by" := by decide
  rw [hwords.split_eq hkeys]
  cases way? <;> simp [waitOptions, Dict.ofList, Dict.insertAll, Dict.insert, horder]

/-- The values that a wait takes from its options, added to others. -/
structure Sets (values : Dict Value) (way? : Option String) (timeout : Duration)
    (values' : Dict Value) : Prop where
  way : Dict.get? "by" values' = way?.map .text
  timeout : Dict.get? "timeout" values' = some (.duration timeout)
  other : ∀ key, key ≠ "by" → key ≠ "timeout" → Dict.get? key values' = Dict.get? key values

theorem exists_bindParams_of_options {params : List Param}
    (hparams : params = [Registry.byParam, Registry.timeoutParam] ∨
      params = [Registry.timeoutParam, Registry.byParam])
    (htimeout : Reading.duration? text = some timeout) {bound : Bound}
    (hfree : Dict.get? "by" bound.values = none) :
    ∃ values, Sets bound.values way? timeout values ∧
      bindParams vars action params
        ⟨[], way?.toList.map (fun way => ("by", .text way)) ++ [("timeout", .text text)], bound⟩ =
          .ok ⟨[], [], { bound with values }⟩ := by
  have hduration := convert_duration vars htimeout
  have hby : Text.replaceChar '_' '-' "by" = "by" := by decide
  have htime : Text.replaceChar '_' '-' "timeout" = "timeout" := by decide
  cases way? with
  | none =>
    refine ⟨Dict.insert "timeout" (.duration timeout) bound.values, ⟨?_, ?_, ?_⟩, ?_⟩
    · simpa [Dict.get?_insert] using hfree
    · simp [Dict.get?_insert]
    · exact fun key _ hkey => by simp [Dict.get?_insert, hkey]
    · rcases hparams with rfl | rfl
      · refine .trans (bindParams_cons_of_ok (bindParam_absent hby rfl)) ?_
        exact bindParams_cons_of_ok (bindParam_given htime rfl hduration)
      · refine .trans (bindParams_cons_of_ok (bindParam_given htime rfl hduration)) ?_
        exact bindParams_cons_of_ok (bindParam_absent hby rfl)
  | some way =>
    refine ⟨Dict.insert "timeout" (.duration timeout) (Dict.insert "by" (.text way) bound.values),
      ⟨?_, ?_, ?_⟩, ?_⟩
    · simp [Dict.get?_insert]
    · simp [Dict.get?_insert]
    · exact fun key hby hkey => by simp [Dict.get?_insert, hby, hkey]
    · rcases hparams with rfl | rfl
      · refine .trans (bindParams_cons_of_ok (bindParam_given hby rfl rfl)) ?_
        exact bindParams_cons_of_ok (bindParam_given htime rfl hduration)
      · rw [Dict.insert_comm (by decide)]
        refine .trans (bindParams_cons_of_ok (bindParam_given htime rfl hduration)) ?_
        exact bindParams_cons_of_ok (bindParam_given hby rfl rfl)

theorem exists_bind_select (vars : Variables) (action : Action) {query : String}
    (hparams : action.params = [.fixed "query" .text, Registry.byParam, Registry.timeoutParam])
    (htimeout : Reading.duration? text = some timeout)
    (hwords : Arguments.Placed [query] (waitOptions way? text) words) :
    ∃ values, Sets [("query", .text query)] way? timeout values ∧
      bind vars action words = .ok ⟨action.name, values, [], []⟩ := by
  obtain ⟨values, hsets, hoptions⟩ := @exists_bindParams_of_options vars action way? text timeout _
    (.inl rfl) htimeout ⟨action.name, [("query", .text query)], [], []⟩ rfl
  refine ⟨values, hsets, bind_of_bindParams (split_of_placed hwords) ?_⟩
  rw [hparams]
  exact (bindParams_cons_of_ok rfl).trans hoptions

theorem exists_bind_wait (vars : Variables) (action : Action) {condition argument : String}
    (hparams : action.params = [.fixed "condition" .text, .variadic "args" .text,
      Registry.timeoutParam, Registry.byParam])
    (htimeout : Reading.duration? text = some timeout)
    (hwords : Arguments.Placed [condition, argument] (waitOptions way? text) words) :
    ∃ values, Sets [("condition", .text condition)] way? timeout values ∧
      bind vars action words = .ok ⟨action.name, values, [.text argument], []⟩ := by
  obtain ⟨values, hsets, hoptions⟩ := @exists_bindParams_of_options vars action way? text timeout _
    (.inr rfl) htimeout ⟨action.name, [("condition", .text condition)], [.text argument], []⟩ rfl
  refine ⟨values, hsets, bind_of_bindParams (split_of_placed hwords) ?_⟩
  rw [hparams]
  exact (bindParams_cons_of_ok rfl).trans ((bindParams_cons_of_ok rfl).trans hoptions)

end Binding

namespace Run

variable {β α γ : Type}

def strategyOf? (way? : Option String) : Option Strategy := way?.elim (some .css) Strategy.ofText?

section Arguments

variable {way? : Option String} {timeout : Duration} {values given : Dict Value} {name : String}
  {rest : List Value} {extra : Dict Value}

theorem strategy_eq {s : Strategy} (h : Binding.Sets given way? timeout values)
    (hway : strategyOf? way? = some s) : strategy ⟨name, values, rest, extra⟩ = .ok s := by
  have hby : Bound.text? ⟨name, values, rest, extra⟩ "by" = way? := by
    rw [Bound.text?, Bound.get?, h.way]
    cases way? <;> rfl
  rw [strategy, hby]
  cases way? with
  | none =>
    rw [strategyOf?, Option.elim_none, Option.some.injEq] at hway
    rw [hway]
  | some way =>
    rw [strategyOf?, Option.elim_some] at hway
    simp only [hway]

theorem duration?_timeout (h : Binding.Sets given way? timeout values) :
    Bound.duration? ⟨name, values, rest, extra⟩ "timeout" = some timeout := by
  rw [Bound.duration?, Bound.get?, h.timeout]
  rfl

theorem text_given (h : Binding.Sets given way? timeout values) {key text : String}
    (hway : key ≠ "by") (htimeout : key ≠ "timeout")
    (hgiven : Dict.get? key given = some (.text text)) :
    Bound.text ⟨name, values, rest, extra⟩ key = .ok text := by
  rw [Bound.text, Bound.text?, Bound.get?, h.other key hway htimeout, hgiven]
  rfl

theorem locator_eq {s : Strategy} {query : String}
    (h : Binding.Sets [("query", .text query)] way? timeout values)
    (hway : strategyOf? way? = some s) :
    locator ⟨name, values, rest, extra⟩ = .ok ⟨s, query⟩ := by
  rw [locator, text_given h (by decide) (by decide) rfl, strategy_eq h hway]
  rfl

theorem condition_eq {s : Strategy} {query : String}
    (h : Binding.Sets [("condition", .text "present")] way? timeout values)
    (hway : strategyOf? way? = some s) (hquery : query ≠ "") :
    condition ⟨name, values, [.text query], extra⟩ = .ok (.present ⟨s, query⟩) := by
  have hargument : Bound.joinedRest ⟨name, values, [.text query], extra⟩ = query := by
    simp [Bound.joinedRest, Value.toText, String.intercalate_singleton]
  have hname : Text.replaceChar '_' '-' (Text.lowerAscii "present") = "present" := by decide
  have hnonempty : query.isEmpty = false := by simpa [String.isEmpty_iff] using hquery
  rw [condition, text_given h (by decide) (by decide) rfl, hargument, strategy_eq h hway]
  simp [bind, Except.bind, pure, Except.pure, hname, hnonempty]

end Arguments

/-! ### Calls and their times -/

/-- The call that an event is, with the time at which it was made. -/
def Event.made? : Event → Option (Nat × Call)
  | .call time made _ => some (time, made)
  | _ => none

/-- The calls among some events, with the times at which they were made. -/
def madeIn (events : List Event) : List (Nat × Call) := events.filterMap Event.made?

@[simp] theorem madeIn_append (xs ys : List Event) :
    madeIn (xs ++ ys) = madeIn xs ++ madeIn ys :=
  List.filterMap_append

theorem madeIn_eq_nil {events : List Event} (h : answeredIn events = []) : madeIn events = [] := by
  rw [answeredIn, List.filterMap_eq_nil_iff] at h
  rw [madeIn, List.filterMap_eq_nil_iff]
  intro e he
  cases e with
  | log | interrupt => rfl
  | call time made reply => exact absurd (h _ he) (by simp [Event.answered?])

theorem madeIn_callOn (setup : Setup β) (call : Call) (m : Machine β) :
    madeIn (callOn setup call m).2.events = madeIn m.events ++ [(m.time.now, call)] := by
  have hafter := madeIn_eq_nil (answeredIn_afterCall setup call m)
  rw [madeIn] at hafter
  simp [callOn_events, madeIn, Event.made?, hafter]

theorem madeIn_sleepOn (setup : Setup β) (d : Duration) (m : Machine β) :
    madeIn (sleepOn setup d m).events = madeIn m.events := by
  rw [sleepOn, Machine.passTo_events, madeIn_append, madeIn_eq_nil (answeredIn_raisedOn ..),
    List.append_nil]

theorem madeIn_note (m : Machine β) (entry : Log.Entry) :
    madeIn (m.note entry).events = madeIn m.events := by
  have hlogged : madeIn (m.logged [entry]) = [] :=
    madeIn_eq_nil (answeredIn_logs fun _ => Machine.isLog_of_mem_logged)
  rw [Machine.note_eq]
  simp [Machine.events, hlogged]

/-! ### Two lookups of one page -/

/-- What the lookups of one element and of all elements say about the same page. -/
inductive Sees : Except BrowserError ElementRef → Except BrowserError (List ElementRef) → Prop
  | shown (e : ElementRef) {found : List ElementRef} (hfound : found ≠ []) :
      Sees (.ok e) (.ok found)
  | missing (what : String) : Sees (.error (.noSuchElement what)) (.ok [])

/-- A browser whose two lookups of a locator see the same page and take as long, in any two states
that go together, and leave it in two such states. -/
structure SeesAlike (backend : Backend β) (l : Locator) (R : β → β → Prop) : Prop where
  sees : ∀ {b b'}, R b b' →
    Sees (backend.answer (.find l) b).reply (backend.answer (.findAll l) b').reply
  latency : ∀ {b b'}, R b b' →
    (backend.answer (.find l) b).latency = (backend.answer (.findAll l) b').latency
  raises : ∀ {b b'}, R b b' →
    (backend.answer (.find l) b).raises = (backend.answer (.findAll l) b').raises
  next : ∀ {b b'}, R b b' →
    R (backend.answer (.find l) b).next (backend.answer (.findAll l) b').next

/-- Two runs at the same moment, with browsers in states that go together. -/
structure Abreast (R : β → β → Prop) (m n : Machine β) : Prop where
  time : m.time = n.time
  browser : R m.browser n.browser

section Lookups

variable {setup : Setup β} {l : Locator} {R : β → β → Prop} {m n : Machine β}

theorem Abreast.callOn (h : SeesAlike setup.backend l R) (hmn : Abreast R m n) :
    Abreast R (callOn setup (.find l) m).2 (callOn setup (.findAll l) n).2 := by
  rw [callOn_snd, callOn_snd]
  refine ⟨?_, h.next hmn.browser⟩
  dsimp only [answerTime]
  rw [hmn.time, h.latency hmn.browser, h.raises hmn.browser]

theorem Abreast.sleepOn (hmn : Abreast R m n) (d : Duration) :
    Abreast R (sleepOn setup d m) (sleepOn setup d n) := by
  rw [Run.sleepOn, Run.sleepOn, Machine.passTo_eq, Machine.passTo_eq]
  exact ⟨by rw [hmn.time], hmn.browser⟩

end Lookups

/-- Two ends of waits that agree.  A wait without any time for a single element ends in the error of
the browser.  Only waits that look again at once can be given up. -/
inductive Agree (interval timeout : Duration) : Except Halt α → Except Halt γ → Prop
  | found (a : α) (c : γ) : Agree interval timeout (.ok a) (.ok c)
  | late (what what' : String) (htimeout : timeout ≠ 0) :
      Agree interval timeout (.error (.failed (.timeout what timeout)))
        (.error (.failed (.timeout what' timeout)))
  | atOnce (what what' : String) (htimeout : timeout = 0) :
      Agree interval timeout (.error (.failed (.browser (.noSuchElement what))))
        (.error (.failed (.timeout what' timeout)))
  | interrupted : Agree interval timeout (.error (.failed (.exit 1))) (.error (.failed (.exit 1)))
  | unfinished (hinterval : interval = 0) :
      Agree interval timeout (.error .unfinished) (.error .unfinished)

/-- Two parts of a run, from `m` to `r` and from `n` to `r'`, look at the page at the same times,
each with its own lookup, and come to ends that agree at the same moment. -/
structure GoesAlike (setup : Setup β) (l : Locator) (timeout : Duration) (m n : Machine β)
    (r : Except Halt α × Machine β) (r' : Except Halt γ × Machine β) : Prop where
  looks : ∃ times : List Nat, madeIn r.2.events = madeIn m.events ++ times.map (·, .find l) ∧
    madeIn r'.2.events = madeIn n.events ++ times.map (·, .findAll l)
  time : r.2.time = r'.2.time
  ends : Agree setup.settings.pollInterval timeout r.1 r'.1
  /-- The browser's error is the reply to the last lookup. -/
  reply : ∀ what, r.1 = .error (.failed (.browser (.noSuchElement what))) →
    (answeredIn r.2.events).getLast? = some ⟨.find l, .error (.noSuchElement what)⟩

namespace GoesAlike

variable {setup : Setup β} {l : Locator} {timeout : Duration} {m n m' n' : Machine β}

/-- Before, both may have looked at the page at the same times. -/
theorem after (looks : List Nat) {r : Except Halt α × Machine β} {r' : Except Halt γ × Machine β}
    (hm : madeIn m'.events = madeIn m.events ++ looks.map (·, .find l))
    (hn : madeIn n'.events = madeIn n.events ++ looks.map (·, .findAll l))
    (h : GoesAlike setup l timeout m' n' r r') : GoesAlike setup l timeout m n r r' := by
  obtain ⟨times, hr, hr'⟩ := h.looks
  refine ⟨⟨looks ++ times, ?_, ?_⟩, h.time, h.ends, h.reply⟩
  · rw [hr, hm, List.map_append, List.append_assoc]
  · rw [hr', hn, List.map_append, List.append_assoc]

theorem of_noted {r : Except Halt α × Machine β} {r' : Except Halt γ × Machine β}
    (entry entry' : Log.Entry) (h : GoesAlike setup l timeout (m.note entry) (n.note entry') r r') :
    GoesAlike setup l timeout m n r r' :=
  h.after [] (by simp [madeIn_note]) (by simp [madeIn_note])

theorem bind {δ ε : Type} {x : Exec β α} {y : Exec β γ} {f : α → Exec β δ} {g : γ → Exec β ε}
    (h : GoesAlike setup l timeout m n (x m) (y n))
    (hfg : ∀ a c m' n', m'.time = n'.time → GoesAlike setup l timeout m' n' (f a m') (g c n')) :
    GoesAlike setup l timeout m n ((x >>= f) m) ((y >>= g) n) := by
  rw [bind_apply, bind_apply]
  generalize x m = r at h
  generalize y n = r' at h
  obtain ⟨outcome, m'⟩ := r
  obtain ⟨outcome', n'⟩ := r'
  obtain ⟨⟨times, hx, hy⟩, htime, hends, hreply⟩ := h
  cases hends with
  | found a c => exact (hfg a c m' n' htime).after times hx hy
  | late what what' hlate => exact ⟨⟨times, hx, hy⟩, htime, .late what what' hlate, nofun⟩
  | atOnce what what' hzero =>
    refine ⟨⟨times, hx, hy⟩, htime, .atOnce what what' hzero, fun what h => ?_⟩
    cases h
    exact hreply what rfl
  | interrupted => exact ⟨⟨times, hx, hy⟩, htime, .interrupted, nofun⟩
  | unfinished hinterval => exact ⟨⟨times, hx, hy⟩, htime, .unfinished hinterval, nofun⟩

/-- Both change nothing but their logs and what they keep in mind. -/
theorem changed {f g : Machine β → Machine β} (hf : (f m).time = m.time)
    (hcalls : madeIn (f m).events = madeIn m.events) (hg : (g n).time = n.time)
    (hcalls' : madeIn (g n).events = madeIn n.events) (h : m.time = n.time) :
    GoesAlike setup l timeout m n ((modify f : Exec β Unit) m) ((modify g : Exec β Unit) n) where
  looks := ⟨[], hcalls.trans (List.append_nil _).symm, hcalls'.trans (List.append_nil _).symm⟩
  time := hf.trans (h.trans hg.symm)
  ends := .found () ()
  reply := nofun

theorem note_exit (h : m.time = n.time) (entry : Log.Entry) :
    GoesAlike setup l timeout m n
      ((.error (.failed (.exit 1)), m.note entry) : Except Halt α × Machine β)
      ((.error (.failed (.exit 1)), n.note entry) : Except Halt γ × Machine β) where
  looks := ⟨[], by simp [madeIn_note], by simp [madeIn_note]⟩
  time := h
  ends := .interrupted
  reply := nofun

theorem stopIfInterrupted (h : m.time = n.time) :
    GoesAlike setup l timeout m n ((stopIfInterrupted : Exec β Unit) m)
      ((Run.stopIfInterrupted : Exec β Unit) n) := by
  cases hraised : m.time.raised with
  | true =>
    rw [stopIfInterrupted_of_raised hraised, stopIfInterrupted_of_raised (h ▸ hraised)]
    exact note_exit h stopNote
  | false =>
    rw [stopIfInterrupted_of_lowered hraised, stopIfInterrupted_of_lowered (h ▸ hraised)]
    exact ⟨⟨[], by simp, by simp⟩, h, .found () (), nofun⟩

end GoesAlike

/-! ### The loops in step -/

section Loops

variable {setup : Setup β} {l : Locator} {R : β → β → Prop} {m n : Machine β}

theorem probeBefore_of_raised (probe : Probe α) (deadline fuel : Nat)
    (hraised : m.time.raised = true) :
    probeBefore setup probe deadline fuel m = (.error (.failed (.exit 1)), m.note stopNote) := by
  cases fuel <;> rw [probeBefore, if_pos hraised]

theorem probeBefore_of_met {probe : Probe α} {reply : Except BrowserError probe.call.Answer}
    {looked : Machine β} {a : α} (deadline fuel : Nat) (hdown : m.time.raised = false)
    (hcall : callOn setup probe.call m = (reply, looked)) (hmet : probe.verdict reply = .met a) :
    probeBefore setup probe deadline (fuel + 1) m = (.ok a, looked) := by
  rw [probeBefore, hdown, hcall]
  simp only [hmet]
  rfl

theorem probeBefore_of_unmet {probe : Probe α} {reply : Except BrowserError probe.call.Answer}
    {looked : Machine β} {e : ScriptError} (deadline fuel : Nat) (hdown : m.time.raised = false)
    (hcall : callOn setup probe.call m = (reply, looked))
    (hunmet : probe.verdict reply = .unmet e) :
    probeBefore setup probe deadline (fuel + 1) m =
      if looked.time.now < deadline then
        probeBefore setup probe deadline fuel
          (sleepOn setup (min setup.settings.pollInterval (deadline - looked.time.now)) looked)
      else (.error (.failed e), looked) := by
  rw [probeBefore, hdown, hcall]
  simp only [hunmet]
  rfl

/-- What a look for a single element in vain leads to. -/
theorem Agree.of_missing (l : Locator) (interval timeout : Duration) (what : String) :
    ∃ e, (Probe.find l timeout).verdict (.error (.noSuchElement what)) = .unmet e ∧
      Agree interval timeout (.error (.failed e) : Except Halt ElementRef)
        (.error (.failed (.timeout (Condition.present l).text timeout)) : Except Halt Unit) ∧
      ∀ what', e = .browser (.noSuchElement what') → what' = what := by
  by_cases htimeout : timeout = 0
  · refine ⟨.browser (.noSuchElement what), ?_, .atOnce _ _ htimeout, ?_⟩
    · simp [Probe.find, htimeout]
    · intro what' h
      cases h
      rfl
  · refine ⟨.timeout s!"element {l.text}" timeout, ?_, .late _ _ htimeout, nofun⟩
    simp [Probe.find, htimeout]

/-- After each round the two loops stand at the same moment, so they go through the same rounds. -/
theorem probeBefore_goesAlike (h : SeesAlike setup.backend l R) (timeout : Duration)
    (deadline fuel : Nat) (hmn : Abreast R m n)
    (hfinish : (probeBefore setup (.find l timeout) deadline fuel m).1 = .error .unfinished →
      setup.settings.pollInterval = 0) :
    GoesAlike setup l timeout m n (probeBefore setup (.find l timeout) deadline fuel m)
      (probeBefore setup (Condition.probe timeout (.present l)) deadline fuel n) := by
  induction fuel generalizing m n with
  | zero =>
    rw [probeBefore] at hfinish ⊢
    rw [probeBefore, ← hmn.time]
    split
    case isTrue => exact .note_exit hmn.time stopNote
    case isFalse hdown =>
      rw [if_neg hdown] at hfinish
      exact ⟨⟨[], by simp, by simp⟩, hmn.time, .unfinished (hfinish rfl), by rintro what ⟨⟩⟩
  | succ fuel ih =>
    cases hraised : m.time.raised with
    | true =>
      rw [probeBefore_of_raised _ _ _ hraised, probeBefore_of_raised _ _ _ (hmn.time ▸ hraised)]
      exact .note_exit hmn.time stopNote
    | false =>
      have hraised' : n.time.raised = false := hmn.time ▸ hraised
      have hlooked := hmn.callOn h
      have hsees : Sees (callOn setup (.find l) m).1 (callOn setup (.findAll l) n).1 :=
        h.sees hmn.browser
      have hlook := madeIn_callOn setup (.find l) m
      have hlook' := madeIn_callOn setup (.findAll l) n
      have hanswered := answeredIn_callOn setup (.find l) m
      rw [← hmn.time] at hlook'
      generalize hfind : callOn setup (.find l) m = found at *
      generalize hall : callOn setup (.findAll l) n = listed at *
      obtain ⟨reply, looked⟩ := found
      obtain ⟨reply', looked'⟩ := listed
      cases hsees with
      | @shown e elements helements =>
        have hmet : (Condition.probe timeout (.present l)).verdict (.ok elements) = .met () := by
          cases elements with
          | nil => exact absurd rfl helements
          | cons => rfl
        rw [probeBefore_of_met _ _ hraised hfind rfl, probeBefore_of_met _ _ hraised' hall hmet]
        exact ⟨⟨[m.time.now], hlook, hlook'⟩, hlooked.time, .found e (), by rintro what ⟨⟩⟩
      | missing what =>
        obtain ⟨e, hunmet, hagree, hcause⟩ :=
          Agree.of_missing l setup.settings.pollInterval timeout what
        rw [probeBefore_of_unmet _ _ hraised hfind hunmet] at hfinish ⊢
        rw [probeBefore_of_unmet _ _ hraised' hall rfl, ← hlooked.time]
        split
        case isTrue hearly =>
          rw [if_pos hearly] at hfinish
          exact (ih (hlooked.sleepOn _) hfinish).after [m.time.now]
            ((madeIn_sleepOn ..).trans hlook) ((madeIn_sleepOn ..).trans hlook')
        case isFalse =>
          refine ⟨⟨[m.time.now], hlook, hlook'⟩, hlooked.time, hagree, fun what' hend => ?_⟩
          cases hend
          rw [hcause what' rfl]
          simp [hanswered]

/-- An element that is looked up is kept in mind, which takes no time. -/
theorem GoesAlike.seek (h : SeesAlike setup.backend l R) (timeout : Duration)
    (hmn : Abreast R m n) :
    GoesAlike setup l timeout m n (seek setup l timeout m)
      (waitFor setup (.present l) timeout n) := by
  have hloops : GoesAlike setup l timeout m n (pollFind setup l timeout m)
      (waitFor setup (.present l) timeout n) := by
    obtain ⟨_, _, _, _, _, _, _, hgiven⟩ := probeBefore_keepsTime setup (.find l timeout) timeout m
    rw [pollFind_apply, waitFor_apply, ← hmn.time]
    exact probeBefore_goesAlike h timeout _ _ hmn fun hend => (hgiven hend).1
  rw [← bind_pure (waitFor setup (.present l) timeout)]
  exact hloops.bind fun e _ m' n' htime => .changed (g := id) rfl rfl rfl rfl htime

end Loops

/-! ### Both actions -/

/-- An instruction says to run an action with these words and options, which may stand anywhere. -/
structure Says (vars : Variables) (i : Instruction) (action : String) (positional : List String)
    (options : List (String × String)) : Prop where
  action : i.action = action
  args : ∃ words, expandAll vars i.args = .ok words ∧ Arguments.Placed positional options words

section Actions

variable {setup : Setup β} {m : Machine β} {i : Instruction} {way? : Option String} {text : String}
  {timeout : Duration} {s : Strategy} {query : String}

theorem requireSession_of_open (h : m.sessionOpen = true) :
    (requireSession : Exec β Unit) m = (.ok (), m) := by
  rw [requireSession_apply, if_pos h]

/-- Once the arguments of an instruction are bound, its handler runs. -/
theorem step_apply {action : Action} {words : List String} {bound : Bound}
    (haction : setup.registry.get? i.action = some action)
    (hwords : expandAll m.store i.args = .ok words)
    (hbind : Binding.bind m.store action words = .ok bound) :
    ∃ entry, step setup i m = handle setup bound action.handler (m.note entry) := by
  refine ⟨⟨.trace, .executor, [], "dispatch",
    [("action", .shown action.name), ("args", .shown (Text.quotedList words))]⟩, ?_⟩
  rw [step, haction]
  dsimp only
  rw [bind_apply_ok (get_apply m), hwords, require_bind_ok, hbind, require_bind_ok]
  exact bind_apply_ok rfl

theorem step_select (hregistry : setup.registry = .standard) (hopen : m.sessionOpen = true)
    (hsaid : Says m.store i "select" [query] (Binding.waitOptions way? text))
    (hway : strategyOf? way? = some s) (htimeout : Reading.duration? text = some timeout) :
    ∃ entry entry', step setup i m =
      (seek setup ⟨s, query⟩ timeout >>= fun _ => modify (·.note entry')) (m.note entry) := by
  obtain ⟨words, hwords, hplaced⟩ := hsaid.args
  have haction : setup.registry.get? i.action = Registry.standard.get? "select" := by
    rw [hregistry, hsaid.action]
  obtain ⟨values, hsets, hbind⟩ :=
    Binding.exists_bind_select m.store ⟨"select", .select, _⟩ rfl htimeout hplaced
  obtain ⟨entry, hstep⟩ := step_apply (haction.trans Registry.get?_select) hwords hbind
  refine ⟨entry, ⟨.debug, .executor, [], "selected",
    [("locator", .shown (Locator.text ⟨s, query⟩))]⟩, ?_⟩
  have hsession := requireSession_of_open (m := m.note entry) hopen
  rw [hstep, handle, bind_apply_ok hsession, locator_eq hsets hway, require_bind_ok,
    duration?_timeout hsets]
  rfl

theorem step_waitTill (hregistry : setup.registry = .standard) (hopen : m.sessionOpen = true)
    (hsaid : Says m.store i "wait_till" ["present", query] (Binding.waitOptions way? text))
    (hway : strategyOf? way? = some s) (htimeout : Reading.duration? text = some timeout)
    (hquery : query ≠ "") :
    ∃ entry entry', step setup i m =
      (waitFor setup (.present ⟨s, query⟩) timeout >>= fun _ => modify (·.note entry'))
        (m.note entry) := by
  obtain ⟨words, hwords, hplaced⟩ := hsaid.args
  have haction : setup.registry.get? i.action = Registry.standard.get? "wait_till" := by
    rw [hregistry, hsaid.action]
  obtain ⟨values, hsets, hbind⟩ :=
    Binding.exists_bind_wait m.store ⟨"wait_till", .waitTill, _⟩ rfl htimeout hplaced
  obtain ⟨entry, hstep⟩ := step_apply (haction.trans Registry.get?_wait_till) hwords hbind
  refine ⟨entry, ⟨.debug, .executor, [], "condition met",
    [("condition", .shown (Condition.present ⟨s, query⟩).text)]⟩, ?_⟩
  have hsession := requireSession_of_open (m := m.note entry) hopen
  rw [hstep, handle, bind_apply_ok hsession, condition_eq hsets hway hquery, require_bind_ok,
    duration?_timeout hsets]
  rfl

end Actions

/-- Selecting an element and waiting for its presence agree.  With the same query, strategy and
time, on a browser whose two lookups see the same page, the two instructions look at the page
equally often and at the same times and end at the same time: both succeed, both are stopped by an
interrupt, or both run out of time with the same error.  A selection that has no time at all fails
with the browser's own error instead.  With an interval between the looks both come to an end. -/
theorem select_agrees_with_wait_till (setup : Setup β) (m : Machine β) {select wait : Instruction}
    {way? : Option String} {text query : String} {s : Strategy} {timeout : Duration}
    {R : β → β → Prop} (hregistry : setup.registry = .standard) (hopen : m.sessionOpen = true)
    (hquery : query ≠ "") (hway : strategyOf? way? = some s)
    (htimeout : Reading.duration? text = some timeout)
    (hselect : Says m.store select "select" [query] (Binding.waitOptions way? text))
    (hwait : Says m.store wait "wait_till" ["present", query] (Binding.waitOptions way? text))
    (hsees : SeesAlike setup.backend ⟨s, query⟩ R) (hbrowser : R m.browser m.browser) :
    GoesAlike setup ⟨s, query⟩ timeout m m (interruptibleStep setup select m)
      (interruptibleStep setup wait m) := by
  obtain ⟨entry₁, entry₂, hseek⟩ := step_select hregistry hopen hselect hway htimeout
  obtain ⟨entry₃, entry₄, hwaitFor⟩ := step_waitTill hregistry hopen hwait hway htimeout hquery
  refine .bind (x := step setup select) ?_ fun _ _ _ _ htime => .stopIfInterrupted htime
  rw [hseek, hwaitFor]
  refine .of_noted entry₁ entry₃ (.bind ?_ fun _ _ m n htime => ?_)
  · exact .seek hsees timeout ⟨rfl, hbrowser⟩
  · exact .changed rfl (madeIn_note m entry₂) rfl (madeIn_note n entry₄) htime

/-- A browser on a page that shows an element from the second lookup on. -/
def fillingPage : Setup Nat where
  registry := .standard
  settings := { pollInterval := 250 * Duration.millisecond }
  backend := ⟨fun
    | .find _, n =>
      if n = 0 then ⟨.error (.noSuchElement "late"), 1, 100 * Duration.millisecond, false, []⟩
      else ⟨.ok ⟨"late"⟩, 1, 100 * Duration.millisecond, false, []⟩
    | .findAll _, n =>
      ⟨.ok (if n = 0 then [] else [⟨"late"⟩, ⟨"later"⟩]), 1, 100 * Duration.millisecond, false, []⟩
    | _, n => ⟨.error .notConnected, n, 0, false, []⟩⟩
  clock := .millisecond
  draws _ := 0
  idleRounds := 0

theorem fillingPage_seesAlike (l : Locator) : SeesAlike fillingPage.backend l (· = ·) where
  sees := by
    rintro n _ rfl
    cases n with
    | zero => exact .missing _
    | succ n => exact .shown _ (by simp)
  latency := by
    rintro n _ rfl
    cases n <;> rfl
  raises := by
    rintro n _ rfl
    cases n <;> rfl
  next := by
    rintro n _ rfl
    cases n <;> rfl

theorem select_agrees_with_wait_till_fillingPage :
    let m : Machine Nat :=
      { Machine.start (Variables.empty.set "field" (.text "user name")) 0 with sessionOpen := true }
    let select : Instruction := ⟨"a", 1, "select", ["--by", "name", "$field", "--timeout", "600ms"]⟩
    let wait : Instruction :=
      ⟨"a", 2, "wait_till", ["present", "$field", "--timeout", "600ms", "--by", "name"]⟩
    let selected := interruptibleStep fillingPage select m
    let waited := interruptibleStep fillingPage wait m
    GoesAlike fillingPage ⟨.name, "user name"⟩ 600000000 m m selected waited ∧
      selected.1 = .ok () ∧ waited.2.time.now = 450000000 := by
  intro m select wait selected waited
  have hregistry : fillingPage.registry = .standard := by rw [fillingPage]
  have hselect : Says m.store select "select" ["user name"]
      (Binding.waitOptions (some "name") "600ms") := by
    refine ⟨rfl, _, ?_, .option [] rfl (.positional rfl (.option [] rfl .nil))⟩
    decide +kernel
  have hwait : Says m.store wait "wait_till" ["present", "user name"]
      (Binding.waitOptions (some "name") "600ms") := by
    refine ⟨rfl, _, ?_, .positional rfl (.positional rfl (.option [_] rfl (.option [] rfl .nil)))⟩
    decide +kernel
  refine ⟨select_agrees_with_wait_till fillingPage m hregistry rfl (by decide) (by decide +kernel)
    (by decide +kernel) hselect hwait (fillingPage_seesAlike _) rfl, ?_⟩
  decide +kernel

end Run

end BrowserScript
