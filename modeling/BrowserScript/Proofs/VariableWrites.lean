import BrowserScript.Proofs.KeptPromises
import BrowserScript.Recorder

/-!
# Who writes variables

A step writes at most one variable, and only if it succeeds: `set` and `default` write the text that
they are given, `script` and `url` the text of a result, if they are told where to put it.  Every
other part of a step leaves the variables alone, and so does everything between the steps.  The
variables after a run are therefore those from before it, with the writes of its steps in order.
-/

namespace BrowserScript

namespace Variables

variable (vars : Variables)

theorem setTexts_append (xs ys : List (String × String)) :
    vars.setTexts (xs ++ ys) = (vars.setTexts xs).setTexts ys :=
  List.foldl_append

theorem setTexts_cons (w : String × String) (rest : List (String × String)) :
    vars.setTexts (w :: rest) = (vars.set w.1 (.text w.2)).setTexts rest := rfl

theorem get?_setTexts_of_not_mem {writes : List (String × String)} {name : String}
    (h : ∀ text, (name, text) ∉ writes) : (vars.setTexts writes).get? name = vars.get? name := by
  induction writes generalizing vars with
  | nil => rfl
  | cons w rest ih =>
    have hne : name ≠ w.1 := by
      rintro rfl
      exact h w.2 List.mem_cons_self
    rw [setTexts_cons, ih _ fun text hmem => h text (List.mem_cons_of_mem w hmem), get?_set,
      if_neg hne]

/-- A variable that is written holds one of the texts that are written into it. -/
theorem exists_get?_setTexts {writes : List (String × String)} {name : String}
    (h : ∃ text, (name, text) ∈ writes) :
    ∃ text, (name, text) ∈ writes ∧ (vars.setTexts writes).get? name = some (.text text) := by
  induction writes generalizing vars with
  | nil =>
    obtain ⟨_, hmem⟩ := h
    nomatch hmem
  | cons w rest ih =>
    rw [setTexts_cons]
    by_cases hlater : ∃ text, (name, text) ∈ rest
    · obtain ⟨text, hmem, hget⟩ := ih (vars.set w.1 (.text w.2)) hlater
      exact ⟨text, List.mem_cons_of_mem w hmem, hget⟩
    · rw [not_exists] at hlater
      obtain ⟨text, hmem⟩ := h
      obtain rfl : (name, text) = w := (List.mem_cons.mp hmem).resolve_right (hlater text)
      refine ⟨text, List.mem_cons_self, ?_⟩
      rw [get?_setTexts_of_not_mem _ hlater, get?_set, if_pos rfl]

theorem contains_setTexts {writes : List (String × String)} {name : String}
    (h : vars.contains name = true) : (vars.setTexts writes).contains name = true := by
  by_cases hwritten : ∃ text, (name, text) ∈ writes
  · obtain ⟨text, -, hget⟩ := vars.exists_get?_setTexts hwritten
    rw [contains, hget]
    rfl
  · rw [contains, get?_setTexts_of_not_mem _ (not_exists.mp hwritten)]
    exact h

end Variables

def Handler.isWriter : Handler → Bool
  | .set | .default | .script | .url => true
  | _ => false

theorem ScriptError.exitStatus_of_isOwn {e : ScriptError} (h : e.isOwn = true) :
    e.exitStatus = 1 := by
  cases e <;> first | rfl | nomatch h

theorem Dict.eq_singleton {α : Type} {key : String} {value : α} {d : Dict α}
    (hget : get? key d = some value) (herase : erase key d = []) : d = [(key, value)] := by
  cases d with
  | nil => cases hget
  | cons e rest =>
    obtain ⟨k, v⟩ := e
    unfold get? at hget
    unfold erase at herase
    by_cases hkey : key = k
    · rw [if_pos hkey] at hget herase
      rw [herase, hkey, Option.some.inj hget]
    · rw [if_neg hkey] at herase
      cases herase

namespace Run

variable {β α : Type}

/-- How a result is put into a variable: a null as nothing, a text without quotes, and any other
value in JSON. -/
inductive IsTextOf : Json → String → Prop
  | null : IsTextOf .null ""
  | string (s : String) : IsTextOf (.string s) s
  | other {v : Json} (hnull : v ≠ .null) (hstring : ∀ s, v ≠ .string s) : IsTextOf v v.text

theorem isTextOf_resultText (v : Json) : IsTextOf v (resultText v) := by
  cases v with
  | null => exact .null
  | string s => exact .string s
  | bool | integer | number | array | object => exact .other nofun nofun

/-- What a step writes that succeeds, given its positional words and its options, the variables
before it and the calls that it made. -/
inductive Writes (args : List String × Dict Named) (vars : Variables) (calls : List Answered) :
    Handler → Option (String × String) → Prop
  | set {name value : String} (hargs : args = ([name, value], [])) :
    Writes args vars calls .set (some (name, value))
  | default {name value : String} (hargs : args = ([name, value], []))
    (habsent : vars.contains name = false) : Writes args vars calls .default (some (name, value))
  | present {name value : String} (hargs : args = ([name, value], []))
    (hpresent : vars.contains name = true) : Writes args vars calls .default none
  | script {name code text : String} {result : Json} (hinto : args.2 = [("into", .text name)])
    (hcall : calls = [⟨.execute code [], .ok result⟩]) (htext : IsTextOf result text) :
    Writes args vars calls .script (some (name, text))
  | url {name url : String} (hinto : args.2 = [("into", .text name)])
    (hcall : calls = [⟨.currentUrl, .ok url⟩]) : Writes args vars calls .url (some (name, url))
  /-- A result that is not put anywhere is logged. -/
  | logged {h : Handler} (hh : h = .script ∨ h = .url) (hinto : args.2 = []) :
    Writes args vars calls h none
  | other {h : Handler} (hh : h.isWriter = false) : Writes args vars calls h none

/-- The step of an instruction that leads from one machine to another writes what its action says,
once its words are interpolated. -/
def StepWrites (setup : Setup β) (i : Instruction) (m m' : Machine β)
    (write : Option (String × String)) : Prop :=
  ∃ action words, setup.registry.get? i.action = some action ∧
    expandAll m.store i.args = .ok words ∧
    Writes (Arguments.split words) m.store (answeredIn (eventsBetween m m')) action.handler write

/-- The writes of a run in order.  An instruction that is not started or whose step fails writes
nothing. -/
inductive Told (setup : Setup β) :
    List Instruction → Machine β → List (String × String) → Prop
  | finished (m : Machine β) : Told setup [] m []
  | unstarted {i : Instruction} {rest : List Instruction} {m : Machine β}
    (hraised : m.time.raised = true) : Told setup (i :: rest) m []
  | failed {i : Instruction} {rest : List Instruction} {m m' : Machine β} {halt : Halt}
    (hdown : m.time.raised = false) (hstep : stepInSpan setup i m = (.error halt, m')) :
    Told setup (i :: rest) m []
  /-- The step succeeds, but an interrupt ends the run before the next one. -/
  | stopped {i : Instruction} {rest : List Instruction} {m m' : Machine β}
    {write : Option (String × String)} (hdown : m.time.raised = false)
    (hstep : stepInSpan setup i m = (.ok (), m')) (hwrite : StepWrites setup i m m' write)
    (hraised : m'.time.raised = true) : Told setup (i :: rest) m write.toList
  | stepped {i : Instruction} {rest : List Instruction} {m m' m'' : Machine β}
    {write : Option (String × String)} {writes : List (String × String)}
    (hdown : m.time.raised = false) (hstep : stepInSpan setup i m = (.ok (), m'))
    (hwrite : StepWrites setup i m m' write) (hrun : runInstruction setup i m = (.ok (), m''))
    (hrest : Told setup rest m'' writes) : Told setup (i :: rest) m (write.toList ++ writes)

/-! ### Parts of a step that write nothing -/

/-- What a part of a step leaves that fails: the variables as they were, and one as the exit
status. -/
def Fruitless (vars : Variables) (halt : Halt) (m : Machine β) : Prop :=
  m.store = vars ∧ halt.exitStatus = 1

/-- A part of a step that leaves the variables as they are, whether or not it fails. -/
abbrev Spares (vars : Variables) (x : Exec β α) : Prop :=
  Ensures (·.store = vars) x (fun _ m => m.store = vars) (Fruitless vars)

theorem store_callOn (setup : Setup β) (call : Call) (m : Machine β) :
    (callOn setup call m).2.store = m.store := by
  rw [callOn_snd]

theorem store_passTo (m : Machine β) (time : Timeline) (place : Place) :
    (m.passTo time place).store = m.store := by
  rw [Machine.passTo_eq]

theorem store_pauseOn (setup : Setup β) (d : Duration) (m : Machine β) :
    (pauseOn setup d m).store = m.store := by
  rw [pauseOn_eq]

namespace Spares

variable {vars : Variables} {setup : Setup β}

theorem lasting (vars : Variables) (setup : Setup β) :
    Lasting setup (·.store = vars) (Fruitless vars) where
  note _ h := h
  call call h := (store_callOn setup call _).trans h
  pass time place h := (store_passTo _ time place).trans h
  session _ _ h := h
  browser _ h := ⟨h, rfl⟩
  timeout _ _ h := ⟨h, rfl⟩
  exit h := ⟨h, rfl⟩
  unfinished h := ⟨h, rfl⟩

theorem require {r : Except ScriptError α} (hr : FailsAs ScriptError.isOwn r) :
    Spares vars (require r : Exec β α) :=
  Ensures.require (fun _ _ _ h => h) fun _ e he h => ⟨h, ScriptError.exitStatus_of_isOwn (hr e he)⟩

theorem given {r : Except ScriptError α} (hr : FailsAs ScriptError.isOfHandler r) :
    Spares vars (Run.require r : Exec β α) :=
  require (hr.mono ScriptError.isOwn_of_isOfHandler)

theorem text (bound : Bound) (name : String) :
    Spares vars (Run.require (bound.text name) : Exec β String) :=
  given (.text bound name)

theorem locator (bound : Bound) : Spares vars (Run.require (locator bound) : Exec β Locator) :=
  given (.locator ScriptError.isOfHandler_of_isOfCheck (.text bound "query"))

theorem requireSession : Spares vars (requireSession : Exec β Unit) :=
  .weaken (Ensures.requireSession fun _ h => ⟨h, rfl⟩) fun _ _ h => h.2

theorem activeElement : Spares vars (activeElement : Exec β ElementRef) :=
  .weaken (Ensures.activeElement fun _ _ h => ⟨h, rfl⟩) fun _ _ h => h.2

theorem log (level : Log.Level) (message : String) (fields : List (String × Log.Content)) :
    Spares vars (log level message fields : Exec β Unit) :=
  Ensures.change fun _ h => h

theorem demand (call : Call) : Spares vars (demand setup call) := (lasting vars setup).demand call

theorem change {g : Machine β → Machine β} (hg : ∀ m, (g m).store = m.store) :
    Spares vars (modify g : Exec β Unit) :=
  Ensures.change fun m h => (hg m).trans h

theorem leavePage (call : Call) : Spares vars (leavePage setup call) :=
  .bind (demand call) fun _ => change fun _ => rfl

theorem seek (l : Locator) (timeout : Duration) : Spares vars (seek setup l timeout) :=
  .bind ((lasting vars setup).pollFind l timeout) fun _ => change fun _ => rfl

theorem openBrowser (bound : Bound) : Spares vars (openBrowser setup bound) := by
  have hstart : ∀ name options, Spares vars (startSession setup name options) :=
    fun name options => .bind (demand _) fun _ => change fun _ => rfl
  refine .bind (text bound "name") fun name => ?_
  refine .bind (Ensures.read (Q := fun _ m => m.store = vars) fun _ h => h) fun m => ?_
  refine .ite (fun _ => ?_) fun _ => ?_
  · refine .bind (log _ _ _) fun _ => .bind (lasting vars setup).endSession fun _ => ?_
    exact .bind (log _ _ _) fun _ => hstart _ _
  · exact .bind (log _ _ _) fun _ => hstart _ _

theorem handle {h : Handler} (hh : h.isWriter = false) (bound : Bound) :
    Spares vars (handle setup bound h) := by
  have hdone : Spares vars (pure () : Exec β Unit) := .done fun _ h => h
  cases h with
  | set | default | script | url => nomatch hh
  | debug | info | warning | error =>
    rw [Run.handle]
    exact log _ _ _
  | delay =>
    rw [Run.handle]
    refine .bind (text bound "policy") fun raw => ?_
    refine .bind (given ((FailsAs.policy raw).mono ScriptError.isOfHandler_of_isOfCheck))
      fun policy => change fun _ => rfl
  | sleep =>
    rw [Run.handle]
    refine .bind (text bound "duration") fun raw => ?_
    refine .bind (given ((FailsAs.readRange raw).mono ScriptError.isOfHandler_of_isOfCheck))
      fun range => .bind (.changeGet fun _ h => h) fun d => .bind (log _ _ _) fun _ => ?_
    exact change fun m => store_pauseOn setup d m
  | browser =>
    rw [Run.handle]
    exact openBrowser bound
  | close =>
    rw [Run.handle]
    exact .bind requireSession fun _ => (lasting vars setup).endSession
  | visit =>
    rw [Run.handle]
    refine .bind requireSession fun _ => .bind (text bound "url") fun url => ?_
    exact .bind (log _ _ _) fun _ => leavePage _
  | back | forward | refresh =>
    rw [Run.handle]
    exact .bind requireSession fun _ => leavePage _
  | select =>
    rw [Run.handle]
    refine .bind requireSession fun _ => .bind (locator bound) fun l => ?_
    exact .bind (seek l _) fun _ => log _ _ _
  | focused =>
    rw [Run.handle]
    exact .bind requireSession fun _ => .bind (demand _) fun _ => change fun _ => rfl
  | click =>
    rw [Run.handle]
    refine .bind requireSession fun _ => .ite (fun _ => ?_) fun _ => ?_
    · refine .bind (locator bound) fun l => .bind (seek l _) fun _ => ?_
      exact .bind activeElement fun e => .bind (demand _) fun _ => hdone
    · exact .bind activeElement fun e => .bind (demand _) fun _ => hdone
  | write =>
    rw [Run.handle]
    refine .bind requireSession fun _ => .bind activeElement fun e => ?_
    exact .bind (demand _) fun _ => hdone
  | press =>
    rw [Run.handle]
    refine .bind requireSession fun _ => .bind activeElement fun e => ?_
    exact .bind (given (.keyText bound.rest)) fun keys => .bind (demand _) fun _ => hdone
  | waitTill =>
    rw [Run.handle]
    refine .bind requireSession fun _ => ?_
    refine .bind (given (.condition ScriptError.isOfHandler_of_isOfCheck (.text bound "condition")))
      fun c => .bind ((lasting vars setup).waitFor c _) fun _ => log _ _ _
  | windows =>
    rw [Run.handle]
    exact .bind requireSession fun _ => .bind (demand _) fun _ => log _ _ _
  | timeouts =>
    rw [Run.handle]
    exact .bind requireSession fun _ => .bind (demand _) fun _ => hdone

end Spares

/-! ### What a step writes -/

/-- Since one moment of a run, some calls were made and no variable was written. -/
structure Since (m₀ : Machine β) (calls : List Answered) (m : Machine β) : Prop where
  store : m.store = m₀.store
  events : ∃ events, m.events = m₀.events ++ events ∧ answeredIn events = calls

namespace Since

variable {m₀ m : Machine β} {calls : List Answered}

theorem refl (m : Machine β) : Since m [] m := ⟨rfl, [], (List.append_nil _).symm, rfl⟩

theorem answered (h : Since m₀ calls m) : answeredIn (eventsBetween m₀ m) = calls := by
  obtain ⟨events, hevents, hcalls⟩ := h.events
  rw [eventsBetween_eq hevents, hcalls]

theorem note (h : Since m₀ calls m) (entry : Log.Entry) : Since m₀ calls (m.note entry) := by
  obtain ⟨events, hevents, hcalls⟩ := h.events
  refine ⟨h.store, events ++ m.logged [entry], ?_, ?_⟩
  · rw [Machine.note_eq, ← List.append_assoc, ← hevents]
    simp [Machine.events]
  · rw [answeredIn_append, hcalls, answeredIn_logs fun _ => Machine.isLog_of_mem_logged,
      List.append_nil]

theorem callOn (h : Since m₀ calls m) (setup : Setup β) (call : Call) :
    Since m₀ (calls ++ [⟨call, (callOn setup call m).1⟩]) (callOn setup call m).2 := by
  obtain ⟨events, hevents, hcalls⟩ := h.events
  refine ⟨(store_callOn setup call m).trans h.store,
    events ++ .call m.time.now call (Run.callOn setup call m).1 :: afterCall setup call m, ?_, ?_⟩
  · rw [callOn_events, hevents, List.append_assoc]
  · rw [answeredIn_append, hcalls, answeredIn_call_cons, answeredIn_afterCall]

end Since

/-- The bound arguments say what the words say: what to write, or where to put a result. -/
structure Reflects (bound : Bound) (args : List String × Dict Named) (h : Handler) : Prop where
  assignment : h = .set ∨ h = .default → ∃ name value, args = ([name, value], []) ∧
    bound.text "name" = .ok name ∧ bound.text "value" = .ok value
  target : h = .script ∨ h = .url →
    args.2 = ((bound.text? "into").map fun name => ("into", Named.text name)).toList

/-- What a step writes that succeeds has been written, and nothing else. -/
def Wrote (m₀ : Machine β) (args : List String × Dict Named) (h : Handler) (m : Machine β) : Prop :=
  ∃ write, Writes args m₀.store (answeredIn (eventsBetween m₀ m)) h write ∧
    m.store = m₀.store.setTexts write.toList

/-- A result is put into the variable that the words name, or logged. -/
theorem store_wrote {m₀ : Machine β} {args : List String × Dict Named} {bound : Bound} {h : Handler}
    (hh : h = .script ∨ h = .url) (hreflects : Reflects bound args h) {calls : List Answered}
    {text : String} (hwrites : ∀ name, args.2 = [("into", .text name)] →
      Writes args m₀.store calls h (some (name, text))) (label : String) :
    Ensures (Since m₀ calls) (store bound label text) (fun _ => Wrote m₀ args h)
      (Fruitless m₀.store) := by
  have htarget := hreflects.target hh
  unfold Run.store
  cases hinto : bound.text? "into" with
  | some name =>
    rw [hinto] at htarget
    refine .bind (.change (Q := fun _ => Since m₀ calls) fun m hm => hm.note _) fun _ => ?_
    refine .change fun m hm => ⟨some (name, text), ?_, ?_⟩
    · have hcalls : answeredIn (eventsBetween m₀ m) = calls := hm.answered
      exact hcalls ▸ hwrites name htarget
    · exact congrArg (Variables.set name (.text text)) hm.store
  | none =>
    rw [hinto] at htarget
    exact .change fun m hm => ⟨none, .logged hh htarget, hm.store⟩

theorem demand_since (m₀ : Machine β) (setup : Setup β) (call : Call) :
    Ensures (Since m₀ []) (demand setup call) (fun a => Since m₀ [⟨call, .ok a⟩])
      (Fruitless m₀.store) := by
  refine .demand (fun m a ha hm => ?_) fun m e he hm => ?_
  · rw [← ha]
    exact hm.callOn setup call
  · exact ⟨(hm.callOn setup call).store, rfl⟩

theorem requireSession_since (m₀ : Machine β) :
    Ensures (Since m₀ []) requireSession (fun _ => Since m₀ []) (Fruitless m₀.store) :=
  .weaken (.requireSession fun _ hm => ⟨hm.store, rfl⟩) fun _ _ hm => hm.2

theorem assignDefault_since (m₀ : Machine β) (name text : String) :
    Ensures (Since m₀ []) (assignDefault name text)
      (fun written m => m₀.store.contains name = !written ∧
        m.store = m₀.store.setDefault name (.text text)) (Fruitless m₀.store) := by
  refine .changeGet fun m hm => ?_
  rw [hm.store, Bool.not_not]
  exact ⟨rfl, rfl⟩

theorem handle_wrote (m₀ : Machine β) (setup : Setup β) {bound : Bound}
    {args : List String × Dict Named} {h : Handler} (hreflects : Reflects bound args h) :
    Ensures (Since m₀ []) (handle setup bound h) (fun _ => Wrote m₀ args h)
      (Fruitless m₀.store) := by
  cases h with
  | set =>
    obtain ⟨name, value, hargs, hname, hvalue⟩ := hreflects.assignment (.inl rfl)
    rw [handle, hname, hvalue]
    refine .given (.given ?_)
    refine .bind (.change (Q := fun _ => Since m₀ []) fun m hm => hm.note _) fun _ => ?_
    exact .change fun m hm =>
      ⟨some (name, value), .set hargs, congrArg (Variables.set name (.text value)) hm.store⟩
  | default =>
    obtain ⟨name, value, hargs, hname, hvalue⟩ := hreflects.assignment (.inr rfl)
    rw [handle, hname, hvalue]
    refine .given (.given (.bind (assignDefault_since m₀ name value) fun written => ?_))
    refine .ite (fun hwritten => .change fun m hm => ?_) fun hkept => .done fun m hm => ?_
    · have habsent : m₀.store.contains name = false := hm.1.trans (by rw [hwritten]; rfl)
      exact ⟨some (name, value), .default hargs habsent,
        hm.2.trans (Variables.setDefault_of_absent habsent _)⟩
    · have hpresent : m₀.store.contains name = true :=
        hm.1.trans (by rw [Bool.of_not_eq_true hkept]; rfl)
      exact ⟨none, .present hargs hpresent,
        hm.2.trans (Variables.setDefault_of_present hpresent _)⟩
  | script =>
    rw [handle]
    refine .bind (requireSession_since m₀) fun _ => .bind (demand_since m₀ setup _) fun result => ?_
    exact store_wrote (.inl rfl) hreflects
      (fun name hinto => .script hinto rfl (isTextOf_resultText result)) _
  | url =>
    rw [handle]
    refine .bind (requireSession_since m₀) fun _ => .bind (demand_since m₀ setup _) fun url => ?_
    exact store_wrote (.inr rfl) hreflects (fun name hinto => .url hinto rfl) _
  | _ =>
    refine .weaken (.of_imp (fun m hm => hm.store) (Spares.handle rfl bound)) fun _ m hm => ?_
    exact ⟨none, .other rfl, hm⟩

end Run

/-! ### The table of actions -/

/-- Whether parameters give a handler that can write a variable what it takes for an assignment or
for the place of its result. -/
def Handler.isPlacedBy : Handler → List Param → Bool
  | .set, params | .default, params => params == Registry.assignmentParams
  | .script, params => params == [.variadic "code" .text, Registry.intoParam]
  | .url, params => params == [Registry.intoParam]
  | _, _ => true

def Definition.isPlaced : Definition → Bool
  | .action _ handler params => handler.isPlacedBy params
  | .synonym .. => true

theorem Registry.isPlacedBy_of_standard {name : String} {a : Action}
    (ha : standard.get? name = some a) : a.handler.isPlacedBy a.params = true := by
  have htable : standardDefinitions.all Definition.isPlaced = true := by decide
  obtain ⟨raw, hmem⟩ := exists_definition_of_standard ha
  exact List.all_eq_true.mp htable _ hmem

namespace Binding

variable {vars : Variables} {action : Action} {words : List String} {bound : Bound}

theorem exists_assignment_of_bind (hparams : action.params = Registry.assignmentParams)
    (h : bind vars action words = .ok bound) :
    ∃ name value, Arguments.split words = ([name, value], []) ∧
      bound.text "name" = .ok name ∧ bound.text "value" = .ok value := by
  obtain ⟨s, hs, hpositional, hnamed, rfl⟩ := exists_progress_of_bind h
  rw [hparams] at hs
  rcases hwords : Arguments.split words with ⟨_ | ⟨name, _ | ⟨value, rest⟩⟩, named⟩
  · rw [hwords] at hs
    nomatch hs
  · rw [hwords] at hs
    nomatch hs
  · rw [hwords] at hs
    obtain rfl := Except.ok.inj hs
    obtain rfl : rest = [] := hpositional
    obtain rfl : named = [] := hnamed
    exact ⟨name, value, rfl, rfl, rfl⟩

/-- An option whose name has no underscore is written in one way. -/
theorem takeOption_of_plain (name : String) (hname : Text.replaceChar '_' '-' name = name)
    (named : Dict Named) :
    takeOption name named = (Dict.get? name named, Dict.erase name named) := by
  unfold takeOption
  dsimp only
  rw [hname]
  split
  case h_1 v hv => rw [hv]
  case h_2 => rfl

/-- Where nothing but a place for the result is named, the place that is bound is the one named. -/
theorem Takes.named_eq_of_into {s s' : Progress} (h : Takes vars action Registry.intoParam s s')
    (hunbound : s.bound.get? "into" = none) (hrest : s'.named = []) :
    s.named = ((s'.bound.text? "into").map fun name => ("into", Named.text name)).toList := by
  cases h with
  | positional hkind | rest hkind | options hkind | noPositional hkind => cases hkind
  | noOption hkind hnamed hdefault =>
    rw [hrest, Bound.text?, hunbound]
    rfl
  | @option value named v hkind hnamed hv =>
    obtain rfl : named = [] := hrest
    have htaken := takeOption_of_plain "into" (by decide) s.named
    obtain ⟨hget, herase⟩ := Prod.ext_iff.mp (hnamed.symm.trans htaken)
    rw [Dict.eq_singleton hget.symm herase.symm, Bound.text?, Bound.get?, Dict.get?_insert]
    -- A bare `--into` does not bind, since it names no place.
    cases value with
    | text raw =>
      obtain rfl := Except.ok.inj hv
      rfl
    | flag => cases hv

theorem named_eq_of_bind
    (hparams : action.params = [.variadic "code" .text, Registry.intoParam] ∨
      action.params = [Registry.intoParam])
    (h : bind vars action words = .ok bound) :
    (Arguments.split words).2 =
      ((bound.text? "into").map fun name => ("into", Named.text name)).toList := by
  obtain ⟨s, hs, hpositional, hnamed, rfl⟩ := exists_progress_of_bind h
  rcases hparams with hparams | hparams
  · rw [hparams] at hs
    obtain ⟨middle, hcode, hmore⟩ := exists_of_bind_eq_ok hs
    obtain ⟨last, hinto, hlast⟩ := exists_of_bind_eq_ok hmore
    obtain rfl := Except.ok.inj hlast
    obtain ⟨vs, -, hmiddle⟩ := exists_of_bind_eq_ok hcode
    obtain rfl := Except.ok.inj hmiddle
    exact (takes_of_bindParam hinto).named_eq_of_into rfl hnamed
  · rw [hparams] at hs
    obtain ⟨last, hinto, hlast⟩ := exists_of_bind_eq_ok hs
    obtain rfl := Except.ok.inj hlast
    exact (takes_of_bindParam hinto).named_eq_of_into rfl hnamed

end Binding

namespace Run

variable {β : Type}

/-- The built-in actions bind what their words say. -/
theorem Reflects.of_bind {vars : Variables} {name : String} {action : Action}
    {words : List String} {bound : Bound} (haction : Registry.standard.get? name = some action)
    (hbind : Binding.bind vars action words = .ok bound) :
    Reflects bound (Arguments.split words) action.handler := by
  have hplaced := Registry.isPlacedBy_of_standard haction
  refine ⟨fun hh => ?_, fun hh => ?_⟩
  · refine Binding.exists_assignment_of_bind ?_ hbind
    rcases hh with hh | hh
    · rw [hh] at hplaced
      exact eq_of_beq hplaced
    · rw [hh] at hplaced
      exact eq_of_beq hplaced
  · refine Binding.named_eq_of_bind ?_ hbind
    rcases hh with hh | hh
    · rw [hh] at hplaced
      exact .inl (eq_of_beq hplaced)
    · rw [hh] at hplaced
      exact .inr (eq_of_beq hplaced)

/-- With the built-in actions, a step that succeeds writes what its words say, and one that fails
writes nothing. -/
theorem step_wrote {setup : Setup β} (hregistry : setup.registry = Registry.standard)
    (i : Instruction) (m₀ : Machine β) :
    Ensures (Since m₀ []) (step setup i)
      (fun _ m => ∃ write, StepWrites setup i m₀ m write ∧
        m.store = m₀.store.setTexts write.toList) (Fruitless m₀.store) := by
  rw [step]
  cases haction : setup.registry.get? i.action with
  | none => exact .fail fun _ hm => ⟨hm.store, rfl⟩
  | some action =>
    refine .readBind fun m hm => .of_imp (fun _ h => h ▸ hm) ?_
    dsimp only
    rw [hm.store]
    cases hwords : expandAll m₀.store i.args with
    | error e =>
      have hown := ScriptError.isOwn_of_isOfTemplate e (expandAll_fails _ _ e hwords)
      exact .missing fun _ hm => ⟨hm.store, ScriptError.exitStatus_of_isOwn hown⟩
    | ok words =>
      refine .given ?_
      cases hbind : Binding.bind m₀.store action words with
      | error e =>
        have hown := ScriptError.isOwn_of_isOfBinding e (Binding.bind_fails _ _ _ e hbind)
        exact .missing fun _ hm => ⟨hm.store, ScriptError.exitStatus_of_isOwn hown⟩
      | ok bound =>
        refine .given (.bind (.change (Q := fun _ => Since m₀ []) fun _ hm => hm.note _) ?_)
        rintro ⟨⟩
        have hstandard : Registry.standard.get? i.action = some action := hregistry ▸ haction
        refine .weaken (handle_wrote m₀ setup (.of_bind hstandard hbind)) fun _ m hwrote => ?_
        obtain ⟨write, hwrites, hstore⟩ := hwrote
        exact ⟨write, ⟨action, words, haction, hwords, hwrites⟩, hstore⟩

theorem stepInSpan_wrote {setup : Setup β} (hregistry : setup.registry = Registry.standard)
    (i : Instruction) (m : Machine β) :
    Ends (fun _ m' => ∃ write, StepWrites setup i m m' write ∧
      m'.store = m.store.setTexts write.toList) (Fruitless m.store) (stepInSpan setup i m) :=
  (step_wrote hregistry i m).ends _ ⟨rfl, [], (List.append_nil _).symm, rfl⟩

/-! ### Runs -/

theorem store_paceOn (setup : Setup β) (m : Machine β) : (paceOn setup m).store = m.store := by
  rw [paceOn_eq]
  split
  · rfl
  · rw [store_pauseOn]
    rfl

theorem store_reportOn (e : ScriptError) (m : Machine β) : (reportOn e m).store = m.store := by
  unfold reportOn
  cases e <;> rfl

theorem store_settleOn (setup : Setup β) (m : Machine β) (outcome : Except Halt Unit) :
    (settleOn setup m outcome).store = m.store := by
  unfold settleOn
  split
  · exact store_paceOn setup m
  · dsimp only
    split
    · rw [store_paceOn, store_reportOn]
    · exact store_reportOn _ m
  · rfl

theorem store_release (setup : Setup β) (m : Machine β) : (release setup m).store = m.store := by
  cases hopen : m.sessionOpen with
  | true =>
    rw [release_of_open hopen]
    exact store_callOn setup _ _
  | false => rw [release_of_closed hopen]

theorem store_stopIfInterrupted (m : Machine β) :
    ((stopIfInterrupted : Exec β Unit) m).2.store = m.store := by
  cases hraised : m.time.raised with
  | true =>
    rw [stopIfInterrupted_of_raised hraised]
    rfl
  | false => rw [stopIfInterrupted_of_lowered hraised]

theorem store_runInstruction {setup : Setup β} {i : Instruction} {m m' : Machine β}
    {outcome : Except Halt Unit} (h : stepInSpan setup i m = (outcome, m')) :
    (runInstruction setup i m).2.store = m'.store := by
  cases outcome with
  | error halt =>
    rw [runInstruction_of_error h]
    exact store_settleOn setup m' _
  | ok _ =>
    rw [runInstruction_of_ok h]
    exact (store_settleOn setup _ _).trans (store_stopIfInterrupted m')

theorem exists_told {setup : Setup β} (hregistry : setup.registry = Registry.standard)
    (script : List Instruction) (m : Machine β) :
    ∃ writes, Told setup script m writes ∧
      (runInstructions setup script m).2.store = m.store.setTexts writes := by
  -- The writes of the rest start from the variables that this instruction leaves, so the machine is
  -- generalized.
  induction script generalizing m with
  | nil => exact ⟨[], .finished m, rfl⟩
  | cons i rest ih =>
    cases hdown : m.time.raised with
    | true =>
      rw [runInstructions_of_raised setup i rest hdown]
      exact ⟨[], .unstarted hdown, rfl⟩
    | false =>
      have hwrote := stepInSpan_wrote hregistry i m
      rcases hstep : stepInSpan setup i m with ⟨halt | ⟨⟩, m'⟩
      · rw [hstep] at hwrote
        refine ⟨[], .failed hdown hstep, ?_⟩
        rw [runInstructions_of_error rest hdown (runInstruction_of_error hstep)]
        exact (store_settleOn setup m' _).trans hwrote.1
      · rw [hstep] at hwrote
        obtain ⟨write, hwrite, hstore⟩ := hwrote
        have hsettled : (runInstruction setup i m).2.store = m.store.setTexts write.toList :=
          (store_runInstruction hstep).trans hstore
        have hverdict := congrArg Prod.fst (runInstruction_of_ok hstep)
        cases hraised : m'.time.raised with
        | true =>
          rw [stopIfInterrupted_of_raised hraised] at hverdict
          have hrun : runInstruction setup i m = (_, (runInstruction setup i m).2) :=
            Prod.ext hverdict rfl
          refine ⟨write.toList, .stopped hdown hstep hwrite hraised, ?_⟩
          rw [runInstructions_of_error rest hdown hrun]
          exact hsettled
        | false =>
          rw [stopIfInterrupted_of_lowered hraised] at hverdict
          have hrun : runInstruction setup i m = (_, (runInstruction setup i m).2) :=
            Prod.ext hverdict rfl
          obtain ⟨writes, htold, hrest⟩ := ih (runInstruction setup i m).2
          refine ⟨write.toList ++ writes, .stepped hdown hstep hwrite hrun htold, ?_⟩
          rw [runInstructions_of_ok rest hdown hrun, hrest, hsettled, Variables.setTexts_append]

/-- Variables change only where the script says so.  With the built-in actions, whatever the browser
answers and whenever an interrupt comes, the variables after a run are those from before it with the
writes of its steps in order, and steps that fail or are never started write nothing.  No variable
is lost, one that is not written keeps its content, and one that is written holds a plain text. -/
theorem variables_change_as_told {setup : Setup β} (hregistry : setup.registry = Registry.standard)
    (script : List Instruction) (m : Machine β) :
    ∃ writes, Told setup script m writes ∧
      (run setup script m).2.store = m.store.setTexts writes ∧
      ∀ name,
        ((∀ text, (name, text) ∉ writes) →
          (run setup script m).2.store.get? name = m.store.get? name) ∧
        (m.store.contains name = true → (run setup script m).2.store.contains name = true) ∧
        ((∃ text, (name, text) ∈ writes) → ∃ text, (name, text) ∈ writes ∧
          (run setup script m).2.store.get? name = some (.text text)) := by
  obtain ⟨writes, htold, hstore⟩ := exists_told hregistry script m
  have hrun : (run setup script m).2.store = m.store.setTexts writes :=
    (store_release setup _).trans hstore
  refine ⟨writes, htold, hrun, fun name => ?_⟩
  rw [hrun]
  exact ⟨m.store.get?_setTexts_of_not_mem, m.store.contains_setTexts, m.store.exists_get?_setTexts⟩

def recording : Setup Recorder where
  registry := Registry.standard
  settings := {}
  backend := Recorder.backend
  clock := .millisecond
  draws _ := 0
  idleRounds := 0

/-- A key constant, a plain text, and a browser in which some scripts have results. -/
def stocked : Machine Recorder :=
  .start ⟨[("@TAB", .key ⟨"TAB", '\ue004'⟩), ("A", .text "a")]⟩
    { results := [("title", .string "Start"), ("size", .object [("w", .integer 80)])] }

/-- The second default comes too late, a key constant gives way to a text, the place of the page is
noted under a name from a variable, scripts return a text, an object and nothing, and the last but
one refers to a variable that is missing. -/
def assigning : List Instruction :=
  [⟨"script", 1, "default", ["NAME", "one"]⟩, ⟨"script", 2, "default", ["NAME", "two"]⟩,
   ⟨"script", 3, "set", ["@TAB", "$NAME!"]⟩, ⟨"script", 4, "browser", ["firefox"]⟩,
   ⟨"script", 5, "url", ["--into", "at-$A"]⟩, ⟨"script", 6, "script", ["title", "--into", "T"]⟩,
   ⟨"script", 7, "script", ["size", "--into", "S"]⟩, ⟨"script", 8, "script", ["--into", "A", "x"]⟩,
   ⟨"script", 9, "set", ["LATER", "$MISSING"]⟩, ⟨"script", 10, "set", ["NAME", "three"]⟩]

def assigned : Variables :=
  ⟨[("@TAB", .text "one!"), ("A", .text ""), ("NAME", .text "one"), ("at-a", .text "about:blank"),
    ("T", .text "Start"), ("S", .text "\x7b\"w\":80\x7d")]⟩

theorem variables_change_as_told_assigning :
    ∃ writes, Told recording assigning stocked writes ∧
      stocked.store.setTexts writes = assigned := by
  have hregistry : recording.registry = Registry.standard := by rw [recording]
  obtain ⟨writes, htold, hstore, -⟩ := variables_change_as_told hregistry assigning stocked
  have hend : (run recording assigning stocked).2.store = assigned := by decide +kernel
  exact ⟨writes, htold, hstore.symm.trans hend⟩

end Run

end BrowserScript
