import BrowserScript.Proofs.Binding
import BrowserScript.Proofs.Ensures

/-!
# Failed steps

A step that fails by itself fails before it has called the browser or changed anything.  One that
fails from outside, through the browser, a time limit or an interrupt, may have called the browser,
but it has not come to the point where it writes a variable or changes the policy.
-/

namespace BrowserScript

namespace ScriptError

/-- Whether an error comes from outside the script: from the browser, the clock or an interrupt. -/
def isOutside : ScriptError → Bool
  | .browser _ | .timeout .. | .exit _ => true
  | _ => false

/-- Whether an error is one that a step finds by itself, in its words, its arguments or the state of
the run. -/
def isOwn : ScriptError → Bool
  | .value .. | .missingVariable _ | .unclosedBrace _ | .binding .. | .noSession | .noElement
  | .internal _ => true
  | _ => false

/-- Whether an error is one that the handler of an action finds in its arguments or in the state of
the run, once the words of the step are bound. -/
def isOfCheck : ScriptError → Bool
  | .value .. | .binding _ (.conditionWithoutArgument _) | .binding _ (.unknownCondition _)
  | .noSession | .noElement => true
  | _ => false

/-- Whether an error is one that the handler of an action finds by itself, once the words of the
step are bound: what it checks, or an argument that it takes for granted. -/
def isOfHandler : ScriptError → Bool
  | .internal _ => true
  | e => e.isOfCheck

/-- Whether an error says that words do not fit the parameters of an action. -/
def isOfBinding : ScriptError → Bool
  | .value .. | .binding .. => true
  | _ => false

/-- Whether an error says that a word names no variable or is no template. -/
def isOfTemplate : ScriptError → Bool
  | .missingVariable _ | .unclosedBrace _ => true
  | _ => false

theorem isOfBinding_of_isMisfit (e : ScriptError) (h : e.isMisfit = true) :
    e.isOfBinding = true := by
  cases e <;> simp_all [isMisfit, isOfBinding]

theorem isOwn_of_isOfBinding (e : ScriptError) (h : e.isOfBinding = true) : e.isOwn = true := by
  cases e <;> simp_all [isOfBinding, isOwn]

theorem isOfHandler_of_isOfCheck (e : ScriptError) (h : e.isOfCheck = true) :
    e.isOfHandler = true := by
  cases e <;> simp_all [isOfHandler, isOfCheck]

theorem isOwn_of_isOfHandler (e : ScriptError) (h : e.isOfHandler = true) : e.isOwn = true := by
  cases e <;> simp_all [isOfHandler, isOfCheck, isOwn]

theorem isOwn_of_isOfTemplate (e : ScriptError) (h : e.isOfTemplate = true) :
    e.isOwn = true := by
  cases e <;> simp_all [isOfTemplate, isOwn]

end ScriptError

/-! ### The errors that a step finds by itself -/

/-- Binding fails only for a value or for a misfit of arguments and parameters. -/
theorem Binding.bind_fails (vars : Variables) (action : Action) (words : List String) :
    FailsAs ScriptError.isOfBinding (Binding.bind vars action words) := by
  have hparams := Binding.bindParams_misfit vars action action.params
  refine .bind ((hparams _).mono ScriptError.isOfBinding_of_isMisfit) fun s => ?_
  unfold Binding.finish
  split
  · exact .ok _
  · exact .error rfl
  · exact .error rfl

theorem Run.expandAll_fails (vars : Variables) (raws : List String) :
    FailsAs ScriptError.isOfTemplate (Run.expandAll vars raws) := by
  induction raws with
  | nil => exact .ok _
  | cons raw rest ih =>
    refine .bind ?_ fun s => .bind ih fun ss => .ok _
    unfold Run.expandText
    split
    · exact .ok _
    · exact .error rfl
    · exact .error rfl

/-- The parameters whose texts a handler takes for granted. -/
def Handler.needs : Handler → List String
  | .set | .default => ["name", "value"]
  | .delay => ["policy"]
  | .sleep => ["duration"]
  | .browser => ["name"]
  | .visit => ["url"]
  | .select => ["query"]
  | .waitTill => ["condition"]
  | _ => []

/-- The errors that a handler finds by itself are of a kind: what it checks, and what it reports if
an argument is not there that it takes for granted. -/
structure Judges (kind : ScriptError → Bool) (bound : Bound) (h : Handler) : Prop where
  check : ∀ e : ScriptError, e.isOfCheck = true → kind e = true
  text : ∀ name ∈ h.needs, FailsAs kind (bound.text name)
  keys : h = .press → FailsAs kind (Run.keyText bound.rest)

namespace FailsAs

variable {kind : ScriptError → Bool}

theorem text (bound : Bound) (name : String) :
    FailsAs ScriptError.isOfHandler (bound.text name) := by
  unfold Bound.text
  split
  · exact .ok _
  · exact .error rfl

/-- A text that is bound is there. -/
theorem text_of_isSome {bound : Bound} {name : String} (h : (bound.get? name).isSome = true) :
    FailsAs kind (bound.text name) := by
  obtain ⟨v, hv⟩ := Option.isSome_iff_exists.mp h
  rw [Bound.text, Bound.text?, hv]
  exact .ok _

theorem keyText (keys : List Value) : FailsAs ScriptError.isOfHandler (Run.keyText keys) := by
  induction keys with
  | nil => exact .ok _
  | cons v rest ih =>
    unfold Run.keyText
    split
    · exact .bind ih fun _ => .ok _
    · exact .error rfl

theorem readRange (text : String) : FailsAs ScriptError.isOfCheck (DelayPolicy.readRange text) := by
  unfold DelayPolicy.readRange
  split
  · exact .ok _
  case h_2 e _ => cases e <;> exact .error rfl

theorem policy (text : String) : FailsAs ScriptError.isOfCheck (DelayPolicy.ofText text) := by
  unfold DelayPolicy.ofText
  dsimp only
  split
  · exact .ok _
  · split
    · exact .ok _
    case h_2 e h => exact .error (readRange _ e h)

theorem strategy (bound : Bound) : FailsAs ScriptError.isOfCheck (Run.strategy bound) := by
  unfold Run.strategy
  split
  · exact .ok _
  · split
    · exact .ok _
    · exact .error rfl

theorem locator (hcheck : ∀ e : ScriptError, e.isOfCheck = true → kind e = true) {bound : Bound}
    (hquery : FailsAs kind (bound.text "query")) : FailsAs kind (Run.locator bound) :=
  .bind hquery fun _ => .bind ((strategy bound).mono hcheck) fun _ => .ok _

theorem condition (hcheck : ∀ e : ScriptError, e.isOfCheck = true → kind e = true) {bound : Bound}
    (hname : FailsAs kind (bound.text "condition")) : FailsAs kind (Run.condition bound) := by
  refine .bind hname fun given => ?_
  dsimp only
  split
  · exact .error (hcheck _ rfl)
  · refine .bind ((strategy bound).mono hcheck) fun s => ?_
    split
    · exact .ok _
    split
    · exact .ok _
    split
    · exact .ok _
    split
    · exact .ok _
    · exact .error (hcheck _ rfl)

end FailsAs

theorem Judges.handler (bound : Bound) (h : Handler) :
    Judges ScriptError.isOfHandler bound h where
  check := ScriptError.isOfHandler_of_isOfCheck
  text name _ := .text bound name
  keys _ := .keyText bound.rest

namespace Run

variable {β α : Type}

/-- The variables and the policy are as they were. -/
structure Kept (m₀ m : Machine β) : Prop where
  store : m.store = m₀.store
  policy : m.policy = m₀.policy

/-- Nothing but the log has changed: the browser was not called, and the session, the active
element, the variables and the policy are as they were. -/
structure Untouched (m₀ m : Machine β) : Prop extends Kept m₀ m where
  calls : answeredIn m.events = answeredIn m₀.events
  browser : m.browser = m₀.browser
  sessionOpen : m.sessionOpen = m₀.sessionOpen
  active : m.active = m₀.active

/-- What a part of a step leaves that fails from outside or finds an error of a kind. -/
def FailedAs (kind : ScriptError → Bool) (m₀ : Machine β) : Halt → Machine β → Prop
  | .failed e, m => Kept m₀ m ∧ (e.isOutside = true ∨ kind e = true ∧ Untouched m₀ m)
  | .unfinished, _ => True

abbrev FailedFrom (m₀ : Machine β) : Halt → Machine β → Prop := FailedAs ScriptError.isOwn m₀

theorem FailedAs.mono {kind other : ScriptError → Bool} {m₀ m : Machine β} {halt : Halt}
    (h : FailedAs kind m₀ halt m) (hother : ∀ e, kind e = true → other e = true) :
    FailedAs other m₀ halt m := by
  cases halt with
  | failed e => exact ⟨h.1, h.2.imp_right fun hown => ⟨hother e hown.1, hown.2⟩⟩
  | unfinished => trivial

theorem Kept.note {m₀ m : Machine β} (h : Kept m₀ m) (entry : Log.Entry) : Kept m₀ (m.note entry) :=
  ⟨h.store, h.policy⟩

theorem Untouched.note {m₀ m : Machine β} (h : Untouched m₀ m) (entry : Log.Entry) :
    Untouched m₀ (m.note entry) := by
  refine ⟨h.toKept.note entry, ?_, h.browser, h.sessionOpen, h.active⟩
  rw [Machine.note_eq, ← h.calls]
  simp [Machine.events, answeredIn_logs fun _ => Machine.isLog_of_mem_logged]

theorem Untouched.refl (m : Machine β) : Untouched m m := ⟨⟨rfl, rfl⟩, rfl, rfl, rfl, rfl⟩

theorem Untouched.failed {kind : ScriptError → Bool} {m₀ m : Machine β} (h : Untouched m₀ m)
    {e : ScriptError} (he : kind e = true) : FailedAs kind m₀ (.failed e) m :=
  ⟨h.toKept, .inr ⟨he, h⟩⟩

theorem Kept.failed {kind : ScriptError → Bool} {m₀ m : Machine β} (h : Kept m₀ m)
    {e : ScriptError} (he : e.isOutside = true) : FailedAs kind m₀ (.failed e) m := ⟨h, .inl he⟩

theorem Kept.callOn {m₀ m : Machine β} (h : Kept m₀ m) (setup : Setup β) (call : Call) :
    Kept m₀ (callOn setup call m).2 := by
  rw [callOn_snd]
  exact ⟨h.store, h.policy⟩

theorem Ensures.untouched {kind : ScriptError → Bool} {m₀ : Machine β} {r : Except ScriptError α}
    (hr : FailsAs kind r) :
    Ensures (Untouched m₀) (Run.require r) (fun _ => Untouched m₀) (FailedAs kind m₀) :=
  .require (fun _ _ _ h => h) fun _ e he h => h.failed (hr e he)

/-- A part of a handler that only checks: if it fails, it fails by itself and has changed
nothing. -/
abbrev Checks (kind : ScriptError → Bool) (m₀ : Machine β) (x : Exec β α) : Prop :=
  Ensures (Untouched m₀) x (fun _ => Untouched m₀) (FailedAs kind m₀)

/-- A part of a handler that may call the browser: if it fails, it fails from outside. -/
abbrev Calls (kind : ScriptError → Bool) (m₀ : Machine β) (x : Exec β α) : Prop :=
  Ensures (Kept m₀) x (fun _ => Kept m₀) (FailedAs kind m₀)

/-- The rest of a handler, from machines with `P` on: where it fails, it leaves what a failed step
leaves. -/
abbrev Finishes (kind : ScriptError → Bool) (m₀ : Machine β) (P : Machine β → Prop)
    (x : Exec β α) : Prop :=
  Ensures P x (fun _ _ => True) (FailedAs kind m₀)

namespace Checks

variable {kind : ScriptError → Bool} {m₀ : Machine β}

theorem require {r : Except ScriptError α} (hr : FailsAs kind r) : Checks kind m₀ (require r) :=
  .untouched hr

theorem requireSession (hcheck : ∀ e : ScriptError, e.isOfCheck = true → kind e = true) :
    Checks kind m₀ (requireSession : Exec β Unit) :=
  .weaken (Ensures.requireSession fun _ h => h.failed (hcheck _ rfl)) fun _ _ h => h.2

theorem activeElement (hcheck : ∀ e : ScriptError, e.isOfCheck = true → kind e = true) :
    Checks kind m₀ (activeElement : Exec β ElementRef) :=
  .weaken (Ensures.activeElement fun _ _ h => h.failed (hcheck _ rfl)) fun _ _ h => h.2

theorem log (level : Log.Level) (message : String) (fields : List (String × Log.Content)) :
    Checks kind m₀ (log level message fields : Exec β Unit) :=
  .change fun _ h => h.note _

end Checks

namespace Calls

variable {kind : ScriptError → Bool} {m₀ : Machine β} {setup : Setup β}

/-- Calls and waits do not concern the variables and the policy, and where they stop the run, the
cause is outside. -/
theorem lasting (kind : ScriptError → Bool) (m₀ : Machine β) (setup : Setup β) :
    Lasting setup (Kept m₀) (FailedAs kind m₀) where
  note entry h := h.note entry
  call call h := h.callOn setup call
  pass time place h := by
    rw [Machine.passTo_eq]
    exact ⟨h.store, h.policy⟩
  session _ _ h := ⟨h.store, h.policy⟩
  browser _ h := h.failed rfl
  timeout _ _ h := h.failed rfl
  exit h := h.failed rfl
  unfinished _ := trivial

theorem demand (call : Call) : Calls kind m₀ (demand setup call) :=
  (lasting kind m₀ setup).demand call

theorem log (level : Log.Level) (message : String) (fields : List (String × Log.Content)) :
    Calls kind m₀ (log level message fields : Exec β Unit) :=
  .change fun _ h => h.note _

theorem seek (l : Locator) (timeout : Duration) :
    Ensures (Kept m₀) (seek setup l timeout) (fun _ m => m.active ≠ none ∧ Kept m₀ m)
      (FailedAs kind m₀) := by
  refine .bind ((lasting kind m₀ setup).pollFind l timeout) fun e => ?_
  exact .change fun m h => ⟨nofun, h.store, h.policy⟩

theorem waitFor (c : Condition) (timeout : Duration) : Calls kind m₀ (waitFor setup c timeout) :=
  (lasting kind m₀ setup).waitFor c timeout

theorem endSession : Calls kind m₀ (endSession setup) := (lasting kind m₀ setup).endSession

end Calls

namespace Finishes

variable {kind : ScriptError → Bool} {m₀ : Machine β} {setup : Setup β} {P : Machine β → Prop}

theorem log (level : Log.Level) (message : String) (fields : List (String × Log.Content)) :
    Finishes kind m₀ P (log level message fields) :=
  .change fun _ _ => trivial

theorem assign (name text : String) : Finishes kind m₀ P (assign name text) :=
  .change fun _ _ => trivial

theorem assignDefault (name text : String) :
    Ensures P (Run.assignDefault name text) (fun _ _ => True) (FailedAs kind m₀) :=
  .changeGet fun _ _ => trivial

/-- After the checks come the calls. -/
theorem calls {x : Exec β α} (hx : Calls kind m₀ x) {f : α → Exec β Unit}
    (hf : ∀ a, Finishes kind m₀ (Kept m₀) (f a)) : Finishes kind m₀ (Untouched m₀) (x >>= f) :=
  .bind (.of_imp (fun _ h => h.toKept) hx) hf

theorem leavePage (call : Call) : Finishes kind m₀ (Untouched m₀) (leavePage setup call) :=
  calls (.demand call) fun _ => .change fun _ _ => trivial

theorem store (bound : Bound) (label text : String) :
    Finishes kind m₀ P (store bound label text) := by
  unfold Run.store
  split
  · exact .bind (log _ _ _) fun _ => assign _ _
  · exact log _ _ _

theorem startSession (name : String) (options : List String) :
    Finishes kind m₀ (Kept m₀) (startSession setup name options) :=
  .bind (Calls.demand _) fun _ => .change fun _ _ => trivial

theorem openBrowser {bound : Bound} (hname : FailsAs kind (bound.text "name")) :
    Finishes kind m₀ (Untouched m₀) (openBrowser setup bound) := by
  refine .bind (Checks.require hname) fun name => .bind (.read fun _ h => h) fun m => ?_
  refine .ite (fun _ => ?_) fun _ => ?_
  · refine .bind (Checks.log _ _ _) fun _ => calls .endSession fun _ => ?_
    exact .bind (Calls.log _ _ _) fun _ => startSession _ _
  · exact calls (.log _ _ _) fun _ => startSession _ _

end Finishes

/-- However a handler fails, it leaves what a failed step leaves. -/
theorem handle_finishes {kind : ScriptError → Bool} (m₀ : Machine β) (setup : Setup β)
    {bound : Bound} {h : Handler} (hjudges : Judges kind bound h) :
    Finishes kind m₀ (Untouched m₀) (handle setup bound h) := by
  have hcheck := hjudges.check
  cases h with
  | debug | info | warning | error =>
    rw [handle]
    exact Finishes.log _ _ _
  | set =>
    rw [handle]
    refine .bind (Checks.require (hjudges.text _ (by decide))) fun name => ?_
    refine .bind (Checks.require (hjudges.text _ (by decide))) fun value => ?_
    exact .bind (Checks.log _ _ _) fun _ => Finishes.assign _ _
  | default =>
    rw [handle]
    refine .bind (Checks.require (hjudges.text _ (by decide))) fun name => ?_
    refine .bind (Checks.require (hjudges.text _ (by decide))) fun value => ?_
    refine .bind (Finishes.assignDefault _ _) fun written => .ite (fun _ => ?_) fun _ => ?_
    · exact Finishes.log _ _ _
    · exact .done fun _ _ => trivial
  | delay =>
    rw [handle]
    refine .bind (Checks.require (hjudges.text _ (by decide))) fun text => ?_
    refine .bind (Checks.require ((FailsAs.policy text).mono hcheck)) fun policy => ?_
    exact .change fun _ _ => trivial
  | sleep =>
    rw [handle]
    refine .bind (Checks.require (hjudges.text _ (by decide))) fun text => ?_
    refine .bind (Checks.require ((FailsAs.readRange text).mono hcheck)) fun range => ?_
    refine .bind (.changeGet (Q := fun _ _ => True) fun _ _ => trivial) fun d => ?_
    exact .bind (Finishes.log _ _ _) fun _ => .change fun _ _ => trivial
  | browser =>
    rw [handle]
    exact Finishes.openBrowser (hjudges.text _ (by decide))
  | close =>
    rw [handle]
    refine .bind (Checks.requireSession hcheck) fun _ => ?_
    exact .weaken (.of_imp (fun _ h => h.toKept) Calls.endSession) fun _ _ _ => trivial
  | visit =>
    rw [handle]
    refine .bind (Checks.requireSession hcheck) fun _ => ?_
    refine .bind (Checks.require (hjudges.text _ (by decide))) fun url => ?_
    exact .bind (Checks.log _ _ _) fun _ => Finishes.leavePage _
  | back | forward | refresh =>
    rw [handle]
    exact .bind (Checks.requireSession hcheck) fun _ => Finishes.leavePage _
  | select =>
    rw [handle]
    refine .bind (Checks.requireSession hcheck) fun _ => ?_
    refine .bind (Checks.require (.locator hcheck (hjudges.text _ (by decide)))) fun l => ?_
    exact .bind (.of_imp (fun _ h => h.toKept) (Calls.seek l _)) fun _ => Finishes.log _ _ _
  | focused =>
    rw [handle]
    refine .bind (Checks.requireSession hcheck) fun _ => ?_
    exact Finishes.calls (.demand _) fun e => .change fun _ _ => trivial
  | click =>
    rw [handle]
    refine .bind (Checks.requireSession hcheck) fun _ => .ite (fun hquery => ?_) fun _ => ?_
    · refine .bind (Checks.require (.locator hcheck (.text_of_isSome hquery))) fun l => ?_
      refine .bind (.of_imp (fun _ h => h.toKept) (Calls.seek l _)) fun _ => ?_
      -- The element that was sought is active, so it is not missing now.
      refine .bind (.activeElement fun m hnone h => absurd hnone h.1) fun e => ?_
      refine .bind (.of_imp (fun _ h => h.2.2) (Calls.demand _)) fun _ => ?_
      exact .done fun _ _ => trivial
    · refine .bind (Checks.activeElement hcheck) fun e => Finishes.calls (.demand _) fun _ => ?_
      exact .done fun _ _ => trivial
  | write =>
    rw [handle]
    refine .bind (Checks.requireSession hcheck) fun _ => ?_
    refine .bind (Checks.activeElement hcheck) fun e => ?_
    exact Finishes.calls (.demand _) fun _ => .done fun _ _ => trivial
  | press =>
    rw [handle]
    refine .bind (Checks.requireSession hcheck) fun _ => ?_
    refine .bind (Checks.activeElement hcheck) fun e => ?_
    refine .bind (Checks.require (hjudges.keys rfl)) fun text => ?_
    exact Finishes.calls (.demand _) fun _ => .done fun _ _ => trivial
  | waitTill =>
    rw [handle]
    refine .bind (Checks.requireSession hcheck) fun _ => ?_
    refine .bind (Checks.require (.condition hcheck (hjudges.text _ (by decide)))) fun c => ?_
    exact Finishes.calls (.waitFor c _) fun _ => Finishes.log _ _ _
  | script =>
    rw [handle]
    refine .bind (Checks.requireSession hcheck) fun _ => Finishes.calls (.demand _) fun result => ?_
    exact Finishes.store _ _ _
  | url =>
    rw [handle]
    refine .bind (Checks.requireSession hcheck) fun _ => Finishes.calls (.demand _) fun url => ?_
    exact Finishes.store _ _ _
  | windows =>
    rw [handle]
    refine .bind (Checks.requireSession hcheck) fun _ => ?_
    exact Finishes.calls (.demand _) fun handles => Finishes.log _ _ _
  | timeouts =>
    rw [handle]
    refine .bind (Checks.requireSession hcheck) fun _ => Finishes.calls (.demand _) fun _ => ?_
    exact .done fun _ _ => trivial

/-- What a step does once its words are bound. -/
theorem dispatch_finishes {kind : ScriptError → Bool} (m₀ : Machine β) (setup : Setup β)
    {bound : Bound} {action : Action} (hjudges : Judges kind bound action.handler)
    (level : Log.Level) (message : String) (fields : List (String × Log.Content)) :
    Finishes kind m₀ (Untouched m₀)
      (do log level message fields; handle setup bound action.handler) :=
  .bind (Checks.log _ _ _) fun _ => handle_finishes m₀ setup hjudges

theorem step_finishes (m₀ : Machine β) (setup : Setup β) (i : Instruction) :
    Ensures (Untouched m₀) (step setup i) (fun _ _ => True) (FailedFrom m₀) := by
  rw [step]
  cases setup.registry.get? i.action with
  | none => exact .fail fun _ h => h.failed rfl
  | some action =>
    refine .bind (.read fun _ h => h) fun m => ?_
    refine .bind (.untouched ((expandAll_fails _ _).mono ScriptError.isOwn_of_isOfTemplate))
      fun args => ?_
    refine .bind (.untouched ((Binding.bind_fails _ _ _).mono ScriptError.isOwn_of_isOfBinding))
      fun bound => ?_
    exact .weakenHalt (dispatch_finishes m₀ setup (.handler bound action.handler) _ _ _)
      fun _ _ h => h.mono ScriptError.isOwn_of_isOfHandler

/-- A step stops because its action is not registered, because its words cannot be interpolated or
bound, or where its handler does. -/
theorem step_error_cases {setup : Setup β} {i : Instruction} {m m' : Machine β} {halt : Halt}
    (h : step setup i m = (.error halt, m')) :
    (setup.registry.get? i.action = none ∧ halt = .failed (.internal (.unregistered i.action))) ∨
    (∃ e, expandAll m.store i.args = .error e ∧ halt = .failed e) ∨
    ∃ action args, setup.registry.get? i.action = some action ∧
      expandAll m.store i.args = .ok args ∧
      ((∃ e, Binding.bind m.store action args = .error e ∧ halt = .failed e) ∨
        ∃ bound level message fields, Binding.bind m.store action args = .ok bound ∧
          (do log level message fields; handle setup bound action.handler) m =
            (.error halt, m')) := by
  rw [step] at h
  cases haction : setup.registry.get? i.action with
  | none =>
    rw [haction] at h
    cases h
    exact .inl ⟨rfl, rfl⟩
  | some action =>
    simp only [haction, bind_apply_ok (get_apply m)] at h
    cases hargs : expandAll m.store i.args with
    | error e =>
      rw [hargs] at h
      cases h
      exact .inr (.inl ⟨e, rfl, rfl⟩)
    | ok args =>
      rw [hargs, require_bind_ok] at h
      refine .inr (.inr ⟨action, args, rfl, rfl, ?_⟩)
      cases hbind : Binding.bind m.store action args with
      | error e =>
        rw [hbind] at h
        cases h
        exact .inl ⟨e, rfl, rfl⟩
      | ok bound =>
        rw [hbind, require_bind_ok] at h
        exact .inr ⟨bound, _, _, _, rfl, h⟩

/-- A step reports words as left over only if they are left over when they are bound. -/
theorem bind_of_step_unexpected {setup : Setup β} {i : Instruction} {m m' : Machine β}
    {name usage : String} {leftover : List String}
    (h : step setup i m =
      (.error (.failed (.binding name (.unexpectedArguments leftover usage))), m')) :
    ∃ action args, setup.registry.get? i.action = some action ∧
      expandAll m.store i.args = .ok args ∧
      Binding.bind m.store action args =
        .error (.binding name (.unexpectedArguments leftover usage)) := by
  rcases step_error_cases h with ⟨-, he⟩ | ⟨e, hargs, he⟩ |
    ⟨action, args, haction, hargs, ⟨e, hbind, he⟩ | ⟨bound, level, message, fields, -, hhandle⟩⟩
  · nomatch he
  · obtain rfl := Halt.failed.inj he
    nomatch expandAll_fails m.store i.args _ hargs
  · obtain rfl := Halt.failed.inj he
    exact ⟨action, args, haction, hargs, hbind⟩
  · -- A handler does not speak of words.
    have hjudges := Judges.handler bound action.handler
    obtain ⟨-, houtside | ⟨hhandler, -⟩⟩ :=
      (dispatch_finishes m setup hjudges _ _ _).stops (.refl m) hhandle
    · nomatch houtside
    · nomatch hhandler

/-- A step that fails leaves the state as it was.  If it fails by itself, it has not called the
browser, and the variables, the policy, the session and the active element are those from before
the step.  If it fails from outside, the variables and the policy still are.  There is no third kind
of failure. -/
theorem failed_step_keeps_state (setup : Setup β) (i : Instruction) (m m' : Machine β)
    (e : ScriptError) (h : step setup i m = (.error (.failed e), m')) :
    (e.isOutside = false → e.isOwn = true ∧ answeredIn m'.events = answeredIn m.events ∧
      m'.browser = m.browser ∧ m'.store = m.store ∧ m'.policy = m.policy ∧
      m'.sessionOpen = m.sessionOpen ∧ m'.active = m.active) ∧
    (e.isOutside = true → m'.store = m.store ∧ m'.policy = m.policy) := by
  have hends := (step_finishes m setup i).ends m ⟨⟨rfl, rfl⟩, rfl, rfl, rfl, rfl⟩
  rw [h] at hends
  obtain ⟨hkept, hcause⟩ : FailedFrom m (.failed e) m' := hends
  refine ⟨fun hinside => ?_, fun _ => ⟨hkept.store, hkept.policy⟩⟩
  obtain houtside | ⟨hown, hsame⟩ := hcause
  · rw [houtside] at hinside
    exact nomatch hinside
  · exact ⟨hown, hsame.calls, hsame.browser, hsame.store, hsame.policy, hsame.sessionOpen,
      hsame.active⟩

/-- Two actions, and a browser that refuses every call. -/
def refusing : Setup Unit where
  registry := ⟨[("back", ⟨"back", .back, []⟩),
    ("write", ⟨"write", .write, [.variadic "text" .text]⟩)]⟩
  settings := {}
  backend := ⟨fun _ _ => ⟨.error .notConnected, (), 0, false, []⟩⟩
  clock := .millisecond
  draws _ := 0
  idleRounds := 0

/-- A machine in the middle of a script, with a session and no active element. -/
def midway : Machine Unit :=
  { Machine.start ⟨[("name", .text "value")]⟩ () with sessionOpen := true, policy := .fixed 5 }

theorem failed_step_keeps_state_refusing :
    (answeredIn (step refusing ⟨"script", 1, "write", []⟩ midway).2.events = [] ∧
      (step refusing ⟨"script", 1, "write", []⟩ midway).2.sessionOpen = true) ∧
    (step refusing ⟨"script", 2, "back", []⟩ midway).2.policy = .fixed 5 := by
  refine ⟨?_, ?_⟩
  · obtain ⟨-, hcalls, -, -, -, hopen, -⟩ :=
      (failed_step_keeps_state refusing ⟨"script", 1, "write", []⟩ midway _ .noElement rfl).1 rfl
    exact ⟨hcalls, hopen⟩
  · exact ((failed_step_keeps_state refusing ⟨"script", 2, "back", []⟩ midway _
      (.browser .notConnected) rfl).2 rfl).2

end Run

end BrowserScript
