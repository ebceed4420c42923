import BrowserScript.Proofs.Arity
import BrowserScript.Proofs.Inlining

/-!
# Kept promises

A handler takes some of its arguments for granted: texts that it reads by the names of parameters,
and keys among the rest.  An internal fault says that one of them is missing.  The table of actions
promises them: a parameter that cannot be left out is bound whenever binding succeeds, and the rest
of the arguments has the type of the variadic parameter.  Synonyms share the promise of the action
that they stand for.  So a script that compiles against the built-in actions never meets an internal
fault.
-/

namespace BrowserScript

/-- Whether parameters give a handler what it takes for granted: each text that it needs has a
required parameter, and whatever it presses is a key. -/
def Handler.isServedBy (h : Handler) (params : List Param) : Bool :=
  h.needs.all (fun name => params.any fun p => p.name == name && p.isRequired) &&
    (h != .press || params.all fun p => p.kind != .variadic || p.type == .key)

/-- Whether a definition gives its handler what it takes for granted. -/
def Definition.isServed : Definition → Bool
  | .action _ handler params => handler.isServedBy params
  | .synonym .. => true

/-! ### The table of actions -/

namespace Registry

/-- An added definition brings its own action; every other action was there before, perhaps under
another name. -/
theorem exists_source_of_add {r r' : Registry} {d : Definition} (h : r.add d = .ok r')
    {name : String} {a : Action} (ha : r'.get? name = some a) :
    (∃ raw, d = .action raw a.handler a.params) ∨
    ∃ other b, r.get? other = some b ∧ b.handler = a.handler ∧ b.params = a.params := by
  cases d with
  | action raw handler params =>
    unfold add at h
    dsimp only at h
    split at h
    · nomatch h
    · obtain rfl := Except.ok.inj h
      rw [get?, Dict.get?_insert] at ha
      split at ha
      · obtain rfl := Option.some.inj ha
        exact .inl ⟨raw, rfl⟩
      · exact .inr ⟨name, a, ha, rfl, rfl⟩
  | synonym raw target =>
    unfold add at h
    dsimp only at h
    split at h
    · nomatch h
    · rename_i b hb
      obtain rfl := Except.ok.inj h
      rw [get?, Dict.get?_insert] at ha
      split at ha
      · obtain rfl := Option.some.inj ha
        exact .inr ⟨_, b, hb, rfl, rfl⟩
      · exact .inr ⟨name, a, ha, rfl, rfl⟩

theorem exists_definition_of_foldlM {definitions : List Definition} {r r' : Registry}
    (h : definitions.foldlM add r = .ok r') {name : String} {a : Action}
    (ha : r'.get? name = some a) :
    (∃ raw, .action raw a.handler a.params ∈ definitions) ∨
    ∃ other b, r.get? other = some b ∧ b.handler = a.handler ∧ b.params = a.params := by
  induction definitions generalizing r with
  | nil =>
    obtain rfl := Except.ok.inj h
    exact .inr ⟨name, a, ha, rfl, rfl⟩
  | cons d definitions ih =>
    rw [List.foldlM_cons] at h
    cases hadd : r.add d with
    | error fault =>
      rw [hadd] at h
      nomatch h
    | ok middle =>
      rw [hadd] at h
      rcases ih h with ⟨raw, hmem⟩ | ⟨other, b, hb, hhandler, hparams⟩
      · exact .inl ⟨raw, List.mem_cons_of_mem d hmem⟩
      · rcases exists_source_of_add hadd hb with ⟨raw, hd⟩ | ⟨first, c, hc, hhandler', hparams'⟩
        · rw [hhandler, hparams] at hd
          exact .inl ⟨raw, hd ▸ List.mem_cons_self⟩
        · exact .inr ⟨first, c, hc, hhandler'.trans hhandler, hparams'.trans hparams⟩

/-- Every action of a registry has the handler and the parameters of a definition in its table. -/
theorem exists_definition_of_build {definitions : List Definition} {r : Registry}
    (h : build definitions = .ok r) {name : String} {a : Action} (ha : r.get? name = some a) :
    ∃ raw, .action raw a.handler a.params ∈ definitions := by
  rcases exists_definition_of_foldlM h ha with hmem | ⟨other, b, hb, -⟩
  · exact hmem
  · nomatch hb

theorem exists_definition_of_standard {name : String} {a : Action}
    (ha : standard.get? name = some a) :
    ∃ raw, .action raw a.handler a.params ∈ standardDefinitions := by
  unfold standard at ha
  cases hbuild : build standardDefinitions with
  | error fault =>
    rw [hbuild] at ha
    nomatch ha
  | ok r =>
    rw [hbuild] at ha
    exact exists_definition_of_build hbuild ha

/-- The built-in actions serve their handlers. -/
theorem isServedBy_of_standard {name : String} {a : Action} (ha : standard.get? name = some a) :
    a.handler.isServedBy a.params = true := by
  have htable : standardDefinitions.all Definition.isServed = true := by decide
  obtain ⟨raw, hmem⟩ := exists_definition_of_standard ha
  exact List.all_eq_true.mp htable _ hmem

end Registry

/-! ### Bound arguments -/

namespace Handler

theorem exists_required_of_isServedBy {h : Handler} {params : List Param}
    (hserved : h.isServedBy params = true) {name : String} (hname : name ∈ h.needs) :
    ∃ p ∈ params, p.name = name ∧ p.isRequired = true := by
  rw [isServedBy, Bool.and_eq_true, List.all_eq_true] at hserved
  simpa using hserved.1 name hname

theorem key_of_isServedBy {params : List Param} (hserved : press.isServedBy params = true)
    {p : Param} (hmem : p ∈ params) (hkind : p.kind = .variadic) : p.type = .key := by
  rw [isServedBy, Bool.and_eq_true] at hserved
  have hparams : ∀ q ∈ params, q.kind = .variadic → q.type = .key := by
    simpa [← imp_iff_not_or] using hserved.2
  exact hparams p hmem hkind

end Handler

theorem Value.isSome_key?_of_type {v : Value} (h : v.type = .key) : ∃ k, v.key? = some k := by
  cases v with
  | key k => exact ⟨k, rfl⟩
  | _ => nomatch h

theorem Run.keyText_eq_ok {keys : List Value} (h : ∀ v ∈ keys, v.type = .key) :
    ∃ text, keyText keys = .ok text := by
  induction keys with
  | nil => exact ⟨"", rfl⟩
  | cons v rest ih =>
    obtain ⟨hv, hrest⟩ := List.forall_mem_cons.mp h
    obtain ⟨k, hk⟩ := v.isSome_key?_of_type hv
    obtain ⟨text, htext⟩ := ih hrest
    refine ⟨k.text ++ text, ?_⟩
    rw [keyText, hk, htext]
    rfl

/-- A handler that is served finds nothing missing in bound arguments. -/
theorem Judges.of_bind {vars : Variables} {action : Action} {words : List String} {bound : Bound}
    (hserved : action.handler.isServedBy action.params = true)
    (h : Binding.bind vars action words = .ok bound) :
    Judges ScriptError.isOfCheck bound action.handler where
  check _ he := he
  text name hname := by
    obtain ⟨p, hmem, rfl, hp⟩ := Handler.exists_required_of_isServedBy hserved hname
    exact .text_of_isSome (Binding.isSome_of_bind h hmem hp)
  keys hpress := by
    rw [hpress] at hserved
    have htyped : ∀ v ∈ bound.rest, v.type = .key :=
      Binding.rest_typed_of_bind h .key nofun fun p hmem hkind =>
        Handler.key_of_isServedBy hserved hmem hkind
    obtain ⟨text, htext⟩ := Run.keyText_eq_ok htyped
    rw [htext]
    exact .ok _

/-! ### Runs -/

namespace Run

variable {β : Type}

/-- The step of an action that serves its handler meets no internal fault. -/
theorem step_ne_internal {setup : Setup β} {i : Instruction} {action : Action}
    (haction : setup.registry.get? i.action = some action)
    (hserved : action.handler.isServedBy action.params = true) (m m' : Machine β)
    (fault : InternalFault) : step setup i m ≠ (.error (.failed (.internal fault)), m') := by
  intro h
  rcases step_error_cases h with ⟨hnone, -⟩ | ⟨e, hargs, he⟩ |
    ⟨action', args, haction', -, ⟨e, hbind, he⟩ | ⟨bound, level, message, fields, hbind, hhandle⟩⟩
  · rw [haction] at hnone
    nomatch hnone
  · obtain rfl := Halt.failed.inj he
    nomatch expandAll_fails m.store i.args _ hargs
  · obtain rfl := Halt.failed.inj he
    nomatch Binding.bind_fails m.store action' args _ hbind
  · rw [haction] at haction'
    obtain rfl := Option.some.inj haction'
    have hjudges := Judges.of_bind hserved hbind
    obtain ⟨-, houtside | ⟨hcheck, -⟩⟩ :=
      (dispatch_finishes m setup hjudges level message fields).stops (.refl m) hhandle
    · nomatch houtside
    · nomatch hcheck

/-- A run stops with an interrupt or with the error of one of its steps. -/
theorem exists_step_of_error {setup : Setup β} {script : List Instruction} {m m' : Machine β}
    {e : ScriptError} (h : runInstructions setup script m = (.error (.failed e), m')) :
    e = .exit 1 ∨
      ∃ i ∈ script, ∃ before after, step setup i before = (.error (.failed e), after) := by
  induction script generalizing m with
  | nil => nomatch h
  | cons i rest ih =>
    cases hraised : m.time.raised with
    | true =>
      rw [runInstructions_of_raised setup i rest hraised] at h
      cases h
      exact .inl rfl
    | false =>
      rcases hstep : stepInSpan setup i m with ⟨halt | ⟨⟩, m₁⟩
      · have hfirst := runInstruction_of_error hstep
        rw [runInstructions_of_error rest hraised hfirst] at h
        cases h
        exact .inr ⟨i, List.mem_cons_self, _, _, hstep⟩
      · have hfirst := runInstruction_of_ok hstep
        cases hraised₁ : m₁.time.raised with
        | true =>
          rw [stopIfInterrupted_of_raised hraised₁] at hfirst
          rw [runInstructions_of_error rest hraised hfirst] at h
          cases h
          exact .inl rfl
        | false =>
          rw [stopIfInterrupted_of_lowered hraised₁] at hfirst
          rw [runInstructions_of_ok rest hraised hfirst] at h
          obtain hexit | ⟨j, hj, hfails⟩ := ih h
          · exact .inl hexit
          · exact .inr ⟨j, List.mem_cons_of_mem i hj, hfails⟩

end Run

namespace Compile

/-- The instructions that a text or a file compiles to. -/
def Compiles (registry : Registry) (tree : FileTree) (script : List Instruction) : Prop :=
  (∃ name text base, (Compile.text registry tree name text base).outcome = .ok script) ∨
    ∃ path, (file registry tree path).outcome = .ok script

/-- Every instruction of a compiled script was found by a scan. -/
theorem Compiles.exists_scan {registry : Registry} {tree : FileTree} {script : List Instruction}
    (h : Compiles registry tree script) {i : Instruction} (hi : i ∈ script) :
    ∃ site text, .instruction i ∈ scanText registry tree (depthBound tree) site text := by
  rcases h with ⟨name, text, base, h⟩ | ⟨path, h⟩
  · obtain ⟨-, rfl⟩ := finish_eq_ok_iff.mp h
    exact ⟨_, _, mem_instructions_iff.mp hi⟩
  · rcases fileFindings_cases registry tree path with
      ⟨fault, hfault⟩ | ⟨place, text, -, -, hfindings⟩
    · simp [file, hfault] at h
    · simp only [file, hfindings] at h
      obtain ⟨-, rfl⟩ := finish_eq_ok_iff.mp h
      exact ⟨_, _, mem_instructions_iff.mp hi⟩

theorem Compiles.registered {registry : Registry} {tree : FileTree} {script : List Instruction}
    (h : Compiles registry tree script) {i : Instruction} (hi : i ∈ script) :
    ∃ action, registry.get? i.action = some action := by
  obtain ⟨site, text, hfound⟩ := h.exists_scan hi
  obtain ⟨raw, hraw⟩ := statement_of_instruction hfound
  obtain ⟨head, words, action, -, haction, -⟩ := check_of_action hraw
  exact ⟨action, haction⟩

end Compile

namespace Run

/-- A script that compiles against the built-in actions, run with them, never ends in an internal
fault, whatever the settings, the browser, the variables and the interrupts are. -/
theorem compiled_run_keeps_promises {β : Type} {setup : Setup β}
    (hregistry : setup.registry = Registry.standard) {tree : FileTree}
    {script : List Instruction} (hscript : Compile.Compiles Registry.standard tree script)
    (m : Machine β) (fault : InternalFault) :
    (run setup script m).1 ≠ .error (.failed (.internal fault)) := by
  intro h
  have hrun : runInstructions setup script m =
      (.error (.failed (.internal fault)), (runInstructions setup script m).2) := Prod.ext h rfl
  obtain hexit | ⟨i, hi, before, after, hstep⟩ := exists_step_of_error hrun
  · nomatch hexit
  · obtain ⟨action, haction⟩ := hscript.registered hi
    have hserved := Registry.isServedBy_of_standard haction
    rw [← hregistry] at haction
    exact step_ne_internal haction hserved before after fault hstep

/-- A note under a second name of its action, and two keys, one of them by its constant. -/
def pressing : List Instruction :=
  [⟨"script", 1, "warn", ["$NOTE"]⟩, ⟨"script", 2, "press", ["@RETURN", "tab"]⟩]

theorem compiled_run_keeps_promises_pressing :
    Compile.Compiles Registry.standard ⟨"", [], []⟩ pressing ∧
    ∀ m fault, (run { refusing with registry := Registry.standard } pressing m).1 ≠
      .error (.failed (.internal fault)) := by
  have hcompiles : Compile.Compiles Registry.standard ⟨"", [], []⟩ pressing :=
    .inl ⟨"script", "WARN $NOTE\npress @RETURN tab", "", by decide +kernel⟩
  exact ⟨hcompiles, compiled_run_keeps_promises rfl hcompiles⟩

end Run

end BrowserScript
