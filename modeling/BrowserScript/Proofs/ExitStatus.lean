import BrowserScript.Program
import BrowserScript.Proofs.VariableWrites

/-!
# The exit status

Whatever goes wrong, the program says so in the same way: a script that cannot be read or does not
compile, a connection that cannot be prepared, and every error that stops a run lead to the status
one.  The status is zero only for a script that compiles and that is only checked or runs to its
end.  The browser is called by the run and by nothing else.
-/

namespace BrowserScript

namespace Run

variable {β : Type}

/-- Whatever stops a run, the exit status is one: the only quiet end is that of an interrupt. -/
theorem exitStatus_of_run {setup : Setup β} (hregistry : setup.registry = Registry.standard)
    {script : List Instruction} {m : Machine β} {halt : Halt}
    (h : (run setup script m).1 = .error halt) : halt.exitStatus = 1 := by
  cases halt with
  | unfinished => rfl
  | failed e =>
    have hrun : runInstructions setup script m =
        (.error (.failed e), (runInstructions setup script m).2) := Prod.ext h rfl
    obtain rfl | ⟨i, -, before, after, hstep⟩ := exists_step_of_error hrun
    · rfl
    · -- Of the errors of a step only the quiet end has a status of its own, and that is one too.
      exact ((step_wrote hregistry i before).stops (.refl before) hstep).2

end Run

namespace Program

variable {σ β : Type}

theorem statusOf_eq_zero_iff {outcome : Except Run.Halt Unit}
    (h : ∀ halt, outcome = .error halt → halt.exitStatus = 1) :
    statusOf outcome = 0 ↔ outcome = .ok () := by
  cases outcome with
  | ok _ => exact iff_of_true rfl rfl
  | error halt =>
    rw [statusOf, h halt rfl]
    exact iff_of_false (by decide) nofun

theorem statusOf_cases {outcome : Except Run.Halt Unit}
    (h : ∀ halt, outcome = .error halt → halt.exitStatus = 1) :
    statusOf outcome = 0 ∨ statusOf outcome = 1 := by
  cases outcome with
  | ok _ => exact .inl rfl
  | error halt => exact .inr (h halt rfl)

theorem runIn_status (world : World σ) (config : Configuration) (backend : Backend β) (browser : β)
    (script : List Instruction) (halt : Run.Halt)
    (h : (runIn world config backend browser script).1 = .error halt) : halt.exitStatus = 1 :=
  Run.exitStatus_of_run (by dsimp only) h

/-- The run of a compiled script: how it ended and what happened in it.  A script that is only
checked is not run, nor is one for which no connection to the server can be prepared. -/
def ran? (world : World σ) (config : Configuration) (server : σ) (script : List Instruction) :
    Option (Except Run.Halt Unit × List Run.Event) :=
  let ended {β : Type} (r : Except Run.Halt Unit × Run.Machine β) := (r.1, r.2.events)
  match config.mode, world.clientFault? with
  | .check, _ => none
  | .rehearse, _ => some (ended (runIn world config Recorder.backend {} script))
  | .run, some _ => none
  | .run, none => some (ended (runIn world config (Remote.backend world.server)
      (Remote.ofAddress config.server server) script))

section Runs

variable {world : World σ} {config : Configuration} {server : σ} {script : List Instruction}

theorem exitStatus_of_ran {r : Except Run.Halt Unit × List Run.Event}
    (h : ran? world config server script = some r) {halt : Run.Halt} (hhalt : r.1 = .error halt) :
    halt.exitStatus = 1 := by
  unfold ran? at h
  split at h
  · nomatch h
  · obtain rfl := Option.some.inj h
    exact runIn_status world config _ _ script halt hhalt
  · nomatch h
  · obtain rfl := Option.some.inj h
    exact runIn_status world config _ _ script halt hhalt

theorem status_afterCompile_ok :
    (afterCompile world config server (.ok script)).status =
      match ran? world config server script with
      | some r => statusOf r.1
      | none => if config.mode = .check then 0 else 1 := by
  unfold afterCompile ran?
  cases hmode : config.mode with
  | check => rfl
  | rehearse => rfl
  | run =>
    dsimp only
    unfold perform
    cases world.clientFault? <;> rfl

theorem ran?_of_check (h : config.mode = .check) : ran? world config server script = none := by
  rw [ran?, h]

theorem status_afterCompile_eq_zero_iff :
    (afterCompile world config server (.ok script)).status = 0 ↔
      config.mode = .check ∨ (ran? world config server script).map (·.1) = some (.ok ()) := by
  rw [status_afterCompile_ok]
  cases hran : ran? world config server script with
  | none => simp
  | some r =>
    have hmode : config.mode ≠ .check := by
      intro hcheck
      rw [ran?_of_check hcheck] at hran
      nomatch hran
    rw [or_iff_right hmode, Option.map_some, Option.some_inj]
    exact statusOf_eq_zero_iff fun halt hhalt => exitStatus_of_ran hran hhalt

theorem status_afterCompile_cases :
    (afterCompile world config server (.ok script)).status = 0 ∨
      (afterCompile world config server (.ok script)).status = 1 := by
  rw [status_afterCompile_ok]
  cases hran : ran? world config server script with
  | none =>
    dsimp only
    split
    · exact .inl rfl
    · exact .inr rfl
  | some r => exact statusOf_cases fun halt hhalt => exitStatus_of_ran hran hhalt

end Runs

/-! ### Calls to the browser -/

theorem answeredIn_map_log {α : Type} (time : Nat) (entry : α → Log.Entry) (xs : List α) :
    Run.answeredIn (xs.map fun x => .log time (entry x)) = [] := by
  refine Run.answeredIn_logs fun e he => ?_
  obtain ⟨x, -, rfl⟩ := List.mem_map.mp he
  rfl

theorem answeredIn_withSignal (time : Nat) (trace : List Run.Event) :
    Run.answeredIn (withSignal time trace) = Run.answeredIn trace := by
  induction trace with
  | nil => rfl
  | cons e rest ih =>
    unfold withSignal
    split
    · rfl
    · rw [← List.singleton_append, Run.answeredIn_append, ih, ← Run.answeredIn_append,
        List.singleton_append]

theorem answeredIn_traceOf (world : World σ) (m : Run.Machine β) :
    Run.answeredIn (traceOf world m) = Run.answeredIn m.events := by
  unfold traceOf
  induction world.interrupts.filter (· ≤ m.time.now) with
  | nil => rfl
  | cons time rest ih => rw [List.foldr_cons, answeredIn_withSignal, ih]

/-- After a compilation, the browser is called by the run alone. -/
theorem answeredIn_afterCompile_ok (world : World σ) (config : Configuration) (server : σ)
    (script : List Instruction) :
    Run.answeredIn (afterCompile world config server (.ok script)).trace =
      ((ran? world config server script).map fun r => Run.answeredIn r.2).getD [] := by
  unfold afterCompile ran?
  cases hmode : config.mode with
  | check => rfl
  | rehearse =>
    refine (Run.answeredIn_append _ _).trans ?_
    rw [answeredIn_traceOf, answeredIn_map_log, List.append_nil]
    rfl
  | run =>
    dsimp only
    unfold perform
    cases world.clientFault? with
    | some reason => rfl
    | none => exact answeredIn_traceOf world _

theorem afterCompile_error (world : World σ) (config : Configuration) (server : σ)
    (e : ScriptError) :
    (afterCompile world config server (.error e)).status = 1 ∧
      Run.answeredIn (afterCompile world config server (.error e)).trace = [] ∧
      (afterCompile world config server (.error e)).server = server := by
  cases e <;> exact ⟨rfl, rfl, rfl⟩

theorem answeredIn_started (world : World σ) (config : Configuration) (server : σ) :
    Run.answeredIn (started world config server).trace =
      Run.answeredIn (afterCompile world config server
        (Compile.file Registry.standard world.files config.script).outcome).trace :=
  (Run.answeredIn_append _ _).trans (congrArg (· ++ _) (answeredIn_map_log 0 id _))

/-- The exit status tells the truth.  Whatever the configuration, the files, the environment, the
server and the interrupts are, the status is zero if and only if the script compiles and is only
checked or runs to its end, and it is one in every other case.  The browser is called by the run of
the script alone, so not at all if the script is only checked or does not compile. -/
theorem status_tells_the_truth (world : World σ) (config : Configuration) (server : σ) :
    ((started world config server).status = 0 ↔
      ∃ script, (Compile.file Registry.standard world.files config.script).outcome = .ok script ∧
        (config.mode = .check ∨
          (ran? world config server script).map (·.1) = some (.ok ()))) ∧
    ((started world config server).status = 0 ∨ (started world config server).status = 1) ∧
    (∀ script, (Compile.file Registry.standard world.files config.script).outcome = .ok script →
      Run.answeredIn (started world config server).trace =
        ((ran? world config server script).map fun r => Run.answeredIn r.2).getD []) ∧
    (config.mode = .check ∨
        (∃ e, (Compile.file Registry.standard world.files config.script).outcome = .error e) →
      Run.answeredIn (started world config server).trace = [] ∧
        (started world config server).server = server) := by
  have hstatus : (started world config server).status = (afterCompile world config server
      (Compile.file Registry.standard world.files config.script).outcome).status := rfl
  have hserver : (started world config server).server = (afterCompile world config server
      (Compile.file Registry.standard world.files config.script).outcome).server := rfl
  rw [hstatus, hserver, answeredIn_started]
  cases (Compile.file Registry.standard world.files config.script).outcome with
  | error e =>
    obtain ⟨hone, hcalls, hkept⟩ := afterCompile_error world config server e
    rw [hone, hcalls, hkept]
    exact ⟨iff_of_false (by decide) nofun, .inr rfl, nofun, fun _ => ⟨rfl, rfl⟩⟩
  | ok script =>
    refine ⟨?_, status_afterCompile_cases, ?_, ?_⟩
    · rw [status_afterCompile_eq_zero_iff]
      exact ⟨fun h => ⟨script, rfl, h⟩, fun ⟨_, hsame, h⟩ => Except.ok.inj hsame ▸ h⟩
    · rintro _ ⟨⟩
      exact answeredIn_afterCompile_ok world config server script
    · rintro (hcheck | ⟨e, he⟩)
      · rw [answeredIn_afterCompile_ok, ran?_of_check hcheck, afterCompile, hcheck]
        exact ⟨rfl, rfl⟩
      · nomatch he

def lonely : World Unit where
  environment := []
  files := { base := "/scripts", entries := [(["main"], .file "browser firefox")] }
  clock := .millisecond
  draws _ := 0
  interrupts := []
  server := .unreachable

def asking (mode : Mode) : Configuration := ⟨"main", mode, .info, "http://host", [], {}⟩

theorem file_lonely : (Compile.file Registry.standard lonely.files "main").outcome =
    .ok [⟨"main", 1, "browser", ["firefox"]⟩] := by
  have hresolve : lonely.files.resolve "main" = .ok (.inside ["main"]) :=
    Compile.resolve_of_top (by decide +kernel) (by decide) rfl (by decide +kernel)
      (by decide +kernel)
  rw [Compile.file, Compile.fileFindings, hresolve]
  decide +kernel

/-- The script compiles, it can be rehearsed, and it cannot be run. -/
theorem status_tells_the_truth_lonely :
    ((started lonely (asking .check) ()).status = 0 ∧
      Run.answeredIn (started lonely (asking .check) ()).trace = []) ∧
    (started lonely (asking .rehearse) ()).status = 0 ∧
    (started lonely (asking .run) ()).status = 1 := by
  obtain ⟨hcheck, -, -, hcalls⟩ := status_tells_the_truth lonely (asking .check) ()
  refine ⟨⟨hcheck.mpr ⟨_, file_lonely, .inl rfl⟩, (hcalls (.inl rfl)).1⟩, ?_, ?_⟩
  · refine (status_tells_the_truth lonely (asking .rehearse) ()).1.mpr ⟨_, file_lonely, .inr ?_⟩
    decide +kernel
  · obtain ⟨hrun, hcases, -⟩ := status_tells_the_truth lonely (asking .run) ()
    refine hcases.resolve_left fun hzero => ?_
    obtain ⟨script, hscript, hmode | hran⟩ := hrun.mp hzero
    · nomatch hmode
    · obtain rfl := Except.ok.inj (file_lonely.symm.trans hscript)
      exact absurd hran (by decide +kernel)

end Program

end BrowserScript
