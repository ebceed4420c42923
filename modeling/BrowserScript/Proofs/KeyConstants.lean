import BrowserScript.Proofs.VariableWrites

/-!
# Keys and variables

A text that stands for a key is looked up among the variables before it is read.  Scripts, the
environment and the settings of a run write plain texts only, so the keys among the variables are
always some of the constants that were there from the start, each under its own name.  A constant is
found there under a name that is read as the same key, and a constant that was overwritten is read
all the same.  Hence no variable has a say in which key is pressed.
-/

namespace BrowserScript

/-- The name of a constant is read as its key. -/
theorem Key.read?_constantName : ∀ k ∈ all, read? k.constantName = some k := by decide +kernel

namespace Variables

/-- A key that is found after keys were set was set under its own name, or was there before. -/
theorem mem_of_get?_setKeys {keys : List Key} {vars : Variables} {name : String} {k : Key}
    (h : (keys.foldl (fun vs k => vs.set k.constantName (.key k)) vars).get? name =
      some (.key k)) :
    (k ∈ keys ∧ k.constantName = name) ∨ vars.get? name = some (.key k) := by
  induction keys generalizing vars with
  | nil => exact .inr h
  | cons first rest ih =>
    rcases ih h with ⟨hmem, hname⟩ | hget
    · exact .inl ⟨List.mem_cons_of_mem first hmem, hname⟩
    · rw [get?_set] at hget
      split at hget
      · rename_i hname
        obtain rfl := Variable.key.inj (Option.some.inj hget)
        exact .inl ⟨List.mem_cons_self, hname.symm⟩
      · exact .inr hget

theorem forRun_eq_setTexts (environment overrides : List (String × String)) :
    forRun environment overrides = constants.setTexts (environment ++ overrides) :=
  (constants.setTexts_append environment overrides).symm

/-- A key that no text has replaced is found under its own name. -/
theorem constantName_of_getKey? {writes : List (String × String)} {name : String} {k : Key}
    (h : (constants.setTexts writes).getKey? name = some k) :
    k ∈ Key.all ∧ k.constantName = name := by
  have hget : (constants.setTexts writes).get? name = some (.key k) := by
    unfold getKey? at h
    split at h
    · rename_i k' hk'
      rw [hk', Option.some.inj h]
    · nomatch h
  by_cases hwritten : ∃ text, (name, text) ∈ writes
  · obtain ⟨text, -, htext⟩ := constants.exists_get?_setTexts hwritten
    rw [hget] at htext
    cases htext
  · rw [constants.get?_setTexts_of_not_mem (not_exists.mp hwritten)] at hget
    exact (mem_of_get?_setKeys hget).resolve_right nofun

end Variables

/-! ### Reading without variables -/

namespace Binding

/-- What a text for a key is read as where there are no variables. -/
def readKey (raw : String) : Except ScriptError Value :=
  match Key.read? raw with
  | some k => .ok (.key k)
  | none => .error (.value raw (.type .key))

theorem convert_key (vars : Variables) (raw : String) :
    convert vars .key raw =
      match vars.getKey? raw with
      | some k => .ok (.key k)
      | none => readKey raw := by
  have hread : Reading.value? raw .key = (Key.read? raw).map .key := rfl
  unfold convert readKey
  rw [if_pos rfl, hread]
  cases vars.getKey? raw <;> cases Key.read? raw <;> rfl

theorem convert_key_of_overwritten (writes : List (String × String)) (raw : String) :
    convert (Variables.constants.setTexts writes) .key raw = readKey raw := by
  rw [convert_key]
  cases hkey : (Variables.constants.setTexts writes).getKey? raw with
  | none => rfl
  | some k =>
    obtain ⟨hmem, rfl⟩ := Variables.constantName_of_getKey? hkey
    rw [readKey, Key.read?_constantName k hmem]

theorem convert_of_ne_key {type : ValueType} (h : type ≠ .key) (vars others : Variables)
    (raw : String) : convert vars type raw = convert others type raw := by
  unfold convert
  rw [if_neg h, if_neg h]

section Congruence

variable {vars others : Variables}
  (h : ∀ type raw, convert vars type raw = convert others type raw)
include h

theorem convertNamed_congr (action : Action) (key : String) (type : ValueType) (value : Named) :
    convertNamed vars action key type value = convertNamed others action key type value := by
  cases value with
  | text raw => exact h type raw
  | flag => rfl

theorem convertAll_congr (type : ValueType) (raws : List String) :
    convertAll vars type raws = convertAll others type raws := by
  induction raws with
  | nil => rfl
  | cons raw rest ih => rw [convertAll, convertAll, h, ih]

theorem convertOptions_congr (action : Action) (type : ValueType) (named : Dict Named) :
    convertOptions vars action type named = convertOptions others action type named := by
  induction named with
  | nil => rfl
  | cons e rest ih => rw [convertOptions, convertOptions, convertNamed_congr h, ih]

theorem bindParam_congr (action : Action) (p : Param) (s : Progress) :
    bindParam vars action p s = bindParam others action p s := by
  unfold bindParam
  simp only [h, convertAll_congr h, convertNamed_congr h, convertOptions_congr h]

theorem bindParams_congr (action : Action) (params : List Param) (s : Progress) :
    bindParams vars action params s = bindParams others action params s := by
  induction params generalizing s with
  | nil => rfl
  | cons p rest ih => simp only [bindParams, bindParam_congr h, ih]

theorem bind_congr (action : Action) (words : List String) :
    bind vars action words = bind others action words := by
  simp only [bind, bindParams_congr h]

end Congruence

end Binding

/-! ### What scripts make of the variables -/

namespace Run

variable {β α : Type}

/-- The variables are the given ones, some of them overwritten by texts. -/
def Overwritten (vars : Variables) (m : Machine β) : Prop :=
  ∃ writes, m.store = vars.setTexts writes

/-- A part of a step that writes texts only, whether or not it fails. -/
abbrev Overwrites (vars : Variables) (x : Exec β α) : Prop :=
  Ensures (Overwritten vars) x (fun _ => Overwritten vars) fun _ => Overwritten vars

namespace Overwrites

variable {vars : Variables} {setup : Setup β}

theorem of_spares {x : Exec β α} (h : ∀ vars, Spares vars x) : Overwrites vars x := by
  refine ⟨fun m hm => ?_⟩
  have hspares : Ensures (·.store = m.store) x (fun _ => Overwritten vars)
      fun _ => Overwritten vars := by
    refine .weakenHalt (.weaken (h m.store) fun _ m' heq => ?_) fun _ m' hfruitless => ?_
    · rwa [Overwritten, heq]
    · rwa [Overwritten, hfruitless.1]
  exact hspares.ends m rfl

theorem assign (name text : String) : Overwrites vars (assign name text : Exec β Unit) := by
  refine .change fun m hm => ?_
  obtain ⟨writes, hwrites⟩ := hm
  refine ⟨writes ++ [(name, text)], ?_⟩
  rw [Variables.setTexts_append, ← hwrites]
  rfl

theorem assignDefault (name text : String) :
    Overwrites vars (assignDefault name text : Exec β Bool) := by
  refine .changeGet fun m hm => ?_
  obtain ⟨writes, hwrites⟩ := hm
  cases hpresent : m.store.contains name with
  | true => exact ⟨writes, (Variables.setDefault_of_present hpresent _).trans hwrites⟩
  | false =>
    refine ⟨writes ++ [(name, text)], ?_⟩
    rw [Variables.setTexts_append, ← hwrites]
    exact Variables.setDefault_of_absent hpresent _

theorem store (bound : Bound) (label text : String) :
    Overwrites vars (store bound label text : Exec β Unit) := by
  unfold Run.store
  split
  · exact .bind (of_spares fun _ => Spares.log _ _ _) fun _ => assign _ _
  · exact of_spares fun _ => Spares.log _ _ _

theorem handle (bound : Bound) (h : Handler) : Overwrites vars (handle setup bound h) := by
  have htext : ∀ name, Overwrites vars (require (bound.text name) : Exec β String) :=
    fun name => of_spares fun _ => Spares.text bound name
  have hlog : ∀ level message fields, Overwrites vars (log level message fields : Exec β Unit) :=
    fun _ _ _ => of_spares fun _ => Spares.log _ _ _
  have hsession : Overwrites vars (requireSession : Exec β Unit) :=
    of_spares fun _ => Spares.requireSession
  have hdemand : ∀ call, Overwrites vars (demand setup call) :=
    fun call => of_spares fun _ => Spares.demand call
  cases h with
  | set =>
    rw [Run.handle]
    refine .bind (htext "name") fun name => .bind (htext "value") fun value => ?_
    exact .bind (hlog _ _ _) fun _ => assign name value
  | default =>
    rw [Run.handle]
    refine .bind (htext "name") fun name => .bind (htext "value") fun value => ?_
    refine .bind (assignDefault name value) fun written => ?_
    exact .ite (fun _ => hlog _ _ _) fun _ => .done fun _ hm => hm
  | script =>
    rw [Run.handle]
    exact .bind hsession fun _ => .bind (hdemand _) fun _ => store bound _ _
  | url =>
    rw [Run.handle]
    exact .bind hsession fun _ => .bind (hdemand _) fun _ => store bound _ _
  | _ => exact of_spares fun _ => Spares.handle rfl bound

theorem step (i : Instruction) : Overwrites vars (step setup i) := by
  rw [Run.step]
  split
  · exact .fail fun _ hm => hm
  · rename_i action _
    refine .readBind fun m hm => .of_imp (fun _ heq => heq ▸ hm) ?_
    refine .bind (.require (fun _ _ _ hm => hm) fun _ _ _ hm => hm) fun words => ?_
    refine .bind (.require (fun _ _ _ hm => hm) fun _ _ _ hm => hm) fun bound => ?_
    exact .bind (of_spares fun _ => Spares.log _ _ _) fun _ => handle bound action.handler

end Overwrites

theorem Overwritten.runInstruction {vars : Variables} {m : Machine β} (h : Overwritten vars m)
    (setup : Setup β) (i : Instruction) : Overwritten vars (runInstruction setup i m).2 := by
  have hends : Ends (fun _ => Overwritten vars) (fun _ => Overwritten vars)
      (stepInSpan setup i m) := (Overwrites.step i).ends _ h
  rcases hstep : stepInSpan setup i m with ⟨halt | ⟨⟩, m'⟩ <;> rw [hstep] at hends
  all_goals
    rw [Overwritten, store_runInstruction hstep]
    exact hends

/-- The variables that an instruction can meet: the key constants alone or those that a run starts
with, and whatever other instructions have made of them, with any actions and any browser, failing
or not. -/
inductive Reachable : Variables → Prop
  | constants : Reachable .constants
  | forRun (environment overrides : List (String × String)) :
    Reachable (.forRun environment overrides)
  | executed {β : Type} {m : Machine β} (h : Reachable m.store) (setup : Setup β)
    (i : Instruction) : Reachable (runInstruction setup i m).2.store

namespace Reachable

theorem exists_setTexts {vars : Variables} (h : Reachable vars) :
    ∃ writes, vars = Variables.constants.setTexts writes := by
  induction h with
  | constants => exact ⟨[], rfl⟩
  | forRun environment overrides =>
    exact ⟨_, Variables.forRun_eq_setTexts environment overrides⟩
  | executed _ setup i ih => exact Overwritten.runInstruction ih setup i

theorem runInstructions {m : Machine β} (h : Reachable m.store) (setup : Setup β)
    (script : List Instruction) : Reachable (runInstructions setup script m).2.store := by
  induction script generalizing m with
  | nil => exact h
  | cons i rest ih =>
    cases hdown : m.time.raised with
    | true =>
      rw [runInstructions_of_raised setup i rest hdown]
      exact h
    | false =>
      have hnext := h.executed setup i
      rcases hrun : runInstruction setup i m with ⟨halt | ⟨⟩, m'⟩ <;> rw [hrun] at hnext
      · rw [runInstructions_of_error rest hdown hrun]
        exact hnext
      · rw [runInstructions_of_ok rest hdown hrun]
        exact ih hnext

/-- A run takes variables that can be met to variables that can be met. -/
theorem run {m : Machine β} (h : Reachable m.store) (setup : Setup β)
    (script : List Instruction) : Reachable (run setup script m).2.store :=
  (store_release setup _).symm ▸ h.runInstructions setup script

end Reachable

/-- Which key is pressed does not depend on the variables.  Whatever an environment, the settings of
a run and any scripts before have written into them, a text for a key is read as it is without
variables, with the same key or the same error.  So every action binds every list of words as it
does where no variable is set: no name of a key can be given another meaning or none. -/
theorem keys_ignore_variables {vars : Variables} (h : Reachable vars) :
    (∀ raw, Binding.convert vars .key raw = Binding.readKey raw) ∧
      ∀ action words, Binding.bind vars action words = Binding.bind .empty action words := by
  obtain ⟨writes, rfl⟩ := h.exists_setTexts
  have hkey := Binding.convert_key_of_overwritten writes
  refine ⟨hkey, Binding.bind_congr fun type raw => ?_⟩
  by_cases htype : type = .key
  · subst htype
    rw [hkey, Binding.convert_key]
    rfl
  · exact Binding.convert_of_ne_key htype _ _ raw

/-- The actions that write variables, and one that opens a session for them. -/
def writing : Setup Recorder where
  __ := recording
  registry :=
    ⟨[("browser", ⟨"browser", .browser, [.fixed "name" .text]⟩),
      ("default", ⟨"default", .default, Registry.assignmentParams⟩),
      ("set", ⟨"set", .set, Registry.assignmentParams⟩),
      ("url", ⟨"url", .url, [Registry.intoParam]⟩)]⟩

/-- An environment that hides the escape key, and settings that call another key by its name. -/
def disguised : Machine Recorder :=
  .start (.forRun [("@ESCAPE", "")] [("@TAB", "@RETURN"), ("TAB", "RETURN")]) {}

/-- The names of keys written in every way that a script has. -/
def disguising : List Instruction :=
  [⟨"script", 1, "set", ["@RETURN", "x"]⟩, ⟨"script", 2, "default", ["@ESC", "@TAB"]⟩,
   ⟨"script", 3, "browser", ["firefox"]⟩, ⟨"script", 4, "url", ["--into", "@ENTER"]⟩]

theorem keys_ignore_variables_disguised :
    let vars := (run writing disguising disguised).2.store
    vars.getKey? "@RETURN" = none ∧ vars.getKey? "@ENTER" = none ∧
      Binding.convert vars .key "@RETURN" = .ok (.key ⟨"RETURN", '\ue006'⟩) ∧
      Binding.convert vars .key "tab" = .ok (.key ⟨"TAB", '\ue004'⟩) ∧
      Binding.convert vars .key "@nope" = .error (.value "@nope" (.type .key)) := by
  have hstart : Reachable disguised.store := .forRun _ _
  have hkeys := (keys_ignore_variables (hstart.run writing disguising)).1
  have hlost : (run writing disguising disguised).2.store.getKey? "@RETURN" = none ∧
      (run writing disguising disguised).2.store.getKey? "@ENTER" = none := by
    decide +kernel
  have hread : Binding.readKey "@RETURN" = .ok (.key ⟨"RETURN", '\ue006'⟩) ∧
      Binding.readKey "tab" = .ok (.key ⟨"TAB", '\ue004'⟩) ∧
      Binding.readKey "@nope" = .error (.value "@nope" (.type .key)) := by
    decide +kernel
  refine ⟨hlost.1, hlost.2, ?_, ?_, ?_⟩
  · exact (hkeys "@RETURN").trans hread.1
  · exact (hkeys "tab").trans hread.2.1
  · exact (hkeys "@nope").trans hread.2.2

end Run

end BrowserScript
