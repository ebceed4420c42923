import BrowserScript.Proofs.Parts

/-!
# What parts of a run ensure

Statements about a part of a run that hold whatever the browser answers: from machines with `P` it
goes on to machines with `Q`, or stops at machines with `E`.  There is one rule for each elementary
part and one for sequences, so that a statement about a handler is put together in the order in
which the handler is written.  What calls, waits and notes keep is kept by every part that is made
of them, however often it looks at the page.
-/

namespace BrowserScript.Run

variable {β α γ : Type}

/-- How a part of a run ends: it goes on with `Q`, or it stops with `E`. -/
def Ends (Q : α → Machine β → Prop) (E : Halt → Machine β → Prop) :
    Except Halt α × Machine β → Prop
  | (.ok a, m) => Q a m
  | (.error halt, m) => E halt m

/-- From where `P` holds, a part of a run goes on with `Q` or stops with `E`. -/
structure Ensures (P : Machine β → Prop) (x : Exec β α) (Q : α → Machine β → Prop)
    (E : Halt → Machine β → Prop) : Prop where
  ends : ∀ m, P m → Ends Q E (x m)

namespace Ensures

variable {P R : Machine β → Prop} {Q : α → Machine β → Prop} {S : γ → Machine β → Prop}
  {E : Halt → Machine β → Prop} {x : Exec β α} {f : α → Exec β γ}

theorem stops (hx : Ensures P x Q E) {m m' : Machine β} {halt : Halt} (hm : P m)
    (h : x m = (.error halt, m')) : E halt m' := by
  have hends := hx.ends m hm
  rwa [h] at hends

theorem bind (hx : Ensures P x Q E) (hf : ∀ a, Ensures (Q a) (f a) S E) :
    Ensures P (x >>= f) S E := by
  refine ⟨fun m hm => ?_⟩
  have h := hx.ends m hm
  rcases hxm : x m with ⟨halt | a, m'⟩
  · rw [hxm] at h
    rw [bind_apply_error hxm]
    exact h
  · rw [hxm] at h
    rw [bind_apply_ok hxm]
    exact (hf a).ends m' h

theorem of_imp (hP : ∀ m, R m → P m) (hx : Ensures P x Q E) : Ensures R x Q E :=
  ⟨fun m hm => hx.ends m (hP m hm)⟩

theorem weaken {Q' : α → Machine β → Prop} (hx : Ensures P x Q E)
    (hQ : ∀ a m, Q a m → Q' a m) : Ensures P x Q' E := by
  refine ⟨fun m hm => ?_⟩
  have h := hx.ends m hm
  rcases hxm : x m with ⟨halt | a, m'⟩
  · rw [hxm] at h
    exact h
  · rw [hxm] at h
    exact hQ a m' h

theorem weakenHalt {E' : Halt → Machine β → Prop} (hx : Ensures P x Q E)
    (hE : ∀ halt m, E halt m → E' halt m) : Ensures P x Q E' := by
  refine ⟨fun m hm => ?_⟩
  have h := hx.ends m hm
  rcases hxm : x m with ⟨halt | a, m'⟩
  · rw [hxm] at h
    exact hE halt m' h
  · rw [hxm] at h
    exact h

theorem ite {c : Prop} [Decidable c] {y : Exec β α} (hx : c → Ensures P x Q E)
    (hy : ¬c → Ensures P y Q E) : Ensures P (if c then x else y) Q E := by
  split
  case isTrue h => exact hx h
  case isFalse h => exact hy h

theorem done {a : α} (hQ : ∀ m, P m → Q a m) : Ensures P (pure a) Q E := ⟨hQ⟩

theorem read {Q : Machine β → Machine β → Prop} (hQ : ∀ m, P m → Q m m) :
    Ensures P (get : Exec β (Machine β)) Q E := ⟨hQ⟩

theorem change {g : Machine β → Machine β} {Q : Unit → Machine β → Prop}
    (hQ : ∀ m, P m → Q () (g m)) : Ensures P (modify g) Q E := ⟨hQ⟩

theorem changeGet {g : Machine β → α × Machine β} (hQ : ∀ m, P m → Q (g m).1 (g m).2) :
    Ensures P (modifyGet g) Q E := ⟨hQ⟩

theorem halt {halt : Halt} (hE : ∀ m, P m → E halt m) :
    Ensures P (throw halt : Exec β α) Q E := ⟨hE⟩

theorem fail {e : ScriptError} (hE : ∀ m, P m → E (.failed e) m) :
    Ensures P (fail e : Exec β α) Q E := ⟨hE⟩

theorem require {r : Except ScriptError α} (hQ : ∀ m a, r = .ok a → P m → Q a m)
    (hE : ∀ m e, r = .error e → P m → E (.failed e) m) : Ensures P (require r) Q E := by
  refine ⟨fun m hm => ?_⟩
  cases r with
  | error e => exact hE m e rfl hm
  | ok a => exact hQ m a rfl hm

/-- What is there needs no check. -/
theorem given {a : α} (hf : Ensures P (f a) S E) : Ensures P (Run.require (.ok a) >>= f) S E :=
  ⟨hf.ends⟩

/-- What is not there stops the run. -/
theorem missing {e : ScriptError} (hE : ∀ m, P m → E (.failed e) m) :
    Ensures P (Run.require (.error e) >>= f) S E :=
  ⟨hE⟩

/-- After the machine is read, it still is what was read. -/
theorem readBind {f : Machine β → Exec β γ} (hf : ∀ m, P m → Ensures (· = m) (f m) S E) :
    Ensures P (get >>= f) S E :=
  ⟨fun m hm => (hf m hm).ends m rfl⟩

theorem requireSession (hE : ∀ m, P m → E (.failed .noSession) m) :
    Ensures P requireSession (fun _ m => m.sessionOpen = true ∧ P m) E := by
  refine ⟨fun m hm => ?_⟩
  rw [requireSession_apply]
  by_cases h : m.sessionOpen = true
  · rw [if_pos h]
    exact ⟨h, hm⟩
  · rw [if_neg h]
    exact hE m hm

theorem activeElement (hE : ∀ m, m.active = none → P m → E (.failed .noElement) m) :
    Ensures P activeElement (fun e m => m.active = some e ∧ P m) E := by
  refine ⟨fun m hm => ?_⟩
  rw [activeElement_apply]
  cases h : m.active with
  | none => exact hE m h hm
  | some e => exact ⟨h, hm⟩

theorem stopIfInterrupted (hE : ∀ m, P m → E (.failed (.exit 1)) (m.note stopNote)) :
    Ensures P stopIfInterrupted (fun _ m => m.time.raised = false ∧ P m) E := by
  refine ⟨fun m hm => ?_⟩
  cases h : m.time.raised with
  | true =>
    rw [stopIfInterrupted_of_raised h]
    exact hE m hm
  | false =>
    rw [stopIfInterrupted_of_lowered h]
    exact ⟨h, hm⟩

theorem perform {setup : Setup β} {call : Call}
    {Q : Except BrowserError call.Answer → Machine β → Prop}
    (hQ : ∀ m, P m → Q (callOn setup call m).1 (callOn setup call m).2) :
    Ensures P (perform setup call) Q E := ⟨hQ⟩

theorem demand {setup : Setup β} {call : Call} {Q : call.Answer → Machine β → Prop}
    (hQ : ∀ m a, (callOn setup call m).1 = .ok a → P m → Q a (callOn setup call m).2)
    (hE : ∀ m e, (callOn setup call m).1 = .error e → P m →
      E (.failed (.browser e)) (callOn setup call m).2) :
    Ensures P (demand setup call) Q E := by
  refine ⟨fun m hm => ?_⟩
  rw [demand_apply]
  cases h : (callOn setup call m).1 with
  | error e => exact hE m e h hm
  | ok a => exact hQ m a h hm

theorem waitRound {setup : Setup β} {deadline : Nat} {Q : Unit → Machine β → Prop}
    (hQ : ∀ m d, P m → Q () (m.passTo (m.time.wait setup.clock d) .poll)) :
    Ensures P (waitRound setup deadline) Q E :=
  ⟨fun m hm => hQ m _ hm⟩

end Ensures

/-- A property that calls, waits and notes keep, whatever becomes of the session.  Where the run
stops in one of them, `E` holds. -/
structure Lasting (setup : Setup β) (P : Machine β → Prop) (E : Halt → Machine β → Prop) :
    Prop where
  note : ∀ {m} entry, P m → P (m.note entry)
  call : ∀ {m} call, P m → P (callOn setup call m).2
  pass : ∀ {m} time place, P m → P (m.passTo time place)
  session : ∀ {m} sessionOpen active, P m → P { m with sessionOpen, active }
  browser : ∀ {m} e, P m → E (.failed (.browser e)) m
  timeout : ∀ {m} what after, P m → E (.failed (.timeout what after)) m
  exit : ∀ {m}, P m → E (.failed (.exit 1)) m
  unfinished : ∀ {m}, P m → E .unfinished m

namespace Lasting

variable {setup : Setup β} {P : Machine β → Prop} {E : Halt → Machine β → Prop}

theorem log (h : Lasting setup P E) (level : Log.Level) (message : String)
    (fields : List (String × Log.Content)) :
    Ensures P (log level message fields) (fun _ => P) E :=
  .change fun _ hm => h.note _ hm

theorem demand (h : Lasting setup P E) (call : Call) :
    Ensures P (demand setup call) (fun _ => P) E :=
  .demand (fun _ _ _ hm => h.call call hm) fun _ e _ hm => h.browser e (h.call call hm)

theorem stopIfInterrupted (h : Lasting setup P E) :
    Ensures P stopIfInterrupted (fun _ => P) E :=
  .weaken (.stopIfInterrupted fun _ hm => h.exit (h.note stopNote hm)) fun _ _ hm => hm.2

theorem waitRound (h : Lasting setup P E) (deadline : Nat) :
    Ensures P (waitRound setup deadline) (fun _ => P) E :=
  .waitRound fun _ _ hm => h.pass _ _ hm

theorem findBefore (h : Lasting setup P E) (l : Locator) (timeout : Duration) (deadline n : Nat) :
    Ensures P (findBefore setup l timeout deadline n) (fun _ => P) E := by
  induction n with
  | zero => exact .bind h.stopIfInterrupted fun _ => .halt fun _ hm => h.unfinished hm
  | succ n ih =>
    refine .bind h.stopIfInterrupted fun _ => ?_
    refine .bind (.perform (Q := fun _ => P) fun m hm => h.call _ hm) fun reply => ?_
    cases reply with
    | ok e => exact .done fun _ hm => hm
    | error e =>
      cases e with
      | noSuchElement what =>
        refine .bind (.read fun _ hm => hm) fun m' => .ite (fun _ => ?_) fun _ => ?_
        · exact .bind (h.waitRound deadline) fun _ => ih
        · exact .ite (fun _ => .fail fun _ hm => h.browser _ hm)
            fun _ => .fail fun _ hm => h.timeout _ _ hm
      | _ => exact .fail fun _ hm => h.browser _ hm

theorem pollFind (h : Lasting setup P E) (l : Locator) (timeout : Duration) :
    Ensures P (pollFind setup l timeout) (fun _ => P) E :=
  .bind (.read fun _ hm => hm) fun _ => h.findBefore l timeout _ _

theorem holds (h : Lasting setup P E) (c : Condition) :
    Ensures P (holds setup c) (fun _ => P) E := by
  cases c <;> exact .bind (h.demand _) fun _ => .done fun _ hm => hm

theorem holdsBefore (h : Lasting setup P E) (c : Condition) (timeout : Duration)
    (deadline n : Nat) : Ensures P (holdsBefore setup c timeout deadline n) (fun _ => P) E := by
  induction n with
  | zero => exact .bind h.stopIfInterrupted fun _ => .halt fun _ hm => h.unfinished hm
  | succ n ih =>
    refine .bind h.stopIfInterrupted fun _ => .bind (h.holds c) fun found => ?_
    refine .ite (fun _ => .done fun _ hm => hm) fun _ => ?_
    refine .bind (.read fun _ hm => hm) fun m' => .ite (fun _ => ?_) fun _ => ?_
    · exact .bind (h.waitRound deadline) fun _ => ih
    · exact .fail fun _ hm => h.timeout _ _ hm

theorem waitFor (h : Lasting setup P E) (c : Condition) (timeout : Duration) :
    Ensures P (waitFor setup c timeout) (fun _ => P) E :=
  .bind (.read fun _ hm => hm) fun _ => h.holdsBefore c timeout _ _

theorem endSession (h : Lasting setup P E) : Ensures P (endSession setup) (fun _ => P) E := by
  refine .bind (.change (Q := fun _ => P) fun m hm => h.session false none hm) fun _ => ?_
  exact .bind (h.demand _) fun _ => .done fun _ hm => hm

end Lasting

end BrowserScript.Run
