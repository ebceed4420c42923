import BrowserScript.Key

/-!
# Script variables

The store of a run: names with plain texts or key constants.  It starts from the key constants,
then takes the process environment, then the caller's own settings, later sources winning.
-/

namespace BrowserScript

/-- The content of a variable: a plain text or a key constant. -/
inductive Variable where
  | text (s : String)
  | key (k : Key)
  deriving DecidableEq, Repr

def Variable.toText : Variable → String
  | .text s => s
  | .key k => k.text

structure Variables where
  entries : List (String × Variable)
  deriving DecidableEq, Repr

namespace Variables

def empty : Variables := ⟨[]⟩

/-- The entries with one variable written, at the place of its old content if it had one. -/
def write (name : String) (value : Variable) : List (String × Variable) → List (String × Variable)
  | [] => [(name, value)]
  | (n, v) :: rest => if name = n then (n, value) :: rest else (n, v) :: write name value rest

def find (name : String) : List (String × Variable) → Option Variable
  | [] => none
  | (n, v) :: rest => if name = n then some v else find name rest

def set (name : String) (value : Variable) (vars : Variables) : Variables :=
  ⟨write name value vars.entries⟩

def get? (vars : Variables) (name : String) : Option Variable := find name vars.entries

def contains (vars : Variables) (name : String) : Bool := (vars.get? name).isSome

def getKey? (vars : Variables) (name : String) : Option Key :=
  match vars.get? name with
  | some (.key k) => some k
  | _ => none

def size (vars : Variables) : Nat := vars.entries.length

def setDefault (name : String) (value : Variable) (vars : Variables) : Variables :=
  if vars.contains name then vars else vars.set name value

def setTexts (pairs : List (String × String)) (vars : Variables) : Variables :=
  pairs.foldl (fun vs p => vs.set p.1 (.text p.2)) vars

def constants : Variables :=
  Key.all.foldl (fun vs k => vs.set k.constantName (.key k)) empty

/-- The variables at the start of a run: key constants, environment, then overrides. -/
def forRun (environment overrides : List (String × String)) : Variables :=
  (constants.setTexts environment).setTexts overrides

@[simp]
theorem get?_empty (name : String) : empty.get? name = none := rfl

theorem find_write (name n : String) (value : Variable) (entries : List (String × Variable)) :
    find n (write name value entries) = if n = name then some value else find n entries := by
  induction entries with
  | nil => simp [write, find]
  | cons e rest ih =>
    obtain ⟨m, v⟩ := e
    unfold write
    split
    · rename_i h
      subst h
      by_cases hn : n = name <;> simp [find, hn]
    · rename_i h
      simp only [find, ih]
      by_cases hm : n = m
      · subst hm
        simp [show ¬ n = name from fun e => h e.symm]
      · simp [hm]

/-- A written variable holds what was written, and no other is touched. -/
theorem get?_set (vars : Variables) (name n : String) (value : Variable) :
    (vars.set name value).get? n = if n = name then some value else vars.get? n :=
  find_write name n value vars.entries

theorem setDefault_of_absent {vars : Variables} {name : String}
    (h : vars.contains name = false) (value : Variable) :
    vars.setDefault name value = vars.set name value := by
  rw [setDefault, h]
  rfl

theorem setDefault_of_present {vars : Variables} {name : String}
    (h : vars.contains name = true) (value : Variable) : vars.setDefault name value = vars :=
  if_pos h

end Variables

end BrowserScript
