/-!
# Sorted dictionaries

Finite maps from names to values, held as lists in increasing order of the names, so that two
dictionaries with the same entries are the same list.
-/

namespace BrowserScript

abbrev Dict (α : Type) := List (String × α)

namespace Dict

variable {α : Type}

def insert (key : String) (value : α) : Dict α → Dict α
  | [] => [(key, value)]
  | (k, v) :: rest =>
    if key < k then (key, value) :: (k, v) :: rest
    else if key = k then (key, value) :: rest
    else (k, v) :: insert key value rest

def get? (key : String) : Dict α → Option α
  | [] => none
  | (k, v) :: rest => if key = k then some v else get? key rest

def erase (key : String) : Dict α → Dict α
  | [] => []
  | (k, v) :: rest => if key = k then rest else (k, v) :: erase key rest

def keys (d : Dict α) : List String := d.map (·.1)

def contains (key : String) (d : Dict α) : Bool := (get? key d).isSome

/-- The dictionary with the given entries added, the later ones replacing the earlier. -/
def insertAll (entries : List (String × α)) (d : Dict α) : Dict α :=
  entries.foldl (fun d e => insert e.1 e.2 d) d

def ofList (entries : List (String × α)) : Dict α := insertAll entries []

@[simp]
theorem get?_nil (key : String) : get? key ([] : Dict α) = none := rfl

theorem get?_cons (key k : String) (v : α) (rest : Dict α) :
    get? key ((k, v) :: rest) = if key = k then some v else get? key rest := rfl

/-- An added entry is found under its name, and no other name is touched. -/
theorem get?_insert (key k : String) (value : α) (d : Dict α) :
    get? k (insert key value d) = if k = key then some value else get? k d := by
  induction d with
  | nil => simp [insert, get?]
  | cons e rest ih =>
    obtain ⟨k', v'⟩ := e
    unfold insert
    split
    · simp [get?]
    · split
      · rename_i h
        subst h
        by_cases hk : k = key <;> simp [get?, hk]
      · rename_i h
        rw [get?_cons, ih, get?_cons]
        by_cases hk : k = k'
        · subst hk
          simp [show ¬ k = key from fun e => h e.symm]
        · simp [hk]

end Dict

end BrowserScript
