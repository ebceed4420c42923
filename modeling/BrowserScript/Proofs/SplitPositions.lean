import BrowserScript.Proofs.Arity
import Mathlib.Data.List.Induction
import Mathlib.Data.String.Basic

/-!
# Arguments by position

What becomes of a word depends on its neighbours only.  It is positional if neither it nor the word
before it names an option, and an option takes the next word as its value unless that one names an
option too.  A dictionary keeps what was added last under a name, so the last occurrence of an
option decides its value.
-/

namespace BrowserScript

namespace Dict

variable {α : Type}

def IsSorted (d : Dict α) : Prop := (keys d).Pairwise (· < ·)

@[simp]
theorem keys_nil : keys ([] : Dict α) = [] := rfl

@[simp]
theorem keys_cons (e : String × α) (d : Dict α) : keys (e :: d) = e.1 :: keys d := rfl

@[simp]
theorem mem_keys_insert {key k : String} {value : α} {d : Dict α} :
    k ∈ keys (insert key value d) ↔ k = key ∨ k ∈ keys d := by
  induction d with
  | nil => simp [insert]
  | cons e d ih =>
    unfold insert
    split
    · simp
    split
    · rename_i hkey
      simp [hkey]
    · simp [ih, or_left_comm]

theorem isSorted_insert {key : String} {value : α} {d : Dict α} (h : IsSorted d) :
    IsSorted (insert key value d) := by
  induction d with
  | nil => simp [insert, IsSorted]
  | cons e d ih =>
    obtain ⟨hfirst, hrest⟩ := List.pairwise_cons.mp h
    unfold insert
    split
    · rename_i hlt
      refine List.pairwise_cons.mpr ⟨fun k hk => ?_, h⟩
      rcases List.mem_cons.mp hk with rfl | hk
      · exact hlt
      · exact lt_trans hlt (hfirst k hk)
    split
    · rename_i hkey
      subst hkey
      exact List.pairwise_cons.mpr ⟨hfirst, hrest⟩
    · rename_i hlt hkey
      refine List.pairwise_cons.mpr ⟨fun k hk => ?_, ih hrest⟩
      rcases mem_keys_insert.mp hk with rfl | hk
      · exact lt_of_le_of_ne (not_lt.mp hlt) (Ne.symm hkey)
      · exact hfirst k hk

theorem ofList_concat (entries : List (String × α)) (e : String × α) :
    ofList (entries ++ [e]) = insert e.1 e.2 (ofList entries) := by
  simp [ofList, insertAll]

theorem isSorted_ofList (entries : List (String × α)) : IsSorted (ofList entries) := by
  induction entries using List.reverseRecOn with
  | nil => exact .nil
  | append_singleton entries e ih =>
    rw [ofList_concat]
    exact isSorted_insert ih

theorem mem_keys_ofList {k : String} {entries : List (String × α)} :
    k ∈ keys (ofList entries) ↔ k ∈ entries.map Prod.fst := by
  induction entries using List.reverseRecOn with
  | nil => rfl
  | append_singleton entries e ih =>
    rw [ofList_concat, mem_keys_insert, ih]
    simp [or_comm]

theorem insert_of_forall_lt {key : String} {d : Dict α} (h : ∀ k ∈ keys d, k < key)
    (value : α) : insert key value d = d ++ [(key, value)] := by
  induction d with
  | nil => rfl
  | cons e d ih =>
    obtain ⟨hfirst, hrest⟩ := List.forall_mem_cons.mp h
    rw [insert, if_neg (not_lt_of_gt hfirst), if_neg (ne_of_gt hfirst), ih hrest, List.cons_append]

theorem ofList_of_isSorted {d : Dict α} (h : IsSorted d) : ofList d = d := by
  induction d using List.reverseRecOn with
  | nil => rfl
  | append_singleton d e ih =>
    rw [IsSorted, keys, List.map_append, List.pairwise_append] at h
    obtain ⟨hsorted, -, hlast⟩ := h
    rw [ofList_concat, ih hsorted]
    exact insert_of_forall_lt (fun k hk => hlast k hk e.1 List.mem_cons_self) e.2

/-- The last entry of a name counts. -/
theorem get?_ofList_append {key : String} {after : List (String × α)}
    (hafter : key ∉ after.map Prod.fst) (before : List (String × α)) (value : α) :
    get? key (ofList (before ++ (key, value) :: after)) = some value := by
  induction after using List.reverseRecOn with
  | nil => simp [ofList_concat, get?_insert]
  | append_singleton after e ih =>
    obtain ⟨hafter, he⟩ : key ∉ after.map Prod.fst ∧ key ≠ e.1 := by simpa using hafter
    rw [← List.cons_append, ← List.append_assoc, ofList_concat, get?_insert, if_neg he, ih hafter]

end Dict

namespace Arguments

theorem optionKey?_eq_some_iff {word key : String} :
    optionKey? word = some key ↔ word = "--" ++ key := by
  unfold optionKey?
  constructor
  · intro h
    split at h
    · rename_i cs hword
      apply String.toList_injective
      simp [hword, ← Option.some.inj h]
    · nomatch h
  · rintro rfl
    simp

theorem isOption_iff_exists {word : String} :
    isOption word = true ↔ ∃ key, word = "--" ++ key := by
  simp [isOption, Option.isSome_iff_exists, optionKey?_eq_some_iff]

/-! ### Positional words -/

/-- Whether neither the word at a position nor the one before it names an option.  What stands
before the first word is given. -/
def isFree (afterOption : Bool) (words : List String) : Nat → Bool
  | 0 => !(words[0]?).any isOption && !afterOption
  | i + 1 => !(words[i + 1]?).any isOption && !(words[i]?).any isOption

def freeWords (afterOption : Bool) (words : List String) : List String :=
  ((List.range words.length).filter (isFree afterOption words)).filterMap (words[·]?)

@[simp]
theorem freeWords_nil (afterOption : Bool) : freeWords afterOption [] = [] := rfl

theorem isFree_cons_succ (afterOption : Bool) (word : String) (rest : List String) (i : Nat) :
    isFree afterOption (word :: rest) (i + 1) = isFree (isOption word) rest i := by
  cases i with
  | zero => simp [isFree]
  | succ i => simp [isFree]

theorem freeWords_cons (afterOption : Bool) (word : String) (rest : List String) :
    freeWords afterOption (word :: rest) =
      (if isOption word || afterOption then [] else [word]) ++ freeWords (isOption word) rest := by
  have hshift : ((List.range rest.length).map (· + 1)).filter (isFree afterOption (word :: rest)) =
      ((List.range rest.length).filter (isFree (isOption word) rest)).map (· + 1) := by
    rw [List.filter_map]
    congr 1
    exact List.filter_congr fun i _ => isFree_cons_succ afterOption word rest i
  rw [freeWords, List.length_cons, List.range_succ_eq_map, List.filter_cons, hshift]
  cases hword : isOption word <;> cases afterOption <;>
    simp [isFree, hword, freeWords, List.filterMap_map]

theorem freeWords_of_option {word : String} (h : isOption word = true) (afterOption : Bool)
    (rest : List String) : freeWords afterOption (word :: rest) = freeWords true rest := by
  simp [freeWords_cons, h]

/-- The splitter puts the words at the free positions aside. -/
theorem positional_group (words : List String) :
    positional (group words) = freeWords false words := by
  fun_induction group words with
  | case1 => rfl
  | case2 word hword => simp [freeWords_cons, isOption, hword, positional]
  | case3 word key hword => simp [freeWords_cons, isOption, hword, positional]
  | case4 word next after hword ih =>
    have hfree : isOption word = false := by simp [isOption, hword]
    rw [positional_cons_positional, ih, freeWords_cons false word, hfree]
    rfl
  | case5 word next after key hword hnext ih =>
    have hoption : isOption word = true := by simp [isOption, hword]
    rw [positional_cons_option, ih, freeWords_of_option hoption, freeWords_of_option hnext,
      freeWords_of_option hnext]
  | case6 word next after key hword hnext ih =>
    -- The next word is the value of the option, so the word behind it follows no option.
    have hoption : isOption word = true := by simp [isOption, hword]
    have hvalue : isOption next = false := by simpa [isOption] using hnext
    rw [positional_cons_option, ih, freeWords_of_option hoption, freeWords_cons true next, hvalue]
    rfl

/-! ### Options -/

/-- The value that an option takes from the position behind it. -/
def valueAt (words : List String) (i : Nat) : Named :=
  match words[i]? with
  | some next => if isOption next then .flag else .text next
  | none => .flag

theorem options_group_of_none {word : String} (h : optionKey? word = none) (rest : List String) :
    options (group (word :: rest)) = options (group rest) := by
  cases rest with
  | nil => simp [group, h, options]
  | cons next after => simp [group, h, options]

/-- Each word that names an option gives an entry, whatever stands before it. -/
theorem options_group_cons (word : String) (rest : List String) :
    options (group (word :: rest)) =
      (optionKey? word).toList.map (fun key => (key, valueAt rest 0)) ++ options (group rest) := by
  cases hword : optionKey? word with
  | none => exact options_group_of_none hword rest
  | some key =>
    cases rest with
    | nil => simp [group, hword, options, valueAt]
    | cons next after =>
      cases hnext : optionKey? next with
      | some other => simp [group, hword, hnext, options, valueAt, isOption]
      | none =>
        rw [options_group_of_none hnext]
        simp [group, hword, hnext, options, valueAt, isOption]

theorem mem_options_group {key : String} {words : List String} :
    key ∈ (options (group words)).map Prod.fst ↔ "--" ++ key ∈ words := by
  induction words with
  | nil => simp [group, options]
  | cons word rest ih =>
    have hword : key ∈ optionKey? word ↔ "--" ++ key = word := by
      rw [Option.mem_def, optionKey?_eq_some_iff, eq_comm]
    rw [options_group_cons, List.map_append, List.mem_append, ih, List.mem_cons, ← hword]
    simp

theorem exists_options_group_append (before : List String) (key : String) (after : List String) :
    ∃ earlier, options (group (before ++ ("--" ++ key) :: after)) =
      earlier ++ (key, valueAt after 0) :: options (group after) := by
  induction before with
  | nil =>
    have hkey : optionKey? ("--" ++ key) = some key := optionKey?_eq_some_iff.mpr rfl
    exact ⟨[], by rw [List.nil_append, options_group_cons, hkey]; rfl⟩
  | cons word before ih =>
    obtain ⟨earlier, hearlier⟩ := ih
    rw [List.cons_append, options_group_cons, hearlier]
    exact ⟨_ ++ earlier, by rw [List.append_assoc]⟩

/-- The last occurrence of an option decides its value. -/
theorem get?_split_of_last {words : List String} {key : String} {i : Nat}
    (hi : words[i]? = some ("--" ++ key)) (hlast : ∀ j, i < j → words[j]? ≠ some ("--" ++ key)) :
    Dict.get? key (split words).2 = some (valueAt words (i + 1)) := by
  obtain ⟨hlt, hword⟩ := List.getElem?_eq_some_iff.mp hi
  have hwords : words = words.take i ++ ("--" ++ key) :: words.drop (i + 1) := by
    rw [← hword, ← List.drop_eq_getElem_cons hlt, List.take_append_drop]
  have hvalue : valueAt (words.drop (i + 1)) 0 = valueAt words (i + 1) := by
    simp [valueAt, List.getElem?_drop]
  have hafter : key ∉ (options (group (words.drop (i + 1)))).map Prod.fst := by
    rw [mem_options_group, List.mem_iff_getElem?]
    rintro ⟨j, hj⟩
    rw [List.getElem?_drop] at hj
    exact hlast (i + 1 + j) (by omega) hj
  obtain ⟨earlier, hearlier⟩ := exists_options_group_append (words.take i) key (words.drop (i + 1))
  rw [← hwords, hvalue] at hearlier
  change Dict.get? key (Dict.ofList (options (group words))) = _
  rw [hearlier, Dict.get?_ofList_append hafter]

/-- Words are split by position: a word is positional exactly if neither it nor the word before it
starts with two dashes; the options are named by what follows the dashes; and the word behind the
last occurrence of an option decides its value. -/
theorem split_by_position (words : List String) :
    (∀ word, isOption word = true ↔ ∃ key, word = "--" ++ key) ∧
    (split words).1 =
      ((List.range words.length).filter (isFree false words)).filterMap (words[·]?) ∧
    Dict.IsSorted (split words).2 ∧
    (∀ key, key ∈ Dict.keys (split words).2 ↔ "--" ++ key ∈ words) ∧
    ∀ key i, words[i]? = some ("--" ++ key) → (∀ j, i < j → words[j]? ≠ some ("--" ++ key)) →
      Dict.get? key (split words).2 = some (valueAt words (i + 1)) := by
  refine ⟨fun word => isOption_iff_exists, positional_group words, Dict.isSorted_ofList _,
    fun key => Dict.mem_keys_ofList.trans mem_options_group, fun key i hi hlast => ?_⟩
  exact get?_split_of_last hi hlast

/-- An option that occurs twice, and one whose name is empty. -/
def repeated : List String := ["go", "--k", "1", "--k", "--", "b", "c"]

theorem split_by_position_repeated :
    repeated[3]? = some ("--" ++ "k") ∧ (∀ j, 3 < j → repeated[j]? ≠ some ("--" ++ "k")) ∧
    (split repeated).1 = ["go", "c"] ∧ Dict.keys (split repeated).2 = ["", "k"] ∧
    Dict.get? "k" (split repeated).2 = some .flag := by
  have hlast : ∀ j, 3 < j → repeated[j]? ≠ some ("--" ++ "k") := by
    intro j hj
    match j, hj with
    | 4, _ | 5, _ | 6, _ => decide
    | j + 7, _ => simp [repeated]
  obtain ⟨-, -, -, -, hvalue⟩ := split_by_position repeated
  exact ⟨by decide, hlast, by decide, by decide, hvalue "k" 3 (by decide) hlast⟩

end Arguments

end BrowserScript
