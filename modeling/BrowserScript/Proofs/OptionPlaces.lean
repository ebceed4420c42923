import BrowserScript.Binding
import BrowserScript.Proofs.SplitPositions
import Mathlib.Data.List.Nodup
import Mathlib.Data.List.Perm.Basic

/-!
# Where options stand

An option and its value may stand anywhere between the positional words.  The splitter sets both
aside at once, so the words around them keep their places, and the dictionary of options forgets in
which order they came.  What binds to the parameters, or why nothing does, is decided by these two
parts alone.
-/

namespace BrowserScript

namespace Dict

variable {α : Type}

/-- Entries under different names can be added in either order. -/
theorem insert_comm {k l : String} (h : k ≠ l) (v w : α) (d : Dict α) :
    insert k v (insert l w d) = insert l w (insert k v d) := by
  induction d with
  | nil =>
    rcases lt_or_gt_of_ne h with hlt | hlt
    · simp [insert, hlt, not_lt_of_gt hlt, h.symm]
    · simp [insert, hlt, not_lt_of_gt hlt, h]
  | cons e d ih => grind [insert]

theorem ofList_perm {entries others : List (String × α)} (hperm : entries.Perm others)
    (hkeys : (entries.map Prod.fst).Nodup) : ofList entries = ofList others := by
  refine hperm.foldl_eq' (fun e he e' he' d => ?_) []
  by_cases hkey : e.1 = e'.1
  · rw [List.inj_on_of_nodup_map hkeys he he' hkey]
  · exact insert_comm (Ne.symm hkey) e'.2 e.2 d

end Dict

namespace Arguments

/-- The words are the positional ones in order, and somewhere between them, in any order, the
options, each with its value behind it. -/
inductive Placed : List String → List (String × String) → List String → Prop
  | nil : Placed [] [] []
  | positional {word : String} {positional words : List String} {options : List (String × String)}
      (hword : isOption word = false) (rest : Placed positional options words) :
      Placed (word :: positional) options (word :: words)
  | option {key value : String} {positional words : List String}
      (before : List (String × String)) {after : List (String × String)}
      (hvalue : isOption value = false) (rest : Placed positional (before ++ after) words) :
      Placed positional (before ++ (key, value) :: after) (("--" ++ key) :: value :: words)

theorem group_cons_of_free {word : String} (h : isOption word = false) (rest : List String) :
    group (word :: rest) = .positional word :: group rest := by
  have hword : optionKey? word = none := by simpa [isOption] using h
  cases rest <;> simp [group, hword]

theorem group_option_cons {value : String} (h : isOption value = false) (key : String)
    (rest : List String) :
    group (("--" ++ key) :: value :: rest) = .option key (.text value) :: group rest := by
  have hkey : optionKey? ("--" ++ key) = some key := optionKey?_eq_some_iff.mpr rfl
  have hvalue : optionKey? value = none := by simpa [isOption] using h
  simp [group, hkey, hvalue]

namespace Placed

variable {positional words : List String} {options : List (String × String)}

theorem positional_group (h : Placed positional options words) :
    Arguments.positional (group words) = positional := by
  induction h with
  | nil => rfl
  | positional hword rest ih => rw [group_cons_of_free hword, positional_cons_positional, ih]
  | option before hvalue rest ih => rw [group_option_cons hvalue, positional_cons_option, ih]

theorem options_group (h : Placed positional options words) :
    (Arguments.options (group words)).Perm (options.map fun o => (o.1, .text o.2)) := by
  induction h with
  | nil => exact .nil
  | positional hword rest ih =>
    rw [group_cons_of_free hword]
    exact ih
  | @option key value _ _ before after hvalue rest ih =>
    rw [group_option_cons hvalue]
    refine (ih.cons (key, .text value)).trans ?_
    rw [List.map_append, List.map_append, List.map_cons]
    exact List.perm_middle.symm

/-- Wherever the options stand, the words split into the same two parts. -/
theorem split_eq (h : Placed positional options words) (hkeys : (options.map Prod.fst).Nodup) :
    split words = (positional, Dict.ofList (options.map fun o => (o.1, .text o.2))) := by
  have hperm := h.options_group
  have hnodup : ((Arguments.options (group words)).map Prod.fst).Nodup := by
    refine (hperm.map Prod.fst).nodup_iff.mpr ?_
    simpa [Function.comp_def] using hkeys
  exact Prod.ext h.positional_group (Dict.ofList_perm hperm hnodup)

end Placed

end Arguments

namespace Binding

/-- Where options stand does not matter.  Words with the same positional texts in order and the same
options with their values bind alike: to the same values, or not at all for the same reason. -/
theorem options_stand_anywhere (vars : Variables) (action : Action) {positional : List String}
    {options : List (String × String)} (hkeys : (options.map Prod.fst).Nodup)
    {words others : List String} (h : Arguments.Placed positional options words)
    (h' : Arguments.Placed positional options others) :
    bind vars action words = bind vars action others := by
  rw [bind, bind, h.split_eq hkeys, h'.split_eq hkeys]

/-- An action with an option of either kind: one that it declares, and one that it only collects. -/
def searching : Action :=
  ⟨"search", .select, [.fixed "query" .text, .keyword "page_load" .duration,
    .variadicKeyword "options" .auto]⟩

theorem options_stand_anywhere_searching :
    let words := ["--page-load", "3s", "lost", "--depth", "2"]
    let others := ["lost", "--depth", "2", "--page-load", "3s"]
    bind .empty searching words = bind .empty searching others ∧
      bind .empty searching words = .ok ⟨"search", [("page_load", .duration 3000000000),
        ("query", .text "lost")], [], [("depth", .integer 2)]⟩ := by
  intro words others
  have hwords : Arguments.Placed ["lost"] [("depth", "2"), ("page-load", "3s")] words :=
    .option [_] rfl (.positional rfl (.option [] rfl .nil))
  have hothers : Arguments.Placed ["lost"] [("depth", "2"), ("page-load", "3s")] others :=
    .positional rfl (.option [] rfl (.option [] rfl .nil))
  have hkeys : ([("depth", "2"), ("page-load", "3s")].map Prod.fst).Nodup := by decide
  exact ⟨options_stand_anywhere .empty searching hkeys hwords hothers, by decide +kernel⟩

end Binding

end BrowserScript
