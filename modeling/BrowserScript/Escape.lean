/-!
# Escape sequences

A backslash sequence names a character: `\n \t \r \0 \\ \' \"`, `\xHH` with two hexadecimal digits
and `\u` with one to six of them in braces.  A backslash that starts none of these stands for
itself.
-/

namespace BrowserScript.Escape

def hexValue? (c : Char) : Option Nat :=
  if '0' ≤ c ∧ c ≤ '9' then some (c.toNat - '0'.toNat)
  else if 'a' ≤ c ∧ c ≤ 'f' then some (c.toNat - 'a'.toNat + 10)
  else if 'A' ≤ c ∧ c ≤ 'F' then some (c.toNat - 'A'.toNat + 10)
  else none

def hexNumber? (start : Nat) : List Char → Option Nat
  | [] => some start
  | c :: rest => (hexValue? c).bind fun d => hexNumber? (16 * start + d) rest

def charOf? (n : Nat) : Option Char :=
  if n.isValidChar then some (Char.ofNat n) else none

def short? (c : Char) : Option Char :=
  if c = 'n' then some '\n'
  else if c = 't' then some '\t'
  else if c = 'r' then some '\r'
  else if c = '0' then some (Char.ofNat 0)
  else if c = '\\' then some '\\'
  else if c = '\'' then some '\''
  else if c = '"' then some '"'
  else none

def braced? (digits : List Char) : Option Char :=
  if digits.isEmpty ∨ 6 < digits.length then none else (hexNumber? 0 digits).bind charOf?

/-- The character that the text after a backslash names, with what is left after the sequence. -/
def sequence? : List Char → Option (Char × List Char)
  | [] => none
  | c :: rest =>
    match short? c, c, rest with
    | some named, _, _ => some (named, rest)
    | none, 'x', h :: l :: after =>
      ((hexNumber? 0 [h, l]).bind charOf?).map fun named => (named, after)
    | none, 'u', '\x7b' :: body =>
      match body.dropWhile (· != '\x7d') with
      | [] => none
      | _ :: after => (braced? (body.takeWhile (· != '\x7d'))).map fun named => (named, after)
    | none, _, _ => none

/-- A sequence takes at least one character. -/
theorem length_lt_of_sequence? {cs after : List Char} {named : Char}
    (h : sequence? cs = some (named, after)) : after.length < cs.length := by
  cases cs with
  | nil => simp [sequence?] at h
  | cons c rest =>
    simp only [sequence?] at h
    split at h
    · simp only [Option.some.injEq, Prod.mk.injEq] at h
      simp [← h.2]
    · simp only [Option.map_eq_some_iff, Prod.mk.injEq] at h
      obtain ⟨_, _, _, rfl⟩ := h
      simp only [List.length_cons]
      omega
    · rename_i body _
      split at h
      · simp at h
      · rename_i tail hdrop
        simp only [Option.map_eq_some_iff, Prod.mk.injEq] at h
        obtain ⟨_, _, _, rfl⟩ := h
        have := (List.dropWhile_suffix (l := body) (· != '\x7d')).length_le
        rw [hdrop] at this
        simp only [List.length_cons] at this ⊢
        omega
    · simp at h

def decodeChars (cs : List Char) : List Char :=
  match cs with
  | [] => []
  | c :: rest =>
    if c = '\\' then
      match h : sequence? rest with
      | some (named, after) =>
        have := length_lt_of_sequence? h
        named :: decodeChars after
      | none => '\\' :: decodeChars rest
    else c :: decodeChars rest
termination_by cs.length
decreasing_by
  all_goals simp_wf
  all_goals omega

def decode (s : String) : String :=
  String.ofList (decodeChars s.toList)

@[simp]
theorem decodeChars_nil : decodeChars [] = [] := by
  rw [decodeChars]

theorem decodeChars_of_ne {c : Char} (h : c ≠ '\\') (rest : List Char) :
    decodeChars (c :: rest) = c :: decodeChars rest := by
  rw [decodeChars]
  simp [h]

theorem decodeChars_of_some {rest after : List Char} {named : Char}
    (h : sequence? rest = some (named, after)) :
    decodeChars ('\\' :: rest) = named :: decodeChars after := by
  rw [decodeChars]
  simp only [↓reduceIte]
  split
  · rename_i n a heq
    rw [h] at heq
    simp only [Option.some.injEq, Prod.mk.injEq] at heq
    rw [heq.1, heq.2]
  · rename_i heq
    rw [h] at heq
    cases heq

theorem decodeChars_of_none {rest : List Char} (h : sequence? rest = none) :
    decodeChars ('\\' :: rest) = '\\' :: decodeChars rest := by
  rw [decodeChars]
  simp only [↓reduceIte]
  split
  · rename_i heq
    rw [h] at heq
    cases heq
  · rfl

end BrowserScript.Escape
