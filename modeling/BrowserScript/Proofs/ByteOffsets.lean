import BrowserScript.Proofs.Spellings

/-!
# Escape sequences by byte offsets

A text in memory is a row of bytes, and a part of it can be cut out between two byte offsets only if
both lie in the text, in this order, and neither lies within a character.  Decoding can be done in
such cuts, with offsets that are found by searching for a character and counted on by what a
sequence takes.  None of these cuts fails, whatever characters stand around a backslash: what is
searched for or counted takes one byte each.  So every turn of the loop leaves less, and what comes
out at the end is the decoded text.
-/

namespace BrowserScript.Escape

/-! ### Cuts -/

/-- A text can be cut at a byte offset: it lies in the text, at one of its ends or between two
characters. -/
def IsBoundary (s : String) (offset : Nat) : Prop := (⟨offset⟩ : String.Pos.Raw).IsValid s

instance (s : String) (offset : Nat) : Decidable (IsBoundary s offset) :=
  inferInstanceAs (Decidable (String.Pos.Raw.IsValid _ _))

/-- The part of a text between two byte offsets, if it can be cut out. -/
def slice? (s : String) (start stop : Nat) : Option String :=
  if h : IsBoundary s start ∧ IsBoundary s stop ∧ start ≤ stop then
    some (s.slice (s.pos ⟨start⟩ h.1) (s.pos ⟨stop⟩ h.2.1) h.2.2).copy
  else none

structure BadCut where
  text : String
  start : Nat
  stop : Nat
  deriving DecidableEq, Repr

/-- The part of a text between two byte offsets that are taken to be right. -/
def cut (s : String) (start stop : Nat) : Except BadCut String :=
  match slice? s start stop with
  | some part => .ok part
  | none => .error ⟨s, start, stop⟩

def offset? (c : Char) (s : String) : Option Nat := (s.find? c).map (·.offset.byteIdx)

/-! ### Decoding by cuts -/

/-- The character that two digits behind an `x` name, and the bytes of the sequence.  Where the
digits cannot be cut out there is no sequence. -/
def readByte (tail : String) : Option Char × Nat :=
  match (slice? tail 1 3).bind fun digits => (hexNumber? 0 digits.toList).bind charOf? with
  | some c => (some c, 3)
  | none => (none, 0)

/-- The character that digits between braces name; there may be at most six bytes of them. -/
def namedBetween? (digits : String) : Option Char :=
  if digits = "" ∨ 6 < digits.utf8ByteSize then none
  else (hexNumber? 0 digits.toList).bind charOf?

/-- The character that digits in braces behind a `u` name, and the bytes of the sequence. -/
def readBraced (tail : String) : Except BadCut (Option Char × Nat) := do
  let body ← cut tail 1 tail.utf8ByteSize
  if body.startsWith '\x7b' then
    match offset? '\x7d' tail with
    | none => return (none, 0)
    | some close =>
      let digits ← cut tail 2 close
      match namedBetween? digits with
      | some c => return (some c, close + 1)
      | none => return (none, 0)
  else return (none, 0)

/-- The character that the text behind a backslash names, if it starts with a sequence, and the
bytes that the sequence takes. -/
def readSequence (tail : String) : Except BadCut (Option Char × Nat) :=
  match tail.front? with
  | none => return (none, 0)
  | some first =>
    match short? first with
    | some c => return (some c, 1)
    | none =>
      if first = 'x' then return readByte tail
      else if first = 'u' then readBraced tail
      else return (none, 0)

structure Decoding where
  out : String
  rest : String

/-- One turn of the loop: the text up to the next backslash and the sequence behind it, if there is
a backslash left. -/
def Decoding.turn (d : Decoding) : Except BadCut (Option Decoding) :=
  match offset? '\\' d.rest with
  | none => return none
  | some pos => do
    let before ← cut d.rest 0 pos
    let tail ← cut d.rest (pos + 1) d.rest.utf8ByteSize
    let (named, used) ← readSequence tail
    let rest ← cut tail used tail.utf8ByteSize
    return some ⟨(d.out ++ before).push (named.getD '\\'), rest⟩

/-! ### What cuts and searches give -/

theorem isBoundary_iff {s : String} {offset : Nat} :
    IsBoundary s offset ↔ ∃ a b, s = a ++ b ∧ offset = a.utf8ByteSize := by
  simp [IsBoundary, String.Pos.Raw.isValid_iff_exists_append, String.Pos.Raw.ext_iff]

theorem slice?_eq_some_iff {s part : String} {start stop : Nat} :
    slice? s start stop = some part ↔ ∃ a b, s = a ++ part ++ b ∧
      start = a.utf8ByteSize ∧ stop = a.utf8ByteSize + part.utf8ByteSize := by
  unfold slice?
  constructor
  · intro h
    split at h
    · rename_i hcut
      obtain ⟨a, b, hstart, hstop⟩ := String.copy_slice_eq_iff_splits.mp ⟨_, Option.some.inj h⟩
      refine ⟨a, b, hstop.eq_append, ?_, ?_⟩
      · exact congrArg String.Pos.Raw.byteIdx hstart.offset_eq_rawEndPos
      · rw [← String.utf8ByteSize_append]
        exact congrArg String.Pos.Raw.byteIdx hstop.offset_eq_rawEndPos
    · nomatch h
  · rintro ⟨a, b, rfl, rfl, rfl⟩
    have hstart : IsBoundary (a ++ part ++ b) a.utf8ByteSize :=
      isBoundary_iff.mpr ⟨a, part ++ b, by rw [String.append_assoc], rfl⟩
    have hstop : IsBoundary (a ++ part ++ b) (a.utf8ByteSize + part.utf8ByteSize) :=
      isBoundary_iff.mpr ⟨a ++ part, b, rfl, by rw [String.utf8ByteSize_append]⟩
    have hsplit : ∃ h, ((a ++ part ++ b).slice ((a ++ part ++ b).pos _ hstart)
        ((a ++ part ++ b).pos _ hstop) h).copy = part := by
      refine String.copy_slice_eq_iff_splits.mpr ⟨a, b, ⟨String.append_assoc, rfl⟩, rfl, ?_⟩
      exact String.Pos.Raw.ext (String.utf8ByteSize_append).symm
    rw [dif_pos ⟨hstart, hstop, Nat.le_add_right _ _⟩, hsplit.choose_spec]

theorem cut_of_slice? {s part : String} {start stop : Nat} (h : slice? s start stop = some part) :
    cut s start stop = .ok part := by
  rw [cut, h]

theorem cut_of_append {s a part b : String} {start stop : Nat} (hs : s = a ++ part ++ b)
    (hstart : start = a.utf8ByteSize) (hstop : stop = a.utf8ByteSize + part.utf8ByteSize) :
    cut s start stop = .ok part :=
  cut_of_slice? (slice?_eq_some_iff.mpr ⟨a, b, hs, hstart, hstop⟩)

theorem offset?_eq_some_iff {c : Char} {s : String} {offset : Nat} :
    offset? c s = some offset ↔
      ∃ a b, s = a ++ String.singleton c ++ b ∧ c ∉ a.toList ∧ offset = a.utf8ByteSize := by
  simp only [offset?, Option.map_eq_some_iff, String.find?_char_eq_some_iff_splits]
  constructor
  · rintro ⟨pos, ⟨a, b, hsplits, hnot⟩, rfl⟩
    refine ⟨a, b, by rw [hsplits.eq_append, String.append_assoc], hnot, ?_⟩
    simpa using congrArg String.Pos.Raw.byteIdx hsplits.offset_eq_rawEndPos
  · rintro ⟨a, b, rfl, hnot, rfl⟩
    rw [String.append_assoc]
    exact ⟨_, ⟨a, b, String.Pos.splits_append_rawEndPos, hnot⟩, rfl⟩

theorem offset?_eq_none_iff {c : Char} {s : String} : offset? c s = none ↔ c ∉ s.toList := by
  rw [offset?, Option.map_eq_none_iff, String.find?_eq_find?_toSlice, Option.map_eq_none_iff,
    String.Slice.find?_eq_none_iff, String.Slice.contains_char_eq, decide_eq_false_iff_not,
    String.copy_toSlice]

/-! ### Sequences -/

/-- The text behind a backslash is read as decoding reads it: what is taken off is the sequence at
its start, and without a sequence nothing is. -/
structure ReadsAs (tail : String) (named : Option Char) (used : Nat) (rest : String) : Prop where
  taken : ∃ part, tail = part ++ rest ∧ used = part.utf8ByteSize
  sequence : sequence? tail.toList = named.map fun c => (c, rest.toList)
  kept : named = none → rest = tail

theorem ReadsAs.ofNone {tail : String} (h : sequence? tail.toList = none) :
    ReadsAs tail none 0 tail :=
  ⟨⟨"", by simp, by simp⟩, h, fun _ => rfl⟩

theorem ReadsAs.ofSome (part : List Char) {after : List Char} {c : Char} {used : Nat}
    (hused : used = (String.ofList part).utf8ByteSize)
    (h : sequence? (part ++ after) = some (c, after)) :
    ReadsAs (String.ofList (part ++ after)) (some c) used (String.ofList after) :=
  ⟨⟨String.ofList part, String.ofList_append, hused⟩, by simpa using h, nofun⟩

/-- Hexadecimal digits take one byte each. -/
theorem utf8ByteSize_of_isNumeral {digits : List Char} {n : Nat} (h : IsNumeral digits n) :
    (String.ofList digits).utf8ByteSize = digits.length := by
  have hone : ∀ c ∈ digits, c.utf8Size = 1 := by
    intro c hc
    obtain ⟨d, hd⟩ := h.isHexDigit hc
    have hsmall := (bounds_of_hexValue? (hexValue?_eq_some_iff.mpr hd)).1
    rw [Char.utf8Size_eq_one_iff, UInt32.le_iff_toNat_le]
    exact Nat.le_of_lt_succ hsmall
  clear h
  induction digits with
  | nil => simp
  | cons c digits ih =>
    obtain ⟨hc, hdigits⟩ := List.forall_mem_cons.mp hone
    rw [String.ofList_cons, String.utf8ByteSize_append, String.utf8ByteSize_singleton, hc,
      ih hdigits, List.length_cons, Nat.add_comm]

/-- Counting bytes instead of digits makes no difference, since only digits that take one byte each
name a character. -/
theorem namedBetween?_eq (digits : List Char) :
    namedBetween? (String.ofList digits) = braced? digits := by
  ext c
  have hempty := @String.utf8ByteSize_eq_zero_iff (String.ofList digits)
  rw [braced?_eq_some_iff, namedBetween?, String.toList_ofList]
  constructor
  · intro h
    split at h
    · nomatch h
    · rename_i hsize
      have hnumeral := hexNumber?_bind_charOf?_eq_some_iff.mp h
      rw [not_or, ← hempty, utf8ByteSize_of_isNumeral hnumeral] at hsize
      exact ⟨by omega, by omega, hnumeral⟩
  · rintro ⟨hsome, hfew, hnumeral⟩
    rw [if_neg, hexNumber?_bind_charOf?_eq_some_iff]
    · exact hnumeral
    · rw [not_or, ← hempty, utf8ByteSize_of_isNumeral hnumeral]
      omega

/-- What takes one byte at the start of a text is its first character. -/
theorem eq_of_utf8ByteSize_eq_one {c : Char} {body rest : List Char} {a : String}
    (h : c :: body = a.toList ++ rest) (ha : a.utf8ByteSize = 1) : body = rest := by
  obtain ⟨cs, rfl⟩ := a.exists_eq_ofList
  rw [String.toList_ofList] at h
  cases cs with
  | nil => simp at ha
  | cons d cs =>
    obtain ⟨-, rfl⟩ := List.cons.inj h
    have hpos := d.utf8Size_pos
    rw [String.ofList_cons, String.utf8ByteSize_append, String.utf8ByteSize_singleton] at ha
    have hempty : String.ofList cs = "" := String.utf8ByteSize_eq_zero_iff.mp (by omega)
    have hnil : cs = [] := by simpa using hempty
    rw [hnil]
    rfl

/-- If what lies between the first and the third byte behind an `x` are digits, it is the next two
characters. -/
theorem named_iff_of_byte {body : List Char} {c : Char} :
    ((slice? (String.ofList ('x' :: body)) 1 3).bind fun digits =>
      (hexNumber? 0 digits.toList).bind charOf?) = some c ↔
    ∃ high low after, body = high :: low :: after ∧
      (hexNumber? 0 [high, low]).bind charOf? = some c := by
  constructor
  · intro h
    obtain ⟨digits, hslice, hnamed⟩ := Option.bind_eq_some_iff.mp h
    obtain ⟨a, b, hs, hstart, hstop⟩ := slice?_eq_some_iff.mp hslice
    have hbytes := utf8ByteSize_of_isNumeral (hexNumber?_bind_charOf?_eq_some_iff.mp hnamed)
    rw [String.ofList_toList] at hbytes
    obtain ⟨high, low, hdigits⟩ := List.length_eq_two.mp (by omega : digits.toList.length = 2)
    have hlist := congrArg String.toList hs
    rw [String.toList_ofList, String.append_assoc, String.toList_append] at hlist
    refine ⟨high, low, b.toList, ?_, by rwa [hdigits] at hnamed⟩
    rw [eq_of_utf8ByteSize_eq_one hlist hstart.symm, String.toList_append, hdigits]
    rfl
  · rintro ⟨high, low, after, rfl, hnamed⟩
    have hbytes := utf8ByteSize_of_isNumeral (hexNumber?_bind_charOf?_eq_some_iff.mp hnamed)
    have hslice : slice? (String.ofList ('x' :: high :: low :: after)) 1 3 =
        some (String.ofList [high, low]) := by
      refine slice?_eq_some_iff.mpr ⟨"x", String.ofList after, ?_, rfl, by rw [hbytes]; rfl⟩
      simp [← String.toList_inj]
    rw [hslice, Option.bind_some, String.toList_ofList, hnamed]

theorem readByte_reads (body : List Char) : ∃ named used rest,
    readByte (String.ofList ('x' :: body)) = (named, used) ∧
      ReadsAs (String.ofList ('x' :: body)) named used rest := by
  have hiff := @named_iff_of_byte body
  unfold readByte
  generalize ((slice? (String.ofList ('x' :: body)) 1 3).bind fun digits =>
    (hexNumber? 0 digits.toList).bind charOf?) = found at hiff ⊢
  cases found with
  | some c =>
    obtain ⟨high, low, after, rfl, hnamed⟩ := hiff.mp rfl
    have hbytes := utf8ByteSize_of_isNumeral (hexNumber?_bind_charOf?_eq_some_iff.mp hnamed)
    refine ⟨_, _, _, rfl, ReadsAs.ofSome ['x', high, low] ?_ ?_⟩
    · rw [String.ofList_cons, String.utf8ByteSize_append, hbytes]
      rfl
    · rw [List.cons_append, List.cons_append, List.singleton_append, sequence?_byte, hnamed]
      rfl
  | none =>
    refine ⟨_, _, _, rfl, ReadsAs.ofNone ?_⟩
    rw [String.toList_ofList]
    rcases body with _ | ⟨high, _ | ⟨low, after⟩⟩
    · rfl
    · rfl
    · rw [sequence?_byte, Option.map_eq_none_iff, Option.eq_none_iff_forall_ne_some]
      intro c hc
      nomatch hiff.mpr ⟨high, low, after, rfl, hc⟩

theorem cut_behind_letter (body : List Char) :
    cut (String.ofList ('u' :: body)) 1 (String.ofList ('u' :: body)).utf8ByteSize =
      .ok (String.ofList body) := by
  refine cut_of_append (a := "u") (b := "") ?_ rfl ?_
  · simp
  · simp

theorem utf8ByteSize_opened (digits : List Char) :
    (String.ofList ('u' :: '\x7b' :: digits)).utf8ByteSize =
      2 + (String.ofList digits).utf8ByteSize := by
  rw [String.ofList_cons, String.ofList_cons, ← String.append_assoc, String.utf8ByteSize_append]
  rfl

/-- What stands in braces is cut out between them, whatever characters it is made of. -/
theorem readBraced_closed {digits : List Char} (hclose : '\x7d' ∉ digits) (after : List Char) :
    readBraced (String.ofList ('u' :: '\x7b' :: (digits ++ '\x7d' :: after))) =
      .ok (match braced? digits with
        | some c => (some c, 2 + (String.ofList digits).utf8ByteSize + 1)
        | none => (none, 0)) := by
  have hoffset : offset? '\x7d' (String.ofList ('u' :: '\x7b' :: (digits ++ '\x7d' :: after))) =
      some (2 + (String.ofList digits).utf8ByteSize) := by
    refine offset?_eq_some_iff.mpr ⟨String.ofList ('u' :: '\x7b' :: digits), String.ofList after,
      ?_, ?_, (utf8ByteSize_opened digits).symm⟩
    · simp [← String.toList_inj]
    · simpa using hclose
  have hdigits : cut (String.ofList ('u' :: '\x7b' :: (digits ++ '\x7d' :: after))) 2
      (2 + (String.ofList digits).utf8ByteSize) = .ok (String.ofList digits) := by
    refine cut_of_append (a := "u\x7b") (b := String.ofList ('\x7d' :: after)) ?_ rfl rfl
    simp [← String.toList_inj]
  simp only [readBraced, cut_behind_letter, bind, Except.bind, pure, Except.pure,
    String.startsWith_char_eq_head?, String.toList_ofList]
  rw [if_pos (by simp)]
  simp only [hoffset, hdigits, namedBetween?_eq]
  cases braced? digits <;> rfl

/-- Without both braces there is no sequence. -/
theorem readBraced_open {body : List Char}
    (h : ∀ inner, body = '\x7b' :: inner → '\x7d' ∉ inner) :
    readBraced (String.ofList ('u' :: body)) = .ok (none, 0) := by
  simp only [readBraced, cut_behind_letter, bind, Except.bind, pure, Except.pure,
    String.startsWith_char_eq_head?, String.toList_ofList]
  split
  · rename_i hopen
    obtain ⟨inner, rfl⟩ : ∃ inner, body = '\x7b' :: inner := by
      simpa [List.head?_eq_some_iff] using hopen
    have hnone : offset? '\x7d' (String.ofList ('u' :: '\x7b' :: inner)) = none := by
      rw [offset?_eq_none_iff]
      simpa using h inner rfl
    rw [hnone]
  · rfl

theorem readBraced_reads (body : List Char) :
    ∃ named used rest, readBraced (String.ofList ('u' :: body)) = .ok (named, used) ∧
      ReadsAs (String.ofList ('u' :: body)) named used rest := by
  by_cases hopen : body.head? = some '\x7b'
  · obtain ⟨inner, rfl⟩ : ∃ inner, body = '\x7b' :: inner := by
      simpa [List.head?_eq_some_iff] using hopen
    by_cases hmem : '\x7d' ∈ inner
    · obtain ⟨digits, after, rfl, hclose⟩ := List.eq_append_cons_of_mem hmem
      have hread := readBraced_closed hclose after
      have hsequence := sequence?_braced hclose after
      cases hnamed : braced? digits with
      | some c =>
        rw [hnamed] at hread hsequence
        have hpart : 'u' :: '\x7b' :: (digits ++ '\x7d' :: after) =
            ('u' :: '\x7b' :: digits ++ ['\x7d']) ++ after := by simp
        rw [hpart] at hread hsequence ⊢
        refine ⟨_, _, _, hread, ReadsAs.ofSome _ ?_ hsequence⟩
        rw [String.ofList_append, String.utf8ByteSize_append, utf8ByteSize_opened]
        rfl
      | none =>
        rw [hnamed] at hread hsequence
        exact ⟨_, _, _, hread, ReadsAs.ofNone (by rwa [String.toList_ofList])⟩
    · have hread : readBraced (String.ofList ('u' :: '\x7b' :: inner)) = .ok (none, 0) :=
        readBraced_open fun _ h => by rwa [← (List.cons.inj h).2]
      refine ⟨_, _, _, hread, ReadsAs.ofNone ?_⟩
      rw [String.toList_ofList, sequence?_unclosed hmem]
  · have hread : readBraced (String.ofList ('u' :: body)) = .ok (none, 0) :=
      readBraced_open fun inner h => absurd (by rw [h]; rfl) hopen
    refine ⟨_, _, _, hread, ReadsAs.ofNone ?_⟩
    rw [String.toList_ofList]
    exact (Malformed.unopened hopen).sequence?_eq_none

/-- A letter that names a character takes one byte. -/
theorem utf8Size_of_short? {letter c : Char} (h : short? letter = some c) :
    letter.utf8Size = 1 := by
  unfold short? at h
  split_ifs at h <;> subst letter <;> rfl

theorem readSequence_reads (tail : String) :
    ∃ named used rest, readSequence tail = .ok (named, used) ∧ ReadsAs tail named used rest := by
  obtain ⟨cs, rfl⟩ := tail.exists_eq_ofList
  unfold readSequence
  rw [String.front?_eq, String.toList_ofList]
  cases cs with
  | nil => exact ⟨_, _, _, rfl, ReadsAs.ofNone rfl⟩
  | cons letter body =>
    rw [List.head?_cons]
    cases hshort : short? letter with
    | some c =>
      refine ⟨_, _, _, by simp only [hshort]; rfl, ReadsAs.ofSome [letter] ?_ ?_⟩
      · simp [utf8Size_of_short? hshort]
      · simp [sequence?, hshort]
    | none =>
      simp only [hshort]
      by_cases hbyte : letter = 'x'
      · subst hbyte
        obtain ⟨named, used, rest, hread, h⟩ := readByte_reads body
        exact ⟨named, used, rest, by rw [if_pos rfl, hread]; rfl, h⟩
      by_cases hbraced : letter = 'u'
      · subst hbraced
        rw [if_neg hbyte, if_pos rfl]
        exact readBraced_reads body
      · rw [if_neg hbyte, if_neg hbraced]
        refine ⟨_, _, _, rfl, ReadsAs.ofNone ?_⟩
        rw [String.toList_ofList]
        simp only [sequence?, hshort]
        split <;> simp_all

/-! ### Turns -/

/-- The byte offsets of a turn and what is cut out at them: the text up to the backslash at `pos`,
the text behind it, and what is left of that behind a sequence of `used` bytes. -/
structure TurnInRange (rest : String) (pos : Nat) (before tail : String) (used : Nat)
    (next : String) : Prop where
  backslash : IsBoundary rest pos
  before_eq : slice? rest 0 pos = some before
  behind : IsBoundary rest (pos + 1)
  tail_eq : slice? rest (pos + 1) rest.utf8ByteSize = some tail
  letter : tail.front? = some 'u' → IsBoundary tail 1
  digits : ['u', '\x7b'] <+: tail.toList → ∀ close, offset? '\x7d' tail = some close →
    2 ≤ close ∧ IsBoundary tail 2 ∧ IsBoundary tail close
  sequence : IsBoundary tail used
  next_eq : slice? tail used tail.utf8ByteSize = some next
  shorter : next.utf8ByteSize < rest.utf8ByteSize

/-- A closing brace in a text that starts with two other characters of one byte each. -/
theorem two_le_of_offset? {tail : String} (h : ['u', '\x7b'] <+: tail.toList) {close : Nat}
    (hclose : offset? '\x7d' tail = some close) :
    2 ≤ close ∧ IsBoundary tail 2 ∧ IsBoundary tail close := by
  obtain ⟨a, b, rfl, -, rfl⟩ := offset?_eq_some_iff.mp hclose
  have hend : IsBoundary (a ++ String.singleton '\x7d' ++ b) a.utf8ByteSize :=
    isBoundary_iff.mpr ⟨a, String.singleton '\x7d' ++ b, String.append_assoc, rfl⟩
  obtain ⟨cs, rfl⟩ := a.exists_eq_ofList
  rw [String.toList_append, String.toList_append, String.toList_ofList,
    String.toList_singleton] at h
  match cs with
  | [] => simp at h
  | [_] => simp at h
  | first :: second :: digits =>
    obtain ⟨rfl, rfl⟩ : 'u' = first ∧ '\x7b' = second := by simpa using h
    have hsplit : String.ofList ('u' :: '\x7b' :: digits) = "u\x7b" ++ String.ofList digits := by
      simp [← String.toList_inj]
    refine ⟨?_, isBoundary_iff.mpr ⟨"u\x7b", String.ofList digits ++
      (String.singleton '\x7d' ++ b), ?_, rfl⟩, hend⟩
    · rw [hsplit, String.utf8ByteSize_append]
      exact Nat.le_add_right 2 _
    · rw [hsplit, String.append_assoc, String.append_assoc]

theorem ReadsAs.turnInRange (before : String) {tail next : String} {named : Option Char}
    {used : Nat} (h : ReadsAs tail named used next) :
    TurnInRange (before ++ String.singleton '\\' ++ tail) before.utf8ByteSize before tail used
      next := by
  have hbehind : (before ++ String.singleton '\\').utf8ByteSize = before.utf8ByteSize + 1 := by
    rw [String.utf8ByteSize_append]
    rfl
  obtain ⟨part, hpart, hused⟩ := h.taken
  exact {
    backslash := isBoundary_iff.mpr ⟨before, _, String.append_assoc, rfl⟩
    before_eq := by
      refine slice?_eq_some_iff.mpr ⟨"", String.singleton '\\' ++ tail, ?_, rfl, by simp⟩
      rw [String.empty_append, String.append_assoc]
    behind := isBoundary_iff.mpr ⟨before ++ String.singleton '\\', tail, rfl, hbehind.symm⟩
    tail_eq := by
      refine slice?_eq_some_iff.mpr ⟨before ++ String.singleton '\\', "", ?_, hbehind.symm, ?_⟩
      · rw [String.append_empty]
      · rw [String.utf8ByteSize_append, hbehind]
    letter := by
      intro hletter
      rw [String.front?_eq, List.head?_eq_some_iff] at hletter
      obtain ⟨body, hbody⟩ := hletter
      refine isBoundary_iff.mpr ⟨"u", String.ofList body, ?_, rfl⟩
      simp [← String.toList_inj, hbody]
    digits := fun hopen close hclose => two_le_of_offset? hopen hclose
    sequence := isBoundary_iff.mpr ⟨part, next, hpart, hused⟩
    next_eq := by
      refine slice?_eq_some_iff.mpr ⟨part, "", ?_, hused, ?_⟩
      · rw [String.append_empty, hpart]
      · rw [hpart, String.utf8ByteSize_append]
    -- At least the backslash is gone.
    shorter := by
      rw [String.utf8ByteSize_append, hbehind, hpart, String.utf8ByteSize_append]
      omega }

/-- What a turn does with the first backslash that is left. -/
theorem Decoding.turn_of_offset? (out : String) {rest : String} {pos : Nat}
    (hpos : offset? '\\' rest = some pos) :
    ∃ before tail named used next, rest = before ++ String.singleton '\\' ++ tail ∧
      '\\' ∉ before.toList ∧ readSequence tail = .ok (named, used) ∧
      ReadsAs tail named used next ∧ TurnInRange rest pos before tail used next ∧
      Decoding.turn ⟨out, rest⟩ = .ok (some ⟨(out ++ before).push (named.getD '\\'), next⟩) := by
  obtain ⟨before, tail, rfl, hnot, rfl⟩ := offset?_eq_some_iff.mp hpos
  obtain ⟨named, used, next, hread, h⟩ := readSequence_reads tail
  have hrange := h.turnInRange before
  refine ⟨before, tail, named, used, next, rfl, hnot, hread, h, hrange, ?_⟩
  simp only [Decoding.turn, hpos, cut_of_slice? hrange.before_eq, cut_of_slice? hrange.tail_eq,
    hread, cut_of_slice? hrange.next_eq, bind, Except.bind, pure, Except.pure]

/-- A turn never fails: there is no backslash left, or it takes one off with its sequence. -/
theorem Decoding.turn_cases (d : Decoding) :
    ('\\' ∉ d.rest.toList ∧ d.turn = .ok none) ∨
      ∃ before tail named used next, d.rest = before ++ String.singleton '\\' ++ tail ∧
        '\\' ∉ before.toList ∧ ReadsAs tail named used next ∧
        next.utf8ByteSize < d.rest.utf8ByteSize ∧
        d.turn = .ok (some ⟨(d.out ++ before).push (named.getD '\\'), next⟩) := by
  obtain ⟨out, rest⟩ := d
  cases hoffset : offset? '\\' rest with
  | none =>
    refine .inl ⟨offset?_eq_none_iff.mp hoffset, ?_⟩
    simp only [Decoding.turn, hoffset]
    rfl
  | some pos =>
    obtain ⟨before, tail, named, used, next, hrest, hnot, -, h, hrange, hturn⟩ :=
      Decoding.turn_of_offset? out hoffset
    exact .inr ⟨before, tail, named, used, next, hrest, hnot, h, hrange.shorter, hturn⟩

theorem Decoding.shorter_of_turn {d next : Decoding} (h : d.turn = .ok (some next)) :
    next.rest.utf8ByteSize < d.rest.utf8ByteSize := by
  rcases d.turn_cases with ⟨-, hturn⟩ | ⟨_, _, _, _, _, -, -, -, hshorter, hturn⟩
  · rw [hturn] at h
    nomatch h
  · rw [hturn] at h
    obtain rfl := Option.some.inj (Except.ok.inj h)
    exact hshorter

/-! ### Runs -/

def Decoding.run (d : Decoding) : Except BadCut String :=
  match h : d.turn with
  | .error bad => .error bad
  | .ok none => .ok (d.out ++ d.rest)
  | .ok (some next) =>
    have := Decoding.shorter_of_turn h
    next.run
termination_by d.rest.utf8ByteSize

def decodeBytes (s : String) : Except BadCut String :=
  if s.contains '\\' then Decoding.run ⟨"", s⟩ else .ok s

theorem decodeChars_append_of_notMem {before : List Char} (h : '\\' ∉ before)
    (rest : List Char) : decodeChars (before ++ rest) = before ++ decodeChars rest := by
  induction before with
  | nil => rfl
  | cons c before ih =>
    rw [List.mem_cons, not_or] at h
    obtain ⟨hc, hbefore⟩ := h
    rw [List.cons_append, decodeChars_of_ne (Ne.symm hc), ih hbefore, List.cons_append]

theorem decodeChars_of_notMem {cs : List Char} (h : '\\' ∉ cs) : decodeChars cs = cs := by
  simpa using decodeChars_append_of_notMem h []

theorem ReadsAs.decodeChars_backslash {tail next : String} {named : Option Char} {used : Nat}
    (h : ReadsAs tail named used next) :
    decodeChars ('\\' :: tail.toList) = named.getD '\\' :: decodeChars next.toList := by
  cases named with
  | some c => exact decodeChars_of_some h.sequence
  | none =>
    rw [decodeChars_of_none h.sequence, h.kept rfl]
    rfl

/-- From wherever it stands, the loop appends what is left with its sequences replaced. -/
theorem Decoding.run_eq (d : Decoding) :
    d.run = .ok (d.out ++ String.ofList (decodeChars d.rest.toList)) := by
  induction d using Decoding.run.induct with
  | case1 d bad h =>
    rcases d.turn_cases with ⟨-, hturn⟩ | ⟨_, _, _, _, _, -, -, -, -, hturn⟩ <;>
      rw [hturn] at h <;> nomatch h
  | case2 d h =>
    have hnot : '\\' ∉ d.rest.toList := by
      rcases d.turn_cases with ⟨hnot, -⟩ | ⟨_, _, _, _, _, -, -, -, -, hturn⟩
      · exact hnot
      · rw [hturn] at h
        nomatch h
    rw [Decoding.run]
    split <;> simp_all [decodeChars_of_notMem]
  | case3 d next h _ ih =>
    have hrun : d.run = next.run := by
      rw [Decoding.run]
      split <;> simp_all
    rw [hrun, ih]
    rcases d.turn_cases with
      ⟨-, hturn⟩ | ⟨before, tail, named, used, rest, hrest, hnot, hreads, -, hturn⟩
    · rw [hturn] at h
      nomatch h
    · rw [hturn] at h
      obtain rfl := Option.some.inj (Except.ok.inj h)
      have htext : d.rest.toList = before.toList ++ '\\' :: tail.toList := by
        rw [hrest, String.toList_append, String.toList_append, String.toList_singleton]
        simp
      rw [htext, decodeChars_append_of_notMem hnot, hreads.decodeChars_backslash]
      simp [← String.toList_inj]

theorem decodeBytes_eq (s : String) : decodeBytes s = .ok (decode s) := by
  unfold decodeBytes
  split
  · rw [Decoding.run_eq, String.empty_append, decode]
  · rename_i h
    rw [String.contains_char_eq, decide_eq_true_iff] at h
    rw [decode, decodeChars_of_notMem h, String.ofList_toList]

/-- Every turn that finds a backslash can make its cuts, whatever characters stand around it, and
leaves less than there was.  The loop ends with the decoded text. -/
theorem decoding_cuts_between_characters :
    (∀ (d : Decoding) (pos : Nat), offset? '\\' d.rest = some pos →
      ∃ before tail named used next, TurnInRange d.rest pos before tail used next ∧
        readSequence tail = .ok (named, used) ∧
        d.turn = .ok (some ⟨(d.out ++ before).push (named.getD '\\'), next⟩)) ∧
    ∀ s, decodeBytes s = .ok (decode s) := by
  refine ⟨fun d pos hpos => ?_, decodeBytes_eq⟩
  obtain ⟨before, tail, named, used, next, -, -, hread, -, hrange, hturn⟩ :=
    Decoding.turn_of_offset? d.out hpos
  exact ⟨before, tail, named, used, next, hrange, hread, hturn⟩

/-- Characters of several bytes in front of a backslash, where two digits would stand, and between
braces. -/
theorem decoding_cuts_between_characters_wide :
    offset? '\\' "é\\xé\\u\x7bé😀\x7d" = some 2 ∧
      (∃ before tail named used next,
        TurnInRange "é\\xé\\u\x7bé😀\x7d" 2 before tail used next ∧
        readSequence tail = .ok (named, used) ∧
        Decoding.turn ⟨"", "é\\xé\\u\x7bé😀\x7d"⟩ =
          .ok (some ⟨("" ++ before).push (named.getD '\\'), next⟩)) ∧
      decodeBytes "é\\xé\\u\x7bé😀\x7d" = .ok (decode "é\\xé\\u\x7bé😀\x7d") := by
  have hpos : offset? '\\' "é\\xé\\u\x7bé😀\x7d" = some 2 :=
    offset?_eq_some_iff.mpr ⟨"é", "xé\\u\x7bé😀\x7d", rfl, by decide, rfl⟩
  exact ⟨hpos, decoding_cuts_between_characters.1 ⟨"", _⟩ 2 hpos,
    decoding_cuts_between_characters.2 _⟩

end BrowserScript.Escape
