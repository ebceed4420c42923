import BrowserScript.Remote
import Mathlib.Data.List.Basic
import Mathlib.Data.List.DropRight

/-!
# Addresses below an address

Names with slashes between them, written behind an address, lead to a place below it, but not
always: a query swallows them, two points lead up again, and a slash in a name makes two of it.
Where the address ends in a path and the names have nothing in them that an address treats in a way
of its own, they become its further segments, one each.
-/

namespace BrowserScript

section Lists

variable {α : Type} {p : α → Bool} {l : List α}

theorem dropWhile_append_of_ne_nil (h : l.dropWhile p ≠ []) (m : List α) :
    (l ++ m).dropWhile p = l.dropWhile p ++ m := by
  rw [List.dropWhile_append, if_neg (by simpa using h)]

theorem takeWhile_append_of_ne_nil (h : l.dropWhile p ≠ []) (m : List α) :
    (l ++ m).takeWhile p = l.takeWhile p := by
  rw [List.takeWhile_append, if_neg]
  intro hlength
  have hsum := congrArg List.length (List.takeWhile_append_dropWhile (p := p) (l := l))
  rw [List.length_append] at hsum
  have hpos := List.length_pos_iff.mpr h
  omega

theorem eq_of_singleton_eq_append {a b : α} (h : [a] = l ++ [b]) : a = b := by
  simpa using congrArg List.getLast? h

end Lists

namespace Text

variable {cuts : Char → Bool}

theorem piecesFrom_append_cons {c : Char} (hc : cuts c = true) (piece cs rest : List Char) :
    piecesFrom cuts piece (cs ++ c :: rest) = piecesFrom cuts piece cs ++ pieces cuts rest := by
  induction cs generalizing piece with
  | nil => simp [piecesFrom, hc, pieces]
  | cons d cs ih =>
    rw [List.cons_append, piecesFrom, piecesFrom]
    split
    · rw [ih, List.cons_append]
    · exact ih _

theorem piecesFrom_of_uncut {cs : List Char} (h : ∀ c ∈ cs, cuts c = false) (piece : List Char) :
    piecesFrom cuts piece cs = [piece.reverse ++ cs] := by
  induction cs generalizing piece with
  | nil => simp [piecesFrom]
  | cons c cs ih =>
    obtain ⟨hc, hcs⟩ := List.forall_mem_cons.mp h
    simp [piecesFrom, hc, ih hcs]

end Text

theorem Percent.encode_of_kept {set : Char → Bool} {s : String}
    (h : ∀ c ∈ s.toList, set c = false) : encode set s.toList = s := by
  have hkept : s.toList.flatMap (encodeChar set) = s.toList := by
    rw [List.flatMap_congr fun c hc => encodeChar_of_not (h c hc), List.flatMap_singleton']
  rw [encode, hkept, String.ofList_toList]

namespace Url

/-- A name that is one segment of a path as it stands. -/
structure IsPlain (name : String) : Prop where
  kept : ∀ c ∈ name.toList, isSlash true c = false ∧ Percent.path c = false
  notPoint : isPoint name = false
  notTwoPoints : isTwoPoints name = false

def isOrdinary (c : Char) : Bool :=
  'a' ≤ c && c ≤ 'z' || 'A' ≤ c && c ≤ 'Z' || '0' ≤ c && c ≤ '9' || c == '-'

/-- What holds of the ordinary ones among the first characters holds of all of them. -/
theorem forall_isOrdinary {p : Char → Prop}
    (h : ∀ n < 0x80, isOrdinary (Char.ofNat n) = true → p (Char.ofNat n)) {c : Char}
    (hc : isOrdinary c = true) : p c := by
  have hcode : c.toNat < 0x80 := by
    simp only [isOrdinary, Bool.or_eq_true, Bool.and_eq_true, decide_eq_true_eq, beq_iff_eq] at hc
    rcases hc with ((⟨-, hc⟩ | ⟨-, hc⟩) | ⟨-, hc⟩) | rfl
    · exact Nat.lt_of_le_of_lt (UInt32.le_iff_toNat_le.mp hc) (by decide)
    · exact Nat.lt_of_le_of_lt (UInt32.le_iff_toNat_le.mp hc) (by decide)
    · exact Nat.lt_of_le_of_lt (UInt32.le_iff_toNat_le.mp hc) (by decide)
    · decide
  have hp := h c.toNat hcode
  rw [Char.ofNat_toNat] at hp
  exact hp hc

theorem ne_of_isOrdinary {s t : String} {c : Char} (hs : ∀ c ∈ s.toList, isOrdinary c = true)
    (hc : c ∈ t.toList) (hnot : isOrdinary c = false) : s ≠ t := by
  rintro rfl
  rw [hs c hc] at hnot
  nomatch hnot

/-- Letters, digits and hyphens make a plain name. -/
theorem IsPlain.of_isOrdinary {name : String} (h : name.toList.all isOrdinary = true) :
    IsPlain name := by
  rw [List.all_eq_true] at h
  have hlower : ∀ c ∈ (Text.lowerAscii name).toList, isOrdinary c = true := by
    intro c hc
    rw [Text.lowerAscii, String.toList_ofList] at hc
    obtain ⟨d, hd, rfl⟩ := List.mem_map.mp hc
    exact forall_isOrdinary (p := fun c => isOrdinary c.toLower = true) (by decide +kernel) (h d hd)
  constructor
  · intro c hc
    exact forall_isOrdinary (p := fun c => isSlash true c = false ∧ Percent.path c = false)
      (by decide +kernel) (h c hc)
  · have hpoint : name ≠ "." := ne_of_isOrdinary h (c := '.') (by decide) (by decide)
    have hescaped : Text.lowerAscii name ≠ "%2e" :=
      ne_of_isOrdinary hlower (c := '%') (by decide) (by decide)
    simp [isPoint, hpoint, hescaped]
  · have hpoint : ∀ t ∈ ["..", ".%2e", "%2e."], Text.lowerAscii name ≠ t := fun t ht =>
      ne_of_isOrdinary hlower (c := '.') (by revert t; decide) (by decide)
    have hescaped : Text.lowerAscii name ≠ "%2e%2e" :=
      ne_of_isOrdinary hlower (c := '%') (by decide) (by decide)
    simpa [isTwoPoints, hescaped] using hpoint

/-- What is written behind an address for a place below it. -/
def below (names : List String) : List Char := names.flatMap fun name => '/' :: name.toList

theorem toList_text_segments (names : List String) :
    (Path.segments names).text.toList = below names := by
  rw [Path.text, String.toList_join]
  simp [below, List.flatMap_map]

variable {names : List String}

theorem IsPlain.code {name : String} (h : IsPlain name) : ∀ c ∈ name.toList, 0x20 < c.toNat := by
  intro c hc
  have hkept := (h.kept c hc).2
  by_contra hle
  have houter : Percent.path c = true := by
    rcases Nat.lt_or_eq_of_le (Nat.le_of_not_lt hle) with hlt | heq
    · simp [Percent.path, Percent.fragment, Percent.controls, hlt]
    · rw [Char.toNat_inj.mp (heq.trans rfl : c.toNat = ' '.toNat)]
      rfl
  rw [houter] at hkept
  nomatch hkept

theorem code_of_mem_below (hnames : ∀ name ∈ names, IsPlain name) :
    ∀ c ∈ below names, 0x20 < c.toNat := by
  intro c hc
  obtain ⟨name, hname, hc⟩ := List.mem_flatMap.mp hc
  rcases List.mem_cons.mp hc with rfl | hc
  · decide
  · exact (hnames name hname).code c hc

theorem not_endsPath_of_mem_below (hnames : ∀ name ∈ names, IsPlain name) :
    ∀ c ∈ below names, endsPath c = false := by
  intro c hc
  obtain ⟨name, hname, hc⟩ := List.mem_flatMap.mp hc
  rcases List.mem_cons.mp hc with rfl | hc
  · rfl
  · by_contra hends
    have hkept := ((hnames name hname).kept c hc).2
    rcases Bool.or_eq_true_iff.mp (Bool.of_not_eq_false hends) with h | h <;>
      rw [beq_iff_eq.mp h] at hkept <;> nomatch hkept

/-! ### The path -/

theorem pieces_below (hnames : ∀ name ∈ names, IsPlain name) (cs : List Char) :
    Text.pieces (isSlash true) (cs ++ below names) =
      Text.pieces (isSlash true) cs ++ names.map String.toList := by
  induction names generalizing cs with
  | nil => simp [below]
  | cons name names ih =>
    obtain ⟨hname, hnames⟩ := List.forall_mem_cons.mp hnames
    have huncut : Text.pieces (isSlash true) name.toList = [name.toList] :=
      Text.piecesFrom_of_uncut (fun c hc => (hname.kept c hc).1) []
    have hcut : below (name :: names) = '/' :: (name.toList ++ below names) := rfl
    rw [hcut, Text.pieces, Text.piecesFrom_append_cons rfl, ih hnames, huncut]
    rfl

/-- What the segments before others come to does not depend on those, so long as there are any. -/
theorem exists_resolve_append (file : Bool) (before names : List String) :
    ∃ held, ∀ rest, rest ≠ [] → resolve file before (names ++ rest) = resolve file held rest := by
  induction names generalizing before with
  | nil => exact ⟨before, fun rest _ => rfl⟩
  | cons name names ih =>
    have hmore : ∀ rest : List String, rest ≠ [] → (names ++ rest).isEmpty = false := by
      simp +contextual
    by_cases htwo : isTwoPoints name = true
    · obtain ⟨held, hheld⟩ := ih (above before)
      refine ⟨held, fun rest hrest => ?_⟩
      rw [List.cons_append, resolve, if_pos htwo, hmore rest hrest]
      exact hheld rest hrest
    by_cases hone : isPoint name = true
    · obtain ⟨held, hheld⟩ := ih before
      refine ⟨held, fun rest hrest => ?_⟩
      rw [List.cons_append, resolve, if_neg htwo, if_pos hone, hmore rest hrest]
      exact hheld rest hrest
    · obtain ⟨held, hheld⟩ := ih (driveSegment file before name :: before)
      refine ⟨held, fun rest hrest => ?_⟩
      rw [List.cons_append, resolve, if_neg htwo, if_neg hone]
      exact hheld rest hrest

theorem driveSegment_false (before : List String) (name : String) :
    driveSegment false before name = name := by
  unfold driveSegment
  split <;> rfl

theorem resolve_plain (hnames : ∀ name ∈ names, IsPlain name) (before : List String) :
    resolve false before names = before.reverse ++ names := by
  induction names generalizing before with
  | nil => simp [resolve]
  | cons name names ih =>
    obtain ⟨hname, hnames⟩ := List.forall_mem_cons.mp hnames
    simp [resolve, hname.notPoint, hname.notTwoPoints, driveSegment_false, ih hnames]

/-- Plain names behind a path that ends in a name are its further segments. -/
theorem segments_below {cs : List Char} {root : List String} {last : String}
    (h : segments true false cs = root ++ [last]) (hlast : last ≠ "")
    (hnames : ∀ name ∈ names, IsPlain name) :
    segments true false (cs ++ below names) = root ++ last :: names := by
  have hencoded : (names.map String.toList).map (Percent.encode Percent.path) = names := by
    rw [List.map_map]
    conv_rhs => rw [← List.map_id names]
    exact List.map_congr_left fun name hname =>
      Percent.encode_of_kept fun c hc => ((hnames name hname).kept c hc).2
  obtain ⟨front, final, hpieces⟩ : ∃ front final,
      (Text.pieces (isSlash true) cs).map (Percent.encode Percent.path) = front ++ [final] := by
    have hne : (Text.pieces (isSlash true) cs).map (Percent.encode Percent.path) ≠ [] := by
      simpa using Text.pieces_ne_nil (isSlash true) cs
    exact ⟨_, _, (List.dropLast_append_getLast hne).symm⟩
  obtain ⟨held, hheld⟩ := exists_resolve_append false [] front
  rw [segments, hpieces, hheld _ (by simp)] at h
  rw [segments, pieces_below hnames, List.map_append, hpieces, hencoded, List.append_assoc,
    hheld _ (by simp)]
  -- The final segment is a name: points would have left an empty one.
  have hempty : ∀ before : List String, resolve false ("" :: before) [] ≠ root ++ [last] := by
    intro before heq
    rw [resolve, List.reverse_cons] at heq
    exact hlast (List.singleton_injective (List.append_inj' heq rfl).2).symm
  by_cases htwo : isTwoPoints final = true
  · rw [resolve, if_pos htwo] at h
    exact absurd h (hempty _)
  by_cases hone : isPoint final = true
  · rw [resolve, if_neg htwo, if_pos hone] at h
    exact absurd h (hempty _)
  · rw [resolve, if_neg htwo, if_neg hone, driveSegment_false, resolve, List.reverse_cons] at h
    obtain ⟨hroot, hfinal⟩ := List.append_inj' h rfl
    rw [List.singleton_append, resolve, if_neg htwo, if_neg hone, driveSegment_false,
      resolve_plain hnames, List.reverse_cons, hroot, hfinal, List.append_assoc]
    rfl

theorem withTail_nil (url : Url) : withTail url [] = url := rfl

theorem query_withTail_isSome (url : Url) (rest : List Char) :
    (withTail url ('?' :: rest)).query.isSome = true := by
  rw [withTail]
  split <;> rfl

/-- Without a query and a fragment there is nothing behind the path. -/
theorem eq_nil_of_withTail {url : Url} {cs : List Char} (hends : ∀ c ∈ cs.head?, endsPath c = true)
    (hquery : (withTail url cs).query = none) (hfragment : (withTail url cs).fragment = none) :
    cs = [] := by
  cases cs with
  | nil => rfl
  | cons c rest =>
    rcases Bool.or_eq_true_iff.mp (hends c rfl) with h | h
    · have hsome := query_withTail_isSome url rest
      rw [beq_iff_eq.mp h] at hquery
      rw [hquery] at hsome
      nomatch hsome
    · rw [beq_iff_eq.mp h] at hfragment
      nomatch hfragment

/-- The segments that characters spell behind a host if nothing among them ends the path. -/
def pathSegments : List Char → List String
  | [] => [""]
  | c :: rest => segments true false (if isSlash true c then rest else c :: rest)

theorem pathSegments_below {cs : List Char} {root : List String} {last : String}
    (h : pathSegments cs = root ++ [last]) (hlast : last ≠ "")
    (hnames : ∀ name ∈ names, IsPlain name) :
    pathSegments (cs ++ below names) = root ++ last :: names := by
  cases cs with
  | nil => exact absurd (eq_of_singleton_eq_append h).symm hlast
  | cons c rest =>
    rw [pathSegments] at h
    rw [List.cons_append, pathSegments]
    by_cases hslash : isSlash true c = true
    · rw [if_pos hslash] at h ⊢
      exact segments_below h hlast hnames
    · rw [if_neg hslash] at h ⊢
      exact segments_below h hlast hnames

theorem withPath_of_free {url : Url} (hspecial : isSpecial url.scheme = true) {cs : List Char}
    (hfree : ∀ c ∈ cs, endsPath c = false) :
    withPath url cs = { url with path := .segments (pathSegments cs) } := by
  have htake : cs.takeWhile (fun c => !endsPath c) = cs :=
    List.takeWhile_eq_self_iff.mpr fun c hc => by simp [hfree c hc]
  have hdrop : cs.dropWhile (fun c => !endsPath c) = [] :=
    List.dropWhile_eq_nil_iff.mpr fun c hc => by simp [hfree c hc]
  unfold withPath
  simp only [htake, hdrop, hspecial, withTail_nil]
  cases cs <;> rfl

/-- What follows a path without a query and a fragment lengthens the path. -/
theorem withPath_below {url : Url} {cs : List Char} {root : List String} {last : String}
    (hspecial : isSpecial url.scheme = true)
    (hpath : (withPath url cs).path = .segments (root ++ [last])) (hlast : last ≠ "")
    (hquery : (withPath url cs).query = none) (hfragment : (withPath url cs).fragment = none)
    (hnames : ∀ name ∈ names, IsPlain name) :
    withPath url (cs ++ below names) =
      { withPath url cs with path := .segments (root ++ last :: names) } := by
  have hwhole : cs.dropWhile (fun c => !endsPath c) = [] := by
    refine eq_nil_of_withTail (fun c hc => ?_) hquery hfragment
    have hhead := List.head?_dropWhile_not (fun c => !endsPath c) cs
    rw [Option.mem_def.mp hc] at hhead
    simpa using hhead
  have hfree : ∀ c ∈ cs, endsPath c = false := fun c hc => by
    simpa using List.dropWhile_eq_nil_iff.mp hwhole c hc
  have hfree' : ∀ c ∈ cs ++ below names, endsPath c = false := fun c hc =>
    (List.mem_append.mp hc).elim (hfree c) (not_endsPath_of_mem_below hnames c)
  rw [withPath_of_free hspecial hfree] at hpath ⊢
  rw [withPath_of_free hspecial hfree',
    pathSegments_below (Path.segments.inj hpath) hlast hnames]

/-! ### What stands before the path -/

theorem scheme?_append {cs after : List Char} {scheme : String}
    (h : scheme? cs = some (scheme, after)) (tail : List Char) :
    scheme? (cs ++ tail) = some (scheme, after ++ tail) := by
  unfold scheme? at h
  split at h
  · rename_i c rest after' htake hdrop
    have hne : cs.dropWhile isSchemeChar ≠ [] := by simp [hdrop]
    split at h
    · rename_i hletter
      obtain ⟨rfl, rfl⟩ := Prod.mk.inj (Option.some.inj h)
      simp [scheme?, takeWhile_append_of_ne_nil hne, dropWhile_append_of_ne_nil hne, htake, hdrop,
        hletter]
    · nomatch h
  · nomatch h

/-- A host ends where the text does or at a colon. -/
theorem cutHost_snd (bracketed : Bool) (cs : List Char) :
    (cutHost bracketed cs).2 <:+ cs ∧
      ((cutHost bracketed cs).2 = [] ∨ ∃ rest, (cutHost bracketed cs).2 = ':' :: rest) := by
  induction cs generalizing bracketed with
  | nil => exact ⟨List.suffix_refl _, .inl rfl⟩
  | cons c rest ih =>
    rw [cutHost]
    split
    · rename_i hcolon
      have hc : c = ':' := by simpa using (Bool.and_eq_true_iff.mp hcolon).1
      exact ⟨List.suffix_refl _, .inr ⟨rest, by rw [hc]⟩⟩
    · obtain ⟨hsuffix, hstart⟩ := ih (if c == '[' then true else bracketed && c != ']')
      exact ⟨hsuffix.trans (List.suffix_cons c rest), hstart⟩

/-- Behind the number of a socket there can only be a backslash. -/
theorem eq_nil_of_socket? {scheme : String} {place rest : List Char} {n : Option Nat}
    (h : socket? scheme (cutHost false place).2 = some (n, rest)) (hplace : '\\' ∉ place) :
    rest = [] := by
  obtain ⟨hsuffix, hnil | ⟨after, hafter⟩⟩ := cutHost_snd false place
  · rw [hnil] at h
    exact (Prod.mk.inj (Option.some.inj h)).2.symm
  · have hunread : '\\' ∉ after.dropWhile Reading.isDigit := fun hmem =>
      hplace (hsuffix.mem (hafter ▸ List.mem_cons_of_mem _ ((List.dropWhile_suffix _).mem hmem)))
    rw [hafter, socket?] at h
    split at h
    · nomatch h
    · rename_i hgood
      have hrest : rest = after.dropWhile Reading.isDigit := by
        split at h <;> exact (Prod.mk.inj (Option.some.inj h)).2.symm
      rw [hrest]
      cases hcs : after.dropWhile Reading.isDigit with
      | nil => rfl
      | cons c more =>
        rw [hcs] at hgood hunread
        refine absurd (.inr ?_) hgood
        have hne : c ≠ '\\' := fun heq => hunread (heq ▸ List.mem_cons_self)
        simpa using hne

theorem mem_of_mem_credentials {c : Char} {cs : List Char} (h : c ∈ (credentials cs).2) :
    c ∈ cs := by
  unfold credentials at h
  split at h
  · exact List.mem_reverse.mp ((List.takeWhile_prefix _).mem (List.mem_reverse.mp h))
  · exact h

/-- Where a path leads to a name, the part with the host ends before the path. -/
theorem authority_ends {scheme : String} {cs : List Char} {url : Url} {root : List String}
    {last : String} (hspecial : isSpecial scheme = true)
    (h : withAuthority? scheme cs = some url) (hpath : url.path = .segments (root ++ [last]))
    (hlast : last ≠ "") : cs.dropWhile (fun c => !endsAuthority true c) ≠ [] := by
  intro hnil
  unfold withAuthority? at h
  simp only [hspecial] at h
  obtain ⟨host, -, h⟩ := Option.bind_eq_some_iff.mp h
  obtain ⟨⟨socket, unread⟩, hsocket, h⟩ := Option.bind_eq_some_iff.mp h
  split at h
  · nomatch h
  have hplace : '\\' ∉ (credentials (cs.takeWhile fun c => !endsAuthority true c)).2 :=
    fun hmem => nomatch List.mem_takeWhile_imp (mem_of_mem_credentials hmem)
  have hurl := Option.some.inj h
  rw [hnil, eq_nil_of_socket? hsocket hplace] at hurl
  rw [← hurl, List.append_nil, withPath_of_free hspecial (by simp)] at hpath
  exact hlast (eq_of_singleton_eq_append (Path.segments.inj hpath)).symm

theorem withAuthority?_below {scheme : String} {cs : List Char} {url : Url} {root : List String}
    {last : String} (hspecial : isSpecial scheme = true)
    (h : withAuthority? scheme cs = some url) (hpath : url.path = .segments (root ++ [last]))
    (hlast : last ≠ "") (hquery : url.query = none) (hfragment : url.fragment = none)
    (hnames : ∀ name ∈ names, IsPlain name) :
    withAuthority? scheme (cs ++ below names) =
      some { url with path := .segments (root ++ last :: names) } := by
  have hends := authority_ends hspecial h hpath hlast
  have hmore : ∀ tail : List Char,
      (cs.dropWhile (fun c => !endsAuthority true c) ++ tail).isEmpty =
        (cs.dropWhile fun c => !endsAuthority true c).isEmpty := by
    intro tail
    cases hrest : cs.dropWhile fun c => !endsAuthority true c with
    | nil => exact absurd hrest hends
    | cons c rest => rfl
  unfold withAuthority? at h ⊢
  simp only [hspecial] at h ⊢
  obtain ⟨host, hhost, h⟩ := Option.bind_eq_some_iff.mp h
  obtain ⟨⟨socket, unread⟩, hsocket, h⟩ := Option.bind_eq_some_iff.mp h
  split at h
  · nomatch h
  rename_i hclaimed
  have hurl := Option.some.inj h
  simp only [dropWhile_append_of_ne_nil hends, takeWhile_append_of_ne_nil hends]
  refine Option.bind_eq_some_iff.mpr ⟨host, hhost, ?_⟩
  refine Option.bind_eq_some_iff.mpr ⟨(socket, unread), hsocket, ?_⟩
  dsimp only
  rw [hmore, if_neg hclaimed, ← List.append_assoc]
  rw [← hurl] at hpath hquery hfragment ⊢
  rw [withPath_below hspecial hpath hlast hquery hfragment hnames]

/-! ### The scheme -/

theorem withTail_scheme (url : Url) (cs : List Char) : (withTail url cs).scheme = url.scheme := by
  unfold withTail
  split
  · rfl
  · rename_i rest
    cases rest.dropWhile (· != '#') <;> simp
  · rfl

theorem file?_scheme {cs : List Char} {url : Url} (h : file? cs = some url) :
    url.scheme = "file" := by
  have hdone : ∀ {u : Url} {tail : List Char}, u.scheme = "file" →
      some (withTail u tail) = some url → url.scheme = "file" := by
    intro u tail hu hurl
    rw [← Option.some.inj hurl, withTail_scheme, hu]
  unfold file? at h
  dsimp only at h
  split at h
  · split at h
    · split at h
      · exact hdone rfl h
      split at h
      · exact hdone rfl h
      obtain ⟨host, -, h⟩ := Option.bind_eq_some_iff.mp h
      split at h
      · exact hdone rfl h
      · split at h <;> exact hdone rfl h
    · split at h <;> exact hdone rfl h
  · exact hdone rfl h
  · exact hdone rfl h

theorem withAuthority?_scheme {scheme : String} {cs : List Char} {url : Url}
    (h : withAuthority? scheme cs = some url) : url.scheme = scheme := by
  unfold withAuthority? at h
  dsimp only at h
  split at h
  all_goals
    obtain ⟨host, -, h⟩ := Option.bind_eq_some_iff.mp h
    obtain ⟨⟨socket, unread⟩, -, h⟩ := Option.bind_eq_some_iff.mp h
    split at h
    · nomatch h
    · rw [← Option.some.inj h]
      exact withTail_scheme _ _

theorem plain?_scheme {scheme : String} {cs : List Char} {url : Url}
    (h : plain? scheme cs = some url) : url.scheme = scheme := by
  unfold plain? at h
  split at h
  · exact withAuthority?_scheme h
  · rw [← Option.some.inj h]
    exact withTail_scheme _ _
  · rw [← Option.some.inj h]
    exact withTail_scheme _ _

/-! ### Whole addresses -/

/-- Nothing is skipped behind a character that counts. -/
theorem exists_significant_append (front : List Char) {last : List Char} (hlast : last ≠ [])
    (hcode : ∀ c ∈ last, 0x20 < c.toNat) :
    ∃ kept, ∀ tail : List Char, (∀ c ∈ tail, 0x20 < c.toNat) →
      significant (front ++ (last ++ tail)) = kept ++ (last ++ tail) := by
  let isOuter (c : Char) : Bool := c.toNat ≤ 0x20
  let isKept (c : Char) : Bool := !(c == '\t' || c == '\n' || c == '\r')
  refine ⟨(front.dropWhile isOuter).filter isKept, fun tail htail => ?_⟩
  have hall : ∀ c ∈ last ++ tail, 0x20 < c.toNat := fun c hc =>
    (List.mem_append.mp hc).elim (hcode c) (htail c)
  have hne : last ++ tail ≠ [] := by simp [hlast]
  generalize last ++ tail = m at hall hne ⊢
  have hstart : (front ++ m).dropWhile isOuter = front.dropWhile isOuter ++ m := by
    have hstop : m.dropWhile isOuter = m := by
      refine List.dropWhile_eq_self_iff.mpr fun hpos => ?_
      simpa [isOuter] using hall _ (List.getElem_mem hpos)
    rw [List.dropWhile_append]
    split
    · rename_i hnil
      rw [hstop, List.isEmpty_iff.mp hnil, List.nil_append]
    · rfl
  have hend : (front.dropWhile isOuter ++ m).rdropWhile isOuter = front.dropWhile isOuter ++ m := by
    refine List.rdropWhile_eq_self_iff.mpr fun hpos => ?_
    rw [List.getLast_append_of_ne_nil hpos hne]
    simpa [isOuter] using hall _ (List.getLast_mem hne)
  have hkept : m.filter isKept = m := by
    refine List.filter_eq_self.mpr fun c hc => ?_
    have hcode : ∀ d : Char, d.toNat ≤ 0x20 → (c == d) = false := by
      intro d hd
      refine beq_eq_false_iff_ne.mpr ?_
      rintro rfl
      exact Nat.not_lt_of_le hd (hall c hc)
    simp [isKept, hcode '\t' (by decide), hcode '\n' (by decide), hcode '\r' (by decide)]
  calc significant (front ++ m)
      = (((front ++ m).dropWhile isOuter).rdropWhile isOuter).filter isKept := rfl
    _ = (front.dropWhile isOuter).filter isKept ++ m := by
        rw [hstart, hend, List.filter_append, hkept]

theorem ofText?_below {text : String} {url : Url} {root : List String} {last : String}
    (hend : ∃ front c, text.toList = front ++ [c] ∧ 0x20 < c.toNat)
    (hread : ofText? text = some url) (hspecial : isSpecial url.scheme = true)
    (hfile : url.scheme ≠ "file") (hpath : url.path = .segments (root ++ [last]))
    (hlast : last ≠ "") (hquery : url.query = none) (hfragment : url.fragment = none)
    (hnames : ∀ name ∈ names, IsPlain name) :
    ofText? (text ++ (Path.segments names).text) =
      some { url with path := .segments (root ++ last :: names) } := by
  obtain ⟨front, c, htext, hc⟩ := hend
  obtain ⟨kept, hkept⟩ := exists_significant_append front (List.cons_ne_nil c [])
    (by simpa using hc)
  have hshort := hkept [] (by simp)
  have hlong := hkept (below names) (code_of_mem_below hnames)
  rw [List.append_nil, ← htext] at hshort
  rw [← List.append_assoc, ← htext, ← List.append_assoc, ← hshort] at hlong
  unfold ofText? at hread ⊢
  obtain ⟨⟨scheme, rest⟩, hscheme, hread⟩ := Option.bind_eq_some_iff.mp hread
  rw [String.toList_append, toList_text_segments, hlong]
  refine Option.bind_eq_some_iff.mpr ⟨(scheme, rest ++ below names), scheme?_append hscheme _, ?_⟩
  dsimp only at hread ⊢
  split at hread
  · exact absurd (file?_scheme hread) hfile
  rename_i hnot
  split at hread
  · rename_i hrules
    have hne : rest.dropWhile (isSlash true) ≠ [] := by
      intro hnil
      have hends := authority_ends hrules hread hpath hlast
      rw [hnil] at hends
      exact hends rfl
    rw [if_neg hnot, if_pos hrules, dropWhile_append_of_ne_nil hne]
    exact withAuthority?_below hrules hread hpath hlast hquery hfragment hnames
  · rename_i hplain
    rw [plain?_scheme hread] at hspecial
    exact absurd hspecial hplain

/-- What a request leaves out of an address does not depend on the path. -/
theorem exists_forRequest (url : Url) : ∃ user password, ∀ path,
    ({ url with path } : Url).forRequest = { url with user, password, path } := by
  have hkept : ∃ user password, ∀ path,
      ({ url with path } : Url).withoutUser = { url with user, password, path } := by
    unfold withoutUser
    by_cases h : (Percent.decodeText? url.user.toList).map (!·.isEmpty) = some true ∨
        (Percent.decodeText? url.user.toList).map (!·.isEmpty) = some false ∧
          (url.password.bind fun p => Percent.decodeText? p.toList).isSome
    · exact ⟨"", none, fun path => if_pos h⟩
    · exact ⟨url.user, url.password, fun path => if_neg h⟩
  obtain ⟨user, password, hstripped⟩ := hkept
  by_cases hhost : url.hasHost = true
  · exact ⟨user, password, fun path => (if_pos hhost).trans (hstripped path)⟩
  · exact ⟨url.user, url.password, fun path => if_neg hhost⟩

end Url

/-- The address at which a remote browser opens sessions: it is below the segments `root` and has
nothing behind its path. -/
structure Remote.SessionsAt (base : String) (url : Url) (root : List String) : Prop where
  read : addressOf s!"{base}/session" = .ok url
  path : url.path = .segments (root ++ ["session"])
  query : url.query = none
  fragment : url.fragment = none

namespace Remote

variable {base : String} {url : Url} {root names : List String}

/-- A place below the sessions of a server has the address of the server with a longer path, so
long as that is not too long. -/
theorem SessionsAt.addressOf_below (h : SessionsAt base url root)
    (hnames : ∀ name ∈ names, Url.IsPlain name) :
    let place := { url with path := .segments (root ++ "session" :: names) }
    addressOf (s!"{base}/session" ++ (Url.Path.segments names).text) =
      if place.text.utf8ByteSize ≤ 65534 then .ok place
      else .error (.transport s!"builder error for url ({place.text})") := by
  intro place
  have hread := h.read
  unfold addressOf at hread
  cases hshort : Url.ofText? s!"{base}/session" with
  | none => simp [hshort] at hread
  | some read =>
    obtain ⟨user, password, hstripped⟩ := Url.exists_forRequest read
    simp only [hshort, hstripped read.path] at hread
    split at hread
    case isFalse => nomatch hread
    case isTrue hgood =>
      obtain ⟨hhost, hreach⟩ := Bool.and_eq_true_iff.mp hgood
      have hurl := Except.ok.inj hread
      subst hurl
      have hscheme : read.scheme = "http" ∨ read.scheme = "https" := by
        simp only [isReachable, Bool.and_eq_true, Bool.or_eq_true, beq_iff_eq] at hreach
        exact hreach.1.1
      have hspecial : Url.isSpecial read.scheme = true ∧ read.scheme ≠ "file" := by
        rcases hscheme with hscheme | hscheme <;> rw [hscheme] <;> decide
      have hend : ∃ front c, (s!"{base}/session").toList = front ++ [c] ∧ 0x20 < c.toNat :=
        ⟨base.toList ++ "/sessio".toList, 'n', by simp [toString], by decide⟩
      have hlong := Url.ofText?_below hend hshort hspecial.1 hspecial.2 h.path (by decide) h.query
        h.fragment hnames
      have hreachable : isReachable place = decide (place.text.utf8ByteSize ≤ 65534) :=
        (congrArg (· && decide (place.text.utf8ByteSize ≤ 65534))
          (Bool.and_eq_true_iff.mp hreach).1).trans (Bool.true_and _)
      have hplace : place.hasHost = true := hhost
      unfold addressOf
      simp only [hlong, hstripped]
      change (if (place.hasHost && isReachable place) = true then _ else _) = _
      simp only [hplace, hreachable, Bool.true_and, decide_eq_true_eq]
      rfl

end Remote

end BrowserScript
