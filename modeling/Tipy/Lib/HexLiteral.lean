import Mathlib.Data.List.TakeWhile
import Tipy.Lib.Numeral

/-!
# Integer literals in base 16

`int(text, 16)` of Python as its C code reads a text (`intHex`), and the grammar of what it accepts
(`HexLiteral`): white space around the literal, a sign, `0x` with one underscore behind it, and
single underscores between digits. In a text that is not ASCII, the white space and the decimal
digits of Unicode stand for the ASCII ones; which these are is a parameter, since it depends on the
version of Unicode.
-/

namespace Tipy.Lib

/-- What `int` asks of the Unicode database about a code point outside ASCII. -/
structure UnicodeData where
  isSpace : Nat → Bool
  decimal : Nat → Option Nat
  decimal_lt : ∀ c d, decimal c = some d → d < 10

/-- `_PyLong_DigitValue`, below 16. -/
def hexDigit (c : Nat) : Option Nat :=
  if 48 ≤ c ∧ c ≤ 57 then some (c - 48)
  else if 97 ≤ c ∧ c ≤ 102 then some (c - 87)
  else if 65 ≤ c ∧ c ≤ 70 then some (c - 55)
  else none

/-- `Py_ISSPACE`. -/
def isAsciiSpace (c : Nat) : Bool := c = 32 ∨ (9 ≤ c ∧ c ≤ 13)

/-- The underscore. -/
def underscore : Nat := 95

theorem hexDigit_lt {c d : Nat} (h : hexDigit c = some d) : d < 16 := by
  unfold hexDigit at h
  split at h
  · cases h; omega
  · split at h
    · cases h; omega
    · split at h
      · cases h; omega
      · cases h

theorem hexDigit_underscore : hexDigit underscore = none := rfl

theorem not_isAsciiSpace_of_hexDigit {c d : Nat} (h : hexDigit c = some d) :
    isAsciiSpace c = false := by
  cases hs : isAsciiSpace c with
  | false => rfl
  | true =>
    have hc : c = 32 ∨ (9 ≤ c ∧ c ≤ 13) := of_decide_eq_true hs
    rw [hexDigit, if_neg (by omega), if_neg (by omega), if_neg (by omega)] at h
    cases h

section
variable (U : UnicodeData)

/-- The loop of `_PyUnicode_TransformDecimalAndSpaceToASCII`: it ends with a question mark at a code
point that is neither. -/
def transform : Text → Text
  | [] => []
  | c :: s =>
    if c < 127 then c :: transform s
    else if U.isSpace c then 32 :: transform s
    else
      match U.decimal c with
      | some d => (48 + d) :: transform s
      | none => [63]

/-- `_PyUnicode_TransformDecimalAndSpaceToASCII`. -/
def toAscii (s : Text) : Text := if ∀ c ∈ s, c < 128 then s else transform U s

end

/-- The sign of a literal, and what is behind it. -/
def readSign : Text → Int × Text
  | [] => (1, [])
  | c :: s => if c = 43 then (1, s) else if c = 45 then (-1, s) else (1, c :: s)

/-- What is behind `0x` and an underscore, or the text. -/
def dropPrefix : Text → Text
  | a :: b :: s =>
    if a = 48 ∧ (b = 120 ∨ b = 88) then
      match s with
      | c :: s' => if c = underscore then s' else c :: s'
      | [] => []
    else a :: b :: s
  | s => s

/-- The loop of `long_from_binary_base`: `prev` says that the character before was an underscore. -/
def scanDigits : Bool → Nat → Text → Option (Nat × Text)
  | prev, n, [] => if prev then none else some (n, [])
  | prev, n, c :: s =>
    if c = underscore then
      if prev then none else scanDigits true n s
    else
      match hexDigit c with
      | some d => scanDigits false (n * 16 + d) s
      | none => if prev then none else some (n, c :: s)

/-- `PyLong_FromString(str, &end, 16)`, with the test that it read the whole text. -/
def fromString (str : Text) : Option Int :=
  let (sign, str) := readSign (str.dropWhile isAsciiSpace)
  let start := dropPrefix str
  if start.head? = some underscore then none
  else
    match scanDigits false 0 start with
    | some (n, rest) =>
      if rest.length = start.length then none
      else if rest.dropWhile isAsciiSpace = [] then some (sign * n)
      else none
    | none => none

/-- `int(text, 16)`; `none` is the `ValueError`. -/
def intHex (U : UnicodeData) (s : Text) : Option Int := fromString (toAscii U s)

/-! ## The grammar -/

/-- Hexadecimal digits with single underscores between them, and their values. -/
inductive HexDigits : Text → List Nat → Prop where
  | last {c d : Nat} (h : hexDigit c = some d) : HexDigits [c] [d]
  | digit {c d : Nat} {s : Text} {ds : List Nat} (h : hexDigit c = some d) (hs : HexDigits s ds) :
    HexDigits (c :: s) (d :: ds)
  | spaced {c d : Nat} {s : Text} {ds : List Nat} (h : hexDigit c = some d) (hs : HexDigits s ds) :
    HexDigits (c :: underscore :: s) (d :: ds)

/-- A sign and what it means. -/
inductive HexSign : Text → Int → Prop where
  | none : HexSign [] 1
  | plus : HexSign [43] 1
  | minus : HexSign [45] (-1)

/-- What may stand between the sign and the digits. -/
inductive HexPrefix : Text → Prop where
  | none : HexPrefix []
  | lower : HexPrefix [48, 120]
  | upper : HexPrefix [48, 88]
  | lowerSpaced : HexPrefix [48, 120, underscore]
  | upperSpaced : HexPrefix [48, 88, underscore]

/-- An ASCII text is a literal, with its value. -/
def HexLiteral (s : Text) (v : Int) : Prop :=
  ∃ before sign pre body after ds sgn,
    s = before ++ (sign ++ (pre ++ (body ++ after))) ∧
    (∀ c ∈ before, isAsciiSpace c) ∧ HexSign sign sgn ∧ HexPrefix pre ∧ HexDigits body ds ∧
    (∀ c ∈ after, isAsciiSpace c) ∧ v = sgn * numeral 16 ds

/-! ## The loop over the digits -/

theorem HexDigits.exists_cons {s : Text} {ds : List Nat} (h : HexDigits s ds) :
    ∃ c d s', s = c :: s' ∧ hexDigit c = some d := by
  cases h with
  | last h => exact ⟨_, _, _, rfl, h⟩
  | digit h hs => exact ⟨_, _, _, rfl, h⟩
  | spaced h hs => exact ⟨_, _, _, rfl, h⟩

/-- What ends the digits: nothing, or a character that is no digit and no underscore. -/
def EndsDigits (rest : Text) : Prop :=
  ∀ c s, rest = c :: s → hexDigit c = none ∧ c ≠ underscore

theorem scanDigits_end {n : Nat} {rest : Text} (h : EndsDigits rest) :
    scanDigits false n rest = some (n, rest) := by
  cases rest with
  | nil => rfl
  | cons c s =>
    obtain ⟨hc, hu⟩ := h c s rfl
    simp [scanDigits, hu, hc]

theorem scanDigits_digit {c d : Nat} (h : hexDigit c = some d) (prev : Bool) (n : Nat) (s : Text) :
    scanDigits prev n (c :: s) = scanDigits false (n * 16 + d) s := by
  have hu : c ≠ underscore := by
    rintro rfl
    rw [hexDigit_underscore] at h
    cases h
  simp [scanDigits, hu, h]

/-- The loop reads the digits of a literal. -/
theorem HexDigits.scanDigits {s : Text} {ds : List Nat} (h : HexDigits s ds) {rest : Text}
    (hrest : EndsDigits rest) (prev : Bool) (n : Nat) :
    scanDigits prev n (s ++ rest) = some (ds.foldl (fun n d => n * 16 + d) n, rest) := by
  induction h generalizing prev n with
  | last h => rw [List.singleton_append, scanDigits_digit h, scanDigits_end hrest]; rfl
  | digit h hs ih => rw [List.cons_append, scanDigits_digit h, ih]; rfl
  | spaced h hs ih =>
    rw [List.cons_append, scanDigits_digit h, List.cons_append, Lib.scanDigits, if_pos rfl,
      if_neg Bool.false_ne_true, ih]
    rfl

/-- What the loop reads are digits of a literal; behind an underscore there is one at least. -/
theorem eq_append_of_scanDigits {prev : Bool} {n m : Nat} {s rest : Text}
    (h : scanDigits prev n s = some (m, rest)) :
    (prev = false ∧ rest = s ∧ m = n) ∨
      ∃ body ds, HexDigits body ds ∧ m = ds.foldl (fun n d => n * 16 + d) n ∧
        (s = body ++ rest ∨ (prev = false ∧ s = underscore :: (body ++ rest))) := by
  induction s generalizing prev n with
  | nil =>
    cases prev with
    | true => cases h
    | false => cases h; exact .inl ⟨rfl, rfl, rfl⟩
  | cons c s ih =>
    unfold scanDigits at h
    split at h
    · next hu =>
      subst hu
      cases prev with
      | true => cases h
      | false =>
        rcases ih h with ⟨hprev, -, -⟩ | ⟨body, ds, hbody, hm, hs | ⟨hprev, -⟩⟩
        · cases hprev
        · exact .inr ⟨body, ds, hbody, hm, .inr ⟨rfl, by rw [hs]⟩⟩
        · cases hprev
    · split at h
      · next d hd =>
        rcases ih h with ⟨-, rfl, rfl⟩ | ⟨body, ds, hbody, hm, rfl | ⟨-, rfl⟩⟩
        · exact .inr ⟨[c], [d], .last hd, rfl, .inl rfl⟩
        · exact .inr ⟨c :: body, d :: ds, .digit hd hbody, hm, .inl rfl⟩
        · exact .inr ⟨c :: underscore :: body, d :: ds, .spaced hd hbody, hm, .inl rfl⟩
      · next hd =>
        cases prev with
        | true => cases h
        | false => cases h; exact .inl ⟨rfl, rfl, rfl⟩

/-! ## The parser and the grammar -/

theorem dropWhile_append {p : Nat → Bool} {before s : Text} (h : ∀ c ∈ before, p c)
    (hs : ∀ c s', s = c :: s' → p c = false) : (before ++ s).dropWhile p = s := by
  induction before with
  | nil =>
    cases s with
    | nil => rfl
    | cons c s' => rw [List.nil_append, List.dropWhile_cons_of_neg (by simp [hs c s' rfl])]
  | cons c before ih =>
    rw [List.cons_append, List.dropWhile_cons_of_pos (h c List.mem_cons_self)]
    exact ih fun c' hc' => h c' (List.mem_cons_of_mem c hc')

theorem readSign_append {sign s : Text} {sgn : Int} (h : HexSign sign sgn)
    (hs : ∀ c s', s = c :: s' → c ≠ 43 ∧ c ≠ 45) : readSign (sign ++ s) = (sgn, s) := by
  cases h with
  | none =>
    cases s with
    | nil => rfl
    | cons c s' =>
      obtain ⟨hplus, hminus⟩ := hs c s' rfl
      rw [List.nil_append, readSign, if_neg hplus, if_neg hminus]
  | plus => rfl
  | minus => rfl

theorem eq_append_of_readSign (s : Text) :
    ∃ sign, HexSign sign (readSign s).1 ∧ s = sign ++ (readSign s).2 := by
  cases s with
  | nil => exact ⟨[], .none, rfl⟩
  | cons c s =>
    have hread : readSign (c :: s) =
        if c = 43 then (1, s) else if c = 45 then (-1, s) else (1, c :: s) := rfl
    rw [hread]
    split
    · next hc => exact ⟨[43], .plus, by rw [hc]; rfl⟩
    · split
      · next hc => exact ⟨[45], .minus, by rw [hc]; rfl⟩
      · exact ⟨[], .none, rfl⟩

theorem eq_append_dropPrefix (s : Text) : ∃ pre, HexPrefix pre ∧ s = pre ++ dropPrefix s := by
  rcases s with _ | ⟨a, _ | ⟨b, s⟩⟩
  · exact ⟨[], .none, rfl⟩
  · exact ⟨[], .none, rfl⟩
  · simp only [dropPrefix]
    split
    · next h =>
      obtain ⟨rfl, hb⟩ := h
      cases s with
      | nil =>
        rcases hb with rfl | rfl
        · exact ⟨_, .lower, rfl⟩
        · exact ⟨_, .upper, rfl⟩
      | cons c s =>
        simp only
        split
        · next hc =>
          subst hc
          rcases hb with rfl | rfl
          · exact ⟨_, .lowerSpaced, rfl⟩
          · exact ⟨_, .upperSpaced, rfl⟩
        · rcases hb with rfl | rfl
          · exact ⟨_, .lower, rfl⟩
          · exact ⟨_, .upper, rfl⟩
    · exact ⟨[], .none, rfl⟩

/-- The second character of a literal is no `x`. -/
theorem HexDigits.second {body after : Text} {ds : List Nat} (h : HexDigits body ds)
    (hafter : ∀ c ∈ after, isAsciiSpace c) {a b : Nat} {s : Text}
    (hs : body ++ after = a :: b :: s) :
    b ≠ 120 ∧ b ≠ 88 := by
  have hdigit : ∀ {c d : Nat}, hexDigit c = some d → c ≠ 120 ∧ c ≠ 88 := by
    intro c d hc
    refine ⟨?_, ?_⟩
    · rintro rfl
      cases hc
    · rintro rfl
      cases hc
  cases h with
  | last h =>
    have hspace : isAsciiSpace b = true := hafter b (by simp_all)
    have hb : b = 32 ∨ (9 ≤ b ∧ b ≤ 13) := of_decide_eq_true hspace
    omega
  | digit h hrest =>
    obtain ⟨c, d, s', rfl, hc⟩ := hrest.exists_cons
    obtain ⟨-, rfl, -⟩ : _ ∧ c = b ∧ _ := by simpa using hs
    exact hdigit hc
  | spaced h hrest =>
    obtain ⟨-, rfl, -⟩ : _ ∧ underscore = b ∧ _ := by simpa using hs
    decide

theorem dropPrefix_append {pre body after : Text} {ds : List Nat} (hpre : HexPrefix pre)
    (hbody : HexDigits body ds) (hafter : ∀ c ∈ after, isAsciiSpace c) :
    dropPrefix (pre ++ (body ++ after)) = body ++ after := by
  obtain ⟨c, d, s, hs, hc⟩ := hbody.exists_cons
  have hu : c ≠ underscore := by
    rintro rfl
    cases hc
  cases hpre with
  | none =>
    rw [List.nil_append]
    rcases hba : body ++ after with _ | ⟨a, _ | ⟨b, rest⟩⟩
    · rfl
    · rfl
    · obtain ⟨hx, hX⟩ := hbody.second hafter hba
      simp only [dropPrefix]
      rw [if_neg]
      rintro ⟨-, h | h⟩
      · exact hx h
      · exact hX h
  | lower => simp [hs, dropPrefix, hu]
  | upper => simp [hs, dropPrefix, hu]
  | lowerSpaced => simp [dropPrefix]
  | upperSpaced => simp [dropPrefix]

/-- The text of a literal is read, with its value. -/
theorem HexLiteral.fromString {s : Text} {v : Int} (h : HexLiteral s v) :
    fromString s = some v := by
  obtain ⟨before, sign, pre, body, after, ds, sgn, rfl, hbefore, hsign, hpre, hbody, hafter, rfl⟩ :=
    h
  obtain ⟨c, d, s, hs, hc⟩ := hbody.exists_cons
  have hfirst : ∃ c' s', pre ++ (body ++ after) = c' :: s' ∧ (hexDigit c').isSome := by
    cases hpre with
    | none => exact ⟨c, s ++ after, by rw [hs]; rfl, by rw [hc]; rfl⟩
    | lower => exact ⟨48, _, rfl, rfl⟩
    | upper => exact ⟨48, _, rfl, rfl⟩
    | lowerSpaced => exact ⟨48, _, rfl, rfl⟩
    | upperSpaced => exact ⟨48, _, rfl, rfl⟩
  obtain ⟨c', s', hX, hc'⟩ := hfirst
  obtain ⟨d', hd'⟩ := Option.isSome_iff_exists.1 hc'
  have hnosign : ∀ a t, pre ++ (body ++ after) = a :: t → a ≠ 43 ∧ a ≠ 45 := by
    intro a t hat
    rw [hX] at hat
    cases hat
    refine ⟨?_, ?_⟩
    · rintro rfl
      cases hd'
    · rintro rfl
      cases hd'
  have hnospace : ∀ a t, sign ++ (pre ++ (body ++ after)) = a :: t → isAsciiSpace a = false := by
    intro a t hat
    cases hsign with
    | none =>
      rw [List.nil_append, hX] at hat
      cases hat
      exact not_isAsciiSpace_of_hexDigit hd'
    | plus => cases hat; rfl
    | minus => cases hat; rfl
  have hends : EndsDigits after := by
    rintro a t rfl
    have ha : isAsciiSpace a = true := hafter a List.mem_cons_self
    refine ⟨?_, ?_⟩
    · cases hd : hexDigit a with
      | none => rfl
      | some d => rw [not_isAsciiSpace_of_hexDigit hd] at ha; cases ha
    · rintro rfl
      cases ha
  have hlen : after.length ≠ (body ++ after).length := by
    rw [hs, List.length_append, List.length_cons]
    omega
  have hhead : (body ++ after).head? ≠ some underscore := by
    rw [hs]
    rintro ⟨⟩
    cases hc
  have hall : after.dropWhile isAsciiSpace = [] := List.dropWhile_eq_nil_iff.2 hafter
  rw [Lib.fromString, dropWhile_append hbefore hnospace]
  simp only [readSign_append hsign hnosign, dropPrefix_append hpre hbody hafter, if_neg hhead,
    hbody.scanDigits hends, if_neg hlen, if_pos hall]
  rfl

/-- What is read is a literal. -/
theorem hexLiteral_of_fromString {s : Text} {v : Int} (h : fromString s = some v) :
    HexLiteral s v := by
  obtain ⟨sign, hsign, hs⟩ := eq_append_of_readSign (s.dropWhile isAsciiSpace)
  obtain ⟨pre, hpre, ht⟩ := eq_append_dropPrefix (readSign (s.dropWhile isAsciiSpace)).2
  unfold fromString at h
  simp only at h
  split at h
  · cases h
  · next hhead =>
    split at h
    · next n rest hscan =>
      split at h
      · cases h
      · next hlen =>
        split at h
        · next hrest =>
          cases h
          rcases eq_append_of_scanDigits hscan with ⟨-, hr, -⟩ | ⟨body, ds, hbody, hn, hb | ⟨-, hb⟩⟩
          · exact absurd (by rw [hr]) hlen
          · refine ⟨s.takeWhile isAsciiSpace, sign, pre, body, rest, ds, _, ?_,
              fun c hc => List.mem_takeWhile_imp hc, hsign, hpre, hbody,
              List.dropWhile_eq_nil_iff.1 hrest, by rw [hn]; rfl⟩
            rw [← hb, ← ht, ← hs, List.takeWhile_append_dropWhile]
          · rw [hb] at hhead
            exact absurd rfl hhead
        · cases h
    · cases h

/-- **The grammar.** `int(text, 16)` accepts exactly the literals. -/
theorem intHex_eq_some_iff {U : UnicodeData} {s : Text} {v : Int} :
    intHex U s = some v ↔ HexLiteral (toAscii U s) v :=
  ⟨hexLiteral_of_fromString, HexLiteral.fromString⟩

/-- Digits alone are read as they stand. -/
theorem intHex_of_digits (U : UnicodeData) {s : Text} (hne : s ≠ [])
    (h : ∀ c ∈ s, (hexDigit c).isSome) :
    intHex U s = some (numeral 16 (s.filterMap hexDigit) : Nat) := by
  have hlt : ∀ c ∈ s, c < 128 := by
    intro c hc
    obtain ⟨d, hd⟩ := Option.isSome_iff_exists.1 (h c hc)
    by_contra hbig
    rw [hexDigit, if_neg (by omega), if_neg (by omega), if_neg (by omega)] at hd
    cases hd
  have hdigits : HexDigits s (s.filterMap hexDigit) := by
    clear hlt
    induction s with
    | nil => exact absurd rfl hne
    | cons c s ih =>
      obtain ⟨d, hd⟩ := Option.isSome_iff_exists.1 (h c List.mem_cons_self)
      rw [List.filterMap_cons_some hd]
      cases s with
      | nil => exact .last hd
      | cons c' s =>
        exact .digit hd (ih (List.cons_ne_nil c' s) fun x hx => h x (List.mem_cons_of_mem c hx))
  refine intHex_eq_some_iff.2 ⟨[], [], [], s, [], _, 1, ?_, ?_, .none, .none, hdigits, ?_, ?_⟩
  · rw [toAscii, if_pos hlt]
    simp
  · intro c hc
    cases hc
  · intro c hc
    cases hc
  · simp

end Tipy.Lib
