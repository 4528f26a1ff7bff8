import Tipy.Lib.HexLiteral
import Tipy.Python

/-!
# MAC addresses as texts

`MACAddress` of `tipy/lib/ethernet.py`. A string is accepted by the number of its groups, by its
length without the separators and by `int(m, 16)` of what is left. That is less than six pairs of
digits: the twelve characters may be grouped in any way (`00:1:122:33:44:55`), and `int` takes more
than digits (`+0:11:22:33:44:55`, `0x:11:22:33:44:55`, `0_:11:22:33:44:55`).
-/

namespace Tipy.Ethernet

open Tipy.Lib

/-- The exception of the module. -/
inductive FormatError where
  | macFormatError
deriving Repr, DecidableEq

/-- `MACAddress`, with an empty string while it was not asked for. -/
structure MACAddress where
  macaddInt : Int
  macaddIntHigh : Int
  macaddIntLow : Int
  macaddStr : Text
deriving Repr, DecidableEq

/-- The code point of `:`. -/
def colon : Nat := 58

/-- The code point of `-`. -/
def hyphen : Nat := 45

/-- `macadd.replace("-", ":")`. -/
def normalized (macadd : Text) : Text := macadd.map fun c => if c = hyphen then colon else c

/-- The groups between the separators. -/
def groups (macadd : Text) : List Text := (normalized macadd).splitOn colon

/-- `macadd.replace(":", "")`, once the separators are normalized. -/
def joined (macadd : Text) : Text := (normalized macadd).filter (· ≠ colon)

/-- `f"{b:02x}"`. -/
def hex2 (b : UInt8) : Text :=
  let digit (d : Nat) : Nat := if d < 10 then 48 + d else 87 + d
  [digit (b.toNat / 16), digit (b.toNat % 16)]

namespace MACAddress

/-- `MACAddress(macadd)` for an `int`; the quotient and the remainder are `>> 16` and `& 0xFFFF`. -/
def ofInt (macadd : Int) : MACAddress := ⟨macadd, macadd / 65536, macadd % 65536, []⟩

/-- `MACAddress(macadd)` for a `str`. -/
def ofStr (U : UnicodeData) (macadd : Text) : Except FormatError MACAddress :=
  if colon ∈ macadd ∧ hyphen ∈ macadd then .error .macFormatError
  else if (groups macadd).length ≠ 6 then .error .macFormatError
  else if (joined macadd).length ≠ 12 then .error .macFormatError
  else
    match intHex U (joined macadd) with
    | some n => .ok { ofInt n with macaddStr := normalized macadd }
    | none => .error .macFormatError

def mac (a : MACAddress) : Int := a.macaddInt

def macHigh (a : MACAddress) : Int := a.macaddIntHigh

def macLow (a : MACAddress) : Int := a.macaddIntLow

/-- `mac_str`: the string and the object that has it from now on. `pack` raises a `struct.error` for
a part that is out of range. -/
def macStr (a : MACAddress) : Except PyError (Text × MACAddress) :=
  if a.macaddStr = [] then
    if a.macaddIntHigh < 0 ∨ a.macaddIntLow < 0 then .error .structError
    else
      match structPack [(.I, a.macaddIntHigh.toNat), (.H, a.macaddIntLow.toNat)] with
      | some m =>
        let s := [colon].intercalate (m.map hex2)
        .ok (s, { a with macaddStr := s })
      | none => .error .structError
  else .ok (a.macaddStr, a)

/-- `str(a)`. -/
def str (a : MACAddress) : Except PyError Text := a.macStr.map Prod.fst

end MACAddress

/-! ## MAC addresses -/

/-- Two hexadecimal digits. -/
def IsPair (p : Text) : Prop := p.length = 2 ∧ ∀ c ∈ p, (hexDigit c).isSome

/-- Six pairs of hexadecimal digits, joined by one of the separators. -/
def IsMac (s : Text) : Prop :=
  ∃ sep octets, (sep = colon ∨ sep = hyphen) ∧ octets.length = 6 ∧ (∀ p ∈ octets, IsPair p) ∧
    s = [sep].intercalate octets

/-- The number the hexadecimal digits of a text stand for. -/
def hexValue (s : Text) : Nat := numeral 16 (s.filterMap hexDigit)

/-- What the tests let through and is no MAC address: the separators are not mixed, the groups are
six, the characters between them are twelve and together an `int` literal in base 16; but the groups
are not all pairs of digits. -/
def Loose (U : UnicodeData) (s : Text) : Prop :=
  ¬ (colon ∈ s ∧ hyphen ∈ s) ∧ (groups s).length = 6 ∧ (joined s).length = 12 ∧
    (∃ v, HexLiteral (toAscii U (joined s)) v) ∧
    ¬ ∀ p ∈ groups s, IsPair p

theorem hexDigit_colon : hexDigit colon = none := rfl

theorem hexDigit_hyphen : hexDigit hyphen = none := rfl

theorem ne_of_hexDigit {c sep : Nat} (h : (hexDigit c).isSome) (hsep : hexDigit sep = none) :
    c ≠ sep := by
  rintro rfl
  rw [hsep] at h
  cases h

/-- Putting the separators right and leaving them out does not touch the digits. -/
theorem filterMap_joined (s : Text) : (joined s).filterMap hexDigit = s.filterMap hexDigit := by
  induction s with
  | nil => rfl
  | cons c s ih =>
    have hcons : joined (c :: s) =
        if (if c = hyphen then colon else c) ≠ colon then
          (if c = hyphen then colon else c) :: joined s else joined s := by
      simp only [joined, normalized, List.map_cons, List.filter_cons, decide_eq_true_eq]
    rw [hcons]
    by_cases hh : c = hyphen
    · rw [if_pos hh, if_neg (not_not.2 rfl), ih, hh, List.filterMap_cons_none hexDigit_hyphen]
    · rw [if_neg hh]
      by_cases hc : c = colon
      · rw [if_neg (not_not.2 hc), ih, hc, List.filterMap_cons_none hexDigit_colon]
      · rw [if_pos hc, List.filterMap_cons, List.filterMap_cons, ih]

/-! ## Joined texts -/

theorem map_intercalate {f : Nat → Nat} (sep : Nat) (ps : List Text) :
    ([sep].intercalate ps).map f = [f sep].intercalate (ps.map (List.map f)) := by
  induction ps with
  | nil => rfl
  | cons p ps ih =>
    cases ps with
    | nil => simp
    | cons q ps =>
      rw [List.intercalate_cons_of_ne_nil (List.cons_ne_nil q ps), List.map_append,
        List.map_append, ih,
        List.map_cons (l := q :: ps), List.intercalate_cons_of_ne_nil (by simp)]
      rfl

theorem filter_intercalate {sep : Nat} {ps : List Text} (h : ∀ p ∈ ps, ∀ c ∈ p, c ≠ sep) :
    ([sep].intercalate ps).filter (· ≠ sep) = ps.flatten := by
  have hkeep : ∀ p ∈ ps, p.filter (· ≠ sep) = p := fun p hp =>
    List.filter_eq_self.2 fun c hc => by simpa using h p hp c hc
  induction ps with
  | nil => rfl
  | cons p ps ih =>
    cases ps with
    | nil => simpa using hkeep p (by simp)
    | cons q ps =>
      rw [List.intercalate_cons_of_ne_nil (List.cons_ne_nil q ps), List.filter_append,
        List.filter_append, hkeep p List.mem_cons_self,
        ih (fun p' hp' => h p' (List.mem_cons_of_mem p hp'))
          (fun p' hp' => hkeep p' (List.mem_cons_of_mem p hp'))]
      simp

/-! ## What the tests say about a MAC address -/

section
variable {s : Text} {sep : Nat} {octets : List Text}

theorem normalized_of_pairs (hsep : sep = colon ∨ sep = hyphen) (hpair : ∀ p ∈ octets, IsPair p) :
    normalized ([sep].intercalate octets) = [colon].intercalate octets := by
  have hkeep : octets.map (List.map fun c => if c = hyphen then colon else c) = octets := by
    refine (List.map_congr_left fun p hp => ?_).trans (List.map_id octets)
    refine (List.map_congr_left fun c hc => ?_).trans (List.map_id p)
    exact if_neg (ne_of_hexDigit ((hpair p hp).2 c hc) hexDigit_hyphen)
  rw [normalized, map_intercalate, hkeep]
  rcases hsep with rfl | rfl <;> rfl

theorem groups_of_pairs (hsep : sep = colon ∨ sep = hyphen) (hlen : octets.length = 6)
    (hpair : ∀ p ∈ octets, IsPair p) : groups ([sep].intercalate octets) = octets := by
  rw [groups, normalized_of_pairs hsep hpair]
  refine List.splitOn_intercalate colon (fun p hp hc => ?_) ?_
  · exact ne_of_hexDigit ((hpair p hp).2 colon hc) hexDigit_colon rfl
  · rintro rfl
    cases hlen

theorem joined_of_pairs (hsep : sep = colon ∨ sep = hyphen) (hpair : ∀ p ∈ octets, IsPair p) :
    joined ([sep].intercalate octets) = octets.flatten := by
  rw [joined, normalized_of_pairs hsep hpair]
  exact filter_intercalate fun p hp c hc => ne_of_hexDigit ((hpair p hp).2 c hc) hexDigit_colon

theorem IsMac.not_mixed (h : IsMac s) : ¬ (colon ∈ s ∧ hyphen ∈ s) := by
  obtain ⟨sep, octets, hsep, -, hpair, rfl⟩ := h
  have hother : ∀ c, c ≠ sep → c ∈ [sep].intercalate octets → (hexDigit c).isSome := by
    intro c hc hmem
    have hsep' : ∀ p ∈ octets, ∀ c ∈ p, c ≠ sep := by
      intro p hp c hc
      refine ne_of_hexDigit ((hpair p hp).2 c hc) ?_
      rcases hsep with rfl | rfl
      · exact hexDigit_colon
      · exact hexDigit_hyphen
    have hflat : c ∈ octets.flatten := by
      rw [← filter_intercalate hsep']
      exact List.mem_filter.2 ⟨hmem, by simpa using hc⟩
    obtain ⟨p, hp, hcp⟩ := List.mem_flatten.1 hflat
    exact (hpair p hp).2 c hcp
  rintro ⟨hcolon, hhyphen⟩
  rcases hsep with rfl | rfl
  · exact Bool.false_ne_true (hother hyphen (by decide) hhyphen)
  · exact Bool.false_ne_true (hother colon (by decide) hcolon)

theorem IsMac.length_groups (h : IsMac s) : (groups s).length = 6 := by
  obtain ⟨sep, octets, hsep, hlen, hpair, rfl⟩ := h
  rw [groups_of_pairs hsep hlen hpair, hlen]

theorem IsMac.isPair_of_mem_groups (h : IsMac s) : ∀ p ∈ groups s, IsPair p := by
  obtain ⟨sep, octets, hsep, hlen, hpair, rfl⟩ := h
  rw [groups_of_pairs hsep hlen hpair]
  exact hpair

theorem IsMac.isSome_of_mem_joined (h : IsMac s) : ∀ c ∈ joined s, (hexDigit c).isSome := by
  obtain ⟨sep, octets, hsep, hlen, hpair, rfl⟩ := h
  rw [joined_of_pairs hsep hpair]
  intro c hc
  obtain ⟨p, hp, hcp⟩ := List.mem_flatten.1 hc
  exact (hpair p hp).2 c hcp

theorem IsMac.length_joined (h : IsMac s) : (joined s).length = 12 := by
  obtain ⟨sep, octets, hsep, hlen, hpair, rfl⟩ := h
  have hconst : octets.map List.length = List.replicate 6 2 :=
    List.eq_replicate_iff.2 ⟨by rw [List.length_map, hlen], by
      intro n hn
      obtain ⟨p, hp, rfl⟩ := List.mem_map.1 hn
      exact (hpair p hp).1⟩
  rw [joined_of_pairs hsep hpair, List.length_flatten, hconst]
  rfl

/-- Without colons the groups are those between the hyphens. -/
theorem groups_of_colon_notMem (h : colon ∉ s) : groups s = s.splitOn hyphen := by
  induction s with
  | nil => rfl
  | cons c s ih =>
    rw [List.mem_cons, not_or] at h
    have hcons : groups (c :: s) =
        ((if c = hyphen then colon else c) :: normalized s).splitOn colon := rfl
    rw [hcons, List.splitOn_cons_eq_if_modifyHead, List.splitOn_cons_eq_if_modifyHead, ← ih h.2]
    by_cases hc : c = hyphen
    · rw [if_pos hc, if_pos (beq_self_eq_true colon), if_pos (beq_iff_eq.2 hc)]
      rfl
    · rw [if_neg hc, if_neg (fun heq => h.1 (beq_iff_eq.1 heq).symm),
        if_neg (fun heq => hc (beq_iff_eq.1 heq))]
      rfl

/-- A text with one separator is its groups, joined by it. -/
theorem eq_intercalate_groups (h : ¬ (colon ∈ s ∧ hyphen ∈ s)) :
    ∃ sep, (sep = colon ∨ sep = hyphen) ∧ s = [sep].intercalate (groups s) := by
  by_cases hhyphen : hyphen ∈ s
  · have hcolon : colon ∉ s := fun hc => h ⟨hc, hhyphen⟩
    refine ⟨hyphen, .inr rfl, ?_⟩
    rw [groups_of_colon_notMem hcolon]
    exact (List.intercalate_splitOn hyphen).symm
  · have hkeep : normalized s = s := by
      refine (List.map_congr_left fun c hc => ?_).trans (List.map_id s)
      refine if_neg ?_
      rintro rfl
      exact hhyphen hc
    refine ⟨colon, .inl rfl, ?_⟩
    rw [groups, hkeep]
    exact (List.intercalate_splitOn colon).symm

/-- Six pairs between separators that are not mixed are a MAC address. -/
theorem isMac_of_groups (hmixed : ¬ (colon ∈ s ∧ hyphen ∈ s)) (hlen : (groups s).length = 6)
    (hpair : ∀ p ∈ groups s, IsPair p) : IsMac s := by
  obtain ⟨sep, hsep, hs⟩ := eq_intercalate_groups hmixed
  exact ⟨sep, groups s, hsep, hlen, hpair, hs⟩

end

/-! ## What the constructor accepts -/

namespace MACAddress

variable {U : UnicodeData} {s : Text}

/-- The conditions under which a string is accepted. -/
theorem ofStr_eq_ok_iff {a : MACAddress} : ofStr U s = .ok a ↔
    ¬ (colon ∈ s ∧ hyphen ∈ s) ∧ (groups s).length = 6 ∧ (joined s).length = 12 ∧
      ∃ n, intHex U (joined s) = some n ∧ a = { ofInt n with macaddStr := normalized s } := by
  unfold ofStr
  constructor
  · intro h
    split at h
    · cases h
    · next hmixed =>
      split at h
      · cases h
      · next hlen =>
        split at h
        · cases h
        · next hlen' =>
          split at h
          · next n hn =>
            cases h
            exact ⟨hmixed, not_not.1 hlen, not_not.1 hlen', n, hn, rfl⟩
          · cases h
  · rintro ⟨hmixed, hlen, hlen', n, hn, rfl⟩
    rw [if_neg hmixed, if_neg (not_not.2 hlen), if_neg (not_not.2 hlen'), hn]

/-- A MAC address is accepted, with the value of its digits. -/
theorem ofStr_of_isMac (h : IsMac s) :
    ofStr U s = .ok { ofInt (hexValue s) with macaddStr := normalized s } := by
  have hne : joined s ≠ [] := by
    intro hnil
    have hlen := h.length_joined
    rw [hnil] at hlen
    cases hlen
  have hint := intHex_of_digits U hne h.isSome_of_mem_joined
  rw [filterMap_joined] at hint
  exact ofStr_eq_ok_iff.2 ⟨h.not_mixed, h.length_groups, h.length_joined, _, hint, rfl⟩

/-- The value has 48 bits. -/
theorem hexValue_lt (h : IsMac s) : hexValue s < 2 ^ 48 := by
  have hlen : (s.filterMap hexDigit).length = 12 := by
    rw [← filterMap_joined, ← h.length_joined]
    exact List.filterMap_length_eq_length.2 h.isSome_of_mem_joined
  have hdigit : ∀ d ∈ s.filterMap hexDigit, d < 16 := by
    intro d hd
    obtain ⟨c, -, hc⟩ := List.mem_filterMap.1 hd
    exact hexDigit_lt hc
  have hlt := numeral_lt (by decide) hdigit
  rw [hlen] at hlt
  exact hlt

/-- Accepted is a MAC address or a loose text. -/
theorem exists_ofStr_iff : (∃ a, ofStr U s = .ok a) ↔ IsMac s ∨ Loose U s := by
  constructor
  · rintro ⟨a, ha⟩
    obtain ⟨hmixed, hlen, hlen', n, hn, -⟩ := ofStr_eq_ok_iff.1 ha
    by_cases hpair : ∀ p ∈ groups s, IsPair p
    · exact .inl (isMac_of_groups hmixed hlen hpair)
    · exact .inr ⟨hmixed, hlen, hlen', ⟨n, intHex_eq_some_iff.1 hn⟩, hpair⟩
  · rintro (h | ⟨hmixed, hlen, hlen', ⟨v, hv⟩, -⟩)
    · exact ⟨_, ofStr_of_isMac h⟩
    · exact ⟨_, ofStr_eq_ok_iff.2 ⟨hmixed, hlen, hlen', v, intHex_eq_some_iff.2 hv, rfl⟩⟩

/-! ## The string of a number -/

theorem hexDigit_digit {d : Nat} (h : d < 16) :
    hexDigit (if d < 10 then 48 + d else 87 + d) = some d := by
  unfold hexDigit
  split
  · rw [if_pos (by omega)]
    congr 1
    omega
  · rw [if_neg (by omega), if_pos (by omega)]
    congr 1
    omega

theorem filterMap_hex2 (b : UInt8) :
    (hex2 b).filterMap hexDigit = [b.toNat / 16, b.toNat % 16] := by
  have hb := b.toNat_lt
  have hhigh : b.toNat / 16 < 16 := by omega
  have hlow : b.toNat % 16 < 16 := by omega
  rw [hex2, List.filterMap_cons_some (hexDigit_digit hhigh),
    List.filterMap_cons_some (hexDigit_digit hlow)]
  rfl

theorem isPair_hex2 (b : UInt8) : IsPair (hex2 b) := by
  refine ⟨rfl, List.filterMap_length_eq_length.1 ?_⟩
  rw [filterMap_hex2]
  rfl

/-- A number of 48 bits has a string. -/
theorem str_ofInt {n : Nat} (h : n < 2 ^ 48) : (ofInt n).str =
    .ok ([colon].intercalate ((be32 (n / 65536) ++ be16 (n % 65536)).map hex2)) := by
  have hhigh : (n : Int) / 65536 = (n / 65536 : Nat) := by omega
  have hlow : (n : Int) % 65536 = (n % 65536 : Nat) := by omega
  have hpack : structPack [(.I, n / 65536), (.H, n % 65536)] =
      some (be32 (n / 65536) ++ be16 (n % 65536)) := by
    have hI : n / 65536 < Fmt.bound .I := by
      simp only [Fmt.bound]
      omega
    have hH : n % 65536 < Fmt.bound .H := Nat.mod_lt n (by decide)
    simp only [structPack, if_pos hI, if_pos hH, Option.map_some, Fmt.bytes, List.append_nil]
  have hpos : ¬ ((n / 65536 : Nat) < (0 : Int) ∨ (n % 65536 : Nat) < (0 : Int)) := by omega
  rw [str, macStr, ofInt, hhigh, hlow]
  simp only [if_true, if_neg hpos, Int.toNat_natCast, hpack]
  rfl

theorem isMac_hex2 {bytes : List UInt8} (h : bytes.length = 6) :
    IsMac ([colon].intercalate (bytes.map hex2)) := by
  refine ⟨colon, bytes.map hex2, .inl rfl, by rw [List.length_map, h], fun p hp => ?_, rfl⟩
  obtain ⟨b, -, rfl⟩ := List.mem_map.1 hp
  exact isPair_hex2 b

/-- The digits of a string of bytes are theirs. -/
theorem hexValue_hex2 (bytes : List UInt8) : hexValue ([colon].intercalate (bytes.map hex2)) =
    numeral 16 (bytes.flatMap fun b => [b.toNat / 16, b.toNat % 16]) := by
  have hpair : ∀ p ∈ bytes.map hex2, IsPair p := by
    intro p hp
    obtain ⟨b, -, rfl⟩ := List.mem_map.1 hp
    exact isPair_hex2 b
  rw [hexValue, ← filterMap_joined, joined_of_pairs (.inl rfl) hpair, List.filterMap_flatten,
    List.map_map]
  congr 1
  rw [List.flatMap_def]
  congr 1
  exact List.map_congr_left fun b _ => filterMap_hex2 b

/-- A number of 48 bits comes back from its string. -/
theorem ofStr_str_ofInt (U : UnicodeData) {n : Nat} (h : n < 2 ^ 48) :
    ∃ s a, (ofInt n).str = .ok s ∧ ofStr U s = .ok a ∧ a.mac = n := by
  have hlen : (be32 (n / 65536) ++ be16 (n % 65536)).length = 6 := rfl
  have hmac := isMac_hex2 hlen
  refine ⟨_, _, str_ofInt h, ofStr_of_isMac hmac, ?_⟩
  show ((hexValue _ : Nat) : Int) = n
  rw [hexValue_hex2]
  simp only [be32, be16, List.cons_append, List.nil_append, List.flatMap_cons, List.flatMap_nil,
    numeral, List.foldl_cons, List.foldl_nil, UInt8.toNat_ofNat']
  omega

end MACAddress

theorem Loose.not_isMac {U : UnicodeData} {s : Text} (h : Loose U s) : ¬ IsMac s := fun hmac =>
  h.2.2.2.2 hmac.isPair_of_mem_groups

namespace MACAddress

/-- **`MACAddress` accepts exactly six pairs of hexadecimal digits**, with their 48-bit value, and
any other string raises a `MACFormatError`: so it is for a string exactly when it is not a loose
one. The number of any object comes back from its string. -/
theorem accepts_iff (U : UnicodeData) :
    (∀ s, (((∃ a, ofStr U s = .ok a) ↔ IsMac s) ∧
        ((¬ ∃ a, ofStr U s = .ok a) → ofStr U s = .error .macFormatError) ∧
        ∀ a, ofStr U s = .ok a →
          a.mac = hexValue s ∧ a.mac < 2 ^ 48 ∧ a.macHigh * 2 ^ 16 + a.macLow = a.mac) ↔
      ¬ Loose U s) ∧
    ∀ n : Nat, n < 2 ^ 48 → ∃ s a, (ofInt n).str = .ok s ∧ ofStr U s = .ok a ∧ a.mac = n := by
  refine ⟨fun s => ⟨?_, fun hloose => ⟨?_, ?_, ?_⟩⟩, fun n hn => ofStr_str_ofInt U hn⟩
  · rintro ⟨hiff, -, -⟩ hloose
    exact hloose.not_isMac (hiff.1 (exists_ofStr_iff.2 (.inr hloose)))
  · rw [exists_ofStr_iff]
    exact or_iff_left hloose
  · intro hno
    cases hs : ofStr U s with
    | ok a => exact absurd ⟨a, hs⟩ hno
    | error e => rfl
  · intro a ha
    have hmac : IsMac s := (exists_ofStr_iff.1 ⟨a, ha⟩).resolve_right hloose
    rw [ofStr_of_isMac hmac] at ha
    cases ha
    refine ⟨rfl, ?_, ?_⟩
    · show (hexValue s : Int) < 2 ^ 48
      exact_mod_cast hexValue_lt hmac
    · show (hexValue s : Int) / 65536 * 2 ^ 16 + (hexValue s : Int) % 65536 = hexValue s
      omega

/-- A Unicode database for ASCII texts, of which it is never asked. -/
def asciiOnly : UnicodeData := ⟨fun _ => false, fun _ => none, by intro c d h; cases h⟩

/-- `+0:11:22:33:44:55`. -/
def signedText : Text := [43, 48, 58, 49, 49, 58, 50, 50, 58, 51, 51, 58, 52, 52, 58, 53, 53]

/-- The string has a sign in its first group and is accepted. -/
theorem signedText_accepted :
    ofStr asciiOnly signedText = .ok ⟨0x01122334455, 0x0112233, 0x4455, signedText⟩ ∧
      ¬ IsMac signedText := by
  refine ⟨by decide, fun h => ?_⟩
  have hpair := h.isPair_of_mem_groups [43, 48] (by decide)
  exact Bool.false_ne_true (hpair.2 43 (by simp))

end MACAddress

end Tipy.Ethernet
