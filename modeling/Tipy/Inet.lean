import Mathlib.Data.Nat.Bitwise
import Tipy.Lib.Numeral
import Tipy.Arp.Probe

/-!
# IPv4 addresses as texts

`IPAddress` of `tipy/lib/inet.py`: an object has the address as a number and, once it was asked for,
as a string. A string is split at its dots and each part is tested and added to the number; the
string of a number is made from its four bytes. A string is a list of code points here.
-/

namespace Tipy.Inet

open Tipy.Lib

/-- The exception of the module. -/
inductive FormatError where
  | ipFormatError
deriving Repr, DecidableEq

/-- `IPAddress`, with an empty string while it was not asked for. -/
structure IPAddress where
  ipaddInt : Nat
  ipaddStr : Text
deriving Repr, DecidableEq

/-- The code point of the dot. -/
def dot : Nat := 46

/-- `s.isascii()`. -/
def IsAscii (s : Text) : Prop := ∀ c ∈ s, c < 128

/-- `s.isdigit()` of an ASCII string. -/
def IsDigit (s : Text) : Prop := s ≠ [] ∧ ∀ c ∈ s, 48 ≤ c ∧ c ≤ 57

instance (s : Text) : Decidable (IsAscii s) := inferInstanceAs (Decidable (∀ c ∈ s, c < 128))

instance (s : Text) : Decidable (IsDigit s) := inferInstanceAs (Decidable (_ ∧ _))

/-- The tests of one part of the string, and its value `int(part, 10)`. -/
def octet (part : Text) : Except FormatError Nat :=
  if ¬ (IsAscii part ∧ IsDigit part) then .error .ipFormatError
  else if 1 < part.length ∧ part.head? = some 48 then .error .ipFormatError
  else if decimalValue part ≤ 0xFF then .ok (decimalValue part)
  else .error .ipFormatError

/-- The loop over the parts; `i` counts them. -/
def addOctets : Nat → Nat → List Text → Except FormatError Nat
  | _, ipaddInt, [] => .ok ipaddInt
  | i, ipaddInt, part :: parts =>
    match octet part with
    | .ok octet => addOctets (i + 1) (octet <<< (24 - i * 8) ||| ipaddInt) parts
    | .error e => .error e

namespace IPAddress

/-- `IPAddress(ipadd)` for an `int`. -/
def ofInt (ipadd : Nat) : IPAddress := ⟨ipadd, []⟩

/-- `IPAddress(ipadd)` for a `str`. -/
def ofStr (ipadd : Text) : Except FormatError IPAddress :=
  if dot ∉ ipadd then .error .ipFormatError
  else
    let ipOctets := ipadd.splitOn dot
    if ipOctets.length ≠ 4 then .error .ipFormatError
    else
      match addOctets 0 0 ipOctets with
      | .ok ipaddInt => .ok ⟨ipaddInt, ipadd⟩
      | .error e => .error e

def ip (a : IPAddress) : Nat := a.ipaddInt

/-- `str_ip`: the string, and the object that has it from now on. -/
def strIp (a : IPAddress) : Text × IPAddress :=
  let s :=
    if a.ipaddStr = [] then
      decimal (a.ip >>> 24 &&& 0xFF) ++ dot :: decimal (a.ip >>> 16 &&& 0xFF) ++
        dot :: decimal (a.ip >>> 8 &&& 0xFF) ++ dot :: decimal (a.ip &&& 0xFF)
    else a.ipaddStr
  (s, { a with ipaddStr := s })

/-- `str(a)`. -/
def str (a : IPAddress) : Text := a.strIp.1

end IPAddress

/-! ## One part -/

/-- A part is accepted when it is the decimal of a byte. -/
theorem octet_eq_ok_iff {part : Text} {n : Nat} :
    octet part = .ok n ↔ n ≤ 0xFF ∧ part = decimal n := by
  constructor
  · intro h
    unfold octet at h
    split at h
    · cases h
    · next hascii =>
      have hdigit : IsDigit part := (not_not.1 hascii).2
      split at h
      · cases h
      · next hlead =>
        split at h
        · next hle =>
          cases h
          refine ⟨hle, (decimal_decimalValue hdigit.1 hdigit.2 fun hlen hhead => ?_).symm⟩
          exact hlead ⟨hlen, hhead⟩
        · cases h
  · rintro ⟨hle, rfl⟩
    have hdigit : IsDigit (decimal n) := ⟨decimal_ne_nil n, fun c hc => isDigit_of_mem_decimal hc⟩
    have hascii : IsAscii (decimal n) := by
      intro c hc
      have := (isDigit_of_mem_decimal hc).2
      omega
    have hlead : ¬ (1 < (decimal n).length ∧ (decimal n).head? = some 48) := by
      rintro ⟨hlen, hhead⟩
      rw [decimal, List.length_map] at hlen
      refine head?_decimalDigits hlen ?_
      rw [decimal, List.head?_map, Option.map_eq_some_iff] at hhead
      obtain ⟨d, hd, hd0⟩ := hhead
      rw [hd]
      congr 1
      omega
    rw [octet, if_neg (not_not.2 ⟨hascii, hdigit⟩), if_neg hlead, decimalValue_decimal, if_pos hle]

/-! ## The four parts -/

/-- Adding a byte above the bytes that are still to come. -/
theorem shiftLeft_or {acc n k : Nat} (hn : n ≤ 0xFF) (hacc : 2 ^ (k + 8) ∣ acc) :
    n <<< k ||| acc = acc + n * 2 ^ k := by
  obtain ⟨a, rfl⟩ := hacc
  have hlt : n * 2 ^ k < 2 ^ (k + 8) := by
    rw [Nat.pow_add, Nat.mul_comm]
    exact Nat.mul_lt_mul_of_pos_left (by omega) (Nat.two_pow_pos k)
  rw [Nat.shiftLeft_eq, Nat.or_comm, ← Nat.two_pow_add_eq_or_of_lt hlt]

theorem numeral_cons (b n : Nat) (ns : List Nat) :
    numeral b (n :: ns) = n * b ^ ns.length + numeral b ns := by
  rw [← List.singleton_append, numeral_append]
  simp [numeral]

/-- The loop accepts decimals of bytes, and adds them in base 256. -/
theorem addOctets_map_decimal {ns : List Nat} (hns : ∀ n ∈ ns, n ≤ 0xFF) {i acc : Nat}
    (hi : i + ns.length = 4) (hacc : 2 ^ (8 * ns.length) ∣ acc) :
    addOctets i acc (ns.map decimal) = .ok (acc + numeral 256 ns) := by
  induction ns generalizing i acc with
  | nil => rfl
  | cons n ns ih =>
    rw [List.length_cons] at hi hacc
    have hk : 24 - i * 8 = 8 * ns.length := by omega
    have hoctet : octet (decimal n) = .ok n :=
      octet_eq_ok_iff.2 ⟨hns n List.mem_cons_self, rfl⟩
    have hor := shiftLeft_or (hns n List.mem_cons_self) (k := 8 * ns.length) hacc
    simp only [List.map_cons, addOctets, hoctet, hk]
    rw [hor, ih (fun m hm => hns m (List.mem_cons_of_mem n hm)) (by omega), numeral_cons]
    · rw [Nat.pow_mul, Nat.add_assoc]
    · refine (Nat.dvd_add_right
        ((Nat.pow_dvd_pow 2 (by omega)).trans hacc)).2 (Dvd.intro_left n rfl)

/-- What the loop accepts are decimals of bytes. -/
theorem eq_map_of_addOctets {parts : List Text} {i acc v : Nat}
    (h : addOctets i acc parts = .ok v) :
    ∃ ns : List Nat, (∀ n ∈ ns, n ≤ 0xFF) ∧ parts = ns.map decimal := by
  induction parts generalizing i acc with
  | nil => exact ⟨[], fun n hn => absurd hn List.not_mem_nil, rfl⟩
  | cons part parts ih =>
    unfold addOctets at h
    split at h
    · next n hoctet =>
      obtain ⟨hle, rfl⟩ := octet_eq_ok_iff.1 hoctet
      obtain ⟨ns, hns, rfl⟩ := ih h
      exact ⟨n :: ns, List.forall_mem_cons.2 ⟨hle, hns⟩, rfl⟩
    · cases h

/-! ## The whole string -/

/-- Four bytes in dotted-decimal notation. -/
def dotted (a b c d : Nat) : Text := [dot].intercalate [decimal a, decimal b, decimal c, decimal d]

theorem dot_notMem_decimal (n : Nat) : dot ∉ decimal n := by
  intro h
  have := (isDigit_of_mem_decimal h).1
  rw [dot] at this
  omega

theorem splitOn_dotted (a b c d : Nat) :
    (dotted a b c d).splitOn dot = [decimal a, decimal b, decimal c, decimal d] := by
  refine List.splitOn_intercalate dot ?_ (List.cons_ne_nil _ _)
  intro l hl
  simp only [List.mem_cons, List.not_mem_nil, or_false] at hl
  rcases hl with rfl | rfl | rfl | rfl <;> exact dot_notMem_decimal _

theorem dot_mem_dotted (a b c d : Nat) : dot ∈ dotted a b c d := by
  simp [dotted, List.intercalate]

namespace IPAddress

/-- A dotted decimal is accepted, with its value in base 256. -/
theorem ofStr_dotted {a b c d : Nat} (ha : a ≤ 0xFF) (hb : b ≤ 0xFF) (hc : c ≤ 0xFF)
    (hd : d ≤ 0xFF) :
    ofStr (dotted a b c d) = .ok ⟨((a * 256 + b) * 256 + c) * 256 + d, dotted a b c d⟩ := by
  have hns : ∀ n ∈ [a, b, c, d], n ≤ 0xFF := by
    intro n hn
    simp only [List.mem_cons, List.not_mem_nil, or_false] at hn
    rcases hn with rfl | rfl | rfl | rfl <;> assumption
  have hadd : addOctets 0 0 ([a, b, c, d].map decimal) = .ok (0 + numeral 256 [a, b, c, d]) :=
    addOctets_map_decimal hns rfl (Nat.dvd_zero _)
  rw [ofStr, if_neg (not_not.2 (dot_mem_dotted a b c d)), splitOn_dotted]
  simp only [List.map_cons, List.map_nil] at hadd
  simp [hadd, numeral]

/-- What is accepted is a dotted decimal. -/
theorem eq_dotted_of_ofStr {s : Text} {o : IPAddress} (h : ofStr s = .ok o) :
    ∃ a b c d, a ≤ 0xFF ∧ b ≤ 0xFF ∧ c ≤ 0xFF ∧ d ≤ 0xFF ∧ s = dotted a b c d := by
  unfold ofStr at h
  split at h
  · cases h
  · simp only at h
    split at h
    · cases h
    · next hlen =>
      split at h
      · next v hadd =>
        obtain ⟨ns, hns, hparts⟩ := eq_map_of_addOctets hadd
        have hlen4 : ns.length = 4 := by
          have hmap := congrArg List.length hparts
          rw [List.length_map] at hmap
          exact hmap ▸ not_not.1 hlen
        obtain ⟨a, b, c, d, rfl⟩ := List.length_eq_four.1 hlen4
        refine ⟨a, b, c, d, hns a (by simp), hns b (by simp), hns c (by simp), hns d (by simp), ?_⟩
        have hjoin : [dot].intercalate (s.splitOn dot) = s := List.intercalate_splitOn dot
        rw [← hjoin, hparts]
        rfl
      · cases h

/-- The string of a number is that of its four bytes. -/
theorem str_ofInt (n : Nat) : (ofInt n).str =
    dotted (n >>> 24 &&& 0xFF) (n >>> 16 &&& 0xFF) (n >>> 8 &&& 0xFF) (n &&& 0xFF) := by
  simp [str, strIp, ofInt, ip, dotted, List.intercalate]

theorem and_0xFF (n : Nat) : n &&& 0xFF = n % 256 := Nat.and_two_pow_sub_one_eq_mod n 8

/-- A number of 32 bits comes back from its string. -/
theorem ofStr_str_ofInt {n : Nat} (hn : n < 2 ^ 32) :
    ofStr (ofInt n).str = .ok ⟨n, (ofInt n).str⟩ := by
  have hle : ∀ m, m &&& 0xFF ≤ 0xFF := fun m => by
    rw [and_0xFF]
    omega
  rw [str_ofInt, ofStr_dotted (hle _) (hle _) (hle _) (hle _)]
  simp only [and_0xFF, Nat.shiftRight_eq_div_pow]
  congr 2
  omega

/-- The bytes of a number in base 256. -/
theorem str_ofInt_bytes {a b c d : Nat} (ha : a ≤ 0xFF) (hb : b ≤ 0xFF) (hc : c ≤ 0xFF)
    (hd : d ≤ 0xFF) : (ofInt (((a * 256 + b) * 256 + c) * 256 + d)).str = dotted a b c d := by
  rw [str_ofInt]
  simp only [and_0xFF, Nat.shiftRight_eq_div_pow]
  congr 1 <;> omega

/-- **`IPAddress` accepts exactly canonical dotted-decimal text**, gives it its base-256 value, and
numbers and texts come back from each other. -/
theorem ofStr_canonical :
    (∀ s, (∃ o, ofStr s = .ok o) ↔
      ∃ a b c d, a ≤ 0xFF ∧ b ≤ 0xFF ∧ c ≤ 0xFF ∧ d ≤ 0xFF ∧ s = dotted a b c d) ∧
    (∀ s, (¬ ∃ o, ofStr s = .ok o) → ofStr s = .error .ipFormatError) ∧
    (∀ a b c d o, a ≤ 0xFF → b ≤ 0xFF → c ≤ 0xFF → d ≤ 0xFF → ofStr (dotted a b c d) = .ok o →
      o.ip = ((a * 256 + b) * 256 + c) * 256 + d) ∧
    (∀ n < 2 ^ 32, ∃ o, ofStr (ofInt n).str = .ok o ∧ o.ip = n) ∧
    (∀ s o, ofStr s = .ok o → (ofInt o.ip).str = s) := by
  refine ⟨fun s => ⟨?_, ?_⟩, ?_, ?_, ?_, ?_⟩
  · rintro ⟨o, ho⟩
    exact eq_dotted_of_ofStr ho
  · rintro ⟨a, b, c, d, ha, hb, hc, hd, rfl⟩
    exact ⟨_, ofStr_dotted ha hb hc hd⟩
  · intro s hno
    cases hs : ofStr s with
    | ok o => exact absurd ⟨o, hs⟩ hno
    | error e => rfl
  · intro a b c d o ha hb hc hd ho
    rw [ofStr_dotted ha hb hc hd] at ho
    cases ho
    rfl
  · intro n hn
    exact ⟨_, ofStr_str_ofInt hn, rfl⟩
  · intro s o ho
    obtain ⟨a, b, c, d, ha, hb, hc, hd, rfl⟩ := eq_dotted_of_ofStr ho
    rw [ofStr_dotted ha hb hc hd] at ho
    cases ho
    exact str_ofInt_bytes ha hb hc hd

end IPAddress

/-! ## The addresses of the configuration -/

/-- The code points of a string. -/
def codePoints (cs : List Char) : Text := cs.map Char.toNat

theorem toNat_eq_dot {c : Char} : c.toNat = dot ↔ c = '.' := by
  constructor
  · intro h
    exact Char.toNat_inj.1 h
  · rintro rfl
    rfl

/-- Splitting the code points is splitting the characters. -/
theorem splitOn_codePoints (cs : List Char) :
    (codePoints cs).splitOn dot = (cs.splitOn '.').map codePoints := by
  induction cs with
  | nil => rfl
  | cons c cs ih =>
    have hcons : codePoints (c :: cs) = c.toNat :: codePoints cs := rfl
    rw [hcons, List.splitOn_cons_eq_if_modifyHead, List.splitOn_cons_eq_if_modifyHead, ih]
    by_cases hc : c = '.'
    · rw [if_pos (beq_iff_eq.2 (toNat_eq_dot.2 hc)), if_pos (beq_iff_eq.2 hc)]
      rfl
    · rw [if_neg (fun h => hc (toNat_eq_dot.1 (beq_iff_eq.1 h))),
        if_neg (fun h => hc (beq_iff_eq.1 h))]
      cases cs.splitOn '.' <;> rfl

theorem decimalValue_codePoints (cs : List Char) :
    decimalValue (codePoints cs) = cs.foldl (fun n c => n * 10 + (c.toNat - 48)) 0 := by
  rw [decimalValue, numeral, codePoints, List.map_map, List.foldl_map]
  rfl

theorem isDigit_codePoints (cs : List Char) :
    ¬ (IsAscii (codePoints cs) ∧ IsDigit (codePoints cs)) ↔ cs = [] ∨ ¬ cs.all Char.isDigit := by
  have hall : (∀ c ∈ codePoints cs, 48 ≤ c ∧ c ≤ 57) ↔ cs.all Char.isDigit = true := by
    rw [List.all_eq_true, codePoints, List.forall_mem_map]
    exact forall₂_congr fun c _ => Char.isDigit_iff_toNat.symm
  have hascii : (∀ c ∈ codePoints cs, 48 ≤ c ∧ c ≤ 57) → IsAscii (codePoints cs) := by
    intro h c hc
    have := (h c hc).2
    omega
  have hnil : codePoints cs = [] ↔ cs = [] := List.map_eq_nil_iff
  rw [← hall, ← hnil, ← not_iff_not, not_not, not_or, not_not]
  exact ⟨fun h => h.2, fun h => ⟨hascii h.2, h⟩⟩

theorem octet_codePoints (cs : List Char) : (octet (codePoints cs)).toOption = Arp.octet cs := by
  have hlead : 1 < (codePoints cs).length ∧ (codePoints cs).head? = some 48 ↔
      1 < cs.length ∧ cs.head? = some '0' := by
    rw [codePoints, List.length_map, List.head?_map, Option.map_eq_some_iff]
    refine and_congr_right fun _ => ⟨?_, fun h => ⟨'0', h, rfl⟩⟩
    rintro ⟨c, hc, h48⟩
    rw [hc, Char.toNat_inj.1 (show c.toNat = '0'.toNat from h48)]
  unfold octet Arp.octet
  simp only [isDigit_codePoints, hlead, decimalValue_codePoints]
  split
  · rfl
  · split
    · rfl
    · split <;> rfl

/-- A string is read part by part. -/
theorem toOption_ofStr (s : Text) : (IPAddress.ofStr s).toOption.map IPAddress.ip =
    match (s.splitOn dot).map fun part => (octet part).toOption with
    | [some a, some b, some c, some d] => some (d ||| (c <<< 8 ||| (b <<< 16 ||| a <<< 24)))
    | _ => none := by
  by_cases hlen : (s.splitOn dot).length = 4
  · have hdot : dot ∈ s := by
      by_contra hno
      rw [List.splitOn_eq_singleton hno] at hlen
      cases hlen
    obtain ⟨p₀, p₁, p₂, p₃, hparts⟩ := List.length_eq_four.1 hlen
    rw [IPAddress.ofStr, if_neg (not_not.2 hdot)]
    simp only [hparts, List.length_cons, List.length_nil, ne_eq, not_true_eq_false,
      if_false, addOctets, List.map_cons, List.map_nil]
    cases octet p₀ <;> cases octet p₁ <;> cases octet p₂ <;> cases octet p₃ <;>
      simp [Except.toOption, IPAddress.ip]
  · have hnone : (IPAddress.ofStr s).toOption = none := by
      unfold IPAddress.ofStr
      split
      · rfl
      · simp only [if_pos hlen]
        rfl
    rw [hnone]
    split
    · next h =>
      have hlen' := congrArg List.length h
      rw [List.length_map] at hlen'
      exact absurd hlen' hlen
    · rfl

/-- The start of the stack reads the configured address as `IPAddress` does. -/
theorem ofStr_codePoints (s : String) :
    (IPAddress.ofStr (codePoints s.toList)).toOption.map IPAddress.ip = Arp.IPAddress s := by
  have hparts : ((codePoints s.toList).splitOn dot).map (fun part => (octet part).toOption) =
      (s.toList.splitOn '.').map Arp.octet := by
    rw [splitOn_codePoints, List.map_map]
    exact List.map_congr_left fun cs _ => octet_codePoints cs
  exact (toOption_ofStr _).trans (congrArg (fun parts : List (Option Nat) =>
    match parts with
    | [some a, some b, some c, some d] => some (d ||| (c <<< 8 ||| (b <<< 16 ||| a <<< 24)))
    | _ => none) hparts)

end Tipy.Inet
