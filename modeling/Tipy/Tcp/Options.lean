import Tipy.Tcp.Parser

/-!
# The options of a segment

`TCPParser.options` knows three kinds of options. Any other it takes for one byte, and so looks at
its length and at its data as at the kinds of options. An area is read rightly as long as these
bytes are not 0 or 2; if the first of them that is one of the two is a 0, the options behind it are
lost, and if it is a 2, the three bytes behind it are taken for the rest of an MSS option
(`options_read_iff`).

`numbers` is what the parser finds in any bytes; `optionsLoop_toOption` says so once, and the rest
is about how it meets the options of an area.
-/

namespace Tipy.Tcp

/-! ## Areas of options -/

/-- An option: NOP, the MSS, or one of another kind with its data. -/
inductive TcpOption where
  | nop
  | mss (value : Nat)
  | other (kind : UInt8) (data : List UInt8)
deriving DecidableEq

namespace TcpOption

/-- The length of an option of another kind, and its data. -/
def body (data : List UInt8) : List UInt8 := UInt8.ofNat (data.length + 2) :: data

def bytes : TcpOption → List UInt8
  | .nop => [1]
  | .mss value => [2, 4] ++ be16 value
  | .other kind data => kind :: body data

/-- The value fits its field, the kind is none of those the parser knows, and the length fits a
byte. -/
def WellFormed : TcpOption → Prop
  | .nop => True
  | .mss value => value < 65536
  | .other kind data => 2 < kind.toNat ∧ data.length ≤ 253

instance : (o : TcpOption) → Decidable o.WellFormed
  | .nop => .isTrue trivial
  | .mss _ => inferInstanceAs (Decidable (_ < _))
  | .other _ _ => inferInstanceAs (Decidable (_ ∧ _))

def mssValue : TcpOption → Option Nat
  | .mss value => some value
  | _ => none

end TcpOption

/-- The value of the last MSS option. -/
def lastMss (opts : List TcpOption) : Option Nat := (opts.filterMap TcpOption.mssValue).getLast?

/-- An area of options, which may end with EOL and padding. -/
structure OptionArea where
  opts : List TcpOption
  tail : List UInt8
  wellFormed : ∀ o ∈ opts, o.WellFormed
  tail_eol : tail = [] ∨ tail.head? = some 0

def OptionArea.bytes (a : OptionArea) : List UInt8 := a.opts.flatMap TcpOption.bytes ++ a.tail

/-- The area is the options of the frame: it stands behind the fixed header, and the data offset
points behind it. -/
structure OptionArea.Placed (a : OptionArea) (p : TCPParser) (payload : List UInt8) : Prop where
  frame : p.frame.drop 20 = a.bytes ++ payload
  doff : p.doff = 20 + a.bytes.length

/-! ## What the parser finds -/

/-- The numbers behind the bytes 2 of the first `n` bytes, each of which hides the three bytes
behind it, up to the first byte 0 that is not hidden. There are none if the bytes end within such a
four. -/
def numbers : List UInt8 → Nat → Option (List Nat)
  | _, 0 => some []
  | [], _ + 1 => none
  | b :: bytes, n + 1 =>
    if b = 0 then some []
    else if b = 2 then
      match bytes with
      | _ :: hi :: lo :: bytes =>
        (numbers bytes (n - 3)).map fun values => (hi.toNat * 256 + lo.toNat) :: values
      | _ => none
    else numbers bytes n

/-- The last of the numbers, or what was read before. -/
def lastNumber (bytes : List UInt8) (n : Nat) (seen : Option Nat) : Option (Option Nat) :=
  (numbers bytes n).map fun values => values.getLast?.or seen

/-- A byte that is neither 0 nor 2. -/
def quiet (b : UInt8) : Bool := b != 0 && b != 2

section LastNumber

variable {bytes : List UInt8} {n : Nat} {seen : Option Nat}

@[simp] theorem lastNumber_zero : lastNumber bytes 0 seen = some seen := by
  simp [lastNumber, numbers]

@[simp] theorem lastNumber_nil : lastNumber [] (n + 1) seen = none := rfl

@[simp] theorem lastNumber_eol : lastNumber (0 :: bytes) (n + 1) seen = some seen := by
  rw [lastNumber, numbers.eq_def]
  rfl

theorem getLast?_cons_or (value : Nat) (values : List Nat) (seen : Option Nat) :
    (value :: values).getLast?.or seen = values.getLast?.or (some value) := by
  cases values with
  | nil => rfl
  | cons v values =>
    rw [List.getLast?_cons_cons, List.getLast?_cons, Option.some_or, Option.some_or]

theorem lastNumber_mss (b hi lo : UInt8) : lastNumber (2 :: b :: hi :: lo :: bytes) (n + 1) seen =
    lastNumber bytes (n - 3) (some (hi.toNat * 256 + lo.toNat)) := by
  have hread : numbers (2 :: b :: hi :: lo :: bytes) (n + 1) =
      (numbers bytes (n - 3)).map fun values => (hi.toNat * 256 + lo.toNat) :: values := rfl
  rw [lastNumber, hread, lastNumber, Option.map_map]
  congr 1
  funext values
  exact getLast?_cons_or _ values seen

theorem lastNumber_cut (h : bytes.length < 3) : lastNumber (2 :: bytes) (n + 1) seen = none := by
  match bytes, h with
  | [], _ => rfl
  | [_], _ => rfl
  | [_, _], _ => rfl

theorem lastNumber_quiet {b : UInt8} (h : quiet b) :
    lastNumber (b :: bytes) (n + 1) seen = lastNumber bytes n seen := by
  simp only [quiet, Bool.and_eq_true, bne_iff_ne] at h
  have hread : numbers (b :: bytes) (n + 1) = numbers bytes n := by
    rw [numbers.eq_def]
    simp only [if_neg h.1, if_neg h.2]
  rw [lastNumber, hread, lastNumber]

end LastNumber

/-- **The loop of the parser** returns the last of the numbers, and raises when there are none. -/
theorem optionsLoop_toOption {frame : List UInt8} {doff turns ptr : Nat} {mss : Option Nat}
    (h : doff - ptr ≤ turns) : (optionsLoop frame doff turns ptr mss).toOption =
      lastNumber (frame.drop ptr) (doff - ptr) mss := by
  induction turns generalizing ptr mss with
  | zero =>
    rw [Nat.le_zero.1 h, lastNumber_zero]
    rfl
  | succ turns ih =>
    rw [optionsLoop]
    by_cases hptr : ptr < doff
    · obtain ⟨n, hn⟩ : ∃ n, doff - ptr = n + 1 := ⟨doff - ptr - 1, by omega⟩
      rw [if_pos hptr, hn]
      cases hdrop : frame.drop ptr with
      | nil =>
        rw [if_pos (List.drop_eq_nil_iff.1 hdrop)]
        rfl
      | cons b rest =>
        have hlen : rest.length + 1 = frame.length - ptr := by
          rw [← List.length_drop, hdrop, List.length_cons]
        have hskip (k : Nat) : frame.drop (ptr + (k + 1)) = rest.drop k := by
          rw [← List.drop_drop, hdrop]
          rfl
        rw [if_neg (by omega), byteAt_eq_of_drop hdrop]
        by_cases h2 : b = 2
        · subst h2
          rw [show UInt8.toNat 2 = TCP_MSS_KIND from rfl, if_pos rfl, TCP_MSS_LEN]
          by_cases hshort : rest.length < 3
          · rw [if_pos (by omega), lastNumber_cut hshort]
            rfl
          · obtain ⟨len, hi, lo, bytes, rfl⟩ :
                ∃ len hi lo bytes, rest = len :: hi :: lo :: bytes := by
              rcases rest with _ | ⟨len, _ | ⟨hi, _ | ⟨lo, bytes⟩⟩⟩
              · simp at hshort
              · simp at hshort
              · simp at hshort
              · exact ⟨len, hi, lo, bytes, rfl⟩
            have hvalue : u16At frame (ptr + 2) = hi.toNat * 256 + lo.toNat := by
              rw [u16At, byteAt_eq_of_drop (hskip 1), byteAt_eq_of_drop (hskip 2)]
            rw [if_neg (by simp only [List.length_cons] at hlen; omega), ih (by omega), hskip 3,
              hvalue, lastNumber_mss, show doff - (ptr + 4) = n - 3 by omega]
            rfl
        · rw [if_neg (by rwa [TCP_MSS_KIND, toNat_eq_iff (by decide)])]
          have hone : (optionsLoop frame doff turns (ptr + 1) mss).toOption =
              lastNumber rest n mss := by
            rw [ih (by omega), hskip 0, show doff - (ptr + 1) = n by omega]
            rfl
          by_cases h0 : b = 0
          · subst h0
            rw [if_neg (by decide), if_pos (by decide), lastNumber_eol]
            rfl
          · have hend : ¬ b.toNat = TCP_EOL_KIND := by rwa [TCP_EOL_KIND, toNat_eq_iff (by decide)]
            rw [if_neg hend, TCP_NOP_LEN, ite_self, hone,
              lastNumber_quiet (by simp [quiet, h0, h2])]
    · rw [if_neg hptr, show doff - ptr = 0 by omega, lastNumber_zero]
      rfl

/-! ## How an area is read -/

section Area

variable {opts : List TcpOption} {tail payload bytes : List UInt8} {n : Nat} {seen : Option Nat}

theorem lastNumber_quiets {front : List UInt8} (h : ∀ b ∈ front, quiet b) :
    lastNumber (front ++ bytes) (front.length + n) seen = lastNumber bytes n seen := by
  induction front with
  | nil => simp
  | cons b front ih =>
    obtain ⟨hb, hfront⟩ := List.forall_mem_cons.1 h
    rw [List.cons_append, List.length_cons, Nat.add_right_comm, lastNumber_quiet hb, ih hfront]

theorem lastNumber_value {value : Nat} (h : value < 65536) :
    lastNumber ((TcpOption.mss value).bytes ++ bytes)
      ((TcpOption.mss value).bytes.length + n) seen =
      lastNumber bytes n (some value) := by
  have hlength : (TcpOption.mss value).bytes.length + n = n + 3 + 1 := Nat.add_comm 4 n
  have hbytes :
      (UInt8.ofNat (value / 256)).toNat * 256 + (UInt8.ofNat (value % 256)).toNat = value := by
    rw [UInt8.toNat_ofNat', UInt8.toNat_ofNat']
    omega
  rw [hlength, TcpOption.bytes, be16]
  simp only [List.cons_append, List.nil_append]
  rw [lastNumber_mss, hbytes, Nat.add_sub_cancel]

theorem lastMss_or_mss (value : Nat) :
    (lastMss (.mss value :: opts)).or seen = (lastMss opts).or (some value) :=
  getLast?_cons_or value _ seen

/-- The bytes of an option of another kind from the first byte 0 or 2 on. -/
def fromMarker (data : List UInt8) : List UInt8 := (TcpOption.body data).dropWhile (quiet ·)

theorem lastNumber_other {kind : UInt8} {data : List UInt8}
    (h : (TcpOption.other kind data).WellFormed) :
    lastNumber ((TcpOption.other kind data).bytes ++ bytes)
      ((TcpOption.other kind data).bytes.length + n) seen =
      lastNumber (fromMarker data ++ bytes) ((fromMarker data).length + n) seen := by
  have hkind : quiet kind := by
    have h2 : 2 < kind.toNat := h.1
    have hne (c : UInt8) (hc : c.toNat ≤ 2) : kind ≠ c := by
      rintro rfl
      omega
    simp [quiet, hne 0 (by decide), hne 2 (by decide)]
  have hfront : ∀ b ∈ (TcpOption.body data).takeWhile (quiet ·), quiet b := fun b hb =>
    List.all_eq_true.1 List.all_takeWhile b hb
  have hsplit : (TcpOption.other kind data).bytes =
      kind :: (TcpOption.body data).takeWhile (quiet ·) ++ fromMarker data := by
    rw [List.cons_append, fromMarker, List.takeWhile_append_dropWhile]
    rfl
  rw [hsplit, List.append_assoc, List.length_append, Nat.add_assoc,
    lastNumber_quiets (List.forall_mem_cons.2 ⟨hkind, hfront⟩)]

variable (tail payload) in
/-- The bytes 0 and 2 inside options of other kinds do not show. Before the first of them all
options are read. If it is a 0, no MSS option behind it changes the value. If it is a 2, then the
last of the numbers from there on, inside the frame, is the one of the last MSS option. -/
def Harmless : List TcpOption → Option Nat → Prop
  | [], _ => True
  | .nop :: opts, seen => Harmless opts seen
  | .mss value :: opts, _ => Harmless opts (some value)
  | .other _ data :: opts, seen =>
    match fromMarker data with
    | [] => Harmless opts seen
    | b :: back =>
      if b = 0 then (lastMss opts).or seen = seen
      else
        let rest := back ++ (opts.flatMap TcpOption.bytes ++ tail)
        lastNumber (b :: rest ++ payload) (rest.length + 1) seen = some ((lastMss opts).or seen)

/-- Options that hide no 0 and no 2 are read rightly, in any order. -/
theorem harmless_of_unmarked (h : ∀ kind data, .other kind data ∈ opts → fromMarker data = []) :
    Harmless tail payload opts seen := by
  induction opts generalizing seen with
  | nil => trivial
  | cons o opts ih =>
    have hrest {seen : Option Nat} : Harmless tail payload opts seen :=
      ih fun kind data hmem => h kind data (List.mem_cons_of_mem _ hmem)
    cases o with
    | nop => exact hrest
    | mss value => exact hrest
    | other kind data =>
      rw [Harmless, h kind data List.mem_cons_self]
      exact hrest

theorem lastNumber_area (hwf : ∀ o ∈ opts, o.WellFormed) (htail : tail = [] ∨ tail.head? = some 0) :
    lastNumber (opts.flatMap TcpOption.bytes ++ (tail ++ payload))
      ((opts.flatMap TcpOption.bytes).length + tail.length) seen = some ((lastMss opts).or seen) ↔
      Harmless tail payload opts seen := by
  induction opts generalizing seen with
  | nil =>
    have hend : lastNumber (tail ++ payload) tail.length seen = some seen := by
      rcases htail with rfl | htail
      · exact lastNumber_zero
      · obtain ⟨tail, rfl⟩ := List.head?_eq_some_iff.1 htail
        exact lastNumber_eol
    simpa [lastMss, Harmless] using hend
  | cons o opts ih =>
    obtain ⟨ho, hopts⟩ := List.forall_mem_cons.1 hwf
    rw [List.flatMap_cons, List.append_assoc, List.length_append, Nat.add_assoc]
    cases o with
    | nop =>
      rw [Harmless, ← ih hopts]
      exact Eq.congr_left (lastNumber_quiets (by simp [quiet] : ∀ b ∈ [(1 : UInt8)], quiet b))
    | mss value => rw [Harmless, lastNumber_value ho, lastMss_or_mss, ih hopts]
    | other kind data =>
      rw [lastNumber_other ho, Harmless, show lastMss (.other kind data :: opts) =
        lastMss opts from rfl]
      cases hmarker : fromMarker data with
      | nil => exact (by simpa using ih hopts)
      | cons b back =>
        by_cases h0 : b = 0
        · subst h0
          rw [List.cons_append, List.length_cons, Nat.add_right_comm, lastNumber_eol,
            Option.some_inj, eq_comm]
          rfl
        · simp only [if_neg h0, List.cons_append, List.append_assoc, List.length_append,
            List.length_cons]
          rw [Nat.add_right_comm]

end Area

/-- The area is read rightly if and only if the bytes 0 and 2 inside options of other kinds do not
show. -/
theorem options_read_iff {a : OptionArea} {p : TCPParser} {payload : List UInt8}
    (h : a.Placed p payload) :
    p.options = .ok (lastMss a.opts) ↔ Harmless a.tail payload a.opts none := by
  have hread : p.options.toOption =
      lastNumber (a.opts.flatMap TcpOption.bytes ++ (a.tail ++ payload))
        ((a.opts.flatMap TcpOption.bytes).length + a.tail.length) none := by
    rw [TCPParser.options, optionsLoop_toOption (Nat.le_refl _), h.frame, h.doff,
      Nat.add_sub_cancel_left, OptionArea.bytes, List.append_assoc, List.length_append]
  rw [← lastNumber_area a.wellFormed a.tail_eol, Option.or_none, ← hread]
  cases p.options with
  | error e => exact iff_of_false nofun nofun
  | ok mss => rw [Except.ok.injEq, Except.toOption, Option.some_inj]

/-- The options of a SYN that offers an MSS of 1460 bytes and a window scale of 7. -/
theorem options_read_iff_scale :
    ∃ a : OptionArea, ∃ p : TCPParser, a.opts = [.mss 1460, .nop, .other 3 [7]] ∧ a.Placed p [] ∧
      p.options = .ok (some 1460) := by
  let a : OptionArea := ⟨[.mss 1460, .nop, .other 3 [7]], [], by decide, .inl rfl⟩
  let p : TCPParser :=
    ⟨List.replicate 12 0 ++ ([0x70, 2] ++ List.replicate 6 0 ++ a.bytes), by decide,
    by decide⟩
  have hplaced : a.Placed p [] := ⟨by decide, by decide⟩
  exact ⟨a, p, rfl, hplaced, (options_read_iff hplaced).2 trivial⟩

/-- Behind SACK-permitted, whose length is 2, an MSS of 1460 bytes is not seen: what is read as a
number are the length of the MSS option and its higher byte. -/
theorem options_misread :
    ∃ a : OptionArea, ∃ p : TCPParser, a.opts = [.other 4 [], .mss 1460, .nop, .nop] ∧
      a.Placed p [] ∧
      lastMss a.opts = some 1460 ∧ p.options = .ok (some 1029) := by
  let a : OptionArea := ⟨[.other 4 [], .mss 1460, .nop, .nop], [], by decide, .inl rfl⟩
  let p : TCPParser :=
    ⟨List.replicate 12 0 ++ ([0x70, 2] ++ List.replicate 6 0 ++ a.bytes), by decide,
    by decide⟩
  exact ⟨a, p, rfl, ⟨by decide, by decide⟩, rfl, by decide⟩

end Tipy.Tcp
