import Tipy.Ip.Tx

/-!
# The IP options of a socket

`IPOptBuilder` takes the bytes of the socket option `IP_OPTIONS` apart. It gives every option the
whole area instead of its own bytes: an EOL has no length then, a NOP cannot be built, and an LSRR
is as long as the area and writes what the area starts with. A length byte 0 keeps the loop where it
is. What is left that comes out as it should is said by `ipOptBuilder_faithful_iff`.
-/

namespace Tipy.Ip

open Tipy.Wire

/-! ## `IPOptBuilder` -/

/-- How a call on the options ends; `running` when the turns its loop was given are used up. -/
inductive OptEnd (α : Type) where
  | returned (a : α)
  | badOption
  | raised (e : PyError)
  | running
deriving DecidableEq

/-- The loop of `_parse`, with the options it has appended so far. The kinds of `IP_OPTIONS_MAP` are
0, 1 and 131. -/
def optParse (rawOpts : List UInt8) : Nat → Nat → List IPOpt → OptEnd (List IPOpt)
  | 0, _, _ => .running
  | turns + 1, ptr, opts =>
    if ptr < rawOpts.length then
      if byteAt rawOpts ptr = 0
        then optParse rawOpts turns (ptr + 1) (opts ++ [.eol (.raw rawOpts)])
      else if byteAt rawOpts ptr = 1 then
        optParse rawOpts turns (ptr + 1) (opts ++ [.nop (.raw rawOpts)])
      else if byteAt rawOpts ptr = 131 then
        if rawOpts.length ≤ ptr + 1 then .badOption
        else
          let lenFld := byteAt rawOpts (ptr + 1)
          optParse rawOpts turns (ptr + lenFld) (opts ++ [.lsrr rawOpts ptr lenFld])
      else .returned (opts ++ [.unknown (rawOpts.drop ptr) ptr rawOpts.length])
    else .returned opts

/-- `IPOptBuilder(rawOpts).build()`. -/
def ipOptBuilderBuild (rawOpts : List UInt8) (turns : Nat) : OptEnd (Option (List IPOpt)) :=
  if rawOpts = [] then .returned none
  else if 40 < rawOpts.length then .returned none
  else
    match optParse rawOpts turns 0 [] with
    | .returned opts =>
      match ipOptPadding opts with
      | .ok opts => .returned (some opts)
      | .error e => .raised e
    | .badOption => .badOption
    | .raised e => .raised e
    | .running => .running

/-! ## What it is for -/

/-- The kinds that are options to the builder. -/
def KnownKind (kind : Nat) : Prop := kind = 0 ∨ kind = 1 ∨ kind = 131

instance (kind : Nat) : Decidable (KnownKind kind) := inferInstanceAs (Decidable (_ ∨ _ ∨ _))

/-- The length of the option at `ptr`: one byte, or what the length byte of an LSRR says. -/
def optLength (rawOpts : List UInt8) (ptr : Nat) : Nat :=
  if byteAt rawOpts ptr = 131 then byteAt rawOpts (ptr + 1) else 1

/-- The NOP, EOL and LSRR options from `ptr` on, up to the first byte that is of another kind. An
LSRR that is too long for the area has what there is of it. -/
def knownOptions (rawOpts : List UInt8) : Nat → Nat → List (List UInt8)
  | 0, _ => []
  | turns + 1, ptr =>
    if ptr < rawOpts.length ∧ KnownKind (byteAt rawOpts ptr) then
      slice rawOpts ptr (ptr + optLength rawOpts ptr) ::
        knownOptions rawOpts turns (ptr + optLength rawOpts ptr)
    else []

/-- The options of the area, one behind the other. -/
def optionArea (rawOpts : List UInt8) : List UInt8 :=
  (knownOptions rawOpts rawOpts.length 0).flatten

/-- `opts` have room in a header, and behind its first 20 bytes they write the options of the area
and zeros. -/
def Carries (rawOpts : List UInt8) (opts : List IPOpt) : Prop :=
  ∃ total, ipOptLen opts = .ok total ∧ 4 ∣ total ∧ total ≤ 40 ∧
    ∀ (header : List UInt8) (n : Nat), header.length = 20 → total ≤ n →
      ipOptBuild (header ++ zeros n) 20 opts =
        .ok (header ++ optionArea rawOpts ++ zeros (n - (optionArea rawOpts).length))

/-- The call ends, with `IPBadOptionError` or with options that carry the area. -/
def BuildsFaithfully (rawOpts : List UInt8) : Prop :=
  ∃ turns, ipOptBuilderBuild rawOpts turns = .badOption ∨
    ∃ opts, ipOptBuilderBuild rawOpts turns = .returned (some opts) ∧ Carries rawOpts opts

/-- From `ptr` on, the options lead to a 131 that is the last byte. -/
inductive EndsInLsrr (rawOpts : List UInt8) : Nat → Prop where
  | last {ptr : Nat} : ptr + 1 = rawOpts.length → byteAt rawOpts ptr = 131 → EndsInLsrr rawOpts ptr
  | skip {ptr : Nat} : ptr < rawOpts.length → KnownKind (byteAt rawOpts ptr) →
    EndsInLsrr rawOpts (ptr + optLength rawOpts ptr) → EndsInLsrr rawOpts ptr

/-- The area is one LSRR, with nothing behind it or with something that is of no known kind and fits
a header when it is counted as the builder counts it. -/
def LoneLsrr (rawOpts : List UInt8) : Prop :=
  byteAt rawOpts 0 = 131 ∧ byteAt rawOpts 1 ≠ 0 ∧
    (rawOpts.length ≤ byteAt rawOpts 1 ∨
      ¬ KnownKind (byteAt rawOpts (byteAt rawOpts 1)) ∧
        rawOpts.length + (rawOpts.length - 2 * byteAt rawOpts 1) ≤ 40)

instance (rawOpts : List UInt8) : Decidable (LoneLsrr rawOpts) :=
  inferInstanceAs (Decidable (_ ∧ _ ∧ _))

/-! ## The loop -/

section Parse

variable {rawOpts : List UInt8} {ptr turns : Nat} {opts opts' : List IPOpt}

/-- The option that is appended for a known kind. -/
def knownOpt (rawOpts : List UInt8) (ptr : Nat) : IPOpt :=
  if byteAt rawOpts ptr = 0 then .eol (.raw rawOpts)
  else if byteAt rawOpts ptr = 1 then .nop (.raw rawOpts)
  else .lsrr rawOpts ptr (byteAt rawOpts (ptr + 1))

theorem optParse_end (h : rawOpts.length ≤ ptr) :
    optParse rawOpts (turns + 1) ptr opts = .returned opts :=
  if_neg (Nat.not_lt.2 h)

theorem optParse_known (hptr : ptr < rawOpts.length) (hkind : KnownKind (byteAt rawOpts ptr))
    (hroom : byteAt rawOpts ptr = 131 → ptr + 1 < rawOpts.length) :
    optParse rawOpts (turns + 1) ptr opts =
      optParse rawOpts turns (ptr + optLength rawOpts ptr) (opts ++ [knownOpt rawOpts ptr]) := by
  rw [optParse, if_pos hptr]
  rcases hkind with h | h | h
  · simp [h, optLength, knownOpt]
  · simp [h, optLength, knownOpt]
  · simp [h, optLength, knownOpt, Nat.not_le.2 (hroom h)]

theorem optParse_last (hptr : ptr + 1 = rawOpts.length) (hkind : byteAt rawOpts ptr = 131) :
    optParse rawOpts (turns + 1) ptr opts = .badOption := by
  rw [optParse, if_pos (by omega)]
  simp [hkind, hptr]

theorem optParse_unknown (hptr : ptr < rawOpts.length) (hkind : ¬ KnownKind (byteAt rawOpts ptr)) :
    optParse rawOpts (turns + 1) ptr opts =
      .returned (opts ++ [.unknown (rawOpts.drop ptr) ptr rawOpts.length]) := by
  obtain ⟨h0, h1, h131⟩ : byteAt rawOpts ptr ≠ 0 ∧ byteAt rawOpts ptr ≠ 1 ∧
      byteAt rawOpts ptr ≠ 131 :=
    ⟨fun h => hkind (.inl h), fun h => hkind (.inr (.inl h)), fun h => hkind (.inr (.inr h))⟩
  rw [optParse, if_pos hptr, if_neg h0, if_neg h1, if_neg h131]

/-- What a turn of the loop can be. -/
theorem optParse_cases (rawOpts : List UInt8) (ptr : Nat) :
    rawOpts.length ≤ ptr ∨ (ptr + 1 = rawOpts.length ∧ byteAt rawOpts ptr = 131) ∨
      (ptr < rawOpts.length ∧ KnownKind (byteAt rawOpts ptr) ∧
        (byteAt rawOpts ptr = 131 → ptr + 1 < rawOpts.length)) ∨
      (ptr < rawOpts.length ∧ ¬ KnownKind (byteAt rawOpts ptr)) := by
  by_cases hptr : ptr < rawOpts.length
  · by_cases hkind : KnownKind (byteAt rawOpts ptr)
    · by_cases hlast : ptr + 1 = rawOpts.length ∧ byteAt rawOpts ptr = 131
      · exact .inr (.inl hlast)
      · exact .inr (.inr (.inl ⟨hptr, hkind, fun h => by omega⟩))
    · exact .inr (.inr (.inr ⟨hptr, hkind⟩))
  · exact .inl (Nat.not_lt.1 hptr)

/-- The options found before stay in front. -/
theorem optParse_prefix (h : optParse rawOpts turns ptr opts = .returned opts') :
    ∃ more, opts' = opts ++ more := by
  induction turns generalizing ptr opts with
  | zero => cases h
  | succ turns ih =>
    rcases optParse_cases rawOpts ptr with hend | ⟨hlast, hkind⟩ | ⟨hptr, hkind,
      hroom⟩ | ⟨hptr, hkind⟩
    · rw [optParse_end hend] at h
      cases h
      exact ⟨[], (List.append_nil _).symm⟩
    · rw [optParse_last hlast hkind] at h
      cases h
    · rw [optParse_known hptr hkind hroom] at h
      obtain ⟨more, hmore⟩ := ih h
      exact ⟨knownOpt rawOpts ptr :: more, by rw [hmore, List.append_assoc]; rfl⟩
    · rw [optParse_unknown hptr hkind] at h
      cases h
      exact ⟨_, rfl⟩

/-- **`IPBadOptionError`** is raised for a 131 as the last byte, and for nothing else. -/
theorem optParse_badOption_iff :
    (∃ turns, optParse rawOpts turns ptr opts = .badOption) ↔ EndsInLsrr rawOpts ptr := by
  constructor
  · rintro ⟨turns, h⟩
    induction turns generalizing ptr opts with
    | zero => cases h
    | succ turns ih =>
      rcases optParse_cases rawOpts ptr with hend | ⟨hlast, hkind⟩ | ⟨hptr, hkind,
        hroom⟩ | ⟨hptr, hkind⟩
      · rw [optParse_end hend] at h
        cases h
      · exact .last hlast hkind
      · rw [optParse_known hptr hkind hroom] at h
        exact .skip hptr hkind (ih h)
      · rw [optParse_unknown hptr hkind] at h
        cases h
  · intro h
    induction h generalizing opts with
    | last hlast hkind => exact ⟨1, optParse_last hlast hkind⟩
    | @skip ptr hptr hkind _ ih =>
      rcases optParse_cases rawOpts ptr with hend | ⟨hlast, hkind⟩ | ⟨-, -, hroom⟩ | ⟨-, hother⟩
      · omega
      · exact ⟨1, optParse_last hlast hkind⟩
      · obtain ⟨turns, hturns⟩ := @ih (opts ++ [knownOpt rawOpts ptr])
        exact ⟨turns + 1, by rw [optParse_known hptr hkind hroom, hturns]⟩
      · exact absurd hkind hother

/-- An LSRR of length 0 is never left. -/
theorem optParse_stuck (hptr : ptr + 1 < rawOpts.length) (hkind : byteAt rawOpts ptr = 131)
    (hlen : byteAt rawOpts (ptr + 1) = 0) : optParse rawOpts turns ptr opts = .running := by
  induction turns generalizing opts with
  | zero => rfl
  | succ turns ih =>
    have hstay :
      ptr + optLength rawOpts ptr = ptr := by rw [optLength, if_pos hkind, hlen, Nat.add_zero]
    rw [optParse_known (by omega) (.inr (.inr hkind)) (fun _ => hptr), hstay]
    exact ih

/-- A turn of a loop that returns neither an EOL nor a NOP: the option is an LSRR, of a length that
is not 0. -/
theorem optParse_lsrr (h : optParse rawOpts turns ptr opts = .returned opts')
    (heol : .eol (.raw rawOpts) ∉ opts') (hnop : .nop (.raw rawOpts) ∉ opts')
    (hptr : ptr < rawOpts.length) (hkind : KnownKind (byteAt rawOpts ptr))
    (hroom : byteAt rawOpts ptr = 131 → ptr + 1 < rawOpts.length) :
    byteAt rawOpts ptr = 131 ∧ byteAt rawOpts (ptr + 1) ≠ 0 ∧ ∃ turns' more,
      optParse rawOpts turns' (ptr + byteAt rawOpts (ptr + 1))
        (opts ++ [.lsrr rawOpts ptr (byteAt rawOpts (ptr + 1))]) = .returned opts' ∧
      opts' = opts ++ .lsrr rawOpts ptr (byteAt rawOpts (ptr + 1)) :: more := by
  cases turns with
  | zero => cases h
  | succ turns =>
    have hturn := h
    rw [optParse_known hptr hkind hroom] at hturn
    obtain ⟨more, hmore⟩ := optParse_prefix hturn
    have hmem : knownOpt rawOpts ptr ∈ opts' := by simp [hmore]
    have hkind : byteAt rawOpts ptr = 131 := by
      rcases hkind with h0 | h1 | h131
      · exact absurd (by rwa [knownOpt, if_pos h0] at hmem) heol
      · exact absurd (by rwa [knownOpt, if_neg (by omega), if_pos h1] at hmem) hnop
      · exact h131
    have hopt : knownOpt rawOpts ptr = .lsrr rawOpts ptr (byteAt rawOpts (ptr + 1)) := by
      rw [knownOpt, if_neg (by omega), if_neg (by omega)]
    rw [optLength, if_pos hkind, hopt] at hturn
    rw [hopt, List.append_assoc] at hmore
    refine ⟨hkind, fun hlen => ?_, turns, more, hturn, hmore⟩
    rw [optParse_stuck (hroom hkind) hkind hlen] at h
    cases h

end Parse

/-! ## Lengths and bytes of options -/

section Options

variable {o : IPOpt} {xs ys opts : List IPOpt} {frame frame' : List UInt8} {offset a b total : Nat}

theorem ipOptLen_cons (ho : o.len = .ok a) (hopts : ipOptLen opts = .ok b) :
    ipOptLen (o :: opts) = .ok (a + b) := by
  rw [ipOptLen, ho, hopts]
  rfl

theorem ipOptLen_cons_ok (h : ipOptLen (o :: opts) = .ok total) :
    ∃ a b, o.len = .ok a ∧ ipOptLen opts = .ok b ∧ total = a + b := by
  rw [ipOptLen] at h
  cases ho : o.len with
  | error e =>
    rw [ho] at h
    cases h
  | ok a =>
    cases hopts : ipOptLen opts with
    | error e =>
      rw [ho, hopts] at h
      cases h
    | ok b =>
      rw [ho, hopts] at h
      cases h
      exact ⟨a, b, rfl, rfl, rfl⟩

theorem ipOptLen_append (hx : ipOptLen xs = .ok a) (hy : ipOptLen ys = .ok b) :
    ipOptLen (xs ++ ys) = .ok (a + b) := by
  induction xs generalizing a with
  | nil =>
    cases hx
    rw [List.nil_append, hy, Nat.zero_add]
  | cons o xs ih =>
    obtain ⟨c, d, ho, hxs, rfl⟩ := ipOptLen_cons_ok hx
    rw [List.cons_append, ipOptLen_cons ho (ih hxs), Nat.add_assoc]

theorem ipOptPadding_ok (h : ipOptPadding xs = .ok opts) :
    ∃ total, ipOptLen xs = .ok total ∧
      opts = if total % 4 ≠ 0 then xs ++ [.eol (.int (4 - total % 4))] else xs := by
  unfold ipOptPadding at h
  cases hlen : ipOptLen xs with
  | error e =>
    rw [hlen] at h
    cases h
  | ok total =>
    rw [hlen] at h
    cases h
    exact ⟨total, rfl, rfl⟩

theorem ipOptPadding_eq (h : ipOptLen xs = .ok total) : ipOptPadding xs =
    .ok (if total % 4 ≠ 0 then xs ++ [.eol (.int (4 - total % 4))] else xs) := by
  rw [ipOptPadding, h]
  rfl

theorem ipOptBuild_cons (hbuild : o.build frame offset = .ok frame') (hlen : o.len = .ok a) :
    ipOptBuild frame offset (o :: opts) = ipOptBuild frame' (offset + a) opts := by
  rw [ipOptBuild, hbuild, hlen]
  rfl

theorem ipOptBuild_cons_ok (h : ipOptBuild frame offset (o :: opts) = .ok frame') :
    ∃ frame₁ a, o.build frame offset = .ok frame₁ ∧ o.len = .ok a ∧
      ipOptBuild frame₁ (offset + a) opts = .ok frame' := by
  rw [ipOptBuild] at h
  cases hbuild : o.build frame offset with
  | error e =>
    rw [hbuild] at h
    cases h
  | ok frame₁ =>
    cases hlen : o.len with
    | error e =>
      rw [hbuild, hlen] at h
      cases h
    | ok a =>
      rw [hbuild, hlen] at h
      exact ⟨frame₁, a, rfl, rfl, h⟩

theorem ipOptBuild_append (hbuild : ipOptBuild frame offset xs = .ok frame')
    (hlen : ipOptLen xs = .ok total) :
    ipOptBuild frame offset (xs ++ ys) = ipOptBuild frame' (offset + total) ys := by
  induction xs generalizing frame offset total with
  | nil =>
    cases hbuild
    cases hlen
    rfl
  | cons o xs ih =>
    obtain ⟨frame₁, a, ho, hoLen, hxs⟩ := ipOptBuild_cons_ok hbuild
    obtain ⟨a', c, hoLen', hxsLen, rfl⟩ := ipOptLen_cons_ok hlen
    obtain rfl : a = a' := Except.ok.inj (hoLen.symm.trans hoLen')
    rw [List.cons_append, ipOptBuild_cons ho hoLen, ih hxs hxsLen, Nat.add_assoc]

/-- A list with a length has no EOL that was given the area. -/
theorem eol_not_mem {rawOpts : List UInt8} (h : ipOptLen opts = .ok total) :
    .eol (.raw rawOpts) ∉ opts := by
  induction opts generalizing total with
  | nil => exact List.not_mem_nil
  | cons o opts ih =>
    obtain ⟨a, b, ho, hopts, -⟩ := ipOptLen_cons_ok h
    rintro (_ | ⟨_, hmem⟩)
    · cases ho
    · exact ih hopts hmem

/-- A list that is built has no NOP that was given the area. -/
theorem nop_not_mem {rawOpts : List UInt8} (h : ipOptBuild frame offset opts = .ok frame') :
    .nop (.raw rawOpts) ∉ opts := by
  induction opts generalizing frame offset with
  | nil => exact List.not_mem_nil
  | cons o opts ih =>
    obtain ⟨frame₁, a, ho, -, hopts⟩ := ipOptBuild_cons_ok h
    rintro (_ | ⟨_, hmem⟩)
    · cases ho
    · exact ih hopts hmem

/-- An option writes some bytes at its place, or nothing. -/
theorem IPOpt.build_ok (h : o.build frame offset = .ok frame') :
    frame' = frame ∨ ∃ data, packInto frame offset data = some frame' := by
  have hpack {data : List UInt8}
    (h : IPOpt.build.ofPack (packInto frame offset data) = .ok frame') :
      ∃ data, packInto frame offset data = some frame' := by
    cases hdata : packInto frame offset data with
    | none =>
      rw [hdata] at h
      cases h
    | some frame₁ =>
      rw [hdata] at h
      cases h
      exact ⟨data, hdata⟩
  cases o with
  | eol count =>
    cases count with
    | int n => exact .inr (hpack h)
    | raw rawOpts => cases h
  | nop opt =>
    cases opt with
    | int n =>
      right
      rw [IPOpt.build, structPackInto] at h
      cases hfields : structPack [(.B, n)] with
      | none =>
        rw [hfields] at h
        cases h
      | some data =>
        rw [hfields] at h
        exact hpack h
    | raw rawOpts => cases h
  | lsrr rawOpts start stop => exact .inr (hpack h)
  | unknown rawOpts start stop =>
    cases h
    exact .inl rfl

/-- The options leave what is in front of them. -/
theorem getElem?_of_ipOptBuild {i : Nat} (h : ipOptBuild frame offset opts = .ok frame')
    (hi : i < offset) : frame'[i]? = frame[i]? := by
  induction opts generalizing frame offset with
  | nil =>
    cases h
    rfl
  | cons o opts ih =>
    obtain ⟨frame₁, a, ho, -, hopts⟩ := ipOptBuild_cons_ok h
    rw [ih hopts (by omega)]
    rcases IPOpt.build_ok ho with rfl | ⟨data, hdata⟩
    · rfl
    · rw [getElem?_of_packInto hdata, if_neg (by omega)]

/-- Padding goes where zeros are. -/
theorem build_padding (xs : List UInt8) {n k : Nat} (hfrom : xs.length ≤ offset)
    (hto : offset + k ≤ xs.length + n) :
    (IPOpt.eol (.int k)).build (xs ++ zeros n) offset = .ok (xs ++ zeros n) := by
  obtain ⟨gap, rfl⟩ := Nat.exists_eq_add_of_le hfrom
  have hsplit : zeros n = zeros gap ++ zeros (n - gap) := by
    rw [zeros, zeros, zeros, List.replicate_append_replicate]
    congr 1
    omega
  have hjoin : zeros k ++ zeros (n - gap - k) = zeros (n - gap) := by
    rw [zeros, zeros, zeros, List.replicate_append_replicate]
    congr 1
    omega
  have hfit : (zeros k).length ≤ (zeros (n - gap)).length := by
    rw [length_zeros, length_zeros]
    omega
  have hwrite := packInto_append (xs ++ zeros gap) (zeros (n - gap)) hfit
  rw [List.length_append, length_zeros, length_zeros, drop_zeros,
    List.append_assoc (xs ++ zeros gap), hjoin] at hwrite
  rw [hsplit, ← List.append_assoc, IPOpt.build, show List.replicate k (0 : UInt8) =
    zeros k from rfl, hwrite]
  rfl

/-- The first LSRR writes its own bytes, which are at the start of the area. -/
theorem build_first_lsrr (rawOpts xs : List UInt8) (len : Nat) {n : Nat} (hn : rawOpts.length ≤ n) :
    (IPOpt.lsrr rawOpts 0 len).build (xs ++ zeros n) xs.length =
      .ok (xs ++ rawOpts.take len ++ zeros (n - (rawOpts.take len).length)) := by
  have hdata : rawOpts.take (slice rawOpts 0 (0 + len)).length = rawOpts.take len := by
    rw [slice, List.drop_zero, Nat.zero_add, List.take_eq_take_iff, List.length_take]
    omega
  have hfill : (slice rawOpts 0 (0 + len)).length - rawOpts.length = 0 := by
    rw [slice, List.drop_zero, List.length_take]
    omega
  have hfit : (rawOpts.take len).length ≤ (zeros n).length := by
    rw [List.length_take, length_zeros]
    omega
  have hwrite := packInto_append xs (zeros n) hfit
  rw [drop_zeros] at hwrite
  simp only [IPOpt.build, hdata, hfill, List.replicate_zero, List.append_nil, hwrite,
    IPOpt.build.ofPack]

end Options

/-! ## The areas that are built faithfully -/

section Faithful

variable {rawOpts : List UInt8} {turns total : Nat} {opts : List IPOpt}

theorem ipOptBuilderBuild_eq (h : 1 ≤ rawOpts.length ∧ rawOpts.length ≤ 40) (turns : Nat) :
    ipOptBuilderBuild rawOpts turns =
      match optParse rawOpts turns 0 [] with
      | .returned opts =>
        match ipOptPadding opts with
        | .ok opts => .returned (some opts)
        | .error e => .raised e
      | .badOption => .badOption
      | .raised e => .raised e
      | .running => .running := by
  have hne : rawOpts ≠ [] := by
    rintro rfl
    exact absurd h.1 (by decide)
  rw [ipOptBuilderBuild, if_neg hne, if_neg (by omega)]

/-- Options that fit and write the area do so with their padding too. -/
theorem buildsFaithfully_of_parse (h : 1 ≤ rawOpts.length ∧ rawOpts.length ≤ 40)
    (hparse : optParse rawOpts turns 0 [] = .returned opts) (hlen : ipOptLen opts = .ok total)
    (harea : (optionArea rawOpts).length ≤ total) (hmax : total ≤ 40)
    (hbuild : ∀ (header : List UInt8) (n : Nat), header.length = 20 → total ≤ n →
      ipOptBuild (header ++ zeros n) 20 opts =
        .ok (header ++ optionArea rawOpts ++ zeros (n - (optionArea rawOpts).length))) :
    BuildsFaithfully rawOpts := by
  refine ⟨turns,
    .inr ⟨_, by simp only [ipOptBuilderBuild_eq h, hparse, ipOptPadding_eq hlen]; rfl, ?_⟩⟩
  by_cases hr : total % 4 = 0
  · rw [if_neg (not_not.2 hr)]
    exact ⟨total, hlen, Nat.dvd_of_mod_eq_zero hr, hmax, hbuild⟩
  · rw [if_pos hr]
    refine ⟨total + (4 - total % 4), ipOptLen_append hlen rfl, by omega, by omega, ?_⟩
    intro header n hheader hn
    rw [ipOptBuild_append (hbuild header n hheader (by omega)) hlen,
      ipOptBuild_cons (build_padding _ (by simp; omega) (by simp; omega)) rfl]
    rfl

theorem optionArea_of_unknown (hkind : ¬ KnownKind (byteAt rawOpts 0)) :
    optionArea rawOpts = [] := by
  rw [optionArea]
  cases rawOpts.length with
  | zero => rfl
  | succ k => rw [knownOptions, if_neg fun h => hkind h.2, List.flatten_nil]

/-- An area that starts with an LSRR. -/
theorem optionArea_of_lsrr (hlen : 1 ≤ rawOpts.length) (hkind : byteAt rawOpts 0 = 131) :
    optionArea rawOpts = rawOpts.take (byteAt rawOpts 1) ++
      (knownOptions rawOpts (rawOpts.length - 1) (byteAt rawOpts 1)).flatten := by
  obtain ⟨k, hk⟩ := Nat.exists_eq_add_of_le' hlen
  have hopt : optLength rawOpts 0 = byteAt rawOpts 1 := if_pos hkind
  rw [optionArea, hk, Nat.add_sub_cancel, knownOptions, if_pos ⟨by omega, .inr (.inr hkind)⟩, hopt,
    Nat.zero_add, List.flatten_cons, slice, List.drop_zero]

theorem buildsFaithfully_of_unknown (h : 1 ≤ rawOpts.length ∧ rawOpts.length ≤ 40)
    (hkind : ¬ KnownKind (byteAt rawOpts 0)) : BuildsFaithfully rawOpts := by
  have harea := optionArea_of_unknown hkind
  have hparse : optParse rawOpts 1 0 [] = .returned [.unknown rawOpts 0 rawOpts.length] :=
    optParse_unknown (by omega) hkind
  have hlen : ipOptLen [.unknown rawOpts 0 rawOpts.length] = .ok rawOpts.length := rfl
  refine buildsFaithfully_of_parse h hparse hlen (by simp [harea]) h.2 ?_
  intro header n hheader hn
  rw [harea, List.append_nil]
  rfl

theorem buildsFaithfully_of_lone (h : 1 ≤ rawOpts.length ∧ rawOpts.length ≤ 40)
    (hlone : LoneLsrr rawOpts) : BuildsFaithfully rawOpts := by
  obtain ⟨hkind, hlen, hrest⟩ := hlone
  have hbehind : (knownOptions rawOpts (rawOpts.length - 1) (byteAt rawOpts 1)) = [] := by
    cases rawOpts.length - 1 with
    | zero => rfl
    | succ k =>
      rw [knownOptions, if_neg]
      rintro ⟨hptr, hknown⟩
      rcases hrest with hrest | ⟨hunknown, -⟩
      · omega
      · exact hunknown hknown
  have harea : optionArea rawOpts = rawOpts.take (byteAt rawOpts 1) := by
    rw [optionArea_of_lsrr h.1 hkind, hbehind, List.flatten_nil, List.append_nil]
  have hbuild (header : List UInt8) (n : Nat) (hheader : header.length = 20)
    (hn : rawOpts.length ≤ n) :
      (IPOpt.lsrr rawOpts 0 (byteAt rawOpts 1)).build (header ++ zeros n) 20 =
        .ok (header ++ optionArea rawOpts ++ zeros (n - (optionArea rawOpts).length)) := by
    rw [harea, ← hheader]
    exact build_first_lsrr rawOpts header _ hn
  have htwo : 1 < rawOpts.length := by
    by_contra hone
    have hout : byteAt rawOpts 1 = 0 := by
      rw [byteAt, List.getD_eq_default _ _ (by omega)]
      rfl
    exact hlen hout
  have hfirst : optParse rawOpts 2 0 [] =
      optParse rawOpts 1 (byteAt rawOpts 1) [.lsrr rawOpts 0 (byteAt rawOpts 1)] := by
    rw [optParse_known (by omega) (.inr (.inr hkind)) (fun _ => htwo), optLength,
      if_pos hkind, knownOpt, if_neg (by omega), if_neg (by omega), Nat.zero_add]
    rfl
  by_cases hend : rawOpts.length ≤ byteAt rawOpts 1
  · have htotal : ipOptLen [.lsrr rawOpts 0 (byteAt rawOpts 1)] = .ok rawOpts.length := rfl
    refine buildsFaithfully_of_parse h (hfirst.trans (optParse_end hend)) htotal
      (by rw [harea, List.length_take]; omega) h.2 ?_
    intro header n hheader hn
    rw [ipOptBuild_cons (hbuild header n hheader hn) rfl]
    rfl
  · obtain ⟨hunknown, hfits⟩ := hrest.resolve_left hend
    have hsecond : optParse rawOpts 2 0 [] = .returned [.lsrr rawOpts 0 (byteAt rawOpts 1),
        .unknown (rawOpts.drop (byteAt rawOpts 1)) (byteAt rawOpts 1) rawOpts.length] :=
      hfirst.trans (optParse_unknown (by omega) hunknown)
    have hrestLen : ((rawOpts.drop (byteAt rawOpts 1)).drop (byteAt rawOpts 1)).length =
        rawOpts.length - 2 * byteAt rawOpts 1 := by
      rw [List.drop_drop, List.length_drop]
      omega
    have htotal := ipOptLen_cons (o := .lsrr rawOpts 0 (byteAt rawOpts 1)) rfl
      (ipOptLen_cons (o := .unknown (rawOpts.drop (byteAt rawOpts 1)) (byteAt rawOpts 1)
        rawOpts.length) rfl (show ipOptLen [] = .ok 0 from rfl))
    rw [hrestLen, Nat.add_zero] at htotal
    refine buildsFaithfully_of_parse h hsecond htotal
      (by rw [harea, List.length_take]; omega) hfits ?_
    intro header n hheader hn
    rw [ipOptBuild_cons (hbuild header n hheader (by omega)) rfl]
    rfl

/-- What the loop has found when the area is built faithfully: no EOL, no NOP, and options that
carry the area when they are filled up. -/
theorem BuildsFaithfully.parsed (h : 1 ≤ rawOpts.length ∧ rawOpts.length ≤ 40)
    (hbuilds : BuildsFaithfully rawOpts) : EndsInLsrr rawOpts 0 ∨ ∃ turns opts tail,
      optParse rawOpts turns 0 [] = .returned opts ∧ .eol (.raw rawOpts) ∉ opts ∧
      .nop (.raw rawOpts) ∉ opts ∧ Carries rawOpts (opts ++ tail) := by
  obtain ⟨turns, hbad | ⟨opts, hreturned, hcarries⟩⟩ := hbuilds
  · left
    rw [ipOptBuilderBuild_eq h] at hbad
    suffices hparse :
      optParse rawOpts turns 0 [] = .badOption from optParse_badOption_iff.1 ⟨turns, hparse⟩
    cases hparse : optParse rawOpts turns 0 [] with
    | returned opts =>
      rw [hparse] at hbad
      cases hpad : ipOptPadding opts <;> simp [hpad] at hbad
    | badOption => rfl
    | raised e => simp [hparse] at hbad
    | running => simp [hparse] at hbad
  · right
    rw [ipOptBuilderBuild_eq h] at hreturned
    cases hparse : optParse rawOpts turns 0 [] with
    | returned found =>
      cases hpad : ipOptPadding found with
      | ok padded =>
        simp only [hparse, hpad, OptEnd.returned.injEq, Option.some.injEq] at hreturned
        subst hreturned
        obtain ⟨total, hlen, hpadded⟩ := ipOptPadding_ok hpad
        obtain ⟨tail, rfl⟩ : ∃ tail, padded = found ++ tail := by
          rw [hpadded]
          split
          · exact ⟨_, rfl⟩
          · exact ⟨[], (List.append_nil _).symm⟩
        have ⟨room, _, _, _, hbuild⟩ := hcarries
        have hnop : IPOpt.nop (.raw rawOpts) ∉ _ :=
          nop_not_mem (hbuild (zeros 20) room (length_zeros 20) le_rfl)
        exact ⟨turns, found, tail, hparse, eol_not_mem hlen,
          fun hmem => hnop (List.mem_append_left _ hmem), hcarries⟩
      | error e => simp [hparse, hpad] at hreturned
    | badOption => simp [hparse] at hreturned
    | raised e => simp [hparse] at hreturned
    | running => simp [hparse] at hreturned

/-- A second LSRR does not stand behind the first, as in the area. -/
theorem not_carries_two {more : List IPOpt} (hkind : byteAt rawOpts 0 = 131)
    (hkind' : byteAt rawOpts (byteAt rawOpts 1) = 131)
    (hroom : byteAt rawOpts 1 + 1 < rawOpts.length)
    (hlen : byteAt rawOpts (byteAt rawOpts 1 + 1) ≠ 0) :
    ¬ Carries rawOpts (.lsrr rawOpts 0 (byteAt rawOpts 1) :: more) := by
  rintro ⟨total, htotal, -, -, hbuild⟩
  obtain ⟨a, b, ha, -, rfl⟩ := ipOptLen_cons_ok htotal
  obtain rfl : rawOpts.length = a := Except.ok.inj ha
  have hbuilt := hbuild (zeros 20) (rawOpts.length + b) (length_zeros 20) le_rfl
  have hfirst := build_first_lsrr rawOpts (zeros 20) (byteAt rawOpts 1)
    (Nat.le_add_right rawOpts.length b)
  rw [length_zeros] at hfirst
  rw [ipOptBuild_cons hfirst rfl] at hbuilt
  have hsame := getElem?_of_ipOptBuild (i := 20 + byteAt rawOpts 1) hbuilt (by omega)
  have harea := optionArea_of_lsrr (by omega) hkind
  generalize byteAt rawOpts 1 = len at *
  have htake : (rawOpts.take len).length = len := by
    rw [List.length_take]
    omega
  have hnext : (optionArea rawOpts)[len]? = rawOpts[len]? := by
    obtain ⟨k, hk⟩ : ∃ k, rawOpts.length - 1 = k + 1 := ⟨rawOpts.length - 2, by omega⟩
    have hopt : optLength rawOpts len = byteAt rawOpts (len + 1) := if_pos hkind'
    have hslice : (slice rawOpts len (len + byteAt rawOpts (len + 1)))[0]? = rawOpts[len]? := by
      rw [slice, List.getElem?_drop, List.getElem?_take_of_lt (by omega), Nat.add_zero]
    have hpos : 0 < (slice rawOpts len (len + byteAt rawOpts (len + 1))).length := by
      rw [slice, List.length_drop, List.length_take]
      omega
    rw [harea, List.getElem?_append_right (by omega), htake, Nat.sub_self, hk, knownOptions,
      if_pos ⟨by omega,
        .inr (.inr hkind')⟩, hopt, List.flatten_cons, List.getElem?_append_left hpos,
      hslice]
  have hzero : rawOpts[len]? = some 0 := by
    have hareaLen : len < (optionArea rawOpts).length := by
      have := List.getElem?_eq_none_iff.not.1 (hnext ▸ List.getElem?_eq_none_iff.not.2
        (by omega : ¬ rawOpts.length ≤ len))
      omega
    have hbehind (xs : List UInt8) : (zeros 20 ++ xs)[20 + len]? = xs[len]? := by
      rw [List.getElem?_append_right (by simp), length_zeros, Nat.add_sub_cancel_left]
    rw [List.append_assoc, List.append_assoc, hbehind, hbehind,
      List.getElem?_append_left hareaLen, hnext,
      List.getElem?_append_right (by omega), htake, Nat.sub_self] at hsame
    rw [hsame, zeros, List.getElem?_replicate_of_lt (by omega)]
  rw [byteAt, List.getD_eq_getElem?_getD, hzero] at hkind'
  exact absurd hkind' (by decide)

theorem loneLsrr_of_parse (hparse : optParse rawOpts turns 0 [] = .returned opts)
    (heol : .eol (.raw rawOpts) ∉ opts) (hnop : .nop (.raw rawOpts) ∉ opts) {tail : List IPOpt}
    (hcarries : Carries rawOpts (opts ++ tail)) (hptr : 0 < rawOpts.length)
    (hkind : KnownKind (byteAt rawOpts 0)) (hroom : byteAt rawOpts 0 = 131 →
    0 + 1 < rawOpts.length) :
    LoneLsrr rawOpts := by
  obtain ⟨hfirst, hlen, turns₁, more, hrest, hopts⟩ :=
    optParse_lsrr hparse heol hnop hptr hkind hroom
  rw [Nat.zero_add] at hlen hrest hopts
  refine ⟨hfirst, hlen, ?_⟩
  rcases optParse_cases rawOpts (byteAt rawOpts 1) with
    hend | ⟨hlast, hkind⟩ | ⟨hptr, hkind, hroom⟩ | ⟨hptr, hkind⟩
  · exact .inl hend
  · cases turns₁ with
    | zero => cases hrest
    | succ turns₁ =>
      rw [optParse_last hlast hkind] at hrest
      cases hrest
  · -- a second LSRR, which is written elsewhere
    obtain ⟨hsecond, hlen', -⟩ := optParse_lsrr hrest heol hnop hptr hkind hroom
    rw [hopts, List.nil_append, List.cons_append] at hcarries
    exact absurd hcarries (not_carries_two hfirst hsecond (hroom hsecond) hlen')
  · right
    refine ⟨hkind, ?_⟩
    cases turns₁ with
    | zero => cases hrest
    | succ turns₁ =>
      rw [optParse_unknown hptr hkind] at hrest
      cases hrest
      obtain ⟨total, htotal, -, hmax, -⟩ := hcarries
      obtain ⟨a, b, ha, hb, rfl⟩ := ipOptLen_cons_ok htotal
      obtain ⟨c, d, hc, -, rfl⟩ := ipOptLen_cons_ok hb
      cases ha
      cases hc
      rw [List.drop_drop, List.length_drop] at hmax
      omega

/-- **The areas that are built faithfully.** -/
theorem ipOptBuilder_faithful_iff (h : 1 ≤ rawOpts.length ∧ rawOpts.length ≤ 40) :
    BuildsFaithfully rawOpts ↔
      EndsInLsrr rawOpts 0 ∨ ¬ KnownKind (byteAt rawOpts 0) ∨ LoneLsrr rawOpts := by
  constructor
  · intro hbuilds
    obtain hbad | ⟨turns, opts, tail, hparse, heol, hnop, hcarries⟩ := hbuilds.parsed h
    · exact .inl hbad
    rcases optParse_cases rawOpts 0 with hend | ⟨hlast, hkind⟩ | ⟨hptr, hkind, hroom⟩ | ⟨-, hkind⟩
    · omega
    · exact .inl (.last hlast hkind)
    · exact .inr (.inr (loneLsrr_of_parse hparse heol hnop hcarries hptr hkind hroom))
    · exact .inr (.inl hkind)
  · rintro (hbad | hunknown | hlone)
    · obtain ⟨turns, hparse⟩ := optParse_badOption_iff.2 hbad
      exact ⟨turns, .inl (by rw [ipOptBuilderBuild_eq h, hparse])⟩
    · exact buildsFaithfully_of_unknown h hunknown
    · exact buildsFaithfully_of_lone h hlone

/-- A record of one router, which is filled up with one byte. -/
theorem ipOptBuilder_faithful_iff_lsrr : BuildsFaithfully [131, 7, 4, 10, 0, 0, 1] :=
  (ipOptBuilder_faithful_iff (by decide)).2 (.inr (.inr (by decide)))

/-- One NOP: the object that is returned cannot be built. -/
theorem ipOptBuilder_nop :
    ipOptBuilderBuild [1] 2 = .returned (some [.nop (.raw [1]), .eol (.int 3)]) ∧
      ipOptBuild (zeros 24) 20 [.nop (.raw [1]), .eol (.int 3)] = .error .structError ∧
      ¬ BuildsFaithfully [1] := by
  refine ⟨by decide, rfl, fun hbuilds => ?_⟩
  obtain hbad | ⟨turns, opts, tail, hparse, heol, hnop, -⟩ := hbuilds.parsed (by decide)
  · cases hbad with
    | last _ hkind => exact absurd hkind (by decide)
    | skip _ _ hrest =>
      -- the byte behind the NOP is past the end of the area
      have hbyte : optLength [1] 0 = 1 := by decide
      rw [hbyte] at hrest
      cases hrest with
      | last hlast => exact absurd hlast (by decide)
      | skip hlt => exact absurd hlt (by decide)
  · have hkind := (optParse_lsrr hparse heol hnop (by decide) (by decide) (by decide)).1
    exact absurd hkind (by decide)

end Faithful

end Tipy.Ip
