import Tipy.Ip.ReassSession

/-!
# When the reassembly raises

What `_ip_reass` does with any packet on any entry, not only with the fragments of one datagram. An
entry takes a packet (`Takes`) when nothing is written outside a buffer, no length is out of range
and the temporary buffer is there when it is wanted; every other packet makes the call raise. The
packet taken may bring the count of blocks to that of the datagram, and then the bytes that are
returned are those of `assembled`.
-/

namespace Tipy.Ip

/-- `buf` with `data` written over its bytes from `off` on. -/
def overwrite (buf : List UInt8) (off : Nat) (data : List UInt8) : List UInt8 :=
  buf.take off ++ data ++ buf.drop (off + data.length)

theorem packInto_eq_overwrite {buf data : List UInt8} {off : Nat}
    (h : off + data.length ≤ buf.length) :
    packInto buf off data = some (overwrite buf off data) :=
  packInto_eq_some h

theorem packInto_eq_none {buf data : List UInt8} {off : Nat}
    (h : ¬ off + data.length ≤ buf.length) :
    packInto buf off data = none :=
  if_neg h

theorem length_overwrite {buf data : List UInt8} {off : Nat} (h : off + data.length ≤ buf.length) :
    (overwrite buf off data).length = buf.length :=
  length_of_packInto (packInto_eq_overwrite h)

/-- The fragments that wait, written over a buffer in their order. -/
def overwriteAll (buf : List UInt8) (frags : List (Nat × List UInt8)) : List UInt8 :=
  frags.foldl (fun buf e => overwrite buf (e.1 * 8) e.2) buf

theorem packAll_eq_overwriteAll {frags : List (Nat × List UInt8)} {buf : List UInt8}
    (h : ∀ e ∈ frags, e.1 * 8 + e.2.length ≤ buf.length) :
    packAll buf frags = .ok (overwriteAll buf frags) := by
  induction frags generalizing buf with
  | nil => rfl
  | cons e frags ih =>
    obtain ⟨off, data⟩ := e
    have hfit := h (off, data) List.mem_cons_self
    simp only [packAll, packInto_eq_overwrite hfit]
    refine ih fun e he => ?_
    rw [length_overwrite hfit]
    exact h e (List.mem_cons_of_mem _ he)

theorem packAll_eq_error {frags : List (Nat × List UInt8)} (buf : List UInt8)
    (h : ¬ ∀ e ∈ frags, e.1 * 8 + e.2.length ≤ buf.length) :
    ∃ buf', packAll buf frags = .error buf' := by
  cases hall : packAll buf frags with
  | error buf' => exact ⟨buf', rfl⟩
  | ok buf' =>
    refine absurd ?_ h
    -- every fragment that was copied fits the buffer, whose length the copies leave alone
    clear h
    induction frags generalizing buf with
    | nil => simp
    | cons e frags ih =>
      obtain ⟨off, data⟩ := e
      simp only [packAll] at hall
      split at hall
      · cases hall
      · next buf₁ hone =>
        have hfit : off * 8 + data.length ≤ buf.length := by
          by_contra hout
          rw [packInto_eq_none hout] at hone
          cases hone
        intro e he
        rcases List.mem_cons.1 he with rfl | he
        · exact hfit
        · rw [← length_of_packInto hone]
          exact ih buf₁ hall e he

/-- One of the fragments that wait reaches behind the end of `buf`; written over it in their order,
those before the first such make it into `buf'`. -/
def FilledUntil (buf : List UInt8) (frags : List (Nat × List UInt8)) (buf' : List UInt8) : Prop :=
  ∃ front e back, frags = front ++ e :: back ∧ (∀ e' ∈ front, e'.1 * 8 + e'.2.length ≤ buf.length) ∧
    ¬ e.1 * 8 + e.2.length ≤ buf.length ∧ overwriteAll buf front = buf'

/-- The copying stops at the first fragment that reaches behind the end. -/
theorem packAll_eq_error_iff {frags : List (Nat × List UInt8)} {buf buf' : List UInt8} :
    packAll buf frags = .error buf' ↔ FilledUntil buf frags buf' := by
  unfold FilledUntil
  induction frags generalizing buf with
  | nil =>
    refine iff_of_false (by rintro ⟨⟩) ?_
    rintro ⟨front, e, back, hfrags, -⟩
    simp at hfrags
  | cons e₀ frags ih =>
    obtain ⟨off, data⟩ := e₀
    by_cases hfit : off * 8 + data.length ≤ buf.length
    · simp only [packAll, packInto_eq_overwrite hfit, ih, length_overwrite hfit]
      constructor
      · rintro ⟨front, e, back, rfl, hfront, hout, hbuf⟩
        refine ⟨(off, data) :: front, e, back, rfl, ?_, hout, hbuf⟩
        intro e' he'
        rcases List.mem_cons.1 he' with rfl | he'
        · exact hfit
        · exact hfront e' he'
      · rintro ⟨front, e, back, hfrags, hfront, hout, hbuf⟩
        cases front with
        | nil =>
          cases hfrags
          exact absurd hfit hout
        | cons e₁ front =>
          cases hfrags
          exact ⟨front, e, back, rfl, fun e' he' =>
            hfront e' (List.mem_cons_of_mem _ he'), hout, hbuf⟩
    · simp only [packAll, packInto_eq_none hfit, Except.error.injEq]
      constructor
      · rintro rfl
        exact ⟨[], (off, data), frags, rfl, fun e' he' => absurd he' List.not_mem_nil, hfit, rfl⟩
      · rintro ⟨front, e, back, hfrags, hfront, -, hbuf⟩
        cases front with
        | nil => exact hbuf
        | cons e₁ front =>
          cases hfrags
          exact absurd (hfront _ List.mem_cons_self) hfit

/-! ## Taking a packet -/

/-- Where the data of a packet ends in its datagram, by the lengths in the header. -/
def IPParser.dataEnd (p : IPParser) : Nat := p.offset * 8 + (p.totalLen - p.ihl)

namespace ReassResources

variable (res : ReassResources) (p : IPParser)

/-- The last fragment has no bytes behind its total length, no fragment that waits reaches behind
it, and the datagram is not too long for the length field of its header. -/
def TakesLast : Prop :=
  p.ihl + p.data.length ≤ p.totalLen ∧
    (∃ frags ∈ res.temporaryDataBuffer, ∀ e ∈ frags, e.1 * 8 + e.2.length ≤ p.dataEnd) ∧
    (res.headerBuffer = [] ∨ res.headerBuffer.length + p.dataEnd ≤ 65535)

/-- A middle fragment does not reach behind the last one, and a first one has a header to write the
length into. -/
def TakesAfterLast : Prop :=
  (p.offset = 0 → 6 ≤ p.header.length ∧ 0 ≤ p.ihl + res.totalDataLen ∧
    p.ihl + res.totalDataLen ≤ 65535) ∧
    p.offset * 8 + p.data.length ≤ res.dataBuffer.length

/-- The packets `_ip_reass` takes without raising. -/
def Takes : Prop :=
  if p.flagMf = false then res.TakesLast p
  else if res.last then res.TakesAfterLast p
  else res.temporaryDataBuffer ≠ none

instance : Decidable (res.TakesLast p) := inferInstanceAs (Decidable (_ ∧ _))

instance : Decidable (res.TakesAfterLast p) := inferInstanceAs (Decidable (_ ∧ _))

instance : Decidable (res.Takes p) :=
  inferInstanceAs (Decidable (if p.flagMf = false then res.TakesLast p
    else if res.last then res.TakesAfterLast p
    else res.temporaryDataBuffer ≠ none))

/-- The header of a datagram whose last fragment has come. -/
def headerAtLast : List UInt8 :=
  if res.headerBuffer = [] then []
  else res.headerBuffer.take 2 ++ be16 (res.headerBuffer.length + p.dataEnd) ++
    res.headerBuffer.drop 4

/-- The header of a datagram when a packet comes after the last fragment: a first fragment brings
its own, with the length in place of the id. -/
def headerAfterLast : List UInt8 :=
  if p.offset = 0 then overwrite p.header 4 (be16 (p.ihl + res.totalDataLen).toNat)
  else res.headerBuffer

/-- The bytes returned for a packet that brings the count of blocks to that of its datagram. -/
def assembled : Option (List UInt8) :=
  if p.flagMf = false then
    if res.blockCount + p.blocks = ((p.dataEnd : Int) + 7) / 8 then
      some (res.headerAtLast p ++ overwriteAll
        (overwrite (List.replicate p.dataEnd 0) (p.offset * 8) p.data)
        (res.temporaryDataBuffer.getD []))
    else none
  else if res.last then
    if res.blockCount + p.blocks = (res.totalDataLen + 7) / 8 then
      some (res.headerAfterLast p ++ overwrite res.dataBuffer (p.offset * 8) p.data)
    else none
  else none

end ReassResources

/-! ## The three branches -/

section Branches

variable (s : ReassState) (p : IPParser) (k : BufferId) (res : ReassResources)

theorem finishReass_snd :
    (finishReass s p k res).2 = .ok (if res.blockCount = (res.totalDataLen + 7) / 8 then
      some (res.headerBuffer ++ res.dataBuffer) else none) := by
  by_cases h : res.blockCount = (res.totalDataLen + 7) / 8
  · simp [finishReass, isReassembled, h]
  · simp [finishReass, isReassembled, h]

variable {s p k res}

theorem packU16_toNat {n : Int} (h₀ : 0 ≤ n) (h : n ≤ 65535) : packU16 n = some (be16 n.toNat) :=
  packU16_eq_some h₀ h

theorem packU16_eq_none {n : Int} (h : ¬ (0 ≤ n ∧ n ≤ 65535)) : packU16 n = none := if_neg h

theorem patchTotalLen_of_le
    (h : res.headerBuffer = [] ∨ res.headerBuffer.length + p.dataEnd ≤ 65535) :
    patchTotalLen res.headerBuffer (res.headerBuffer.length + p.dataEnd) =
        some (res.headerAtLast p) := by
  unfold patchTotalLen ReassResources.headerAtLast
  by_cases hnil : res.headerBuffer = []
  · rw [if_pos hnil, if_pos hnil, hnil]
  · have hle := h.resolve_left hnil
    rw [if_neg hnil, if_neg hnil, packU16_toNat (by omega) (by omega), Option.map_some]
    rfl

theorem patchTotalLen_of_not_le
    (h : ¬ (res.headerBuffer = [] ∨ res.headerBuffer.length + p.dataEnd ≤ 65535)) :
    patchTotalLen res.headerBuffer (res.headerBuffer.length + p.dataEnd) = none := by
  obtain ⟨hnil, hgt⟩ := not_or.1 h
  rw [patchTotalLen, if_neg hnil, packU16_eq_none (by omega), Option.map_none]

/-- The last fragment, when its own data fits. -/
theorem ipReassLast_of_data (hdata : p.ihl + p.data.length ≤ p.totalLen) :
    (ipReassLast s p k res).2 =
      match res.temporaryDataBuffer with
      | none => .error .keyError
      | some frags =>
        match packAll (overwrite (List.replicate p.dataEnd 0) (p.offset * 8) p.data) frags with
        | .error _ => .error .structError
        | .ok buf =>
          match patchTotalLen res.headerBuffer (res.headerBuffer.length + p.dataEnd) with
          | none => .error .structError
          | some hdr => .ok (if res.blockCount + p.blocks = ((p.dataEnd : Int) + 7) / 8 then
              some (hdr ++ buf) else none) := by
  have htotal : (p.totalLen : Int) - p.ihl + p.offset * 8 = p.dataEnd := by
    simp only [IPParser.dataEnd]
    omega
  have hbuf : packInto (List.replicate p.dataEnd 0) (p.offset * 8) p.data =
      some (overwrite (List.replicate p.dataEnd 0) (p.offset * 8) p.data) := by
    refine packInto_eq_overwrite ?_
    rw [List.length_replicate, IPParser.dataEnd]
    omega
  unfold ipReassLast
  simp only [htotal, Int.toNat_natCast, hbuf]
  rw [if_neg (by omega)]
  cases res.temporaryDataBuffer with
  | none => rfl
  | some frags =>
    dsimp only
    cases packAll (overwrite (List.replicate p.dataEnd 0) (p.offset * 8) p.data) frags with
    | error buf => rfl
    | ok buf =>
      dsimp only
      cases patchTotalLen res.headerBuffer (res.headerBuffer.length + p.dataEnd) with
      | none => rfl
      | some hdr => exact finishReass_snd _ _ _ _

/-- The last fragment, when bytes follow its total length or that is shorter than the header. -/
theorem ipReassLast_of_not_data (hdata : ¬ p.ihl + p.data.length ≤ p.totalLen) :
    ∃ e, (ipReassLast s p k res).2 = .error e := by
  unfold ipReassLast
  dsimp only
  split
  · exact ⟨_, rfl⟩
  · next hneg =>
    have hout : packInto (List.replicate ((p.totalLen : Int) - p.ihl + p.offset * 8).toNat 0)
        (p.offset * 8) p.data = none := by
      refine packInto_eq_none ?_
      rw [List.length_replicate]
      omega
    rw [hout]
    exact ⟨_, rfl⟩

theorem lateHeader_of_takes (h : p.offset = 0 → 6 ≤ p.header.length ∧ 0 ≤ p.ihl + res.totalDataLen ∧
    p.ihl + res.totalDataLen ≤ 65535) : lateHeader p res = some (res.headerAfterLast p) := by
  unfold lateHeader ReassResources.headerAfterLast
  by_cases hoff : p.offset = 0
  · obtain ⟨hlen, hnonneg, hle⟩ := h hoff
    rw [if_pos hoff, if_pos hoff, packU16_toNat hnonneg hle, Option.bind_some]
    exact packInto_eq_overwrite (by simpa using hlen)
  · rw [if_neg hoff, if_neg hoff]

theorem lateHeader_of_not_takes (h : ¬ (p.offset = 0 → 6 ≤ p.header.length ∧
    0 ≤ p.ihl + res.totalDataLen ∧ p.ihl + res.totalDataLen ≤ 65535)) :
        lateHeader p res = none := by
  obtain ⟨hoff, hfail⟩ := Classical.not_imp.1 h
  rw [lateHeader, if_pos hoff]
  by_cases hrange : 0 ≤ p.ihl + res.totalDataLen ∧ p.ihl + res.totalDataLen ≤ 65535
  · rw [packU16_toNat hrange.1 hrange.2, Option.bind_some]
    refine packInto_eq_none fun hlen => hfail ⟨?_, hrange⟩
    simpa using hlen
  · rw [packU16_eq_none hrange, Option.bind_none]

end Branches

/-! ## One call -/

section Call

variable {s : ReassState} {p : IPParser}

/-- **A packet that is taken**: the call returns. -/
theorem ipReass_of_takes (h : (entryOf s p p.bufferId).Takes p) :
    (ipReass s p).2 = .ok ((entryOf s p p.bufferId).assembled p) := by
  unfold ipReass
  simp only [allocIpReassMem_self]
  generalize entryOf s p p.bufferId = res at h ⊢
  unfold ReassResources.Takes at h
  unfold ReassResources.assembled
  cases hmf : p.flagMf with
  | false =>
    rw [if_pos hmf] at h
    obtain ⟨hdata, ⟨frags, htmp, hfrags⟩, hhdr⟩ := h
    have hfit : p.offset * 8 + p.data.length ≤ (List.replicate p.dataEnd (0 : UInt8)).length := by
      rw [List.length_replicate, IPParser.dataEnd]
      omega
    have hall : packAll (overwrite (List.replicate p.dataEnd 0) (p.offset * 8) p.data) frags =
        .ok (overwriteAll
            (overwrite (List.replicate p.dataEnd 0) (p.offset * 8) p.data) frags) := by
      refine packAll_eq_overwriteAll ?_
      rw [length_overwrite hfit, List.length_replicate]
      exact hfrags
    simp only [if_true, ipReassLast_of_data hdata, Option.mem_def.1 htmp, hall,
      patchTotalLen_of_le hhdr, Option.getD_some]
  | true =>
    rw [if_neg (by simp [hmf])] at h
    cases hlast : res.last with
    | true =>
      rw [if_pos hlast] at h
      obtain ⟨hhdr, hdata⟩ := h
      simp only [Bool.true_eq_false, if_false, if_true, ipReassAfterLast, lateHeader_of_takes hhdr,
        packInto_eq_overwrite hdata, finishReass_snd]
    | false =>
      rw [if_neg (by simp [hlast])] at h
      obtain ⟨frags, htmp⟩ := Option.ne_none_iff_exists'.1 h
      simp only [Bool.true_eq_false, Bool.false_eq_true, if_false, ipReassBeforeLast, htmp]

/-- **Every other packet**: the call raises. -/
theorem ipReass_of_not_takes (h : ¬ (entryOf s p p.bufferId).Takes p) :
    ∃ e, (ipReass s p).2 = .error e := by
  unfold ipReass
  simp only [allocIpReassMem_self]
  generalize entryOf s p p.bufferId = res at h ⊢
  unfold ReassResources.Takes at h
  cases hmf : p.flagMf with
  | false =>
    rw [if_pos hmf] at h
    simp only [if_true]
    by_cases hdata : p.ihl + p.data.length ≤ p.totalLen
    · rw [ipReassLast_of_data hdata]
      have hfit : p.offset * 8 + p.data.length ≤ (List.replicate p.dataEnd (0 : UInt8)).length := by
        rw [List.length_replicate, IPParser.dataEnd]
        omega
      cases htmp : res.temporaryDataBuffer with
      | none => exact ⟨_, rfl⟩
      | some frags =>
        dsimp only
        cases hall :
          packAll (overwrite (List.replicate p.dataEnd 0) (p.offset * 8) p.data) frags with
        | error buf => exact ⟨_, rfl⟩
        | ok buf =>
          -- all fragments fit, so it is the length of the datagram that does not
          have hfrags : ∀ e ∈ frags, e.1 * 8 + e.2.length ≤ p.dataEnd := by
            by_contra hout
            obtain ⟨buf', herr⟩ := packAll_eq_error
              (overwrite (List.replicate p.dataEnd 0) (p.offset * 8) p.data) (by
                rw [length_overwrite hfit, List.length_replicate]
                exact hout)
            rw [herr] at hall
            cases hall
          have hhdr := fun hhdr => h ⟨hdata, ⟨frags, htmp, hfrags⟩, hhdr⟩
          rw [patchTotalLen_of_not_le hhdr]
          exact ⟨_, rfl⟩
    · exact ipReassLast_of_not_data hdata
  | true =>
    rw [if_neg (by simp [hmf])] at h
    cases hlast : res.last with
    | true =>
      rw [if_pos hlast] at h
      simp only [Bool.true_eq_false, if_false, if_true, ipReassAfterLast]
      by_cases hhdr : p.offset = 0 → 6 ≤ p.header.length ∧ 0 ≤ p.ihl + res.totalDataLen ∧
          p.ihl + res.totalDataLen ≤ 65535
      · have hdata := fun hdata => h ⟨hhdr, hdata⟩
        simp only [lateHeader_of_takes hhdr, packInto_eq_none hdata]
        exact ⟨_, rfl⟩
      · simp only [lateHeader_of_not_takes hhdr]
        exact ⟨_, rfl⟩
    | false =>
      rw [if_neg (by simp [hlast]), not_not] at h
      simp only [Bool.true_eq_false, Bool.false_eq_true, if_false, ipReassBeforeLast, h]
      exact ⟨_, rfl⟩

end Call

end Tipy.Ip
