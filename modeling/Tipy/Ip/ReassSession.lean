import Mathlib.Algebra.GroupWithZero.Nat
import Tipy.Ip.Reass

/-!
# A reassembly session

What one call of `_ip_reass` does to the entry of its buffer id, for well-formed fragments of one
datagram (`IPParser.Fragment`). `Advance` lists the three ways the entry can change, and
`ipReass_advance` says that the call makes one of them, does not raise, and returns the datagram
exactly when the block count has reached that of the datagram. `Session` is the invariant that makes
this go through; it speaks about the list `seen` of the fragments received since the entry was made.
-/

namespace Tipy.Ip

/-! ## Well-formed fragments -/

/-- A fragment of a datagram with `D` bytes of data, in a frame without padding. -/
structure IPParser.Fragment (f : IPParser) (k : BufferId) (D : Nat) : Prop where
  id_eq : f.bufferId = k
  ihl_ge : 20 ≤ f.ihl
  ihl_le : f.ihl ≤ f.totalLen
  sized : f.frame.length = f.totalLen
  inside : f.offset * 8 + (f.totalLen - f.ihl) ≤ D
  ends : f.flagMf = false → f.offset * 8 + (f.totalLen - f.ihl) = D
  small : f.ihl + D ≤ 65535

instance (f : IPParser) (k : BufferId) (D : Nat) : Decidable (f.Fragment k D) :=
  decidable_of_iff (f.bufferId = k ∧ 20 ≤ f.ihl ∧ f.ihl ≤ f.totalLen ∧ f.frame.length = f.totalLen ∧
      f.offset * 8 + (f.totalLen - f.ihl) ≤ D ∧
      (f.flagMf = false → f.offset * 8 + (f.totalLen - f.ihl) = D) ∧ f.ihl + D ≤ 65535)
    ⟨fun ⟨h₁, h₂, h₃, h₄, h₅, h₆, h₇⟩ => ⟨h₁, h₂, h₃, h₄, h₅, h₆, h₇⟩,
      fun h => ⟨h.id_eq, h.ihl_ge, h.ihl_le, h.sized, h.inside, h.ends, h.small⟩⟩

/-- The number of 8-byte blocks a fragment's data takes. -/
def IPParser.nblocks (f : IPParser) : Nat := (f.data.length + 7) / 8

namespace IPParser.Fragment

variable {f : IPParser} {k : BufferId} {D : Nat}

theorem length_data (h : f.Fragment k D) : f.data.length = f.totalLen - f.ihl := by
  have := h.sized
  simp only [IPParser.data, slice, List.length_drop, List.length_take]
  omega

theorem length_header (h : f.Fragment k D) : f.header.length = f.ihl := by
  have := h.sized
  have := h.ihl_le
  simp only [IPParser.header, slice, List.length_drop, List.length_take]
  omega

theorem header_ne_nil (h : f.Fragment k D) : f.header ≠ [] := by
  rw [← List.length_pos_iff, h.length_header]
  have := h.ihl_ge
  omega

theorem data_le (h : f.Fragment k D) : f.offset * 8 + f.data.length ≤ D := by
  rw [h.length_data]
  exact h.inside

theorem data_ends (h : f.Fragment k D) (hl : f.flagMf = false) :
    f.offset * 8 + f.data.length = D := by
  rw [h.length_data]
  exact h.ends hl

theorem blocks_eq (h : f.Fragment k D) : f.blocks = f.nblocks := by
  have := h.ihl_le
  unfold IPParser.blocks IPParser.nblocks
  rw [h.length_data]
  omega

end IPParser.Fragment

/-- A fragment with a bare header, of the datagram with id 7, protocol 17 and addresses 0. -/
def bareFragment (mf : Bool) (offset : UInt8) (data : List UInt8) : IPParser :=
  ⟨[0x45, 0, 0, 20 + UInt8.ofNat data.length, 0, 7, if mf then 0x20 else 0, offset, 64, 17, 0, 0,
    0, 0, 0, 0, 0, 0, 0, 0] ++ data⟩

/-- The buffer id of these fragments. -/
def bareId : BufferId := ⟨0, 0, 7, 17⟩

/-- The state before any fragment came. -/
def ReassState.idle : ReassState := ⟨fun _ => none, ⟨[], 0⟩, 0⟩

/-! ## Copying into the data buffer -/

/-- The bytes of `data` are those of `P` from `off` on. -/
def Consistent (P : List UInt8) (off : Nat) (data : List UInt8) : Prop :=
  ∀ i, i < data.length → data[i]? = P[off + i]?

theorem packInto_agree {P buf data buf' : List UInt8} {off : Nat}
    (h : packInto buf off data = some buf') (hP : Consistent P off data) {x : Nat}
    (hx : buf[x]? = P[x]? ∨ off ≤ x ∧ x < off + data.length) : buf'[x]? = P[x]? := by
  rw [getElem?_of_packInto h]
  split
  · next hin =>
    rw [hP (x - off) (by omega)]
    congr 1
    omega
  · next hout => exact hx.resolve_right hout

/-- Fragments that fit can all be copied in. -/
theorem packAll_eq_ok {frags : List (Nat × List UInt8)} (buf : List UInt8)
    (hfit : ∀ e ∈ frags, e.1 * 8 + e.2.length ≤ buf.length) :
    ∃ buf', packAll buf frags = .ok buf' := by
  induction frags generalizing buf with
  | nil => exact ⟨buf, rfl⟩
  | cons e frags ih =>
    obtain ⟨off, data⟩ := e
    have hone := packInto_eq_some (hfit (off, data) List.mem_cons_self)
    simp only [packAll, hone]
    refine ih _ fun e he => ?_
    rw [length_of_packInto hone]
    exact hfit e (List.mem_cons_of_mem _ he)

theorem length_of_packAll {frags : List (Nat × List UInt8)} {buf buf' : List UInt8}
    (h : packAll buf frags = .ok buf') : buf'.length = buf.length := by
  induction frags generalizing buf with
  | nil => cases h; rfl
  | cons e frags ih =>
    obtain ⟨off, data⟩ := e
    simp only [packAll] at h
    split at h
    · cases h
    · next buf₁ hone => rw [ih h, length_of_packInto hone]

/-- After the copies the buffer agrees with `P` wherever it did before and on every fragment. -/
theorem packAll_agree {P : List UInt8} {frags : List (Nat × List UInt8)} {buf buf' : List UInt8}
    (h : packAll buf frags = .ok buf') (hP : ∀ e ∈ frags, Consistent P (e.1 * 8) e.2) {x : Nat}
    (hx : buf[x]? = P[x]? ∨ ∃ e ∈ frags, e.1 * 8 ≤ x ∧ x < e.1 * 8 + e.2.length) :
    buf'[x]? = P[x]? := by
  induction frags generalizing buf with
  | nil =>
    cases h
    simpa using hx
  | cons e frags ih =>
    obtain ⟨off, data⟩ := e
    simp only [packAll] at h
    split at h
    · cases h
    · next buf₁ hone =>
      have hdata := hP (off, data) List.mem_cons_self
      refine ih h (fun e he => hP e (List.mem_cons_of_mem _ he)) ?_
      rcases hx with hx | ⟨e, he, hin⟩
      · exact Or.inl (packInto_agree hone hdata (Or.inl hx))
      · rcases List.mem_cons.1 he with rfl | he
        · exact Or.inl (packInto_agree hone hdata (Or.inr hin))
        · exact Or.inr ⟨e, he, hin⟩

/-! ## The three ways an entry changes -/

/-- The change a fragment `f` of a datagram with `D` bytes makes to an entry. -/
inductive Advance (f : IPParser) (D : Nat) (res : ReassResources) : ReassResources → Prop
  | last {frags : List (Nat × List UInt8)} {buf₀ buf hdr : List UInt8} (hmf : f.flagMf = false)
      (htmp : res.temporaryDataBuffer = some frags)
      (hbuf₀ : packInto (List.replicate D 0) (f.offset * 8) f.data = some buf₀)
      (hbuf : packAll buf₀ frags = .ok buf)
      (hhdr : patchTotalLen res.headerBuffer (res.headerBuffer.length + D) = some hdr) :
      Advance f D res { res with
        totalDataLen := D
        last := true
        dataBuffer := buf
        temporaryDataBuffer := none
        blockCount := res.blockCount + f.nblocks
        headerBuffer := hdr }
  | afterLast {buf hdr : List UInt8} (hmf : f.flagMf = true) (hlast : res.last = true)
      (hhdr : lateHeader f res = some hdr)
      (hbuf : packInto res.dataBuffer (f.offset * 8) f.data = some buf) :
      Advance f D res { res with
        headerBuffer := hdr
        blockCount := res.blockCount + f.nblocks
        dataBuffer := buf }
  | beforeLast {frags : List (Nat × List UInt8)} (hmf : f.flagMf = true) (hlast : res.last = false)
      (htmp : res.temporaryDataBuffer = some frags) :
      Advance f D res { res with
        headerBuffer := if f.offset = 0 then f.header else res.headerBuffer
        blockCount := res.blockCount + f.nblocks
        temporaryDataBuffer := some (dictSet frags f.offset f.data) }

/-- What a call returns and leaves in the cache, given the changed entry. -/
def Delivers (out : ReassOutcome) (k : BufferId) (res : ReassResources) : Prop :=
  if isReassembled res.last res.blockCount res.totalDataLen then
    out.2 = .ok (some (res.headerBuffer ++ res.dataBuffer)) ∧ out.1.fragmentsCache k = none
  else out.2 = .ok none ∧ ∃ t, out.1.fragmentsCache k = some { res with timer := t }

/-! ## The invariant of a session -/

/-- The entry of a buffer id after the fragments `seen` of a datagram with `D` bytes. -/
structure Session (D : Nat) (seen : List IPParser) (res : ReassResources) : Prop where
  count : res.blockCount = (seen.map IPParser.nblocks).sum
  last_iff : res.last = true ↔ ∃ f ∈ seen, f.flagMf = false
  total : res.last = true → res.totalDataLen = D ∧ res.dataBuffer.length = D
  gone : res.last = true → res.temporaryDataBuffer = none
  waiting : res.last = false → ∃ frags, res.temporaryDataBuffer = some frags ∧
    ∀ e ∈ frags, ∃ f ∈ seen, e = (f.offset, f.data)
  header : res.headerBuffer = [] ∨
    20 ≤ res.headerBuffer.length ∧ res.headerBuffer.length + D ≤ 65535

theorem session_fresh (D t : Nat) : Session D [] { freshResources with timer := t } :=
  ⟨rfl, by simp [freshResources], by simp [freshResources], by simp [freshResources],
    fun _ => ⟨[], rfl, by simp⟩, Or.inl rfl⟩

theorem length_of_patchTotalLen {hdr hdr' : List UInt8} {n : Int}
    (h : patchTotalLen hdr n = some hdr') (hlen : 4 ≤ hdr.length) : hdr'.length = hdr.length := by
  unfold patchTotalLen at h
  split at h
  · cases h
    rfl
  · obtain ⟨bs, hbs, rfl⟩ := Option.map_eq_some_iff.1 h
    have := length_of_packU16 hbs
    simp only [List.length_append, List.length_take, List.length_drop]
    omega

theorem finishReass_delivers (s : ReassState) (p : IPParser) (k : BufferId) (res : ReassResources)
    (hlast : res.last = true) : Delivers (finishReass s p k res) k res := by
  unfold Delivers finishReass
  by_cases h : isReassembled true res.blockCount res.totalDataLen = true
  · rw [if_pos h, if_pos (by rw [hlast]; exact h)]
    exact ⟨rfl, deallocIpReassMem_self _ _⟩
  · rw [if_neg h, if_neg (by rw [hlast]; exact h)]
    exact ⟨rfl, _, ipReassTimer_self _ _ _ _⟩

section Advance

variable {s : ReassState} {f : IPParser} {k : BufferId} {D : Nat} {seen : List IPParser}
  {res : ReassResources}

theorem ipReassLast_advance (hf : f.Fragment k D) (hseen : ∀ g ∈ seen, g.Fragment k D)
    (hres : Session D seen res) (hmf : f.flagMf = false) (hlast : res.last = false) :
    ∃ res', Advance f D res res' ∧ Delivers (ipReassLast s f k res) k res' := by
  obtain ⟨frags, htmp, hmem⟩ := hres.waiting hlast
  have htotal : ((f.totalLen : Int) - f.ihl + f.offset * 8) = D := by
    have := hf.ends hmf
    have := hf.ihl_le
    omega
  have hbuf₀ : packInto (List.replicate D 0) (f.offset * 8) f.data = some _ :=
    packInto_eq_some (by simpa using hf.data_le)
  obtain ⟨buf, hbuf⟩ : ∃ buf, packAll ((List.replicate D 0).take (f.offset * 8) ++ f.data ++
      (List.replicate D 0).drop (f.offset * 8 + f.data.length)) frags = .ok buf :=
        packAll_eq_ok _ (by
      intro e he
      obtain ⟨g, hg, rfl⟩ := hmem e he
      rw [length_of_packInto hbuf₀]
      simpa using (hseen g hg).data_le)
  obtain ⟨hdr, hhdr⟩ : ∃ hdr, patchTotalLen res.headerBuffer (res.headerBuffer.length + D) =
      some hdr := by
    unfold patchTotalLen
    split
    · exact ⟨_, rfl⟩
    · next hne =>
      obtain ⟨-, hle⟩ := hres.header.resolve_left hne
      rw [packU16_eq_some (by omega) (by omega)]
      exact ⟨_, rfl⟩
  refine ⟨_, .last hmf htmp hbuf₀ hbuf hhdr, ?_⟩
  unfold ipReassLast
  simp only [htotal, Int.toNat_natCast, htmp, hbuf₀, hbuf, hhdr, hf.blocks_eq]
  rw [if_neg (by omega)]
  exact finishReass_delivers _ _ _ _ rfl

theorem ipReassAfterLast_advance (hf : f.Fragment k D) (hres : Session D seen res)
    (hmf : f.flagMf = true) (hlast : res.last = true) :
    ∃ res', Advance f D res res' ∧ Delivers (ipReassAfterLast s f k res) k res' := by
  obtain ⟨htotal, hlen⟩ := hres.total hlast
  obtain ⟨hdr, hhdr⟩ : ∃ hdr, lateHeader f res = some hdr := by
    unfold lateHeader
    split
    · have := hf.small
      have := hf.ihl_ge
      rw [htotal, packU16_eq_some (by omega) (by omega), Option.bind_some,
        packInto_eq_some (by rw [hf.length_header]; simp; omega)]
      exact ⟨_, rfl⟩
    · exact ⟨_, rfl⟩
  have hbuf : packInto res.dataBuffer (f.offset * 8) f.data = some _ :=
    packInto_eq_some (by rw [hlen]; exact hf.data_le)
  refine ⟨_, .afterLast hmf hlast hhdr hbuf, ?_⟩
  unfold ipReassAfterLast
  simp only [hhdr, hbuf, hf.blocks_eq]
  exact finishReass_delivers _ _ _ _ hlast

theorem ipReassBeforeLast_advance (hf : f.Fragment k D) (hres : Session D seen res)
    (hmf : f.flagMf = true) (hlast : res.last = false) :
    ∃ res', Advance f D res res' ∧ Delivers (ipReassBeforeLast s f k res) k res' := by
  obtain ⟨frags, htmp, -⟩ := hres.waiting hlast
  refine ⟨_, .beforeLast hmf hlast htmp, ?_⟩
  unfold ipReassBeforeLast Delivers
  simp only [htmp, hlast, isReassembled, Bool.false_and, Bool.false_eq_true, if_false, hf.blocks_eq]
  exact ⟨trivial, _, ipReassTimer_self _ _ _ _⟩

/-- **One call.** On a fragment that is not a second last one, `_ip_reass` changes the entry in one
of the three ways, does not raise, and delivers exactly when the block count says so. -/
theorem ipReass_advance (hf : f.Fragment k D) (hseen : ∀ g ∈ seen, g.Fragment k D)
    (hres : Session D seen (entryOf s f k)) (honce : f.flagMf = false →
    ∀ g ∈ seen, g.flagMf = true) :
    ∃ res', Advance f D (entryOf s f k) res' ∧ Delivers (ipReass s f) k res' := by
  unfold ipReass
  simp only [hf.id_eq, allocIpReassMem_self]
  cases hmf : f.flagMf with
  | false =>
    have hlast : (entryOf s f k).last = false := by
      rw [Bool.eq_false_iff]
      intro hl
      obtain ⟨g, hg, hgmf⟩ := hres.last_iff.1 hl
      rw [honce hmf g hg] at hgmf
      cases hgmf
    simpa using ipReassLast_advance hf hseen hres hmf hlast
  | true =>
    cases hlast : (entryOf s f k).last with
    | true => simpa [hlast] using ipReassAfterLast_advance hf hres hmf hlast
    | false => simpa [hlast] using ipReassBeforeLast_advance hf hres hmf hlast

/-- A second last fragment raises: the temporary buffer it wants to copy from is gone. -/
theorem ipReass_second_last (hf : f.Fragment k D)
    (htmp : (entryOf s f k).temporaryDataBuffer = none) (hmf : f.flagMf = false) :
    (ipReass s f).2 = .error .keyError := by
  have htotal : ((f.totalLen : Int) - f.ihl + f.offset * 8) = D := by
    have := hf.ends hmf
    have := hf.ihl_le
    omega
  have hbuf₀ : packInto (List.replicate D 0) (f.offset * 8) f.data = some _ :=
    packInto_eq_some (by simpa using hf.data_le)
  unfold ipReass
  simp only [hf.id_eq, allocIpReassMem_self, hmf, if_true]
  unfold ipReassLast
  simp only [htotal, Int.toNat_natCast, htmp, hbuf₀]
  rw [if_neg (by omega)]

/-- The invariant follows the entry. -/
theorem Advance.session {res' : ReassResources} (h : Advance f D res res') (hf : f.Fragment k D)
    (hres : Session D seen res) : Session D (seen ++ [f]) res' := by
  have hcount : res.blockCount + f.nblocks = ((seen ++ [f]).map IPParser.nblocks).sum := by
    simp [hres.count]
  cases h with
  | @last frags buf₀ buf hdr hmf htmp hbuf₀ hbuf hhdr =>
    refine ⟨hcount, by simp [hmf], fun _ => ⟨rfl, ?_⟩, fun _ => rfl, by simp, ?_⟩
    · rw [length_of_packAll hbuf, length_of_packInto hbuf₀, List.length_replicate]
    · rcases hres.header with hnil | ⟨hge, hle⟩
      · rw [hnil, patchTotalLen, if_pos rfl] at hhdr
        cases hhdr
        exact Or.inl rfl
      · have hlen := length_of_patchTotalLen hhdr (by omega)
        simp only
        omega
  | @afterLast buf hdr hmf hlast hhdr hbuf =>
    obtain ⟨htotal, hlen⟩ := hres.total hlast
    refine ⟨hcount, ?_, fun _ => ⟨htotal, ?_⟩, hres.gone, by simp [hlast], ?_⟩
    · simp [hlast, hmf, ← hres.last_iff]
    · rw [length_of_packInto hbuf, hlen]
    · simp only
      unfold lateHeader at hhdr
      split at hhdr
      · obtain ⟨bs, -, hbs⟩ := Option.bind_eq_some_iff.1 hhdr
        rw [length_of_packInto hbs, hf.length_header]
        exact Or.inr ⟨hf.ihl_ge, hf.small⟩
      · cases hhdr
        exact hres.header
  | @beforeLast frags hmf hlast htmp =>
    refine ⟨hcount, ?_, by simp [hlast], by simp [hlast], fun _ => ⟨_, rfl, ?_⟩, ?_⟩
    · simp [hlast, hmf, ← hres.last_iff]
    · obtain ⟨frags', htmp', hmem⟩ := hres.waiting hlast
      rw [htmp] at htmp'
      cases htmp'
      intro e he
      rcases mem_of_mem_dictSet he with rfl | he
      · exact ⟨f, by simp, rfl⟩
      · obtain ⟨g, hg, rfl⟩ := hmem e he
        exact ⟨g, by simp [hg], rfl⟩
    · simp only
      split
      · rw [hf.length_header]
        exact Or.inr ⟨hf.ihl_ge, hf.small⟩
      · exact hres.header

end Advance

/-! ## One call, in terms of the fragments received -/

/-- The block count says that the fragments `L` make up a datagram of `D` bytes. -/
def Complete (D : Nat) (L : List IPParser) : Prop :=
  (∃ f ∈ L, f.flagMf = false) ∧ (L.map IPParser.nblocks).sum = (D + 7) / 8

instance (D : Nat) (L : List IPParser) : Decidable (Complete D L) :=
  inferInstanceAs (Decidable (_ ∧ _))

theorem Session.isReassembled_iff {D : Nat} {seen : List IPParser} {res : ReassResources}
    (h : Session D seen res) :
    isReassembled res.last res.blockCount res.totalDataLen = true ↔ Complete D seen := by
  unfold isReassembled Complete
  rw [Bool.and_eq_true, beq_iff_eq, h.last_iff]
  refine and_congr_right fun hlast => ?_
  obtain ⟨htotal, -⟩ := h.total (h.last_iff.2 hlast)
  rw [h.count, htotal]
  omega

theorem Session.withTimer {D : Nat} {seen : List IPParser} {res : ReassResources}
    (h : Session D seen res) (t : Nat) : Session D seen { res with timer := t } :=
  ⟨h.count, h.last_iff, h.total, h.gone, h.waiting, h.header⟩

/-- The cache holds what the fragments `seen` have left for `k`: nothing before the first of them.
-/
def Tracks (D : Nat) (s : ReassState) (k : BufferId) (seen : List IPParser) : Prop :=
  match s.fragmentsCache k with
  | none => seen = []
  | some res => Session D seen res

theorem Tracks.entryOf {D : Nat} {s : ReassState} {k : BufferId} {seen : List IPParser}
    (h : Tracks D s k seen) (f : IPParser) : Session D seen (entryOf s f k) := by
  unfold Tracks at h
  unfold Ip.entryOf
  split at h
  · next hnone =>
    rw [hnone, Option.getD_none, h]
    exact session_fresh D _
  · next res hres => rwa [hres, Option.getD_some]

theorem tracks_nil {D : Nat} {s : ReassState} {k : BufferId} (h : s.fragmentsCache k = none) :
    Tracks D s k [] := by
  unfold Tracks
  rw [h]

section Step

variable {s : ReassState} {f : IPParser} {k : BufferId} {D : Nat} {seen : List IPParser}

/-- The count completes the datagram: it is returned and the entry is gone. -/
theorem ipReass_of_complete (h : Tracks D s k seen) (hf : f.Fragment k D)
    (hseen : ∀ g ∈ seen, g.Fragment k D) (honce : f.flagMf = false → ∀ g ∈ seen, g.flagMf = true)
    (hc : Complete D (seen ++ [f])) :
    (∃ dgram, (ipReass s f).2 = .ok (some dgram)) ∧ (ipReass s f).1.fragmentsCache k = none := by
  obtain ⟨res', hadv, hdel⟩ := ipReass_advance hf hseen (h.entryOf f) honce
  have hs := hadv.session hf (h.entryOf f)
  rw [Delivers, if_pos (hs.isReassembled_iff.2 hc)] at hdel
  exact ⟨⟨_, hdel.1⟩, hdel.2⟩

/-- The count does not: nothing is returned and the entry follows. -/
theorem ipReass_of_not_complete (h : Tracks D s k seen) (hf : f.Fragment k D)
    (hseen : ∀ g ∈ seen, g.Fragment k D) (honce : f.flagMf = false → ∀ g ∈ seen, g.flagMf = true)
    (hc : ¬ Complete D (seen ++ [f])) :
    (ipReass s f).2 = .ok none ∧ Tracks D (ipReass s f).1 k (seen ++ [f]) := by
  obtain ⟨res', hadv, hdel⟩ := ipReass_advance hf hseen (h.entryOf f) honce
  have hs := hadv.session hf (h.entryOf f)
  rw [Delivers, if_neg fun hr => hc (hs.isReassembled_iff.1 hr)] at hdel
  obtain ⟨hret, t, hcache⟩ := hdel
  refine ⟨hret, ?_⟩
  unfold Tracks
  rw [hcache]
  exact hs.withTimer t

/-- A last fragment after a last one raises. -/
theorem ipReass_repeated_last (h : Tracks D s k seen) (hf : f.Fragment k D)
    (hmf : f.flagMf = false) {g : IPParser} (hg : g ∈ seen) (hgmf : g.flagMf = false) :
    (ipReass s f).2 = .error .keyError :=
  have hs := h.entryOf f
  ipReass_second_last hf (hs.gone (hs.last_iff.2 ⟨g, hg, hgmf⟩)) hmf

end Step

end Tipy.Ip
