import Mathlib.Data.List.Pairwise
import Mathlib.Data.List.TakeWhile
import Tipy.Ip.ReassSession

/-!
# Reassembly and the order of arrival

A payload is cut into fragments (`Fragmentation`) that arrive in some order, each once. Every call
but the last returns nothing, the last one returns a datagram whose data is the payload, and the
entry is gone. What depends on the order is the header: it is right exactly when the first fragment
came before the last one. The argument carries the contents of the entry (`Contents`) along the run;
of the fragments it uses only what does not depend on their order (`Pieces`).
-/

namespace Tipy.Ip

/-! ## Cutting a payload into fragments -/

/-- A packet with a 20-byte header and no padding that carries `part` as the bytes from `off` on. -/
structure IPParser.Carries (f : IPParser) (k : BufferId) (off : Nat)
    (part : List UInt8) (mf : Bool) :
    Prop where
  id_eq : f.bufferId = k
  ihl_eq : f.ihl = 20
  sized : f.frame.length = f.totalLen
  totalLen_eq : f.totalLen = 20 + part.length
  offset_eq : f.offset * 8 = off
  flagMf_eq : f.flagMf = mf
  data_eq : f.data = part

instance (f : IPParser) (k : BufferId) (off : Nat) (part : List UInt8) (mf : Bool) :
    Decidable (f.Carries k off part mf) :=
  decidable_of_iff (f.bufferId = k ∧ f.ihl = 20 ∧ f.frame.length = f.totalLen ∧
      f.totalLen = 20 + part.length ∧ f.offset * 8 = off ∧ f.flagMf = mf ∧ f.data = part)
    ⟨fun ⟨h₁, h₂, h₃, h₄, h₅, h₆, h₇⟩ => ⟨h₁, h₂, h₃, h₄, h₅, h₆, h₇⟩,
      fun h => ⟨h.id_eq, h.ihl_eq, h.sized, h.totalLen_eq, h.offset_eq, h.flagMf_eq, h.data_eq⟩⟩

/-- The fragments `fs` carry the bytes `P` from `off` on, cut at 8-byte boundaries. -/
inductive Fragmentation (k : BufferId) : Nat → List UInt8 → List IPParser → Prop
  | last {f : IPParser} {off : Nat} {P : List UInt8} (hf : f.Carries k off P false)
      (hne : off = 0 ∨ P ≠ []) : Fragmentation k off P [f]
  | more {f : IPParser} {off : Nat} {part P : List UInt8} {fs : List IPParser}
      (hf : f.Carries k off part true) (hne : part ≠ []) (hwhole : 8 ∣ part.length)
      (h : Fragmentation k (off + part.length) P fs) : Fragmentation k off (part ++ P) (f :: fs)

/-- The first fragment is among those that come before the last one. -/
def HeaderBeforeLast (arr : List IPParser) : Prop :=
  ∃ f ∈ arr.takeWhile IPParser.flagMf, f.offset = 0

instance (arr : List IPParser) : Decidable (HeaderBeforeLast arr) :=
  inferInstanceAs (Decidable (∃ f ∈ arr.takeWhile IPParser.flagMf, f.offset = 0))

/-- A header with its total length field set to `n`. -/
def withTotalLen (hdr : List UInt8) (n : Nat) : List UInt8 :=
  hdr.take 2 ++ [UInt8.ofNat (n / 256), UInt8.ofNat (n % 256)] ++ hdr.drop 4

/-- The calls of `_ip_reass` for the packets in turn: the state after them and their results. -/
def reassAll (s : ReassState) :
    List IPParser → ReassState × List (Except PyError (Option (List UInt8)))
  | [] => (s, [])
  | p :: ps =>
    let out := ipReass s p
    let outs := reassAll out.1 ps
    (outs.1, out.2 :: outs.2)

/-! ## What does not depend on the order -/

/-- The fragments `arr` of the payload `P`, in any order; `f₀` is the one at offset 0. -/
structure Pieces (k : BufferId) (P : List UInt8) (f₀ : IPParser) (arr : List IPParser) : Prop where
  fragment : ∀ f ∈ arr, f.Fragment k P.length
  consistent : ∀ f ∈ arr, Consistent P (f.offset * 8) f.data
  covered : ∀ x < P.length, ∃ f ∈ arr, f.offset * 8 ≤ x ∧ x < f.offset * 8 + f.data.length
  offsets : arr.Pairwise fun f g => f.offset ≠ g.offset
  lasts : arr.Pairwise fun f g => f.flagMf = true ∨ g.flagMf = true
  last : ∃ f ∈ arr, f.flagMf = false
  count : (arr.map IPParser.nblocks).sum = (P.length + 7) / 8
  nblocks_pos : 2 ≤ arr.length → ∀ f ∈ arr, 0 < f.nblocks
  first_mem : f₀ ∈ arr
  first_offset : f₀.offset = 0
  first_ihl : f₀.ihl = 20
  first_short : f₀.flagMf = true → f₀.totalLen < 20 + P.length

section Fragmentation

variable {k : BufferId} {off : Nat} {P : List UInt8} {fs : List IPParser}

theorem IPParser.Carries.nblocks_eq {f : IPParser} {part : List UInt8} {mf : Bool}
    (h : f.Carries k off part mf) : f.nblocks = (part.length + 7) / 8 := by
  rw [IPParser.nblocks, h.data_eq]

namespace Fragmentation

theorem inside (h : Fragmentation k off P fs) : ∀ f ∈ fs,
    off ≤ f.offset * 8 ∧ f.offset * 8 + f.data.length ≤ off + P.length ∧
      (f.flagMf = false → f.offset * 8 + f.data.length = off + P.length) := by
  induction h with
  | last hf hne =>
    simp [hf.offset_eq, hf.data_eq]
  | @more f off part P fs hf hne hwhole h ih =>
    refine List.forall_mem_cons.2 ⟨?_, fun g hg => ?_⟩
    · rw [hf.offset_eq, hf.data_eq, hf.flagMf_eq]
      simp
    · obtain ⟨hlo, hhi, hlast⟩ := ih g hg
      rw [List.length_append]
      refine ⟨by omega, by omega, fun hmf => ?_⟩
      have := hlast hmf
      omega

theorem sized (h : Fragmentation k off P fs) : ∀ f ∈ fs, f.bufferId = k ∧ f.ihl = 20 ∧
    f.frame.length = f.totalLen ∧ f.totalLen = 20 + f.data.length := by
  induction h with
  | last hf hne =>
    exact List.forall_mem_singleton.2
      ⟨hf.id_eq, hf.ihl_eq, hf.sized, by rw [hf.data_eq, hf.totalLen_eq]⟩
  | more hf hne hwhole h ih =>
    exact List.forall_mem_cons.2
      ⟨⟨hf.id_eq, hf.ihl_eq, hf.sized, by rw [hf.data_eq, hf.totalLen_eq]⟩, ih⟩

theorem fragment (h : Fragmentation k 0 P fs) (hsmall : 20 + P.length ≤ 65535) :
    ∀ f ∈ fs, f.Fragment k P.length := by
  intro f hf
  obtain ⟨hid, hihl, hlen, htotal⟩ := h.sized f hf
  obtain ⟨-, hhi, hlast⟩ := h.inside f hf
  refine ⟨hid, by omega, by omega, hlen, by omega, fun hmf => ?_, by omega⟩
  have := hlast hmf
  omega

theorem consistent (h : Fragmentation k off P fs) :
    ∀ f ∈ fs, ∀ i < f.data.length, f.data[i]? = P[f.offset * 8 - off + i]? := by
  induction h with
  | last hf hne => simp [hf.offset_eq, hf.data_eq]
  | @more f off part P fs hf hne hwhole h ih =>
    refine List.forall_mem_cons.2 ⟨fun i hi => ?_, fun g hg i hi => ?_⟩
    · rw [hf.data_eq] at hi ⊢
      rw [hf.offset_eq, Nat.sub_self, Nat.zero_add, List.getElem?_append_left hi]
    · obtain ⟨hlo, -, -⟩ := h.inside g hg
      rw [ih g hg i hi, List.getElem?_append_right (by omega)]
      congr 1
      omega

theorem covered (h : Fragmentation k off P fs) : ∀ x, off ≤ x → x < off + P.length →
    ∃ f ∈ fs, f.offset * 8 ≤ x ∧ x < f.offset * 8 + f.data.length := by
  induction h with
  | last hf hne =>
    intro x hlo hhi
    exact ⟨_, List.mem_singleton_self _, by rwa [hf.offset_eq], by rwa [hf.offset_eq, hf.data_eq]⟩
  | @more f off part P fs hf hne hwhole h ih =>
    intro x hlo hhi
    rw [List.length_append] at hhi
    by_cases hx : x < off + part.length
    · exact ⟨f, List.mem_cons_self, by rwa [hf.offset_eq], by rwa [hf.offset_eq, hf.data_eq]⟩
    · obtain ⟨g, hg, hin⟩ := ih x (by omega) (by omega)
      exact ⟨g, List.mem_cons_of_mem _ hg, hin⟩

theorem offsets (h : Fragmentation k off P fs) : fs.Pairwise fun f g => f.offset ≠ g.offset := by
  induction h with
  | last hf hne => exact List.pairwise_singleton _ _
  | @more f off part P fs hf hne hwhole h ih =>
    refine List.pairwise_cons.2 ⟨fun g hg heq => ?_, ih⟩
    have hpos := List.length_pos_iff.2 hne
    obtain ⟨hlo, -, -⟩ := h.inside g hg
    have := hf.offset_eq
    omega

theorem lasts (h : Fragmentation k off P fs) :
    fs.Pairwise fun f g => f.flagMf = true ∨ g.flagMf = true := by
  induction h with
  | last hf hne => exact List.pairwise_singleton _ _
  | more hf hne hwhole h ih => exact List.pairwise_cons.2 ⟨fun _ _ => Or.inl hf.flagMf_eq, ih⟩

theorem exists_last (h : Fragmentation k off P fs) : ∃ f ∈ fs, f.flagMf = false := by
  induction h with
  | last hf hne => exact ⟨_, List.mem_singleton_self _, hf.flagMf_eq⟩
  | more hf hne hwhole h ih =>
    obtain ⟨g, hg, hmf⟩ := ih
    exact ⟨g, List.mem_cons_of_mem _ hg, hmf⟩

theorem count (h : Fragmentation k off P fs) :
    (fs.map IPParser.nblocks).sum = (P.length + 7) / 8 := by
  induction h with
  | last hf hne => simp [hf.nblocks_eq]
  | more hf hne hwhole h ih =>
    rw [List.map_cons, List.sum_cons, ih, hf.nblocks_eq, List.length_append]
    omega

theorem nblocks_pos (h : Fragmentation k off P fs) (hmany : off ≠ 0 ∨ 2 ≤ fs.length) :
    ∀ f ∈ fs, 0 < f.nblocks := by
  induction h with
  | last hf hne =>
    simp only [List.length_singleton] at hmany
    have hpos := List.length_pos_iff.2 (hne.resolve_left (hmany.resolve_right (by omega)))
    refine List.forall_mem_singleton.2 ?_
    rw [hf.nblocks_eq]
    omega
  | more hf hne hwhole h ih =>
    have hpos := List.length_pos_iff.2 hne
    refine List.forall_mem_cons.2 ⟨?_, ih (Or.inl (by omega))⟩
    rw [hf.nblocks_eq]
    omega

theorem length_pos (h : Fragmentation k off P fs) (hoff : off ≠ 0) : 0 < P.length := by
  cases h with
  | last hf hne => exact List.length_pos_iff.2 (hne.resolve_left hoff)
  | more hf hne hwhole h =>
    have := List.length_pos_iff.2 hne
    rw [List.length_append]
    omega

theorem pieces {f₀ : IPParser} (h : Fragmentation k 0 P (f₀ :: fs))
    (hsmall : 20 + P.length ≤ 65535) : Pieces k P f₀ (f₀ :: fs) where
  fragment := h.fragment hsmall
  consistent f hf i hi := h.consistent f hf i hi
  covered x hx := h.covered x (Nat.zero_le x) (by omega)
  offsets := h.offsets
  lasts := h.lasts
  last := h.exists_last
  count := h.count
  nblocks_pos hlen := h.nblocks_pos (Or.inr hlen)
  first_mem := List.mem_cons_self
  first_offset := by
    cases h with
    | last hf hne =>
      have := hf.offset_eq
      omega
    | more hf hne hwhole h =>
      have := hf.offset_eq
      omega
  first_ihl := by
    cases h with
    | last hf hne => exact hf.ihl_eq
    | more hf hne hwhole h => exact hf.ihl_eq
  first_short hmf := by
    cases h with
    | last hf hne =>
      rw [hf.flagMf_eq] at hmf
      cases hmf
    | more hf hne hwhole h =>
      have := List.length_pos_iff.2 hne
      have := h.length_pos (by omega)
      rw [hf.totalLen_eq, List.length_append]
      omega

end Fragmentation

theorem Pieces.perm {f₀ : IPParser} {arr : List IPParser} (h : Pieces k P f₀ fs)
    (hp : arr.Perm fs) : Pieces k P f₀ arr where
  fragment f hf := h.fragment f (hp.subset hf)
  consistent f hf := h.consistent f (hp.subset hf)
  covered x hx := by
    obtain ⟨f, hf, hin⟩ := h.covered x hx
    exact ⟨f, hp.symm.subset hf, hin⟩
  offsets := (hp.pairwise_iff fun hne => hne.symm).2 h.offsets
  lasts := (hp.pairwise_iff fun hor => hor.symm).2 h.lasts
  last := by
    obtain ⟨f, hf, hmf⟩ := h.last
    exact ⟨f, hp.symm.subset hf, hmf⟩
  count := by rw [← h.count, (hp.map _).sum_nat]
  nblocks_pos hlen f hf := h.nblocks_pos (hp.length_eq ▸ hlen) f (hp.subset hf)
  first_mem := hp.symm.subset h.first_mem
  first_offset := h.first_offset
  first_ihl := h.first_ihl
  first_short := h.first_short

end Fragmentation

/-! ## The contents of the entry -/

/-- What the entry holds after the fragments `seen` of the payload `P`. -/
structure Contents (P : List UInt8) (f₀ : IPParser) (seen : List IPParser) (res : ReassResources) :
    Prop where
  buffered : res.last = true → ∀ x < P.length,
    (∃ f ∈ seen, f.offset * 8 ≤ x ∧ x < f.offset * 8 + f.data.length) → res.dataBuffer[x]? = P[x]?
  waiting : res.last = false → ∀ frags, res.temporaryDataBuffer = some frags →
    ∀ f ∈ seen, (f.offset, f.data) ∈ frags
  absent : f₀ ∉ seen → res.headerBuffer = []
  stored : res.last = false → f₀ ∈ seen → res.headerBuffer = f₀.header
  early : res.last = true → HeaderBeforeLast seen →
    res.headerBuffer = withTotalLen f₀.header (20 + P.length)
  /-- the length went to the wrong place, or there is no header at all -/
  late : res.last = true → ¬ HeaderBeforeLast seen →
    res.headerBuffer = [] ∨ f₀.flagMf = true ∧ u16At res.headerBuffer 2 = f₀.totalLen

theorem contents_fresh (P : List UInt8) (f₀ : IPParser) (t : Nat) :
    Contents P f₀ [] { freshResources with timer := t } :=
  ⟨by simp [freshResources], by simp, fun _ => rfl, by simp, by simp [freshResources],
    by simp [freshResources]⟩

theorem Contents.withTimer {P : List UInt8} {f₀ : IPParser} {seen : List IPParser}
    {res : ReassResources} (h : Contents P f₀ seen res) (t : Nat) :
    Contents P f₀ seen { res with timer := t } :=
  ⟨h.buffered, h.waiting, h.absent, h.stored, h.early, h.late⟩

/-- While no last fragment came, the header is in time when the first fragment is there. -/
theorem headerBeforeLast_append_last {seen : List IPParser} {f : IPParser}
    (hseen : ∀ g ∈ seen, g.flagMf = true) (hf : f.flagMf = false) :
    HeaderBeforeLast (seen ++ [f]) ↔ ∃ g ∈ seen, g.offset = 0 := by
  unfold HeaderBeforeLast
  rw [List.takeWhile_append_of_pos hseen]
  simp [hf]

/-- Once a last fragment came, the matter is settled. -/
theorem headerBeforeLast_append_of_last {seen : List IPParser} (f : IPParser)
    (hseen : ∃ g ∈ seen, g.flagMf = false) :
    HeaderBeforeLast (seen ++ [f]) ↔ HeaderBeforeLast seen := by
  unfold HeaderBeforeLast
  rw [List.takeWhile_append, if_neg]
  intro hlen
  obtain ⟨g, hg, hmf⟩ := hseen
  rw [← (List.takeWhile_prefix (l := seen) IPParser.flagMf).eq_of_length hlen] at hg
  rw [List.mem_takeWhile_imp hg] at hmf
  cases hmf

theorem HeaderBeforeLast.exists {arr : List IPParser} (h : HeaderBeforeLast arr) :
    ∃ f ∈ arr, f.offset = 0 := by
  obtain ⟨f, hf, hoff⟩ := h
  exact ⟨f, (List.takeWhile_prefix _).subset hf, hoff⟩

section Contents

variable {k : BufferId} {P : List UInt8} {f₀ f : IPParser} {seen rest : List IPParser}
  {res res' : ReassResources}

theorem Pieces.eq_first (h : Pieces k P f₀ rest) {g : IPParser} (hg : g ∈ rest)
    (hoff : g.offset = 0) : g = f₀ := by
  by_contra hne
  have : Std.Symm fun f g : IPParser => f.offset ≠ g.offset := ⟨fun _ _ h => h.symm⟩
  exact h.offsets.forall hg h.first_mem hne (by rw [hoff, h.first_offset])

/-- The fragment at hand has an offset of its own. -/
theorem Pieces.offset_ne (h : Pieces k P f₀ (seen ++ f :: rest)) {g : IPParser} (hg : g ∈ seen) :
    g.offset ≠ f.offset :=
  (List.pairwise_append.1 h.offsets).2.2 g hg f List.mem_cons_self

theorem Pieces.once (h : Pieces k P f₀ (seen ++ f :: rest)) (hmf : f.flagMf = false) :
    ∀ g ∈ seen, g.flagMf = true := by
  intro g hg
  have := (List.pairwise_append.1 h.lasts).2.2 g hg f List.mem_cons_self
  simpa [hmf] using this

theorem Pieces.mem_seen (h : Pieces k P f₀ (seen ++ f :: rest)) {g : IPParser} (hg : g ∈ seen)
    (hoff : g.offset = 0) : f₀ ∈ seen :=
  h.eq_first (List.mem_append_left _ hg) hoff ▸ hg

theorem Pieces.offset_pos (h : Pieces k P f₀ (seen ++ f :: rest)) (hne : f₀ ∉ seen ++ [f]) :
    f.offset ≠ 0 := by
  intro hoff
  have := h.eq_first (List.mem_append_right _ List.mem_cons_self) hoff
  simp [this] at hne

theorem Advance.contents_last {frags : List (Nat × List UInt8)} {buf₀ buf hdr : List UInt8}
    (h : Pieces k P f₀ (seen ++ f :: rest)) (hres : Session P.length seen res)
    (hc : Contents P f₀ seen res) (hmf : f.flagMf = false)
    (htmp : res.temporaryDataBuffer = some frags)
    (hbuf₀ : packInto (List.replicate P.length 0) (f.offset * 8) f.data = some buf₀)
    (hbuf : packAll buf₀ frags = .ok buf)
    (hhdr : patchTotalLen res.headerBuffer (res.headerBuffer.length + P.length) = some hdr) :
    Contents P f₀ (seen ++ [f]) { res with
      totalDataLen := P.length
      last := true
      dataBuffer := buf
      temporaryDataBuffer := none
      blockCount := res.blockCount + f.nblocks
      headerBuffer := hdr } := by
  have hlast : res.last = false := by
    rw [Bool.eq_false_iff]
    intro hl
    rw [hres.gone hl] at htmp
    cases htmp
  have hbefore := headerBeforeLast_append_last (h.once hmf) hmf
  have habsent : f₀ ∉ seen → hdr = [] := by
    intro hne
    rw [hc.absent hne, patchTotalLen, if_pos rfl] at hhdr
    cases hhdr
    rfl
  refine ⟨fun _ x hx hcov => ?_, by simp, ?_, by simp, fun _ hb => ?_, fun _ hb => ?_⟩
  · -- the byte comes from `f` itself or from a fragment that waited
    refine packAll_agree hbuf (fun e he => ?_) ?_
    · obtain ⟨frags', htmp', hmem⟩ := hres.waiting hlast
      rw [htmp] at htmp'
      cases htmp'
      obtain ⟨g, hg, rfl⟩ := hmem e he
      exact h.consistent g (List.mem_append_left _ hg)
    · obtain ⟨g, hg, hin⟩ := hcov
      rcases List.mem_append.1 hg with hg | hg
      · exact Or.inr ⟨_, hc.waiting hlast frags htmp g hg, hin⟩
      · rw [List.mem_singleton.1 hg] at hin
        exact Or.inl (packInto_agree hbuf₀
          (h.consistent f (List.mem_append_right _ List.mem_cons_self)) (Or.inr hin))
  · intro hne
    exact habsent fun hmem => hne (List.mem_append_left _ hmem)
  · obtain ⟨g, hg, hoff⟩ := hbefore.1 hb
    have hmem := h.mem_seen hg hoff
    have hf₀ := h.fragment f₀ h.first_mem
    have hlen : f₀.header.length = 20 := by rw [hf₀.length_header, h.first_ihl]
    have hsmall := hf₀.small
    rw [hc.stored hlast hmem, patchTotalLen, if_neg hf₀.header_ne_nil, hlen,
      packU16_eq_some (by omega) (by rw [h.first_ihl] at hsmall; omega)] at hhdr
    cases hhdr
    rfl
  · exact Or.inl (habsent fun hmem => hb (hbefore.2 ⟨f₀, hmem, h.first_offset⟩))

theorem Advance.contents_afterLast {buf hdr : List UInt8}
    (h : Pieces k P f₀ (seen ++ f :: rest)) (hres : Session P.length seen res)
    (hc : Contents P f₀ seen res) (hmf : f.flagMf = true) (hlast : res.last = true)
    (hhdr : lateHeader f res = some hdr)
    (hbuf : packInto res.dataBuffer (f.offset * 8) f.data = some buf) :
    Contents P f₀ (seen ++ [f]) { res with
      headerBuffer := hdr
      blockCount := res.blockCount + f.nblocks
      dataBuffer := buf } := by
  have hbefore := headerBeforeLast_append_of_last f (hres.last_iff.1 hlast)
  have hkeep : f.offset ≠ 0 → hdr = res.headerBuffer := by
    intro hoff
    rw [lateHeader, if_neg hoff] at hhdr
    cases hhdr
    rfl
  refine ⟨fun _ x hx hcov => ?_, by simp [hlast], ?_, by simp [hlast], fun _ hb => ?_,
    fun _ hb => ?_⟩
  · refine packInto_agree hbuf (h.consistent f (by simp)) ?_
    obtain ⟨g, hg, hin⟩ := hcov
    rcases List.mem_append.1 hg with hg | hg
    · exact Or.inl (hc.buffered hlast x hx ⟨g, hg, hin⟩)
    · rw [List.mem_singleton.1 hg] at hin
      exact Or.inr hin
  · intro hne
    rw [show hdr = _ from hkeep (h.offset_pos hne)]
    exact hc.absent fun hmem => hne (List.mem_append_left _ hmem)
  · rw [hbefore] at hb
    obtain ⟨g, hg, hoff⟩ := hb.exists
    have hne : f.offset ≠ 0 := fun h0 => h.offset_ne hg (hoff.trans h0.symm)
    rw [show hdr = _ from hkeep hne]
    exact hc.early hlast hb
  · by_cases hoff : f.offset = 0
    · -- the header of `f` with the length at offset 4
      obtain rfl := h.eq_first (List.mem_append_right _ List.mem_cons_self) hoff
      rw [lateHeader, if_pos hoff] at hhdr
      obtain ⟨bs, -, hpack⟩ := Option.bind_eq_some_iff.1 hhdr
      refine Or.inr ⟨hmf, ?_⟩
      have hihl := (h.fragment f h.first_mem).ihl_ge
      have hsame : ∀ i < 4, hdr[i]? = f.frame[i]? := by
        intro i hi
        rw [getElem?_of_packInto hpack, if_neg (by omega), IPParser.header, slice, List.drop_zero,
          List.getElem?_take_of_lt (by omega)]
      exact u16At_congr (hsame 2 (by decide)) (hsame 3 (by decide))
    · rw [show hdr = _ from hkeep hoff]
      exact hc.late hlast fun hb' => hb (hbefore.2 hb')

theorem Advance.contents_beforeLast {frags : List (Nat × List UInt8)}
    (h : Pieces k P f₀ (seen ++ f :: rest)) (hc : Contents P f₀ seen res) (hlast : res.last = false)
    (htmp : res.temporaryDataBuffer = some frags) :
    Contents P f₀ (seen ++ [f]) { res with
      headerBuffer := if f.offset = 0 then f.header else res.headerBuffer
      blockCount := res.blockCount + f.nblocks
      temporaryDataBuffer := some (dictSet frags f.offset f.data) } := by
  refine ⟨by simp [hlast], ?_, ?_, ?_, by simp [hlast], by simp [hlast]⟩
  · rintro - _ ⟨⟩ g hg
    rcases List.mem_append.1 hg with hg | hg
    · exact mem_dictSet_of_ne (hc.waiting hlast frags htmp g hg) (h.offset_ne hg)
    · rw [List.mem_singleton.1 hg]
      exact mem_dictSet_self
  · intro hne
    simp only [if_neg (h.offset_pos hne)]
    exact hc.absent fun hmem => hne (List.mem_append_left _ hmem)
  · intro _ hmem
    by_cases hoff : f.offset = 0
    · obtain rfl := h.eq_first (List.mem_append_right _ List.mem_cons_self) hoff
      simp only [if_pos hoff]
    · simp only [if_neg hoff]
      refine hc.stored hlast ((List.mem_append.1 hmem).resolve_right fun hf => hoff ?_)
      rw [← List.mem_singleton.1 hf, h.first_offset]

/-- The contents follow the entry. -/
theorem Advance.contents (hadv : Advance f P.length res res')
    (h : Pieces k P f₀ (seen ++ f :: rest)) (hres : Session P.length seen res)
    (hc : Contents P f₀ seen res) : Contents P f₀ (seen ++ [f]) res' := by
  cases hadv with
  | last hmf htmp hbuf₀ hbuf hhdr => exact contents_last h hres hc hmf htmp hbuf₀ hbuf hhdr
  | afterLast hmf hlast hhdr hbuf => exact contents_afterLast h hres hc hmf hlast hhdr hbuf
  | beforeLast hmf hlast htmp => exact contents_beforeLast h hc hlast htmp

end Contents

/-! ## The whole run -/

/-- The cache holds what the fragments `seen` of the payload have left for `k`. -/
def Keeps (P : List UInt8) (f₀ : IPParser) (s : ReassState) (k : BufferId) (seen : List IPParser) :
    Prop :=
  match s.fragmentsCache k with
  | none => seen = []
  | some res => Session P.length seen res ∧ Contents P f₀ seen res

section Run

variable {k : BufferId} {P : List UInt8} {f₀ f : IPParser} {seen rest : List IPParser}
  {s : ReassState} {res : ReassResources}

theorem Keeps.entryOf (h : Keeps P f₀ s k seen) (f : IPParser) :
    Session P.length seen (entryOf s f k) ∧ Contents P f₀ seen (entryOf s f k) := by
  unfold Keeps at h
  unfold Ip.entryOf
  split at h
  · next hnone =>
    rw [hnone, Option.getD_none, h]
    exact ⟨session_fresh P.length _, contents_fresh P f₀ _⟩
  · next res hres => rwa [hres, Option.getD_some]

/-- The step: one fragment of the payload. -/
theorem Keeps.ipReass (hs : Keeps P f₀ s k seen) (h : Pieces k P f₀ (seen ++ f :: rest)) :
    ∃ res, Session P.length (seen ++ [f]) res ∧ Contents P f₀ (seen ++ [f]) res ∧
      Delivers (Ip.ipReass s f) k res := by
  obtain ⟨hsession, hcontents⟩ := hs.entryOf f
  have hf := h.fragment f (List.mem_append_right _ List.mem_cons_self)
  obtain ⟨res, hadv, hdel⟩ := ipReass_advance hf
    (fun g hg => h.fragment g (List.mem_append_left _ hg)) hsession h.once
  exact ⟨res, hadv.session hf hsession, hadv.contents h hsession hcontents, hdel⟩

/-- A fragment is still missing, so the count is short. -/
theorem Pieces.not_complete {g : IPParser} (h : Pieces k P f₀ (seen ++ f :: g :: rest)) :
    ¬ Complete P.length (seen ++ [f]) := by
  rintro ⟨-, hsum⟩
  have hcount := h.count
  have hpos := h.nblocks_pos (by simp; omega) g (by simp)
  simp only [List.map_append, List.map_cons, List.map_nil, List.sum_append, List.sum_cons,
    List.sum_nil] at hcount hsum
  omega

theorem Pieces.complete {arr : List IPParser} (h : Pieces k P f₀ arr) : Complete P.length arr :=
  ⟨h.last, h.count⟩

/-- All the bytes are there in the end. -/
theorem Contents.dataBuffer_eq {arr : List IPParser} (hc : Contents P f₀ arr res)
    (hs : Session P.length arr res) (h : Pieces k P f₀ arr) : res.dataBuffer = P := by
  have hlast := hs.last_iff.2 h.last
  have hlen := (hs.total hlast).2
  refine List.ext_getElem? fun x => ?_
  by_cases hx : x < P.length
  · exact hc.buffered hlast x hx (h.covered x hx)
  · rw [List.getElem?_eq_none (by omega), List.getElem?_eq_none (by omega)]

/-- The run: only the last call returns a datagram, with all the data in it. -/
theorem Keeps.reassAll (hs : Keeps P f₀ s k seen) (h : Pieces k P f₀ (seen ++ f :: rest)) :
    ∃ res, Session P.length (seen ++ f :: rest) res ∧ Contents P f₀ (seen ++ f :: rest) res ∧
      (Ip.reassAll s (f :: rest)).2 =
        List.replicate rest.length (.ok none) ++ [.ok (some (res.headerBuffer ++ P))] ∧
      (Ip.reassAll s (f :: rest)).1.fragmentsCache k = none := by
  induction rest generalizing s seen f with
  | nil =>
    obtain ⟨res, hsession, hcontents, hdel⟩ := hs.ipReass h
    rw [Delivers, if_pos (hsession.isReassembled_iff.2 h.complete),
      hcontents.dataBuffer_eq hsession h] at hdel
    refine ⟨res, hsession, hcontents, ?_, hdel.2⟩
    simp only [Ip.reassAll, hdel.1, List.length_nil, List.replicate_zero, List.nil_append]
  | cons g rest ih =>
    obtain ⟨res, hsession, hcontents, hdel⟩ := hs.ipReass h
    rw [Delivers, if_neg fun hr => h.not_complete (hsession.isReassembled_iff.1 hr)] at hdel
    obtain ⟨hret, t, hcache⟩ := hdel
    have hnext : Keeps P f₀ (Ip.ipReass s f).1 k (seen ++ [f]) := by
      unfold Keeps
      rw [hcache]
      exact ⟨hsession.withTimer t, hcontents.withTimer t⟩
    rw [List.append_cons] at h ⊢
    obtain ⟨res', hsession', hcontents', hrun, hgone⟩ := ih hnext h
    refine ⟨res', hsession', hcontents', ?_, hgone⟩
    rw [Ip.reassAll]
    simp only [hret, hrun, List.length_cons, List.replicate_succ, List.cons_append]

end Run

theorem u16At_withTotalLen (hdr : List UInt8) {n : Nat} (hlen : 2 ≤ hdr.length) (hn : n ≤ 65535) :
    u16At (withTotalLen hdr n) 2 = n := by
  obtain ⟨a, b, tail, rfl⟩ : ∃ a b tail, hdr = a :: b :: tail := by
    match hdr, hlen with
    | a :: b :: tail, _ => exact ⟨a, b, tail, rfl⟩
  simp [withTotalLen, u16At, byteAt]
  omega

/-- **Reassembly does not depend on the order, except for the header.** Of a payload cut into
fragments that arrive once each in any order, every call but the last returns nothing, the last one
returns the first fragment's header with the length of the whole, followed by the payload, and the
entry is gone, if and only if the first fragment arrives before the last one. -/
theorem reass_any_order_iff (k : BufferId) (P : List UInt8) (f₀ : IPParser) (fs arr : List IPParser)
    (hfrag : Fragmentation k 0 P (f₀ :: fs)) (hsmall : 20 + P.length ≤ 65535)
    (hperm : arr.Perm (f₀ :: fs)) (s : ReassState) (hs : s.fragmentsCache k = none) :
    ((reassAll s arr).2 = List.replicate (arr.length - 1) (.ok none) ++
          [.ok (some (withTotalLen f₀.header (20 + P.length) ++ P))] ∧
        (reassAll s arr).1.fragmentsCache k = none) ↔
      HeaderBeforeLast arr := by
  have h : Pieces k P f₀ arr := (hfrag.pieces hsmall).perm hperm
  obtain ⟨f, rest, rfl⟩ := List.exists_cons_of_ne_nil (List.ne_nil_of_mem h.first_mem)
  have hkeeps : Keeps P f₀ s k [] := by
    unfold Keeps
    rw [hs]
  obtain ⟨res, hsession, hcontents, hrun, hgone⟩ := hkeeps.reassAll h
  rw [List.nil_append] at hsession hcontents
  have hlast := hsession.last_iff.2 h.last
  have hlen : f₀.header.length = 20 := by
    rw [(h.fragment f₀ h.first_mem).length_header, h.first_ihl]
  rw [hrun, List.length_cons, Nat.add_sub_cancel]
  constructor
  · rintro ⟨heq, -⟩
    have hhdr : res.headerBuffer = withTotalLen f₀.header (20 + P.length) := by
      simpa using heq
    by_contra hbefore
    have hfield := u16At_withTotalLen f₀.header (by omega) hsmall
    rw [← hhdr] at hfield
    rcases hcontents.late hlast hbefore with hnil | ⟨hmf, hold⟩
    · have := congrArg List.length hhdr
      simp [hnil, withTotalLen] at this
    · have := h.first_short hmf
      omega
  · intro hbefore
    exact ⟨by rw [hcontents.early hlast hbefore], hgone⟩

/-- A payload of 11 bytes in two fragments, in their order. -/
theorem reass_any_order_two :
    (reassAll .idle [bareFragment true 0 (List.replicate 8 1), bareFragment false 1 [9, 9, 9]]).2 =
        [.ok none, .ok (some (withTotalLen (bareFragment true 0 (List.replicate 8 1)).header 31 ++
          (List.replicate 8 1 ++ [9, 9, 9])))] ∧
      (reassAll .idle [bareFragment true 0 (List.replicate 8 1),
        bareFragment false 1 [9, 9, 9]]).1.fragmentsCache bareId = none :=
  (reass_any_order_iff bareId (List.replicate 8 1 ++ [9, 9, 9])
    (bareFragment true 0 (List.replicate 8 1)) [bareFragment false 1 [9, 9, 9]] _
    (.more (by decide +kernel) (by decide) (by decide) (.last (by decide +kernel) (by decide)))
    (by decide) (List.Perm.refl _) .idle rfl).2 (by decide +kernel)

/-- The same two fragments the other way round: the datagram is returned with the total length of
its first fragment, 28, and with 31 in the id field. -/
theorem reass_last_first_spoils_header :
    [bareFragment false 1 [9, 9, 9], bareFragment true 0 (List.replicate 8 1)].Perm
        [bareFragment true 0 (List.replicate 8 1), bareFragment false 1 [9, 9, 9]] ∧
      Fragmentation bareId 0 (List.replicate 8 1 ++ [9, 9, 9])
        [bareFragment true 0 (List.replicate 8 1), bareFragment false 1 [9, 9, 9]] ∧
      (reassAll .idle [bareFragment false 1 [9, 9, 9],
        bareFragment true 0 (List.replicate 8 1)]).2 ≠
        [.ok none, .ok (some (withTotalLen (bareFragment true 0 (List.replicate 8 1)).header 31 ++
          (List.replicate 8 1 ++ [9, 9, 9])))] :=
  ⟨List.Perm.swap _ _ _,
    .more (by decide +kernel) (by decide) (by decide) (.last (by decide +kernel) (by decide)),
    by decide +kernel⟩

end Tipy.Ip
