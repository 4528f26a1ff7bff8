import Mathlib.Order.Interval.Finset.Nat
import Tipy.Ip.ReassSession
import Tipy.Lib.Cover
import Tipy.Lib.Runs

/-!
# When reassembly delivers only complete datagrams

`_ip_reass` counts 8-byte blocks. A run of calls with fragments of one datagram keeps, beside the
state of the code, the fragments received since the entry was made and a log of the calls. The run
is sound when no call raised and every datagram returned was covered by the fragments received for
it. That is so exactly when every call finds no earlier last fragment in place of its own and,
whenever the count reaches that of the datagram, the fragments tile it.
-/

namespace Tipy.Ip

open Tipy.Lib

/-! ## Covering and tiling -/

/-- Every byte of a datagram with `D` bytes, and its header, is in some fragment of `L`. -/
def Covered (D : Nat) (L : List IPParser) : Prop :=
  (∃ f ∈ L, f.offset = 0) ∧
    ∀ x < D, ∃ f ∈ L, f.offset * 8 ≤ x ∧ x < f.offset * 8 + f.data.length

instance (D : Nat) (L : List IPParser) : Decidable (Covered D L) :=
  inferInstanceAs (Decidable (_ ∧ _))

/-- The blocks a fragment's data takes. -/
def IPParser.blockSet (f : IPParser) : Finset Nat := Finset.Ico f.offset (f.offset + f.nblocks)

/-- No block is taken twice, and all fragments but the last carry whole blocks. -/
def Tiles (L : List IPParser) : Prop :=
  L.Pairwise (fun f g => Disjoint f.blockSet g.blockSet) ∧
    ∀ f ∈ L, f.flagMf = true → 8 ∣ f.data.length

instance (L : List IPParser) : Decidable (Tiles L) := inferInstanceAs (Decidable (_ ∧ _))

section Tiling

variable {k : BufferId} {D : Nat} {L : List IPParser}

theorem IPParser.Fragment.blockSet_subset {f : IPParser} (h : f.Fragment k D) :
    f.blockSet ⊆ Finset.range ((D + 7) / 8) := by
  have hle := h.data_le
  intro b hb
  simp only [IPParser.blockSet, IPParser.nblocks, Finset.mem_Ico, Finset.mem_range] at hb ⊢
  omega

theorem IPParser.mem_blockSet_of_byte {f : IPParser} {x : Nat} (hlo : f.offset * 8 ≤ x)
    (hhi : x < f.offset * 8 + f.data.length) : x / 8 ∈ f.blockSet := by
  simp only [IPParser.blockSet, IPParser.nblocks, Finset.mem_Ico]
  omega

/-- When the count is right, every block is taken exactly when none is taken twice. -/
theorem blocks_covered_iff (hL : ∀ f ∈ L, f.Fragment k D) (hc : Complete D L) :
    (∀ b < (D + 7) / 8, ∃ f ∈ L, b ∈ f.blockSet) ↔
      L.Pairwise (fun f g => Disjoint f.blockSet g.blockSet) := by
  have hcard : ((L.map IPParser.blockSet).map Finset.card).sum =
      (Finset.range ((D + 7) / 8)).card := by
    rw [Finset.card_range, ← hc.2, List.map_map]
    congr 2
    funext f
    simp [IPParser.blockSet]
  rw [← List.pairwise_map, ← covers_iff_pairwise_disjoint (fun s hs => ?_) hcard]
  · simp
  · obtain ⟨f, hf, rfl⟩ := List.mem_map.1 hs
    exact (hL f hf).blockSet_subset

/-- Tiles cover. -/
theorem Tiles.covered (h : Tiles L) (hL : ∀ f ∈ L, f.Fragment k D) (hc : Complete D L) :
    Covered D L := by
  have hblocks := (blocks_covered_iff hL hc).2 h.1
  have hbytes : ∀ x < D, ∃ f ∈ L, f.offset * 8 ≤ x ∧ x < f.offset * 8 + f.data.length := by
    intro x hx
    obtain ⟨f, hf, hb⟩ := hblocks (x / 8) (by omega)
    simp only [IPParser.blockSet, IPParser.nblocks, Finset.mem_Ico] at hb
    refine ⟨f, hf, by omega, ?_⟩
    cases hmf : f.flagMf with
    | true =>
      obtain ⟨c, hlen⟩ := h.2 f hf hmf
      omega
    | false => rwa [(hL f hf).data_ends hmf]
  refine ⟨?_, hbytes⟩
  -- the header comes with byte 0, or with the empty last fragment of an empty datagram
  rcases Nat.eq_zero_or_pos D with rfl | hpos
  · obtain ⟨f, hf, hmf⟩ := hc.1
    have := (hL f hf).data_ends hmf
    exact ⟨f, hf, by omega⟩
  · obtain ⟨f, hf, hlo, -⟩ := hbytes 0 hpos
    exact ⟨f, hf, by omega⟩

/-- A cover with the right count is a tiling. -/
theorem Covered.tiles (h : Covered D L) (hL : ∀ f ∈ L, f.Fragment k D) (hc : Complete D L) :
    Tiles L := by
  have hdisj : L.Pairwise (fun f g => Disjoint f.blockSet g.blockSet) := by
    refine (blocks_covered_iff hL hc).1 fun b hb => ?_
    obtain ⟨f, hf, hlo, hhi⟩ := h.2 (8 * b) (by omega)
    refine ⟨f, hf, ?_⟩
    have := IPParser.mem_blockSet_of_byte hlo hhi
    rwa [Nat.mul_div_cancel_left b (by decide)] at this
  refine ⟨hdisj, fun f hf hmf => ?_⟩
  by_contra hodd
  have hle := (hL f hf).data_le
  -- the byte behind `f` lies in the last block of `f`, and another fragment takes that block too
  obtain ⟨g, hg, hne, hgb⟩ : ∃ g ∈ L, f ≠ g ∧
      (f.offset * 8 + f.data.length) / 8 ∈ g.blockSet := by
    rcases hle.lt_or_eq with hlt | heq
    · obtain ⟨g, hg, hlo, hhi⟩ := h.2 _ hlt
      refine ⟨g, hg, ?_, IPParser.mem_blockSet_of_byte hlo hhi⟩
      rintro rfl
      omega
    · obtain ⟨g, hg, hgmf⟩ := hc.1
      have hge := (hL g hg).data_ends hgmf
      refine ⟨g, hg, ?_, ?_⟩
      · rintro rfl
        rw [hmf] at hgmf
        cases hgmf
      · simp only [IPParser.blockSet, IPParser.nblocks, Finset.mem_Ico]
        omega
  have hfb : (f.offset * 8 + f.data.length) / 8 ∈ f.blockSet := by
    simp only [IPParser.blockSet, IPParser.nblocks, Finset.mem_Ico]
    omega
  have : Std.Symm fun f g : IPParser => Disjoint f.blockSet g.blockSet := ⟨fun _ _ h => h.symm⟩
  exact Finset.disjoint_left.1 (hdisj.forall hf hg hne) hfb hgb

end Tiling

/-! ## Runs of calls -/

/-- A run of `_ip_reass`: the state, the fragments received since the entry was made, and the calls
so far, each with the fragments received for its datagram and its result. -/
structure ReassRun where
  state : ReassState
  seen : List IPParser
  calls : List (List IPParser × Except PyError (Option (List UInt8)))

namespace ReassRun

def init (s : ReassState) : ReassRun := ⟨s, [], []⟩

def step (t : ReassRun) (f : IPParser) : ReassRun :=
  { state := (ipReass t.state f).1
    seen := match (ipReass t.state f).2 with
      | .ok (some _) => []
      | _ => t.seen ++ [f]
    calls := t.calls ++ [(t.seen ++ [f], (ipReass t.state f).2)] }

/-- A call that does not raise, and returns a datagram only when it is covered. -/
def CallSound (D : Nat) (c : List IPParser × Except PyError (Option (List UInt8))) : Prop :=
  match c.2 with
  | .error _ => False
  | .ok none => True
  | .ok (some _) => Covered D c.1

instance (D : Nat) :
    (c : List IPParser × Except PyError (Option (List UInt8))) → Decidable (CallSound D c)
  | (_, .error _) => .isFalse id
  | (_, .ok none) => .isTrue trivial
  | (seen, .ok (some _)) => inferInstanceAs (Decidable (Covered D seen))

/-- Every call so far was sound. -/
def Sound (D : Nat) (t : ReassRun) : Prop := ∀ c ∈ t.calls, CallSound D c

instance (D : Nat) (t : ReassRun) : Decidable (t.Sound D) :=
  inferInstanceAs (Decidable (∀ c ∈ t.calls, CallSound D c))

/-- The condition on a call: a last fragment is the first of its kind, and when the count reaches
that of the datagram the fragments tile it. -/
def Admits (D : Nat) (t : ReassRun) (f : IPParser) : Prop :=
  (f.flagMf = false → ∀ g ∈ t.seen, g.flagMf = true) ∧
    (Complete D (t.seen ++ [f]) → Tiles (t.seen ++ [f]))

instance (D : Nat) (t : ReassRun) (f : IPParser) : Decidable (Admits D t f) :=
  inferInstanceAs (Decidable (_ ∧ _))

/-- The invariant of sound runs. -/
structure Inv (k : BufferId) (D : Nat) (t : ReassRun) : Prop where
  tracks : Tracks D t.state k t.seen
  fragments : ∀ g ∈ t.seen, g.Fragment k D
  sound : t.Sound D

section Step

variable {k : BufferId} {D : Nat} {t : ReassRun} {f : IPParser}

theorem sound_step (h : t.Sound D) : (t.step f).Sound D ↔
    CallSound D (t.seen ++ [f], (ipReass t.state f).2) := by
  simp only [Sound, step, List.forall_mem_append, List.forall_mem_singleton]
  exact and_iff_right h

theorem Inv.fragments_append (h : t.Inv k D) (hf : f.Fragment k D) :
    ∀ g ∈ t.seen ++ [f], g.Fragment k D :=
  List.forall_mem_append.2 ⟨h.fragments, List.forall_mem_singleton.2 hf⟩

theorem Inv.step (h : t.Inv k D) (hf : f.Fragment k D) (hadm : t.Admits D f) :
    (t.step f).Inv k D := by
  obtain ⟨honce, htiles⟩ := hadm
  have hall := h.fragments_append hf
  by_cases hc : Complete D (t.seen ++ [f])
  · obtain ⟨⟨dgram, hret⟩, hcache⟩ := ipReass_of_complete h.tracks hf h.fragments honce hc
    refine ⟨?_, ?_, (sound_step h.sound).2 ?_⟩
    · simpa only [ReassRun.step, hret] using tracks_nil hcache
    · simp [ReassRun.step, hret]
    · simpa only [CallSound, hret] using (htiles hc).covered hall hc
  · obtain ⟨hret, htracks⟩ := ipReass_of_not_complete h.tracks hf h.fragments honce hc
    refine ⟨?_, ?_, (sound_step h.sound).2 ?_⟩
    · simpa only [ReassRun.step, hret] using htracks
    · simpa only [ReassRun.step, hret] using hall
    · simp only [CallSound, hret]

/-- A sound call meets the condition. -/
theorem Inv.admits_of_sound (h : t.Inv k D) (hf : f.Fragment k D) (hs : (t.step f).Sound D) :
    t.Admits D f := by
  have hcall := (sound_step h.sound).1 hs
  have honce : f.flagMf = false → ∀ g ∈ t.seen, g.flagMf = true := by
    intro hmf g hg
    by_contra hgmf
    have hret := ipReass_repeated_last h.tracks hf hmf hg (Bool.eq_false_of_not_eq_true hgmf)
    simp only [CallSound, hret] at hcall
  refine ⟨honce, fun hc => ?_⟩
  obtain ⟨⟨dgram, hret⟩, -⟩ := ipReass_of_complete h.tracks hf h.fragments honce hc
  simp only [CallSound, hret] at hcall
  exact hcall.tiles (h.fragments_append hf) hc

end Step

end ReassRun

/-- **Reassembly is sound exactly when its count is a tiling.** For fragments of one datagram with
`D` bytes, in any number and order: no call raises and only covered datagrams are returned, all
along the run, if and only if at each call a last fragment is the first one received for its
datagram and, when the blocks received are as many as the datagram has, they tile it. -/
theorem reass_sound_iff (k : BufferId) (D : Nat) (s : ReassState) (hs : s.fragmentsCache k = none)
    (fs : List IPParser) (hfs : ∀ f ∈ fs, f.Fragment k D) :
    (∀ pre, pre <+: fs → (run ReassRun.step (.init s) pre).Sound D) ↔
      Guarded ReassRun.step (ReassRun.Admits D) (.init s) fs :=
  forall_reached_iff_guarded (I := ReassRun.Inv k D) (fun _ h => h.sound)
    (fun _ _ h hf hadm => h.step hf hadm) (fun _ _ h hf hsound => h.admits_of_sound hf hsound)
    ⟨tracks_nil hs, by simp [ReassRun.init], by simp [ReassRun.init, ReassRun.Sound]⟩
    (guarded_of_forall_mem hfs _)

/-- Two fragments, the last one first, and then the first one again. -/
theorem reass_sound_iff_two :
    let fs := [bareFragment false 1 [9, 9, 9], bareFragment true 0 (List.replicate 8 1),
      bareFragment true 0 (List.replicate 8 1)]
    (∀ f ∈ fs, f.Fragment bareId 11) ∧
      ∀ pre, pre <+: fs → (run ReassRun.step (.init .idle) pre).Sound 11 :=
  ⟨by decide +kernel,
    (reass_sound_iff bareId 11 .idle rfl _ (by decide +kernel)).2 (by decide +kernel)⟩

/-- The first fragment twice and the last of three: the count is three blocks, and the datagram is
returned although nothing came for the bytes from 8 to 15. -/
theorem reass_duplicate_leaves_hole :
    (∀ f ∈ [bareFragment true 0 (List.replicate 8 1), bareFragment true 0 (List.replicate 8 1),
        bareFragment false 2 (List.replicate 8 3)], f.Fragment bareId 24) ∧
      ¬ (run ReassRun.step (.init .idle) [bareFragment true 0 (List.replicate 8 1),
        bareFragment true 0 (List.replicate 8 1), bareFragment false 2 (List.replicate 8 3)]).Sound
          24 := by
  decide +kernel

end Tipy.Ip
