import Mathlib.Data.List.InsertIdx
import Tipy.Ip.ReassFaults

/-!
# What follows a packet in its frame

A frame may be longer than the packet in it. `rx_ip` cuts the payload off at the total length, but
`IPParser.data` goes on for the length of the header, and `data` is what the reassembly copies and
what an ICMP error quotes. So `_ip_reass` does the same with a frame that was padded only where it
does not get to the data, or where the bytes behind the data do not matter.
-/

namespace Tipy.Components

variable {κ κ' : Type}

/-- A task with what is seen of its callback. -/
def TimerTask.map (f : κ → κ') (t : TimerTask κ) : TimerTask κ' :=
  ⟨t.id, t.startTimeMs, t.expireAfterSec, f t.call, t.deleted⟩

namespace Timer

def map (f : κ → κ') (t : Timer κ) : Timer κ' := ⟨t.tasks.map (TimerTask.map f), t.counter⟩

@[simp] theorem map_counter (f : κ → κ') (t : Timer κ) : (t.map f).counter = t.counter := rfl

theorem map_remove (f : κ → κ') (t : Timer κ) (id : Nat) :
    (t.remove id).map f = (t.map f).remove id := by
  simp only [map, remove, List.map_map, mk.injEq, and_true]
  refine List.map_congr_left fun task _ => ?_
  by_cases hid : task.id = id
  · simp [TimerTask.map, hid]
  · simp [TimerTask.map, hid]

theorem map_scheduleTimer (f : κ → κ') (t : Timer κ) (nowMs : Int) (expireAfter : ℚ) (call : κ) :
    (t.scheduleTimer nowMs expireAfter call).2.map f =
      ((t.map f).scheduleTimer nowMs expireAfter (f call)).2 := by
  simp [map, scheduleTimer, TimerTask.map]

theorem map_popDue (f : κ → κ') (t : Timer κ) (nowMs : Int) (i : Nat) :
    (t.map f).popDue nowMs i = (t.popDue nowMs i).map fun due => (due.1.map f, due.2.map f) := by
  have hget : (t.map f).tasks[i]? = t.tasks[i]?.map (TimerTask.map f) := List.getElem?_map
  unfold popDue
  rw [hget]
  cases t.tasks[i]? with
  | none => rfl
  | some task =>
    have hat : (task.map f).executeAtMs = task.executeAtMs := rfl
    simp only [Option.map_some, hat]
    split
    · simp only [Option.map_some, map, List.eraseIdx_map]
    · rfl

theorem scheduleTimer_inj {t : Timer κ} {nowMs : Int} {expireAfter : ℚ} {call call' : κ}
    (h : (t.scheduleTimer nowMs expireAfter call).2 = (t.scheduleTimer nowMs expireAfter call').2) :
    call = call' := by
  simpa [scheduleTimer] using h

end Timer

end Tipy.Components

namespace Tipy.Ip

open Components

/-! ## The packet and the frame -/

/-- A packet with its header in it, that has the bytes its total length says. -/
structure IsPacket (p : List UInt8) : Prop where
  length_ge : 20 ≤ p.length
  ihl_le : (IPParser.mk p).ihl ≤ p.length
  totalLen : (IPParser.mk p).totalLen = p.length

/-- What an ICMP error for a packet is made of: its addresses, its header and eight bytes of its
data. -/
def IPParser.quote (p : IPParser) : Nat × Nat × List UInt8 :=
  (p.dst, p.src, p.header ++ p.data.take 8)

/-- Two parsers of one packet: they agree but for the bytes `w` behind the data. -/
structure SamePacket (p q : IPParser) (w : List UInt8) : Prop where
  ihl : q.ihl = p.ihl
  totalLen : q.totalLen = p.totalLen
  id : q.id = p.id
  flagsFragoff : q.flagsFragoff = p.flagsFragoff
  ttl : q.ttl = p.ttl
  protocol : q.protocol = p.protocol
  src : q.src = p.src
  dst : q.dst = p.dst
  header : q.header = p.header
  data : q.data = p.data ++ w
  length_data : p.ihl + p.data.length = p.totalLen

section Frame

variable {p z : List UInt8}

theorem byteAt_append {i : Nat} (h : i < p.length) : byteAt (p ++ z) i = byteAt p i := by
  rw [byteAt, byteAt, List.getD_eq_getElem?_getD, List.getElem?_append_left h,
    ← List.getD_eq_getElem?_getD]

theorem u16At_append {i : Nat} (h : i + 2 ≤ p.length) : u16At (p ++ z) i = u16At p i := by
  rw [u16At, u16At, byteAt_append (by omega), byteAt_append (by omega)]

theorem u32At_append {i : Nat} (h : i + 4 ≤ p.length) : u32At (p ++ z) i = u32At p i := by
  rw [u32At, u32At, u16At_append (by omega), u16At_append (by omega)]

theorem slice_append {lo hi : Nat} (h : hi ≤ p.length) : slice (p ++ z) lo hi = slice p lo hi := by
  rw [slice, slice, List.take_append_of_le_length h]

theorem IsPacket.length_append_ge (hp : IsPacket p) (z : List UInt8) : 20 ≤ (p ++ z).length := by
  have hlen := hp.length_ge
  rw [List.length_append]
  omega

/-- The header of a packet is what it is in a longer frame; the data goes on behind the packet. -/
theorem IsPacket.samePacket (hp : IsPacket p) (z : List UInt8) :
    SamePacket ⟨p⟩ ⟨p ++ z⟩ (z.take (IPParser.mk p).ihl) := by
  have hlen := hp.length_ge
  have hihl : (IPParser.mk (p ++ z)).ihl = (IPParser.mk p).ihl := by
    simp only [IPParser.ihl, byteAt_append (show 0 < p.length by omega)]
  have htotal : (IPParser.mk (p ++ z)).totalLen = (IPParser.mk p).totalLen := by
    simp only [IPParser.totalLen, u16At_append (show 2 + 2 ≤ p.length by omega)]
  have hle := hp.ihl_le
  refine ⟨hihl, htotal, ?_, ?_, ?_, ?_, ?_, ?_, ?_, ?_, ?_⟩
  · simp only [IPParser.id, u16At_append (show 4 + 2 ≤ p.length by omega)]
  · simp only [IPParser.flagsFragoff, u16At_append (show 6 + 2 ≤ p.length by omega)]
  · simp only [IPParser.ttl, byteAt_append (show 8 < p.length by omega)]
  · simp only [IPParser.protocol, byteAt_append (show 9 < p.length by omega)]
  · simp only [IPParser.src, u32At_append (show 12 + 4 ≤ p.length by omega)]
  · simp only [IPParser.dst, u32At_append (show 16 + 4 ≤ p.length by omega)]
  · simp only [IPParser.header, hihl, slice_append hle]
  · simp only [IPParser.data, hihl, htotal, slice, hp.totalLen]
    rw [List.take_of_length_le (Nat.le_add_left _ _), Nat.add_comm, List.take_length_add_append,
      List.drop_append_of_le_length hle]
  · simp only [IPParser.data, slice, hp.totalLen, List.length_drop, List.length_take]
    omega

end Frame

/-! ## What is seen of the reassembly -/

/-- What a callback of the reassembly comes to: it looks for the entry, and quotes the packet. -/
def ReassCall.seen : ReassCall → (Nat × Nat × List UInt8) × BufferId
  | .reassTimerExceeded p k => (p.quote, k)

/-- The same state but for the packets the timers keep, of which only the quote is used. -/
structure ReassState.Alike (s s' : ReassState) : Prop where
  cache : s'.fragmentsCache = s.fragmentsCache
  timer : s'.timer.map ReassCall.seen = s.timer.map ReassCall.seen
  nowMs : s'.nowMs = s.nowMs

/-- Two calls with the same outcome: what they leave is alike, and they return the same or both
raise. -/
structure ReassOutcome.Alike (r r' : ReassOutcome) : Prop where
  state : r.1.Alike r'.1
  result : r'.2.toOption = r.2.toOption

section Seen

variable {s : ReassState} {p q : IPParser} {w : List UInt8} {k : BufferId}
    {res res' : ReassResources}

theorem ReassState.Alike.refl (s : ReassState) : s.Alike s := ⟨rfl, rfl, rfl⟩

theorem ReassOutcome.Alike.refl (r : ReassOutcome) : r.Alike r := ⟨.refl _, rfl⟩

theorem put_alike_iff : (s.put k res).Alike (s.put k res') ↔ res' = res := by
  constructor
  · intro h
    have hentry := congrFun h.cache k
    simpa using hentry
  · rintro rfl
    exact .refl _

/-- Eight bytes of data are quoted, so what is behind eight bytes is not seen. -/
theorem SamePacket.quote_eq_iff (h : SamePacket p q w) (hw : w ≠ []) :
    q.quote = p.quote ↔ 8 ≤ p.data.length := by
  simp only [IPParser.quote, h.dst, h.src, h.header, h.data, Prod.mk.injEq, true_and,
    List.append_cancel_left_eq]
  constructor
  · intro heq
    by_contra hshort
    have hlen := congrArg List.length heq
    have hpos := List.length_pos_iff.2 hw
    simp only [List.length_take, List.length_append] at hlen
    omega
  · intro hlong
    rw [List.take_append_of_le_length hlong]

theorem ipReassTimer_alike_iff : (ipReassTimer s p k res).Alike (ipReassTimer s q k res') ↔
    { res' with timer := s.timer.counter } = { res with timer := s.timer.counter } ∧
      q.quote = p.quote := by
  constructor
  · intro h
    have hentry := congrFun h.cache k
    rw [ipReassTimer_self, ipReassTimer_self] at hentry
    refine ⟨Option.some.inj hentry, ?_⟩
    have htimer := h.timer
    simp only [ipReassTimer, ReassState.put, Timer.map_scheduleTimer] at htimer
    exact congrArg Prod.fst (Timer.scheduleTimer_inj htimer)
  · rintro ⟨hentry, hquote⟩
    refine ⟨?_, ?_, rfl⟩
    · simp only [ipReassTimer, ReassState.put, Timer.scheduleTimer, hentry]
    · simp only [ipReassTimer, ReassState.put, Timer.map_scheduleTimer, ReassCall.seen, hquote]

end Seen

/-! ## Alike states stay alike -/

section Alike

variable {s s' : ReassState} (ha : s.Alike s') (p : IPParser) (k : BufferId) (res : ReassResources)
include ha

theorem ReassState.Alike.counter : s'.timer.counter = s.timer.counter := by
  have htimer := congrArg Timer.counter ha.timer
  rwa [Timer.map_counter, Timer.map_counter] at htimer

theorem ReassState.Alike.put : (s.put k res).Alike (s'.put k res) := by
  refine ⟨?_, ha.timer, ha.nowMs⟩
  simp only [ReassState.put, ha.cache]

theorem ReassState.Alike.dealloc : (deallocIpReassMem s k).Alike (deallocIpReassMem s' k) := by
  refine ⟨?_, ha.timer, ha.nowMs⟩
  simp only [deallocIpReassMem, ha.cache]

theorem ReassState.Alike.removeTimer (id : Nat) :
    ({ s with timer := s.timer.remove id } : ReassState).Alike
      { s' with timer := s'.timer.remove id } := by
  refine ⟨ha.cache, ?_, ha.nowMs⟩
  simp only [Timer.map_remove, ha.timer]

theorem ReassState.Alike.ipReassTimer :
    (ipReassTimer s p k res).Alike (ipReassTimer s' p k res) := by
  refine ⟨?_, ?_, ha.nowMs⟩
  · simp only [Ip.ipReassTimer, ReassState.put, Timer.scheduleTimer, ha.cache, ha.counter]
  · simp only [Ip.ipReassTimer, ReassState.put, Timer.map_scheduleTimer, ha.timer, ha.nowMs]

theorem ReassState.Alike.put_outcome (result : Except PyError (Option (List UInt8))) :
    ReassOutcome.Alike (s.put k res, result) (s'.put k res, result) := ⟨ha.put k res, rfl⟩

theorem ReassState.Alike.finishReass : (finishReass s p k res).Alike (finishReass s' p k res) := by
  have hremoved := ha.removeTimer res.timer
  unfold Ip.finishReass
  dsimp only
  split
  · exact ⟨(hremoved.put k res).dealloc k, rfl⟩
  · exact ⟨hremoved.ipReassTimer p k res, rfl⟩

theorem ReassState.Alike.ipReassLast : (ipReassLast s p k res).Alike (ipReassLast s' p k res) := by
  unfold Ip.ipReassLast
  dsimp only
  split_ifs
  · exact ha.put_outcome k _ _
  cases packInto (List.replicate ((p.totalLen : Int) - p.ihl + p.offset * 8).toNat 0) (p.offset * 8)
      p.data with
  | none => exact ha.put_outcome k _ _
  | some buf =>
    cases res.temporaryDataBuffer with
    | none => exact ha.put_outcome k _ _
    | some frags =>
      dsimp only
      cases packAll buf frags with
      | error buf' => exact ha.put_outcome k _ _
      | ok buf' =>
        dsimp only
        cases patchTotalLen res.headerBuffer
            (res.headerBuffer.length + ((p.totalLen : Int) - p.ihl + p.offset * 8)) with
        | none => exact ha.put_outcome k _ _
        | some hdr => exact ha.finishReass p k _

theorem ReassState.Alike.ipReassAfterLast :
    (ipReassAfterLast s p k res).Alike (ipReassAfterLast s' p k res) := by
  unfold Ip.ipReassAfterLast
  cases lateHeader p res with
  | none => exact ha.put_outcome k _ _
  | some hdr =>
    dsimp only
    cases packInto res.dataBuffer (p.offset * 8) p.data with
    | none => exact ha.put_outcome k _ _
    | some buf => exact ha.finishReass p k _

theorem ReassState.Alike.ipReassBeforeLast :
    (ipReassBeforeLast s p k res).Alike (ipReassBeforeLast s' p k res) := by
  unfold Ip.ipReassBeforeLast
  cases res.temporaryDataBuffer with
  | none => exact ha.put_outcome k _ _
  | some frags => exact ⟨(ha.removeTimer res.timer).ipReassTimer p k _, rfl⟩

/-- One packet has the same outcome in both states. -/
theorem ReassState.Alike.ipReass : (ipReass s p).Alike (ipReass s' p) := by
  have halloc : (allocIpReassMem s p p.bufferId).Alike (allocIpReassMem s' p p.bufferId) := by
    unfold allocIpReassMem
    rw [ha.cache]
    split_ifs
    · exact ha.ipReassTimer p _ _
    · exact ha
  unfold Ip.ipReass
  dsimp only
  rw [halloc.cache]
  cases (allocIpReassMem s p p.bufferId).fragmentsCache p.bufferId with
  | none => exact ⟨halloc, rfl⟩
  | some res =>
    dsimp only
    split_ifs
    · exact halloc.ipReassLast p _ res
    · exact halloc.ipReassAfterLast p _ res
    · exact halloc.ipReassBeforeLast p _ res

end Alike

/-! ## When the padding does not matter -/

namespace ReassResources

variable (res : ReassResources) (p : IPParser) (w : List UInt8)

/-- A last fragment: padding makes the call raise before anything is copied into the new buffer. So
the packet must be refused too, because the temporary buffer is gone or has a fragment that reaches
behind the end, and what is copied before that must be nothing but zeros. -/
def LastHarmless : Prop :=
  match res.temporaryDataBuffer with
  | none => ∀ b ∈ p.data, b = 0
  | some frags =>
    FilledUntil (List.replicate (p.offset * 8) 0 ++ p.data) frags (List.replicate p.dataEnd 0)

/-- A middle fragment after the last one: the packet is refused, or the padding is in the buffer
already, behind the data; and then the packet must complete the datagram, or have the eight bytes
that the timer quotes. -/
def AfterLastHarmless : Prop :=
  ¬ res.TakesAfterLast p ∨
    (w <+: res.dataBuffer.drop (p.offset * 8 + p.data.length) ∧
      (res.blockCount + p.blocks = (res.totalDataLen + 7) / 8 ∨ 8 ≤ p.data.length))

/-- A packet of a session: a middle fragment before the last one is kept with its padding, unless
the temporary buffer is gone. -/
def PaddingHarmless : Prop :=
  if p.flagMf = false then res.LastHarmless p
  else if res.last then res.AfterLastHarmless p w
  else res.temporaryDataBuffer = none

end ReassResources

/-- The padding `w` of a fragment does not matter: there is a session, and it is as said there. -/
def PaddingHarmless (s : ReassState) (p : IPParser) (w : List UInt8) : Prop :=
  ∃ res, s.fragmentsCache p.bufferId = some res ∧ res.PaddingHarmless p w

section Branches

variable {s : ReassState} {p q : IPParser} {w : List UInt8} {k : BufferId} {res : ReassResources}

theorem SamePacket.bufferId (h : SamePacket p q w) : q.bufferId = p.bufferId := by
  simp only [IPParser.bufferId, h.src, h.dst, h.id, h.protocol]

theorem SamePacket.offset (h : SamePacket p q w) : q.offset = p.offset := by
  simp only [IPParser.offset, h.flagsFragoff]

theorem SamePacket.flagMf (h : SamePacket p q w) : q.flagMf = p.flagMf := by
  simp only [IPParser.flagMf, h.flagsFragoff]

theorem SamePacket.blocks (h : SamePacket p q w) : q.blocks = p.blocks := by
  simp only [IPParser.blocks, h.offset, h.totalLen, h.ihl]

theorem SamePacket.lateHeader_eq (h : SamePacket p q w) (res : ReassResources) :
    lateHeader q res = lateHeader p res := by
  simp only [lateHeader, h.offset, h.ihl, h.header]

theorem packInto_zeros {off : Nat} {data : List UInt8} :
    packInto (List.replicate (off + data.length) 0) off data =
        some (List.replicate off 0 ++ data) := by
  rw [packInto_eq_some (by rw [List.length_replicate]), List.take_replicate, List.drop_replicate]
  simp

theorem SamePacket.dataEnd (h : SamePacket p q w) : p.dataEnd = p.offset * 8 + p.data.length := by
  have hlen := h.length_data
  rw [IPParser.dataEnd]
  omega

/-- The outcome of a last fragment that is padded. -/
theorem SamePacket.ipReassLast_padded (h : SamePacket p q w) (hw : w ≠ []) :
    ipReassLast s q k res =
      (s.put k { res with
        totalDataLen := (p.dataEnd : Nat), last := true
        dataBuffer := List.replicate p.dataEnd 0 }, .error .structError) := by
  have hlen := h.length_data
  have htotal : (q.totalLen : Int) - q.ihl + q.offset * 8 = (p.dataEnd : Nat) := by
    rw [h.totalLen, h.ihl, h.offset, h.dataEnd]
    omega
  have hpos := List.length_pos_iff.2 hw
  have hout : packInto (List.replicate p.dataEnd 0) (q.offset * 8) q.data = none := by
    refine packInto_eq_none ?_
    rw [List.length_replicate, h.dataEnd, h.offset, h.data, List.length_append]
    omega
  have hnonneg : ¬ ((p.dataEnd : Nat) : Int) < 0 := by omega
  simp only [ipReassLast, htotal, if_neg hnonneg, Int.toNat_natCast, hout]

theorem SamePacket.ipReassLast_alike_iff (h : SamePacket p q w) (hw : w ≠ []) :
    (ipReassLast s p k res).Alike (ipReassLast s q k res) ↔ res.LastHarmless p := by
  have hlen := h.length_data
  have hend := h.dataEnd
  have htotal : (p.totalLen : Int) - p.ihl + p.offset * 8 = (p.dataEnd : Nat) := by
    rw [hend]
    omega
  have hnonneg : ¬ ((p.dataEnd : Nat) : Int) < 0 := by omega
  have hzeros : packInto (List.replicate p.dataEnd 0) (p.offset * 8) p.data =
      some (List.replicate (p.offset * 8) 0 ++ p.data) := by
    rw [hend]
    exact packInto_zeros
  rw [h.ipReassLast_padded hw]
  obtain ⟨dataBuffer, hdr, blocks, totalDataLen, temporary, last, timer⟩ := res
  unfold ipReassLast ReassResources.LastHarmless
  simp only [htotal, if_neg hnonneg, Int.toNat_natCast, hzeros]
  cases temporary with
  | none =>
    dsimp only
    have hdata : List.replicate p.dataEnd 0 = List.replicate (p.offset * 8) 0 ++ p.data ↔
        ∀ b ∈ p.data, b = 0 := by
      rw [hend, List.replicate_add, List.append_cancel_left_eq, eq_comm, List.eq_replicate_iff]
      exact and_iff_right rfl
    rw [← hdata]
    constructor
    · intro halike
      have hentry := put_alike_iff.1 halike.state
      simpa only [ReassResources.mk.injEq, and_true] using hentry
    · intro hbuf
      rw [hbuf]
      exact ⟨.refl _, rfl⟩
  | some frags =>
    dsimp only
    rw [← packAll_eq_error_iff]
    cases packAll (List.replicate (p.offset * 8) 0 ++ p.data) frags with
    | error buf =>
      dsimp only
      constructor
      · intro halike
        have hentry := put_alike_iff.1 halike.state
        simp only [ReassResources.mk.injEq, and_true] at hentry
        rw [hentry]
      · intro hbuf
        rw [Except.error.inj hbuf]
        exact ⟨.refl _, rfl⟩
    | ok buf =>
      -- the packet is taken, or the temporary buffer is gone
      refine iff_of_false ?_ (by rintro ⟨⟩)
      intro halike
      dsimp only at halike
      cases hpatch : patchTotalLen hdr (hdr.length + ((p.dataEnd : Nat) : Int)) with
      | none =>
        rw [hpatch] at halike
        have hentry := put_alike_iff.1 halike.state
        simp at hentry
      | some hdr' =>
        rw [hpatch] at halike
        have hresult := halike.result
        dsimp only at hresult
        rw [finishReass_snd] at hresult
        simp [Except.toOption] at hresult

/-- Padding behind the data changes nothing exactly when the buffer has it there. -/
theorem overwrite_append_eq_iff {buf data : List UInt8} {off : Nat} :
    overwrite buf off (data ++ w) = overwrite buf off data ↔
        w <+: buf.drop (off + data.length) := by
  have hdrop : buf.drop (off + (data ++ w).length) =
      (buf.drop (off + data.length)).drop w.length := by
    rw [List.drop_drop, List.length_append, Nat.add_assoc]
  simp only [overwrite, hdrop, List.append_assoc, List.append_cancel_left_eq]
  constructor
  · intro heq
    exact ⟨_, heq⟩
  · rintro ⟨rest, hrest⟩
    rw [← hrest, List.drop_left]

theorem finishReass_complete (hdone : res.blockCount = (res.totalDataLen + 7) / 8) :
    finishReass s p k res =
      (deallocIpReassMem ({ s with timer := s.timer.remove res.timer }.put k res) k,
      .ok (some (res.headerBuffer ++ res.dataBuffer))) := by
  simp [finishReass, isReassembled, hdone]

theorem finishReass_waits (hdone : ¬ res.blockCount = (res.totalDataLen + 7) / 8) :
    finishReass s p k res =
      (ipReassTimer { s with timer := s.timer.remove res.timer } p k res, .ok none) := by
  simp [finishReass, isReassembled, hdone]

/-- The end of a branch, with two data buffers. -/
theorem SamePacket.finishReass_alike_iff (h : SamePacket p q w) (hw : w ≠ []) (buf : List UInt8) :
    (finishReass s p k res).Alike (finishReass s q k { res with dataBuffer := buf }) ↔
      buf = res.dataBuffer ∧
        (res.blockCount = (res.totalDataLen + 7) / 8 ∨ 8 ≤ p.data.length) := by
  by_cases hdone : res.blockCount = (res.totalDataLen + 7) / 8
  · have hdone' : ({ res with dataBuffer := buf } : ReassResources).blockCount =
        (res.totalDataLen + 7) / 8 :=
      hdone
    rw [finishReass_complete hdone, finishReass_complete hdone']
    constructor
    · intro halike
      refine ⟨?_, .inl hdone⟩
      simpa [Except.toOption] using halike.result
    · rintro ⟨rfl, -⟩
      exact .refl _
  · have hdone' : ¬ ({ res with dataBuffer := buf } : ReassResources).blockCount =
        (res.totalDataLen + 7) / 8 :=
      hdone
    rw [finishReass_waits hdone, finishReass_waits hdone']
    simp only [hdone, false_or]
    rw [← h.quote_eq_iff hw]
    constructor
    · intro halike
      obtain ⟨hentry, hquote⟩ := ipReassTimer_alike_iff.1 halike.state
      simp only [ReassResources.mk.injEq, and_true] at hentry
      exact ⟨hentry, hquote⟩
    · rintro ⟨rfl, hquote⟩
      exact ⟨ipReassTimer_alike_iff.2 ⟨rfl, hquote⟩, rfl⟩

theorem SamePacket.ipReassAfterLast_alike_iff (h : SamePacket p q w) (hw : w ≠ []) :
    (ipReassAfterLast s p k res).Alike (ipReassAfterLast s q k res) ↔
    res.AfterLastHarmless p w := by
  have hpos := List.length_pos_iff.2 hw
  unfold ipReassAfterLast ReassResources.AfterLastHarmless
  simp only [h.lateHeader_eq, h.blocks, h.offset, h.header]
  by_cases htakes : res.TakesAfterLast p
  · have hhdr := htakes.1
    have hfit := htakes.2
    simp only [htakes, not_true_eq_false, false_or, lateHeader_of_takes hhdr,
      packInto_eq_overwrite hfit]
    by_cases hfit' : p.offset * 8 + q.data.length ≤ res.dataBuffer.length
    · simp only [packInto_eq_overwrite hfit']
      refine (h.finishReass_alike_iff hw (overwrite res.dataBuffer (p.offset * 8) q.data)).trans ?_
      rw [h.data, overwrite_append_eq_iff]
    · -- the packet is taken, and the padded one is not
      simp only [packInto_eq_none hfit']
      refine iff_of_false ?_ ?_
      · intro halike
        have hresult := halike.result
        rw [finishReass_snd] at hresult
        simp [Except.toOption] at hresult
      · rintro ⟨hahead, -⟩
        have hlen := hahead.length_le
        rw [h.data, List.length_append] at hfit'
        rw [List.length_drop] at hlen
        omega
  · refine iff_of_true ?_ (.inl htakes)
    by_cases hhdr : p.offset = 0 → 6 ≤ p.header.length ∧ 0 ≤ p.ihl + res.totalDataLen ∧
        p.ihl + res.totalDataLen ≤ 65535
    · have hfit : ¬ p.offset * 8 + p.data.length ≤ res.dataBuffer.length :=
        fun hfit => htakes ⟨hhdr, hfit⟩
      have hfit' : ¬ p.offset * 8 + q.data.length ≤ res.dataBuffer.length := by
        rw [h.data, List.length_append]
        omega
      simp only [lateHeader_of_takes hhdr, packInto_eq_none hfit, packInto_eq_none hfit']
      exact .refl _
    · simp only [lateHeader_of_not_takes hhdr]
      exact .refl _

/-- All the values a dictionary has for a key that was set. -/
theorem eq_of_mem_dictSet {κ ν : Type*} [DecidableEq κ] {d : List (κ × ν)} {a : κ} {v v' : ν}
    (hmem : (a, v') ∈ dictSet d a v) : v' = v := by
  unfold dictSet at hmem
  split at hmem
  · obtain ⟨e, -, he⟩ := List.mem_map.1 hmem
    split at he
    · cases he
      rfl
    · next hne =>
      subst he
      exact absurd rfl hne
  · next hnew =>
    rcases List.mem_append.1 hmem with hold | hnow
    · exact absurd (List.mem_map_of_mem hold) hnew
    · cases List.mem_singleton.1 hnow
      rfl

theorem SamePacket.ipReassBeforeLast_alike_iff (h : SamePacket p q w) (hw : w ≠ []) :
    (ipReassBeforeLast s p k res).Alike (ipReassBeforeLast s q k res) ↔
      res.temporaryDataBuffer = none := by
  unfold ipReassBeforeLast
  simp only [h.blocks, h.offset, h.header]
  cases res.temporaryDataBuffer with
  | none =>
    simp only [iff_true]
    exact .refl _
  | some frags =>
    refine iff_of_false ?_ (by rintro ⟨⟩)
    intro halike
    -- the data that is kept has the padding in it
    have hentry := (ipReassTimer_alike_iff.1 halike.state).1
    simp only [ReassResources.mk.injEq, Option.some.injEq, and_true, true_and] at hentry
    have hmem : (p.offset, q.data) ∈ dictSet frags p.offset p.data := by
      rw [← hentry]
      exact mem_dictSet_self
    have hdata := eq_of_mem_dictSet hmem
    rw [h.data] at hdata
    exact hw (by simpa using hdata)

/-- The last fragment is taken as the first of its session. -/
theorem SamePacket.takes_last_fresh (h : SamePacket p q w)
    (hfresh : s.fragmentsCache p.bufferId = none) (hmf : p.flagMf = false) :
    (entryOf s p p.bufferId).Takes p := by
  rw [entryOf, hfresh, Option.getD_none, ReassResources.Takes, if_pos hmf]
  exact ⟨h.length_data.le, ⟨[], rfl, fun e he => absurd he List.not_mem_nil⟩, .inl rfl⟩

/-- A last fragment that is padded is never taken. -/
theorem SamePacket.not_takes_last (h : SamePacket p q w) (hw : w ≠ []) (hmf : p.flagMf = false) :
    ¬ (entryOf s q q.bufferId).Takes q := by
  have hlen := h.length_data
  have hpos := List.length_pos_iff.2 hw
  rw [ReassResources.Takes, if_pos (h.flagMf.trans hmf)]
  rintro ⟨hdata, -⟩
  rw [h.data, List.length_append, h.ihl, h.totalLen] at hdata
  omega

/-- The entry of a session that a middle fragment has opened. -/
theorem ipReass_middle_fresh (hfresh : s.fragmentsCache p.bufferId = none) (hmf : p.flagMf = true) :
    ((ipReass s p).1.fragmentsCache p.bufferId).map (·.temporaryDataBuffer) =
      some (some [(p.offset, p.data)]) := by
  have halloc : allocIpReassMem s p p.bufferId = ipReassTimer s p p.bufferId freshResources :=
    if_pos hfresh
  simp only [ipReass, halloc, ipReassTimer_self, hmf, Bool.true_eq_false,
    Bool.false_eq_true, if_false, freshResources, ipReassBeforeLast, Option.map_some]
  rfl

/-- **Padding and one call.** For a fragment the call has the same outcome on the packet and on the
padded frame exactly when the padding is harmless. -/
theorem SamePacket.ipReass_alike_iff (h : SamePacket p q w) (hw : w ≠ []) :
    (ipReass s p).Alike (ipReass s q) ↔ PaddingHarmless s p w := by
  unfold PaddingHarmless
  cases hcache : s.fragmentsCache p.bufferId with
  | none =>
    refine iff_of_false ?_ (by simp)
    intro halike
    cases hmf : p.flagMf with
    | false =>
      -- the first packet of a session is taken, and the padded one is not
      obtain ⟨e, herr⟩ := ipReass_of_not_takes (h.not_takes_last hw (s := s) hmf)
      have hresult := halike.result
      rw [ipReass_of_takes (h.takes_last_fresh hcache hmf), herr] at hresult
      simp [Except.toOption] at hresult
    | true =>
      have hmf' : q.flagMf = true := h.flagMf.trans hmf
      have hcache' : s.fragmentsCache q.bufferId = none := by rw [h.bufferId, hcache]
      have hkept := ipReass_middle_fresh hcache' hmf'
      rw [halike.state.cache, h.bufferId, ipReass_middle_fresh hcache hmf, h.offset,
        h.data] at hkept
      exact hw (by simpa using hkept)
  | some res =>
    have halloc : ∀ r : IPParser, allocIpReassMem s r p.bufferId = s :=
      fun r => if_neg (by simp [hcache])
    simp only [Option.some.injEq, exists_eq_left']
    simp only [ipReass, h.bufferId, halloc, hcache, h.flagMf, ReassResources.PaddingHarmless]
    split
    · exact h.ipReassLast_alike_iff hw
    · split
      · exact h.ipReassAfterLast_alike_iff hw
      · exact h.ipReassBeforeLast_alike_iff hw

end Branches

end Tipy.Ip
