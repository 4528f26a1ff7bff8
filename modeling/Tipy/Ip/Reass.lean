import Mathlib.Logic.Function.Basic
import Tipy.Components.Timer
import Tipy.Python

/-!
# IP reassembly

`IPParser` of `tipy/protocols/ip/parser.py` and the reassembly of `tipy/protocols/ip/rx.py`. The
fragments of one datagram share a buffer id, under which `fragments_cache` keeps their data, the
header of the first of them, and a count of the 8-byte blocks received. `_ip_reass` has three
branches: the last fragment (no MF flag), a middle fragment after the last one, and a middle
fragment before it, whose data waits in a temporary dictionary. A call that raises leaves behind
what it wrote before, so the state is returned in either case.
-/

namespace Tipy.Ip

open Tipy.Components

/-! ## The packet -/

/-- `IPParser`: the fields are read from the frame. -/
structure IPParser where
  frame : List UInt8
deriving Repr, DecidableEq

namespace IPParser

variable (p : IPParser)

def ver : Nat := byteAt p.frame 0 >>> 4

def ihl : Nat := (byteAt p.frame 0 &&& 0xF) * 4

def totalLen : Nat := u16At p.frame 2

def id : Nat := u16At p.frame 4

def flagsFragoff : Nat := u16At p.frame 6

def flagDf : Bool := (p.flagsFragoff &&& 0x4000) != 0

def flagMf : Bool := (p.flagsFragoff &&& 0x2000) != 0

def offset : Nat := p.flagsFragoff &&& 0x1FFF

def ttl : Nat := byteAt p.frame 8

def protocol : Nat := byteAt p.frame 9

def src : Nat := u32At p.frame 12

def dst : Nat := u32At p.frame 16

/-- `data`; the upper end of the slice is `ihl + total_len`, not `total_len`. -/
def data : List UInt8 := slice p.frame p.ihl (p.ihl + p.totalLen)

def header : List UInt8 := slice p.frame 0 p.ihl

end IPParser

/-- The key of `fragments_cache`: source, destination, id and protocol. -/
structure BufferId where
  src : Nat
  dst : Nat
  id : Nat
  protocol : Nat
deriving Repr, DecidableEq

def IPParser.bufferId (p : IPParser) : BufferId := ⟨p.src, p.dst, p.id, p.protocol⟩

/-! ## The cache -/

/-- `DEFRAGMENTATION_TIMEOUT`, in seconds. -/
def DEFRAGMENTATION_TIMEOUT : ℚ := 10

/-- What is kept for one buffer id. `temporary_data_buffer` is `none` once it was deleted. -/
structure ReassResources where
  dataBuffer : List UInt8
  headerBuffer : List UInt8
  blockCount : Int
  totalDataLen : Int
  temporaryDataBuffer : Option (List (Nat × List UInt8))
  last : Bool
  timer : Nat

/-- The callbacks of the reassembly timers. -/
inductive ReassCall where
  | reassTimerExceeded (packet : IPParser) (bufferId : BufferId)

/-- The part of the core that reassembly works on. -/
structure ReassState where
  fragmentsCache : BufferId → Option ReassResources
  timer : Timer ReassCall
  nowMs : Int

/-- `fragments_cache[buffer_id] = res`. -/
def ReassState.put (s : ReassState) (k : BufferId) (res : ReassResources) : ReassState :=
  { s with fragmentsCache := Function.update s.fragmentsCache k (some res) }

/-- What a call comes to: the state it leaves and the value it returns (`none` is `False`) or the
exception it raises. -/
abbrev ReassOutcome := ReassState × Except PyError (Option (List UInt8))

/-- `_dealloc_ip_reass_mem`. -/
def deallocIpReassMem (s : ReassState) (k : BufferId) : ReassState :=
  { s with fragmentsCache := Function.update s.fragmentsCache k none }

/-- `_ip_reass_timer`: start a timer for the session and remember it in the entry. -/
def ipReassTimer (s : ReassState) (p : IPParser) (k : BufferId) (res : ReassResources) :
    ReassState :=
  let t := s.timer.scheduleTimer s.nowMs DEFRAGMENTATION_TIMEOUT (.reassTimerExceeded p k)
  { s with timer := t.2 }.put k { res with timer := t.1 }

/-- The entry `_alloc_ip_reass_mem` starts with; its timer is set right after. -/
def freshResources : ReassResources := ⟨[], [], 0, 0, some [], false, 0⟩

/-- `_alloc_ip_reass_mem`. -/
def allocIpReassMem (s : ReassState) (p : IPParser) (k : BufferId) : ReassState :=
  if s.fragmentsCache k = none then ipReassTimer s p k freshResources else s

/-- `_is_reassembled`. -/
def isReassembled (last : Bool) (blockCount totalDataLen : Int) : Bool :=
  last && blockCount == (totalDataLen + 7) / 8

/-- The blocks a fragment adds to `block_count`. -/
def IPParser.blocks (p : IPParser) : Int :=
  ((p.offset : Int) * 8 + p.totalLen - p.ihl + 7) / 8 - p.offset

/-- Copy the waiting fragments into the buffer; on a `struct.error` the buffer is as far as it
got. -/
def packAll (buf : List UInt8) : List (Nat × List UInt8) → Except (List UInt8) (List UInt8)
  | [] => .ok buf
  | (off, data) :: frags =>
    match packInto buf (off * 8) data with
    | none => .error buf
    | some buf => packAll buf frags

/-- The end of the two branches that may complete the datagram. -/
def finishReass (s : ReassState) (p : IPParser) (k : BufferId) (res : ReassResources) :
    ReassOutcome :=
  let s := { s with timer := s.timer.remove res.timer }
  if isReassembled true res.blockCount res.totalDataLen then
    (deallocIpReassMem (s.put k res) k, .ok (some (res.headerBuffer ++ res.dataBuffer)))
  else
    (ipReassTimer s p k res, .ok none)

/-- `header_buffer[2:4] = pack('!H', n)` when the header is there. -/
def patchTotalLen (hdr : List UInt8) (n : Int) : Option (List UInt8) :=
  if hdr = [] then some hdr else (packU16 n).map fun bs => hdr.take 2 ++ bs ++ hdr.drop 4

/-- The branch of the last fragment. -/
def ipReassLast (s : ReassState) (p : IPParser) (k : BufferId) (res : ReassResources) :
    ReassOutcome :=
  let total : Int := p.totalLen - p.ihl + p.offset * 8
  let res := { res with totalDataLen := total, last := true }
  if total < 0 then
    (s.put k res, .error .valueError)
  else
    let res := { res with dataBuffer := List.replicate total.toNat 0 }
    match packInto res.dataBuffer (p.offset * 8) p.data with
    | none => (s.put k res, .error .structError)
    | some buf =>
      let res := { res with dataBuffer := buf }
      match res.temporaryDataBuffer with
      -- a second last fragment finds the temporary buffer deleted
      | none => (s.put k res, .error .keyError)
      | some frags =>
        match packAll res.dataBuffer frags with
        | .error buf => (s.put k { res with dataBuffer := buf }, .error .structError)
        | .ok buf =>
          let res := { res with
            dataBuffer := buf
            temporaryDataBuffer := none
            blockCount := res.blockCount + p.blocks }
          match patchTotalLen res.headerBuffer (res.headerBuffer.length + res.totalDataLen) with
          | none => (s.put k res, .error .structError)
          | some hdr => finishReass s p k { res with headerBuffer := hdr }

/-- The header when the first fragment comes after the last one. The length is packed at offset 4,
which is the id field. -/
def lateHeader (p : IPParser) (res : ReassResources) : Option (List UInt8) :=
  if p.offset = 0 then
    (packU16 (p.ihl + res.totalDataLen)).bind fun bs => packInto p.header 4 bs
  else some res.headerBuffer

/-- The branch of a middle fragment when the last one is there. -/
def ipReassAfterLast (s : ReassState) (p : IPParser) (k : BufferId) (res : ReassResources) :
    ReassOutcome :=
  match lateHeader p res with
  | none => (s.put k { res with headerBuffer := p.header }, .error .structError)
  | some hdr =>
    let res := { res with headerBuffer := hdr, blockCount := res.blockCount + p.blocks }
    match packInto res.dataBuffer (p.offset * 8) p.data with
    | none => (s.put k res, .error .structError)
    | some buf => finishReass s p k { res with dataBuffer := buf }

/-- The branch of a middle fragment while the last one is missing. -/
def ipReassBeforeLast (s : ReassState) (p : IPParser) (k : BufferId) (res : ReassResources) :
    ReassOutcome :=
  let res := { res with
    headerBuffer := if p.offset = 0 then p.header else res.headerBuffer
    blockCount := res.blockCount + p.blocks }
  match res.temporaryDataBuffer with
  | none => (s.put k res, .error .keyError)
  | some frags =>
    let res := { res with temporaryDataBuffer := some (dictSet frags p.offset p.data) }
    (ipReassTimer { s with timer := s.timer.remove res.timer } p k res, .ok none)

/-- `_ip_reass`. -/
def ipReass (s : ReassState) (p : IPParser) : ReassOutcome :=
  let k := p.bufferId
  let s := allocIpReassMem s p k
  match s.fragmentsCache k with
  | none => (s, .error .keyError)
  | some res =>
    if p.flagMf = false then ipReassLast s p k res
    else if res.last then ipReassAfterLast s p k res
    else ipReassBeforeLast s p k res

/-! ## The cache after a call -/

section Cache

variable (s : ReassState) (p : IPParser) (k : BufferId) (res : ReassResources)

@[simp] theorem put_self : (s.put k res).fragmentsCache k = some res := by simp [ReassState.put]

@[simp] theorem deallocIpReassMem_self : (deallocIpReassMem s k).fragmentsCache k = none := by
  simp [deallocIpReassMem]

theorem ipReassTimer_self :
    (ipReassTimer s p k res).fragmentsCache k =
      some { res with
        timer := (s.timer.scheduleTimer s.nowMs DEFRAGMENTATION_TIMEOUT
          (.reassTimerExceeded p k)).1 } := by
  simp [ipReassTimer]

/-- The entry a call works on: the one in the cache, or a fresh one. -/
def entryOf : ReassResources :=
  (s.fragmentsCache k).getD { freshResources with
    timer := (s.timer.scheduleTimer s.nowMs DEFRAGMENTATION_TIMEOUT (.reassTimerExceeded p k)).1 }

theorem allocIpReassMem_self :
    (allocIpReassMem s p k).fragmentsCache k = some (entryOf s p k) := by
  unfold allocIpReassMem entryOf
  split
  · next h => rw [ipReassTimer_self, h, Option.getD_none]
  · next h =>
    obtain ⟨res, hres⟩ := Option.ne_none_iff_exists'.1 h
    rw [hres, Option.getD_some]

end Cache

end Tipy.Ip
