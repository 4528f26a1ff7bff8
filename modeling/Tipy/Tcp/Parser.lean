import Tipy.Python

/-!
# TCP segments

`TCPParser` of `tipy/protocols/tcp/parser.py`: the fields of a frame that `rx_tcp` has found to be
at least 20 bytes long. The header length is taken from the frame and may exceed it; then `dlen` is
negative, `data` is empty, and reading the options raises. The handlers work on a copy of the fields
(`Segment`), of which they change `seq`, `dlen` and the flags.
-/

namespace Tipy.Tcp

/-! ## Options -/

def TCP_EOL_KIND : Nat := 0

def TCP_NOP_KIND : Nat := 1

def TCP_MSS_KIND : Nat := 2

def TCP_NOP_LEN : Nat := 1

def TCP_MSS_LEN : Nat := 4

/-- The loop of `options` from `ptr` on; `mss` is the value read last. The only option kept is the
MSS. Every turn moves `ptr` on, so `doff - ptr` turns are enough (`optionsLoop_eq`). -/
def optionsLoop (frame : List UInt8) (doff : Nat) : Nat → Nat → Option Nat →
    Except PyError (Option Nat)
  | 0, _, mss => .ok mss
  | turns + 1, ptr, mss =>
    if ptr < doff then
      if frame.length ≤ ptr then .error .indexError
      else if byteAt frame ptr = TCP_MSS_KIND then
        if frame.length < ptr + TCP_MSS_LEN then .error .structError
        else optionsLoop frame doff turns (ptr + TCP_MSS_LEN) (some (u16At frame (ptr + 2)))
      else if byteAt frame ptr = TCP_NOP_KIND then
        optionsLoop frame doff turns (ptr + TCP_NOP_LEN) mss
      else if byteAt frame ptr = TCP_EOL_KIND then .ok mss
      else optionsLoop frame doff turns (ptr + 1) mss
    else .ok mss

theorem optionsLoop_eq {frame : List UInt8} {doff turns : Nat} {ptr : Nat} {mss : Option Nat}
    (h : doff - ptr ≤ turns) :
    optionsLoop frame doff turns ptr mss = optionsLoop frame doff (turns + 1) ptr mss := by
  induction turns generalizing ptr mss with
  | zero => rw [optionsLoop, optionsLoop, if_neg (by omega)]
  | succ turns ih =>
    rw [optionsLoop, optionsLoop, ih (by simp only [TCP_MSS_LEN]; omega),
      ih (by simp only [TCP_NOP_LEN]; omega), ih (by omega)]

/-! ## The parser -/

/-- `TCPParser`: a frame with a whole fixed header, which `rx_ip` cut out of an IP packet. -/
structure TCPParser where
  frame : List UInt8
  length_ge : 20 ≤ frame.length
  length_le : frame.length ≤ 65535

/-- The fields of a segment as the handlers use them. -/
structure Segment where
  seq : Int
  ackSeq : Int
  ack : Bool
  rst : Bool
  syn : Bool
  fin : Bool
  window : Nat
  dlen : Int
  data : List UInt8
  options : Except PyError (Option Nat)

namespace TCPParser

variable (p : TCPParser)

def src : Nat := u16At p.frame 0

def dst : Nat := u16At p.frame 2

def seq : Nat := u32At p.frame 4

def ackSeq : Nat := u32At p.frame 8

def doff : Nat := (byteAt p.frame 12 >>> 4) * 4

def flags : Nat := byteAt p.frame 13

def cwr : Bool := p.flags &&& 0x80 != 0

def ece : Bool := p.flags &&& 0x40 != 0

def urg : Bool := p.flags &&& 0x20 != 0

def ack : Bool := p.flags &&& 0x10 != 0

def psh : Bool := p.flags &&& 0x08 != 0

def rst : Bool := p.flags &&& 0x04 != 0

def syn : Bool := p.flags &&& 0x02 != 0

def fin : Bool := p.flags &&& 0x01 != 0

def window : Nat := u16At p.frame 14

def urgPtr : Nat := u16At p.frame 18

def options : Except PyError (Option Nat) := optionsLoop p.frame p.doff (p.doff - 20) 20 none

def dlen : Int := p.frame.length - p.doff

def data : List UInt8 := p.frame.drop p.doff

/-- The fields before a handler has changed any of them. -/
def segment : Segment where
  seq := p.seq
  ackSeq := p.ackSeq
  ack := p.ack
  rst := p.rst
  syn := p.syn
  fin := p.fin
  window := p.window
  dlen := p.dlen
  data := p.data
  options := p.options

end TCPParser

/-! ## What a parsed segment satisfies -/

/-- The ranges of the fields of a frame. -/
structure Segment.Parsed (p : Segment) : Prop where
  seq_range : 0 ≤ p.seq ∧ p.seq < 4294967296
  ackSeq_range : 0 ≤ p.ackSeq ∧ p.ackSeq < 4294967296
  window_lt : p.window < 65536
  dlen_range : -40 ≤ p.dlen ∧ p.dlen ≤ 65535
  length_data : (p.data.length : Int) = max 0 p.dlen

theorem byteAt_lt (frame : List UInt8) (i : Nat) : byteAt frame i < 256 := UInt8.toNat_lt _

theorem u16At_lt (frame : List UInt8) (i : Nat) : u16At frame i < 65536 := by
  have := byteAt_lt frame i
  have := byteAt_lt frame (i + 1)
  unfold u16At
  omega

theorem u32At_lt (frame : List UInt8) (i : Nat) : u32At frame i < 4294967296 := by
  have := u16At_lt frame i
  have := u16At_lt frame (i + 2)
  unfold u32At
  omega

theorem TCPParser.parsed (p : TCPParser) : p.segment.Parsed where
  seq_range := by
    have := u32At_lt p.frame 4
    simp only [segment, seq]
    omega
  ackSeq_range := by
    have := u32At_lt p.frame 8
    simp only [segment, ackSeq]
    omega
  window_lt := u16At_lt _ _
  dlen_range := by
    have := p.length_ge
    have := p.length_le
    have hdoff : p.doff ≤ 60 := by
      have := byteAt_lt p.frame 12
      simp only [doff, Nat.shiftRight_eq_div_pow]
      omega
    simp only [segment, dlen]
    omega
  length_data := by
    simp only [segment, data, dlen, List.length_drop]
    omega

/-! ## Sample frames -/

/-- A frame with a bare header, from port 80 to port 1234, for runs on fixed inputs. -/
def sampleFrame (seq ackSeq : Nat) (flags : UInt8) (window : Nat) (data : List UInt8) :
    List UInt8 :=
  be16 80 ++ be16 1234 ++ be32 seq ++ be32 ackSeq ++ [0x50, flags] ++ be16 window ++
    [0, 0, 0, 0] ++ data.take 1460

theorem length_sampleFrame (seq ackSeq : Nat) (flags : UInt8) (window : Nat) (data : List UInt8) :
    20 ≤ (sampleFrame seq ackSeq flags window data).length ∧
      (sampleFrame seq ackSeq flags window data).length ≤ 65535 := by
  simp only [sampleFrame, List.length_append, length_be16, length_be32, List.length_cons,
    List.length_nil, List.length_take]
  omega

def TCPParser.sample (seq ackSeq : Nat) (flags : UInt8) (window : Nat) (data : List UInt8) :
    TCPParser where
  frame := sampleFrame seq ackSeq flags window data
  length_ge := (length_sampleFrame seq ackSeq flags window data).1
  length_le := (length_sampleFrame seq ackSeq flags window data).2

end Tipy.Tcp
