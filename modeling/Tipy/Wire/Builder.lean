import Tipy.Csum

/-!
# Builders

The builders of `tipy/protocols/*/builder.py`: objects with the fields of a header and the payload
under it, which write themselves to a frame. `TXRing._tx_loop` makes a frame of zeros, has the
outermost builder write to it, and cuts it to the length of the packet. A builder writes to what the
one above it leaves of the frame, up to its end, and the checksums are computed over all of that.
The trackers are left out.
-/

namespace Tipy.Wire

def MTU : Nat := 1500

def MSS : Nat := 1460

/-! ## Writing to a frame -/

/-- `frame[off:off + len(data)] = data`, on a memoryview. -/
def sliceAssign (frame : List UInt8) (off : Nat) (data : List UInt8) :
    Except PyError (List UInt8) :=
  if data = [] then .ok frame
  else match packInto frame off data with
    | some frame => .ok frame
    | none => .error .valueError

/-- `build(frame[off:])`. -/
def buildAt (frame : List UInt8) (off : Nat) (build : List UInt8 → Except PyError (List UInt8)) :
    Except PyError (List UInt8) := do
  let rest ← build (frame.drop off)
  return frame.take off ++ rest

/-- `pack_into('! H', frame, off, inet_csum(frame, phsum))`. -/
def writeCsum (frame : List UInt8) (off phsum : Nat) : Except PyError (List UInt8) :=
  structPackInto frame off [(.H, inetCsum frame phsum)]

/-! ## TCP -/

/-- `TCPOptEOL`, `TCPOptNOP` and `TCPOptMSS`. -/
inductive TCPOpt where
  | eol (count : Nat)
  | nop
  | mss
deriving Repr, DecidableEq

def TCPOpt.len : TCPOpt → Nat
  | .eol count => count
  | .nop => 1
  | .mss => 4

/-- `build` of an option. That of `TCPOptEOL` gives one value to a format of `count` values. -/
def TCPOpt.build (frame : List UInt8) (offset : Nat) : TCPOpt → Except PyError (List UInt8)
  | .eol count =>
    if count = 1 then structPackInto frame offset [(.B, 0)] else .error .structError
  | .nop => structPackInto frame offset [(.B, 1)]
  | .mss => structPackInto frame offset [(.B, 2), (.B, 4), (.H, MSS)]

/-- `len` of a `TCPOptBuilder`. -/
def tcpOptLen (options : List TCPOpt) : Nat := (options.map TCPOpt.len).sum

/-- `TCPOptBuilder.build`. -/
def tcpOptBuild (frame : List UInt8) (offset : Nat) : List TCPOpt → Except PyError (List UInt8)
  | [] => .ok frame
  | opt :: options => do
    let frame ← opt.build frame offset
    tcpOptBuild frame (offset + opt.len) options

/-- `TCPOptBuilder.__init__`, with `_tcp_opt_padding`. -/
def tcpOptBuilder (options : List TCPOpt) : Except PyError (List TCPOpt) :=
  if 40 < tcpOptLen options then .error .valueError
  else
    let pad := (4 - tcpOptLen options % 4) % 4
    .ok (if pad ≠ 0 then options ++ [.eol pad] else options)

/-- `TCPBuilder`. Options that are absent and an empty `TCPOptBuilder` are the same to it. -/
structure TCPBuilder where
  src : Nat
  dst : Nat
  seq : Nat
  ackSeq : Nat
  cwr : Bool
  ece : Bool
  urg : Bool
  ack : Bool
  psh : Bool
  rst : Bool
  syn : Bool
  fin : Bool
  window : Nat
  urgPtr : Nat
  options : List TCPOpt
  data : List UInt8

namespace TCPBuilder

variable (b : TCPBuilder)

def doff : Nat := if tcpOptLen b.options = 0 then 5 else tcpOptLen b.options / 4 + 5

def len : Nat := b.doff * 4 + b.data.length

/-- The flags as `build` shifts them together. -/
def flags : Nat :=
  b.cwr.toNat <<< 7 ||| b.ece.toNat <<< 6 ||| b.urg.toNat <<< 5 ||| b.ack.toNat <<< 4 |||
    b.psh.toNat <<< 3 ||| b.rst.toNat <<< 2 ||| b.syn.toNat <<< 1 ||| b.fin.toNat

def build (frame : List UInt8) (phsum : Nat) : Except PyError (List UInt8) := do
  let frame ← structPackInto frame 0 [(.H, b.src), (.H, b.dst), (.I, b.seq), (.I, b.ackSeq),
    (.H, b.doff <<< 12 ||| b.flags), (.H, b.window), (.H, 0), (.H, b.urgPtr)]
  let frame ← tcpOptBuild frame 20 b.options
  let frame ← sliceAssign frame (20 + tcpOptLen b.options) b.data
  writeCsum frame 16 phsum

/-- `to_bytes`. -/
def toBytes (psHdrSum : Nat) : Except PyError (List UInt8) :=
  b.build (List.replicate b.len 0) psHdrSum

end TCPBuilder

/-! ## UDP, ICMP and raw -/

def UDP_HEADER_LEN : Nat := 8

/-- `UDPBuilder`. -/
structure UDPBuilder where
  src : Nat
  dst : Nat
  data : List UInt8

namespace UDPBuilder

variable (b : UDPBuilder)

def len : Nat := b.data.length + UDP_HEADER_LEN

/-- `build`: the header and the data are packed by one format. -/
def build (frame : List UInt8) (phsum : Nat) : Except PyError (List UInt8) := do
  let fields ← match structPack [(.H, b.src), (.H, b.dst), (.H, b.len), (.H, 0)] with
    | some fields => pure fields
    | none => throw .structError
  let frame ← match packInto frame 0 (fields ++ b.data) with
    | some frame => pure frame
    | none => throw .structError
  writeCsum frame 6 phsum

/-- `to_bytes`. -/
def toBytes (psHdrSum : Nat) : Except PyError (List UInt8) :=
  b.build (List.replicate b.len 0) psHdrSum

end UDPBuilder

def DESTINATION_UNREACHABLE : Nat := 3

def TIME_EXCEEDED : Nat := 11

def ECHO_REQUEST : Nat := 8

def ECHO_REPLY : Nat := 0

/-- `ICMPBuilder`; every caller gives it data. -/
structure ICMPBuilder where
  type : Nat
  code : Nat
  data : List UInt8
  echoId : Option Nat
  echoSeq : Option Nat

namespace ICMPBuilder

variable (b : ICMPBuilder)

def len : Nat := b.data.length + 8

/-- `build`; packing `None` raises. -/
def build (frame : List UInt8) : Except PyError (List UInt8) :=
  if b.type ∈ [DESTINATION_UNREACHABLE, TIME_EXCEEDED] then do
    let frame ← structPackInto frame 0 [(.B, b.type), (.B, b.code), (.H, 0), (.I, 0)]
    let frame ← sliceAssign frame 8 b.data
    writeCsum frame 2 0
  else if b.type ∈ [ECHO_REQUEST, ECHO_REPLY] then
    match b.echoId, b.echoSeq with
    | some echoId, some echoSeq => do
      let frame ← structPackInto frame 0
        [(.B, b.type), (.B, b.code), (.H, 0), (.H, echoId), (.H, echoSeq)]
      let frame ← sliceAssign frame 8 b.data
      writeCsum frame 2 0
    | _, _ => .error .structError
  else .ok frame

end ICMPBuilder

/-- `RAWBuilder`. -/
structure RAWBuilder where
  data : List UInt8

def RAWBuilder.build (b : RAWBuilder) (frame : List UInt8) : Except PyError (List UInt8) :=
  sliceAssign frame 0 b.data

/-- What `tx_ip` takes as payload. -/
inductive Payload where
  | udp (b : UDPBuilder)
  | tcp (b : TCPBuilder)
  | icmp (b : ICMPBuilder)
  | raw (b : RAWBuilder)

namespace Payload

def len : Payload → Nat
  | .udp b => b.len
  | .tcp b => b.len
  | .icmp b => b.len
  | .raw b => b.data.length

/-- `build(frame)`, or `build(frame, phsum=...)`: `UDPBuilder` and `TCPBuilder` need the argument
`phsum`, and `RAWBuilder` has none of that name. -/
def build (frame : List UInt8) (phsum : Option Nat) : Payload → Except PyError (List UInt8)
  | .udp b => phsum.elim (.error .typeError) (b.build frame)
  | .tcp b => phsum.elim (.error .typeError) (b.build frame)
  | .icmp b => b.build frame
  | .raw b => phsum.elim (b.build frame) fun _ => .error .typeError

/-- `to_bytes(ps_hdr_sum=...)`. `ICMPBuilder` does not have it; that of `RAWBuilder` takes no
argument. -/
def toBytes (psHdrSum : Except PyError Nat) : Payload → Except PyError (List UInt8)
  | .udp b => psHdrSum.bind b.toBytes
  | .tcp b => psHdrSum.bind b.toBytes
  | .icmp _ => .error .attributeError
  | .raw _ => psHdrSum.bind fun _ => .error .typeError

end Payload

/-! ## IP -/

def IP_VERSION : Nat := 4

def IP_IHL : Nat := 5

def IP_PROTO_ICMP : Nat := 1

def IP_PROTO_TCP : Nat := 6

def IP_PROTO_UDP : Nat := 17

def NEED_P_HDR_SUM : List Nat := [IP_PROTO_TCP, IP_PROTO_UDP]

/-- What `IPOptEOL` and `IPOptNOP` are given: a number, or the whole option area (by
`IPOptBuilder`). -/
inductive OptArg where
  | int (n : Nat)
  | raw (opts : List UInt8)
deriving Repr, DecidableEq

/-- `IPOptEOL`, `IPOptNOP`, `IPOptLSRR` and `IPOptUnknown`. -/
inductive IPOpt where
  | eol (paddCount : OptArg)
  | nop (opt : OptArg)
  | lsrr (opt : List UInt8) (start stop : Nat)
  | unknown (opt : List UInt8) (start stop : Nat)
deriving Repr, DecidableEq

namespace IPOpt

/-- `len`, which must return a number. -/
def len : IPOpt → Except PyError Nat
  | .eol (.int n) => .ok n
  | .eol (.raw _) => .error .typeError
  | .nop _ => .ok 1
  | .lsrr opt _ _ => .ok opt.length
  | .unknown opt start _ => .ok (opt.drop start).length

def copyFlag : IPOpt → Bool
  | .lsrr .. => true
  | _ => false

/-- `build`. The format of `IPOptLSRR` cuts the option to the length of its slice, or fills it up.
-/
def build (frame : List UInt8) (offset : Nat) : IPOpt → Except PyError (List UInt8)
  | .eol (.int n) => ofPack (packInto frame offset (List.replicate n 0))
  | .eol (.raw _) => .error .structError
  | .nop (.int n) => structPackInto frame offset [(.B, n)]
  | .nop (.raw _) => .error .structError
  | .lsrr opt start stop =>
    let k := (slice opt start (start + stop)).length
    ofPack (packInto frame offset (opt.take k ++ List.replicate (k - opt.length) 0))
  | .unknown .. => .ok frame
where
  ofPack : Option (List UInt8) → Except PyError (List UInt8)
    | some frame => .ok frame
    | none => .error .structError

end IPOpt

/-- `sum(len(opt) for opt in options)`. -/
def ipOptLen : List IPOpt → Except PyError Nat
  | [] => .ok 0
  | opt :: options => do return (← opt.len) + (← ipOptLen options)

/-- The loop of `build` over the options. -/
def ipOptBuild (frame : List UInt8) (offset : Nat) : List IPOpt → Except PyError (List UInt8)
  | [] => .ok frame
  | opt :: options => do
    let frame ← opt.build frame offset
    ipOptBuild frame (offset + (← opt.len)) options

/-- `_ihl`, for options that may be absent. -/
def ipIhl (options : List IPOpt) : Except PyError Nat := do
  if options = [] then return IP_IHL else return (← ipOptLen options) / 4 + IP_IHL

/-- `IPBuilder`. Absent options and an empty list are the same to it. -/
structure IPBuilder where
  payload : Payload
  id : Nat
  offset : Nat
  flagDf : Bool
  flagMf : Bool
  ttl : Nat
  protocol : Nat
  options : List IPOpt
  ihl : Nat
  totalLen : Nat
  src : Nat
  dst : Nat

namespace IPBuilder

/-- `__init__`, with the default offset and flags. -/
def new (payload : Payload) (id ttl protocol src dst : Nat) (options : List IPOpt) :
    Except PyError IPBuilder := do
  let ihl ← ipIhl options
  return { payload, id, offset := 0, flagDf := false, flagMf := false, ttl, protocol, options, ihl,
           totalLen := ihl * 4 + payload.len, src, dst }

variable (b : IPBuilder)

def len : Nat := b.ihl * 4 + b.payload.len

/-- `psum`: the pseudo header is packed in network byte order and summed in the order of the host.
-/
def psum : Except PyError Nat :=
  match structPack
    [(.I, b.src), (.I, b.dst), (.B, 0), (.B, b.protocol), (.H, b.totalLen - b.ihl * 4)] with
  | some phdr => .ok (sumCast 4 3 phdr)
  | none => .error .structError

def build (frame : List UInt8) : Except PyError (List UInt8) := do
  let frame ← structPackInto frame 0 [(.B, IP_VERSION <<< 4 ||| b.ihl), (.B, 0), (.H, b.totalLen),
    (.H, b.id), (.H, b.flagDf.toNat <<< 14 ||| b.flagMf.toNat <<< 13 ||| b.offset), (.B, b.ttl),
    (.B, b.protocol), (.H, 0), (.I, b.src), (.I, b.dst)]
  let frame ← ipOptBuild frame 20 b.options
  let frame ← writeCsum frame 10 0
  if b.protocol ∈ NEED_P_HDR_SUM then
    let phsum ← b.psum
    buildAt frame (b.ihl * 4) fun frame => b.payload.build frame (some phsum)
  else buildAt frame (b.ihl * 4) fun frame => b.payload.build frame none

end IPBuilder

/-! ## Ethernet -/

def ETHER_LEN : Nat := 14

/-- `EtherBuilder` around an IP packet. -/
structure EtherBuilder where
  payload : IPBuilder
  dst : Nat
  src : Nat
  type : Nat

namespace EtherBuilder

variable (b : EtherBuilder)

def len : Nat := ETHER_LEN + b.payload.len

def build (frame : List UInt8) : Except PyError (List UInt8) := do
  let frame ← structPackInto frame 0 [(.I, b.dst >>> 16), (.H, b.dst &&& 0xFFFF),
    (.I, b.src >>> 16), (.H, b.src &&& 0xFFFF), (.H, b.type)]
  buildAt frame 14 b.payload.build

/-- What `TXRing._tx_loop` writes to the interface. -/
def frame : Except PyError (List UInt8) := do
  let frame ← b.build (List.replicate (MTU + 14) 0)
  return frame.take b.len

end EtherBuilder

end Tipy.Wire
