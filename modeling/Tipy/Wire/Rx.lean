import Tipy.Ip.Reass
import Tipy.Tcp.Parser
import Tipy.Wire.Builder

/-!
# Receivers

`EtherParser`, `ICMPParser` and `UDPParser`, and what the receive functions do with a frame up to
the handler of its protocol: `rx_ether`, `rx_ip`, the checksum tests of `rx_tcp` and `rx_icmp`, and
all of `rx_udp`.
-/

namespace Tipy.Wire

open Tipy.Ip

/-! ## Parsers -/

/-- `EtherParser`. -/
structure EtherParser where
  frame : List UInt8

namespace EtherParser

variable (p : EtherParser)

def dst : Nat := u32At p.frame 0 <<< 16 ||| u16At p.frame 4

def src : Nat := u32At p.frame 6 <<< 16 ||| u16At p.frame 10

def type : Nat := u16At p.frame 12

end EtherParser

/-- `ICMPParser`. -/
structure ICMPParser where
  frame : List UInt8

namespace ICMPParser

variable (p : ICMPParser)

def type : Nat := byteAt p.frame 0

def code : Nat := byteAt p.frame 1

def echoId : Nat := u16At p.frame 4

def echoSeq : Nat := u16At p.frame 6

def data : List UInt8 := p.frame.drop 8

end ICMPParser

/-- `UDPParser`. Its `len` is the length of the header, not the field of that name. -/
structure UDPParser where
  frame : List UInt8

namespace UDPParser

variable (p : UDPParser)

def src : Nat := u16At p.frame 0

def dst : Nat := u16At p.frame 2

def len (_ : UDPParser) : Nat := UDP_HEADER_LEN

def data : List UInt8 := p.frame.drop UDP_HEADER_LEN

end UDPParser

/-! ## Checksum tests -/

/-- The test of `rx_ip`, which passes when the result is 0. -/
def rxIpCsum (p : IPParser) : Nat := inetCsum (slice p.frame 0 p.ihl) 0

/-- The test of `rx_tcp`: the length in the pseudo header is that of the segment. -/
def rxTcpCsum (p : IPParser) (frame : List UInt8) : Nat :=
  inetCsum frame (phdrSum p.src p.dst p.protocol frame.length)

/-- The test of `rx_icmp`. -/
def rxIcmpCsum (frame : List UInt8) : Nat := inetCsum frame 0

/-- The test of `rx_udp`: the length in the pseudo header is `len(packet_rx.udp)`. -/
def rxUdpCsum (p : IPParser) (frame : List UInt8) : Nat :=
  inetCsum frame (phdrSum p.src p.dst p.protocol (UDPParser.mk frame).len)

/-! ## Receiving -/

/-- `is_broadcast` of an address. -/
def IsBroadcast (ip : Nat) : Prop := ip = 0xFFFFFFFF

/-- `is_multicast` of an address. -/
def IsMulticast (ip : Nat) : Prop := ip &&& 0xF0000000 = 0xE0000000

instance (ip : Nat) : Decidable (IsBroadcast ip) := inferInstanceAs (Decidable (_ = _))

instance (ip : Nat) : Decidable (IsMulticast ip) := inferInstanceAs (Decidable (_ = _))

/-- What `rx_ip` does with a packet: it drops it, answers that its TTL is exceeded, hands the
payload on or gives it to the reassembly. -/
inductive IpInput where
  | dropped
  | ttlExceeded
  | whole (frame : List UInt8)
  | fragment
deriving DecidableEq

/-- `rx_ip` up to the handler of the protocol, with `ENABLE_IP_OPTION` off. -/
def rxIp (unicastIp : Nat) (p : IPParser) : IpInput :=
  if p.frame.length < 20 then .dropped
  else if rxIpCsum p ≠ 0 then .dropped
  else if 20 < p.ihl then .dropped
  else if IsBroadcast p.src ∨ IsMulticast p.src ∨ p.dst ≠ unicastIp then .dropped
  else if p.ttl = 0 then .ttlExceeded
  else if p.offset = 0 ∧ p.flagMf = false then .whole (slice p.frame p.ihl p.totalLen)
  else .fragment

/-- The key of the UDP sockets: local address and port, remote address and port. -/
structure UdpId where
  localIp : Nat
  localPort : Nat
  remoteIp : Nat
  remotePort : Nat
deriving Repr, DecidableEq

/-- The queues of the UDP sockets, and the ICMP errors sent, with their destination. -/
structure UdpCore where
  unicastIp : Nat
  sockets : UdpId → Option (List (List UInt8))
  errors : List (Nat × ICMPBuilder)

namespace UdpCore

variable (k : UdpCore)

/-- `rx_udp`. -/
def rxUdp (p : IPParser) (frame : List UInt8) : UdpCore :=
  if frame.length < 8 then k
  else if rxUdpCsum p frame ≠ 0 then k
  else
    let udp : UDPParser := ⟨frame⟩
    let id : UdpId := ⟨p.dst, udp.dst, p.src, udp.src⟩
    match k.sockets id with
    | some queue => { k with sockets := Function.update k.sockets id (some (queue ++ [udp.data])) }
    | none => { k with errors := k.errors ++ [(p.src, ⟨DESTINATION_UNREACHABLE, 3,
        p.header ++ p.data.take 8, none, none⟩)] }

/-- `rx_ether` for a frame that has a UDP packet in it; what goes to other handlers is not followed.
-/
def rxEther (frame : List UInt8) : UdpCore :=
  if (EtherParser.mk frame).type = 0x0800 then
    let p : IPParser := ⟨frame.drop 14⟩
    match rxIp k.unicastIp p with
    | .whole payload => if p.protocol = IP_PROTO_UDP then k.rxUdp p payload else k
    | _ => k
  else k

end UdpCore

end Tipy.Wire
