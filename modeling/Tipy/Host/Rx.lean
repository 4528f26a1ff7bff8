import Tipy.Arp.Probe
import Tipy.Tcp.Stack

/-!
# The receive path

`Core.handle_packet`: everything the RX thread does with one frame, from `rx_ether` through
`rx_arp`, `rx_ip` with its reassembly, `rx_icmp`, `rx_udp`, `rx_tcp` and `rx_raw` to the socket or
the answer that is sent, with every table these functions read or change. The thread has no handler
for exceptions: one that leaves `handle_packet` ends it, and no frame is received after that.

A whole packet is long enough for the fields of its header to be read. A reassembled datagram need
not be, so reading its fields may raise.
-/

namespace Tipy

open Components Arp Ip Wire

/-! ## The state -/

/-- The key of the raw sockets: local address, protocol and remote address. -/
structure RipId where
  localIp : Nat
  protocol : Nat
  remoteIp : Nat
deriving Repr, DecidableEq

/-- The core with all its tables. For a UDP or raw socket it has the queue of the socket. -/
structure Host extends Startup Datagram where
  reass : ReassState
  udp : UdpId → Option (List (List UInt8))
  rip : RipId → Option (List (List UInt8))
  tcp : Tcp.TCPTable
  tcpEvents : List Tcp.TCPEvent

/-- What a call of `tx_ip` is given beside its arguments: the random ids of the packet and of its
fragments, and a bound for the loop of `_fragment`. -/
structure Picks where
  id : Nat
  fragId : Nat
  turns : Nat

namespace Host

variable (h : Host)

/-! ## Answers -/

/-- `tx_ip` with the TTL and the options of an answer. -/
def txIp (payload : Payload) (src dst protocol : Nat) (x : Picks) : Host × TxEnd :=
  let r := Ip.txIp h.core payload src dst 64 protocol [] x.id x.fragId x.turns
  ({ h with core := r.1 }, r.2)

/-- `tx_icmp`. -/
def txIcmp (src dst : Nat) (b : ICMPBuilder) (x : Picks) : Host × TxEnd :=
  h.txIp (.icmp b) src dst IP_PROTO_ICMP x

/-- `tx_tcp`, for a segment without options. -/
def txTcp (id : Tcp.SockId) (t : Tcp.TxTcp) (x : Picks) : Host × TxEnd :=
  h.txIp (.tcp {
    src := id.localPort, dst := id.remotePort, seq := t.seq.toNat, ackSeq := t.ackSeq.toNat,
    cwr := false, ece := false, urg := false, ack := t.ack, psh := t.psh, rst :=
      t.rst, syn := t.syn,
    fin := t.fin, window := t.window.toNat, urgPtr := 0, options := [], data := t.data })
    id.localIp id.remoteIp IP_PROTO_TCP x

/-- An ICMP error for a packet: its header and the first eight bytes of its data go back to its
source. -/
def icmpError (p : IPParser) (type code : Nat) (x : Picks) : Host × TxEnd :=
  h.txIcmp p.dst p.src ⟨type, code, p.header ++ p.data.take 8, none, none⟩ x

/-- `_icmp_proto_unreach`. -/
def icmpProtoUnreach (p : IPParser) (x : Picks) : Host × TxEnd :=
  h.icmpError p DESTINATION_UNREACHABLE 2 x

/-- `_icmp_ttl_exceeded`. -/
def icmpTtlExceeded (p : IPParser) (x : Picks) : Host × TxEnd := h.icmpError p TIME_EXCEEDED 0 x

/-- `_icmp_defragment_exceeded`. -/
def icmpDefragmentExceeded (p : IPParser) (x : Picks) : Host × TxEnd :=
  h.icmpError p TIME_EXCEEDED 1 x

/-! ## Fields that may be missing -/

/-- A field of the header that ends before byte `stop`; reading it raises when the packet is
shorter. -/
def field {α : Type} (p : IPParser) (stop : Nat) (e : PyError) (a : α) : Except PyError α :=
  if stop ≤ p.frame.length then .ok a else .error e

def readTotalLen (p : IPParser) : Except PyError Nat := field p 4 .structError p.totalLen

def readProtocol (p : IPParser) : Except PyError Nat := field p 10 .indexError p.protocol

def readSrc (p : IPParser) : Except PyError Nat := field p 16 .structError p.src

def readDst (p : IPParser) : Except PyError Nat := field p 20 .structError p.dst

/-- Going on with a value that was read. -/
def reading {α : Type} (r : Except PyError α) (next : α → Host × TxEnd) : Host × TxEnd :=
  match r with
  | .ok a => next a
  | .error e => (h, .raised e)

/-! ## ICMP -/

/-- The start of the two handlers for an unreachable destination. `IPAddress` is a name the module
imports for the type checker only, so that looking it up raises; what comes after it is never
reached. -/
def quotedHeader (errData : List UInt8) : Host × TxEnd :=
  if errData = [] then (h, .raised .indexError) else (h, .raised .nameError)

/-- `_h_icmp_dest_unreach_port`. -/
def hIcmpDestUnreachPort (icmp : ICMPParser) : Host × TxEnd := h.quotedHeader icmp.data

/-- `_h_icmp_dest_unreach_proto`. -/
def hIcmpDestUnreachProto (icmp : ICMPParser) : Host × TxEnd := h.quotedHeader icmp.data

/-- `_h_icmp_echo_req`. -/
def hIcmpEchoReq (p : IPParser) (icmp : ICMPParser) (x : Picks) : Host × TxEnd :=
  h.reading (readSrc p) fun src => h.reading (readDst p) fun dst =>
    h.txIcmp dst src ⟨ECHO_REPLY, 0, icmp.data, some icmp.echoId, some icmp.echoSeq⟩ x

/-- `get_data` of the raw socket `id`, if there is one. -/
def ripGetData (id : RipId) (packet : List UInt8) : Host :=
  match h.rip id with
  | some queue => { h with rip := Function.update h.rip id (some (queue ++ [packet])) }
  | none => h

/-- `_h_icmp_echo_rep`. -/
def hIcmpEchoRep (p : IPParser) (icmp : ICMPParser) : Host × TxEnd :=
  h.reading (readSrc p) fun src => h.reading (readDst p) fun dst =>
    (h.ripGetData ⟨dst, p.protocol, src⟩ icmp.frame, .returned)

/-- `rx_icmp`. -/
def rxIcmp (p : IPParser) (frame : List UInt8) (x : Picks) : Host × TxEnd :=
  let icmp : ICMPParser := ⟨frame⟩
  if frame.length < 8 then (h, .returned)
  else if rxIcmpCsum frame ≠ 0 then (h, .returned)
  else if icmp.type = DESTINATION_UNREACHABLE ∧ icmp.code = 3 then h.hIcmpDestUnreachPort icmp
  else if icmp.type = DESTINATION_UNREACHABLE ∧ icmp.code = 2 then h.hIcmpDestUnreachProto icmp
  else if icmp.type = ECHO_REQUEST ∧ icmp.code = 0 then h.hIcmpEchoReq p icmp x
  else if icmp.type = ECHO_REPLY ∧ icmp.code = 0 then h.hIcmpEchoRep p icmp
  else (h, .returned)

/-! ## UDP, TCP and raw -/

/-- `rx_udp`. -/
def rxUdp (p : IPParser) (frame : List UInt8) (x : Picks) : Host × TxEnd :=
  if frame.length < 8 then (h, .returned)
  else h.reading (readDst p) fun dst => h.reading (readSrc p) fun src =>
    if rxUdpCsum p frame ≠ 0 then (h, .returned)
    else
      let udp : UDPParser := ⟨frame⟩
      let id : UdpId := ⟨dst, udp.dst, src, udp.src⟩
      match h.udp id with
      | some queue =>
        ({ h with udp := Function.update h.udp id (some (queue ++ [udp.data])) }, .returned)
      | none => h.icmpError p DESTINATION_UNREACHABLE 3 x

/-- `rx_tcp`; the length is packed into the pseudo header as 16 bits. -/
def rxTcp (p : IPParser) (frame : List UInt8) (x : Picks) : Host × TxEnd :=
  if hge : frame.length < 20 then (h, .returned)
  else h.reading (readDst p) fun dst => h.reading (readSrc p) fun src =>
    if hle : 65535 < frame.length then (h, .raised .structError)
    else if rxTcpCsum p frame ≠ 0 then (h, .returned)
    else
      let tcp : Tcp.TCPParser := ⟨frame, Nat.le_of_not_lt hge, Nat.le_of_not_lt hle⟩
      let id : Tcp.SockId := ⟨dst, tcp.dst, src, tcp.src⟩
      if h.tcp.sockets id ≠ none then
        ({ h with tcpEvents := h.tcpEvents ++ [⟨.rxSegment tcp, h.tcp.tcpcbs id⟩] }, .returned)
      else h.txTcp id (Tcp.Stack.resetFor tcp.segment) x

/-- `rx_raw`. -/
def rxRaw (_ : IPParser) (_ : List UInt8) (_ : Picks) : Host × TxEnd := (h, .returned)

/-! ## IP -/

/-- `ip_protocol_map`. -/
def ipProtocolMap (protocol : Nat) :
    Option (Host → IPParser → List UInt8 → Picks → Host × TxEnd) :=
  if protocol = 255 then some rxRaw
  else if protocol = IP_PROTO_ICMP then some rxIcmp
  else if protocol = IP_PROTO_UDP then some rxUdp
  else if protocol = IP_PROTO_TCP then some rxTcp
  else none

/-- The end of `rx_ip`, for a datagram that was reassembled and is not empty. -/
def rxDatagram (dgram : List UInt8) (x : Picks) : Host × TxEnd :=
  let p : IPParser := ⟨dgram⟩
  h.reading (readTotalLen p) fun totalLen => h.reading (readProtocol p) fun protocol =>
    match ipProtocolMap protocol with
    | some nextLayer => nextLayer h p (slice dgram p.ihl totalLen) x
    | none =>
      h.reading (readDst p) fun dst => h.reading (readSrc p) fun src =>
        match h.rip ⟨dst, protocol, src⟩ with
        | some _ => (h.ripGetData ⟨dst, protocol, src⟩ p.data, .returned)
        | none => h.icmpProtoUnreach p x

/-- `rx_ip` from the reassembly on. -/
def rxReass (p : IPParser) (x : Picks) : Host × TxEnd :=
  let r := ipReass h.reass p
  let h := { h with reass := r.1 }
  match r.2 with
  | .error e => (h, .raised e)
  | .ok none => (h, .returned)
  | .ok (some dgram) => if dgram = [] then (h, .returned) else h.rxDatagram dgram x

/-- The key of the raw socket for a packet. -/
def ripId (p : IPParser) : RipId := ⟨p.dst, p.protocol, p.src⟩

/-- `rx_ip`. What a raw socket has been given goes on to the reassembly as well. -/
def rxIp (frame : List UInt8) (x : Picks) : Host × TxEnd :=
  let p : IPParser := ⟨frame⟩
  match h.core.unicastIp with
  -- `self.unicast_ip.ip` is the last thing to be looked at before the packet is dropped
  | none => if Wire.rxIp p.dst p = .dropped then (h, .returned) else (h, .raised .attributeError)
  | some unicastIp =>
    match Wire.rxIp unicastIp p with
    | .dropped => (h, .returned)
    | .ttlExceeded => h.icmpTtlExceeded p x
    | .whole payload =>
      match ipProtocolMap p.protocol with
      | some nextLayer => nextLayer h p payload x
      | none =>
        match h.rip (ripId p) with
        | none => h.icmpProtoUnreach p x
        | some _ => (h.ripGetData (ripId p) p.data).rxReass p x
    | .fragment => h.rxReass p x

/-! ## Ethernet -/

/-- The result of a call that ends. -/
def ended : Except PyError Unit → TxEnd
  | .ok _ => .returned
  | .error e => .raised e

/-- `rx_arp`, with the notification of the starting thread. -/
def rxArp (bytes : List UInt8) : Host × TxEnd :=
  let r := h.core.rxArp ⟨bytes⟩ (bytes.drop 14)
  let h' := { h with core := r.1 }
  (if Startup.ProbeAnswered h.core ⟨bytes⟩ ⟨bytes.drop 14⟩ then
    { h' with toStartup := h'.toStartup.notify }
  else h', ended r.2)

/-- `handle_packet`, which is `rx_ether`. The map of the Ethernet types has an entry for IPv4 only
after the address was assigned; other frames are dropped. -/
def handlePacket (bytes : List UInt8) (x : Picks) : Host × TxEnd :=
  let ether : EtherParser := ⟨bytes⟩
  if bytes.length < 14 then (h, .raised .structError)
  else if ether.type = 0x0806 then h.rxArp bytes
  else if ether.type = 0x0800 ∧ h.ipHandler = true then h.rxIp (bytes.drop 14) x
  else (h, .returned)

/-! ## Runs -/

/-- `_reass_timer_exceeded`. -/
def reassTimerExceeded (x : Picks) : ReassCall → Host
  | .reassTimerExceeded p k =>
    if h.reass.fragmentsCache k = none then h
    else ({ h with reass := deallocIpReassMem h.reass k }.icmpDefragmentExceeded p x).1

end Host

/-- What can happen: the RX thread takes a frame, the starting thread goes on, a timer of ARP or of
the reassembly is due, time passes, a packet is sent, and the application and the TCP threads change
the tables of the sockets. -/
inductive HostEvent where
  | frame (bytes : List UInt8) (x : Picks)
  | resume
  | timer (i : Nat)
  | reassTimer (i : Nat) (x : Picks)
  | elapse (ms : Nat)
  | txIp (payload : Payload) (src dst ttl protocol : Nat) (options : List IPOpt) (x : Picks)
  | udp (id : UdpId) (queue : Option (List (List UInt8)))
  | rip (id : RipId) (queue : Option (List (List UInt8)))
  | tcp (table : Tcp.TCPTable) (events : List Tcp.TCPEvent)

namespace Host

/-- The stack at the start of `_acquire_ipaddr`. -/
def start (unicastMac network mask router : Nat) (nowMs : Int) (ipaddr : String) (addr : Nat) :
    Host where
  toStartup := .probe (.init unicastMac network mask router nowMs) ipaddr addr
  reass := ⟨fun _ => none, .new, nowMs⟩
  udp _ := none
  rip _ := none
  tcp := ⟨fun _ => none, fun _ => none⟩
  tcpEvents := []

/-- One step. A frame that makes `handle_packet` raise ends the RX thread. -/
def step (h : Host) : HostEvent → Host
  | .frame bytes x =>
    if h.rxRuns then
      let r := h.handlePacket bytes x
      { r.1 with rxRuns := decide (r.2 = .returned) }
    else h
  | .resume => { h with toStartup := h.toStartup.step .resume }
  | .timer i => { h with toStartup := h.toStartup.step (.timer i) }
  | .reassTimer i x =>
    match if h.timerRuns then h.reass.timer.popDue h.reass.nowMs i else none with
    | some (task, timer) =>
      let h := { h with reass := { h.reass with timer } }
      if task.deleted then h else h.reassTimerExceeded x task.call
    | none => h
  | .elapse ms =>
    { h with
      toStartup := h.toStartup.step (.elapse ms)
      reass := { h.reass with nowMs := h.reass.nowMs + ms } }
  | .txIp payload src dst ttl protocol options x =>
    { h with core := (Ip.txIp h.core payload src dst ttl protocol options x.id x.fragId x.turns).1 }
  | .udp id queue => { h with udp := Function.update h.udp id queue }
  | .rip id queue => { h with rip := Function.update h.rip id queue }
  | .tcp table events => { h with tcp := table, tcpEvents := events }

end Host

end Tipy
