import Tipy.Arp.Cache
import Tipy.Wire.Layout
import Tipy.Wire.Rx

/-!
# Sending IP packets

`tx_ip` of `tipy/protocols/ip/tx.py`, and `IPFragBuilder`. A packet that fits the MTU goes to the
next hop, or waits for its address. A longer one is to be cut into fragments, but never is:
`IPFragBuilder.__init__` reads `self.__ihl`, an attribute that nothing has set, so `tx_ip` raises
whatever it is given (`txIp_long`).
-/

namespace Tipy.Ip

open Tipy.Wire Tipy.Arp

/-! ## Fragments -/

/-- `xs[:n]`. -/
def pyTake {α : Type*} (xs : List α) (n : Int) : List α :=
  if 0 ≤ n then xs.take n.toNat else xs.take (xs.length - (-n).toNat)

/-- `xs[n:]`. -/
def pyDrop {α : Type*} (xs : List α) (n : Int) : List α :=
  if 0 ≤ n then xs.drop n.toNat else xs.drop (xs.length - (-n).toNat)

/-- `IPFragBuilder`. The class has `_ihl` and `_total_len`, which `__init__` sets, and `__ihl` and
`__total_len`, which are `none` here as long as they are not set. -/
structure IPFragBuilder where
  payload : List UInt8
  id : Nat
  offset : Int
  flagDf : Bool
  flagMf : Bool
  ttl : Nat
  protocol : Nat
  options : List IPOpt
  ihl : Nat
  privateIhl : Option Nat
  totalLen : Nat
  privateTotalLen : Option Nat
  src : Nat
  dst : Nat

/-- Reading an attribute of an object. -/
def getAttribute {α : Type*} : Option α → Except PyError α
  | some a => .ok a
  | none => .error .attributeError

/-- `_ip_opt_padding`. -/
def ipOptPadding (options : List IPOpt) : Except PyError (List IPOpt) := do
  let r := (← ipOptLen options) % 4
  return if r ≠ 0 then options ++ [.eol (.int (4 - r))] else options

namespace IPFragBuilder

/-- `__init__`. -/
def new (payload : List UInt8) (id ttl protocol : Nat) (offset : Int) (flagMf : Bool)
    (src dst : Nat) (options : List IPOpt) : Except PyError IPFragBuilder := do
  let ihl ← ipIhl options
  -- `self._total_len = (self.__ihl * 4) + len(self._payload)`, on an object that has no `__ihl`
  let privateIhl : Option Nat := none
  let totalLen := (← getAttribute privateIhl) * 4 + payload.length
  return { payload, id, offset, flagDf := false, flagMf, ttl, protocol, options, ihl, privateIhl,
           totalLen, privateTotalLen := none, src, dst }

variable (b : IPFragBuilder)

/-- `_create_frags`: the fragment it appends. -/
def createFrags (dataPortion : List UInt8) (offset : Int) (flagMf : Bool) :
    Except PyError IPFragBuilder :=
  new dataPortion b.id b.ttl b.protocol offset flagMf b.src b.dst b.options

/-- `(MTU - self._ihl*4) // 8`. -/
def nfb : Int := ((MTU : Int) - b.ihl * 4) / 8

/-- One turn of the loop of `_fragment`: the fragment, and the object after it. The fields it resets
at the end are `__ihl` and `__total_len`. -/
def fragmentTurn (offset : Int) : Except PyError (IPFragBuilder × IPFragBuilder × Int) := do
  let frag ← b.createFrags (pyTake b.payload (b.nfb * 8)) offset true
  let payload := pyDrop b.payload (b.nfb * 8)
  let options ← if b.options = [] then pure [] else ipOptPadding (b.options.filter IPOpt.copyFlag)
  let privateIhl ← if b.options = [] then pure b.privateIhl else some <$> ipIhl options
  let privateTotalLen := (← getAttribute privateIhl) * 4 + payload.length
  return (frag, { b with payload, options, privateIhl, privateTotalLen := some privateTotalLen },
    offset + b.nfb)

/-- `_fragment`, with the fragments made so far; `none` when the turns are used up. -/
def fragment : Nat → IPFragBuilder → Int → List IPFragBuilder →
    Except PyError (Option (List IPFragBuilder))
  | 0, _, _, _ => .ok none
  | turns + 1, b, offset, frags =>
    if MTU < b.totalLen then do
      let (frag, b, offset) ← b.fragmentTurn offset
      fragment turns b offset (frags ++ [frag])
    else do
      -- `nfb = (MTU - self.__ihl * 4) // 8` is computed again, and not used
      let _ ← getAttribute b.privateIhl
      let frag ← b.createFrags b.payload offset false
      return some (frags ++ [frag])

/-- `get_frags`. -/
def getFrags (turns : Nat) : Except PyError (Option (List IPFragBuilder)) := fragment turns b 0 []

end IPFragBuilder

/-! ## `tx_ip` -/

/-- The datagrams of the stack. -/
inductive Datagram where
  | whole (b : IPBuilder)
  | frag (b : IPFragBuilder)

/-- How a call ends; `running` when the turns its loop was given are used up. -/
inductive TxEnd where
  | returned
  | raised (e : PyError)
  | running
deriving DecidableEq

/-- `is_in_subnet`. -/
def IsInSubnet (ip network mask : Nat) : Prop := ip &&& mask = network

instance (ip network mask : Nat) : Decidable (IsInSubnet ip network mask) :=
  inferInstanceAs (Decidable (_ = _))

/-- The address the link layer is to deliver to, and its MAC when that is known. -/
def route {δ ρ : Type} (k : Core δ ρ) (dst : Nat) : Nat × Option Nat :=
  if IsBroadcast dst then (dst, some 0xFFFFFFFFFFFF)
  else if IsInSubnet dst k.network k.mask then (dst, k.findEntry dst)
  else (k.router, k.findEntry k.router)

/-- The end of `tx_ip` for one datagram: it is sent, or it waits. -/
def txDatagram {δ : Type} (k : Core δ) (src tpa : Nat) (mac : Option Nat) (d : δ) : Core δ :=
  match mac with
  | some mac => k.txEther (.datagram d) mac k.unicastMac 0x0800
  | none => k.hUnresolvedMacDatagrams src tpa d

/-- `tx_ip`, with the TTL and options that `sock_opt` leaves. The random ids of the packet and of
the fragments are `id` and `fragId`; `turns` bounds the loop of `_fragment`. -/
def txIp (k : Core Datagram) (payload : Payload) (src dst ttl protocol : Nat) (options : List IPOpt)
    (id fragId turns : Nat) : Core Datagram × TxEnd :=
  let (tpa, mac) := route k dst
  match IPBuilder.new payload id ttl protocol src dst options with
  | .error e => (k, .raised e)
  | .ok ipBuilder =>
    if ipBuilder.len ≤ MTU then (txDatagram k src tpa mac (.whole ipBuilder), .returned)
    else
      let frags := do
        let bytes ← payload.toBytes ipBuilder.psum
        let b ← IPFragBuilder.new bytes fragId ttl protocol 0 true src dst options
        b.getFrags turns
      match frags with
      | .error e => (k, .raised e)
      | .ok none => (k, .running)
      | .ok (some frags) =>
        -- the second copy of the routing decision: the MAC of `dst` itself
        let mac := k.findEntry dst
        (frags.foldl (fun k frag => txDatagram k src dst mac (.frag frag)) k, .returned)

/-! ## Long packets -/

/-- No object of the class can be made. -/
theorem IPFragBuilder.new_ne_ok {payload : List UInt8} {id ttl protocol : Nat} {offset : Int}
    {flagMf : Bool} {src dst : Nat} {options : List IPOpt} (b : IPFragBuilder) :
    new payload id ttl protocol offset flagMf src dst options ≠ .ok b := by
  unfold new
  cases ipIhl options with
  | error e => rintro ⟨⟩
  | ok ihl => rintro ⟨⟩

/-- A packet that fits the MTU is sent as it is. -/
theorem txIp_short {k : Core Datagram} {payload : Payload} {src dst ttl protocol id : Nat}
    {options : List IPOpt} {b : IPBuilder}
    (hnew : IPBuilder.new payload id ttl protocol src dst options = .ok b) (hshort : b.len ≤ MTU)
    (fragId turns : Nat) :
    txIp k payload src dst ttl protocol options id fragId turns =
      (txDatagram k src (route k dst).1 (route k dst).2 (.whole b), .returned) := by
  simp only [txIp, hnew, if_pos hshort]

/-- **A packet longer than the MTU** makes `tx_ip` raise; nothing is sent and nothing waits. -/
theorem txIp_long {k : Core Datagram} {payload : Payload} {src dst ttl protocol id : Nat}
    {options : List IPOpt} {b : IPBuilder}
    (hnew : IPBuilder.new payload id ttl protocol src dst options = .ok b) (hlong : MTU < b.len)
    (fragId turns : Nat) :
    ∃ e, txIp k payload src dst ttl protocol options id fragId turns = (k, .raised e) := by
  have hfrags : ∃ e, (do
      let bytes ← payload.toBytes b.psum
      let b ← IPFragBuilder.new bytes fragId ttl protocol 0 true src dst options
      b.getFrags turns) = Except.error e := by
    cases hbytes : payload.toBytes b.psum with
    | error e => exact ⟨e, rfl⟩
    | ok bytes =>
      cases hfrag : IPFragBuilder.new bytes fragId ttl protocol 0 true src dst options with
      | error e => exact ⟨e, by simp only [bind, Except.bind, hfrag]⟩
      | ok frag => exact absurd hfrag (IPFragBuilder.new_ne_ok frag)
  obtain ⟨e, hfrags⟩ := hfrags
  exact ⟨e, by simp only [txIp, hnew, if_neg (Nat.not_le.2 hlong), hfrags]⟩

/-- All that `tx_ip` can do to the core. -/
theorem txIp_core (k : Core Datagram) (payload : Payload) (src dst ttl protocol : Nat)
    (options : List IPOpt) (id fragId turns : Nat) :
    (txIp k payload src dst ttl protocol options id fragId turns).1 = k ∨
      ∃ d, (txIp k payload src dst ttl protocol options id fragId turns).1 =
        txDatagram k src (route k dst).1 (route k dst).2 d := by
  cases hnew : IPBuilder.new payload id ttl protocol src dst options with
  | error e =>
    left
    simp only [txIp, hnew]
  | ok b =>
    by_cases hlen : b.len ≤ MTU
    · right
      exact ⟨.whole b, by rw [txIp_short hnew hlen]⟩
    · left
      obtain ⟨e, hraised⟩ := txIp_long (k := k) hnew (Nat.not_le.1 hlen) fragId turns
      rw [hraised]

/-- The bytes of a payload, with its checksum. -/
def payloadBytes (phsum : Nat) : Payload → Except PyError (List UInt8)
  | .udp b => b.build (List.replicate b.len 0) phsum
  | .tcp b => b.build (List.replicate b.len 0) phsum
  | .icmp b => b.build (List.replicate b.len 0)
  | .raw b => .ok b.data

/-- The fragments of a payload: each fits the MTU, they have one id, their offsets count the 8-byte
blocks before them, all but the last have the MF flag, and their data is the whole payload. -/
structure IsFragmentation (bytes : List UInt8) (frags : List IPFragBuilder) : Prop where
  fits : ∀ b ∈ frags, b.ihl * 4 + b.payload.length ≤ MTU
  id : ∀ b ∈ frags, ∀ b' ∈ frags, b.id = b'.id
  offset : ∀ front b back, frags = front ++ b :: back →
    b.offset * 8 = ((front.flatMap IPFragBuilder.payload).length : Int)
  flagMf : ∀ front b back, frags = front ++ b :: back → (b.flagMf = true ↔ back ≠ [])
  payload : frags.flatMap IPFragBuilder.payload = bytes

/-- What sending a long packet is to come to: the call returns, and the fragments of the payload's
bytes are sent to the next hop of shorter packets, or wait for it. -/
structure SendsFragments (k : Core Datagram) (payload : Payload) (src dst : Nat) (b : IPBuilder)
    (result : Core Datagram × TxEnd) : Prop where
  returned : result.2 = .returned
  fragments : ∃ phsum bytes frags, b.psum = .ok phsum ∧ payloadBytes phsum payload = .ok bytes ∧
    IsFragmentation bytes frags ∧
    result.1 = frags.foldl
      (fun k' frag => txDatagram k' src (route k dst).1 (route k dst).2 (.frag frag)) k

section Long

variable {k : Core Datagram} {payload : Payload} {src dst ttl protocol id : Nat}
    {options : List IPOpt}
  {b : IPBuilder}

/-- **No long packet is sent**, and none waits. -/
theorem not_sendsFragments (hnew : IPBuilder.new payload id ttl protocol src dst options = .ok b)
    (hlong : MTU < b.len) (fragId turns : Nat) :
    ¬ SendsFragments k payload src dst b
        (txIp k payload src dst ttl protocol options id fragId turns) ∧
      (txIp k payload src dst ttl protocol options id fragId turns).1 = k := by
  obtain ⟨e, hraised⟩ := txIp_long (k := k) hnew hlong fragId turns
  rw [hraised]
  refine ⟨fun h => ?_, rfl⟩
  cases h.returned

end Long

/-- A stack at 10.0.0.2 that knows the MAC of 10.0.0.1. -/
def sampleCore : Core Datagram where
  unicastMac := 0x020000000001
  unicastIp := some 0x0A000002
  network := 0x0A000000
  mask := 0xFFFFFF00
  router := 0x0A0000FE
  arpCache ip := if ip = 0x0A000001 then some 0x0200000000FF else none
  arpWaitList := ∅
  arpWaitProbList := ∅
  pendingQueue _ := none
  conflictIps := []
  txRing := []
  timer := .new
  nowMs := 0

/-- A datagram that is one byte too long for the MTU. -/
def longDatagram : Payload := .udp ⟨80, 1234, List.replicate 1473 0⟩

theorem longDatagram_long :
    MTU < (IPBuilder.plain longDatagram 7 64 IP_PROTO_UDP 0x0A000002 0x0A000001).len := by
  rw [IPBuilder.len_plain, longDatagram, Payload.len, UDPBuilder.len, List.length_replicate]
  decide

theorem not_sendsFragments_udp :
    (txIp sampleCore longDatagram 0x0A000002 0x0A000001 64 IP_PROTO_UDP [] 7 8 100).1 =
    sampleCore :=
  (not_sendsFragments (IPBuilder.new_nil ..) longDatagram_long 8 100).2

theorem longDatagram_not_sent :
    ¬ SendsFragments sampleCore longDatagram 0x0A000002 0x0A000001
      (.plain longDatagram 7 64 IP_PROTO_UDP 0x0A000002 0x0A000001)
      (txIp sampleCore longDatagram 0x0A000002 0x0A000001 64 IP_PROTO_UDP [] 7 8 100) := by
  obtain ⟨e, hraised⟩ := txIp_long (k := sampleCore) (IPBuilder.new_nil ..) longDatagram_long 8 100
  intro h
  rw [hraised] at h
  cases h.returned

end Tipy.Ip
