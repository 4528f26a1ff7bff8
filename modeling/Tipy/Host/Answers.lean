import Tipy.Arp.Wire
import Tipy.Host.Runs

/-!
# What an IP packet makes a host send

`rx_ip` takes packets for the address of the host only, and what the handlers send back has the
destination of the packet as its source. So a packet that is no fragment, and not for a raw socket
of a protocol that `ip_protocol_map` does not have, makes the host call `tx_ip` at most once, and
with its own address.
-/

namespace Tipy

open Arp Ip Wire

/-- The protocols of the raw sockets are in `ip_protocol_map`. What a raw socket of another protocol
is given goes on to the reassembly, and what comes out of it need not be for this host. -/
def Host.RawMapped (h : Host) : Prop := ∀ id, h.rip id ≠ none → Mapped id.protocol

/-- What is received changes the queues of the sockets and sends at most one packet, from `addr` and
not with UDP. -/
structure Host.Answers (addr : Nat) (h h' : Host) : Prop where
  startup : h'.toStartup = h.toStartup ∨ ∃ (payload : Payload) (dst protocol : Nat) (x : Picks),
    protocol ≠ IP_PROTO_UDP ∧ h'.toStartup = { h.toStartup with
      core := (Ip.txIp h.core payload addr dst 64 protocol [] x.id x.fragId x.turns).1 }
  reass : h'.reass = h.reass
  rip : ∀ id, h.rip id = none → h'.rip id = none

namespace Host.Answers

variable {addr : Nat} {h : Host} {p : IPParser} {frame : List UInt8} {x : Picks}

theorem refl (addr : Nat) (h : Host) : h.Answers addr h := ⟨.inl rfl, rfl, fun _ hid => hid⟩

theorem txIp (payload : Payload) (dst : Nat) {protocol : Nat}
    (hprotocol : protocol ≠ IP_PROTO_UDP) :
    h.Answers addr (h.txIp payload addr dst protocol x).1 :=
  ⟨.inr ⟨payload, dst, protocol, x, hprotocol, h.txIp_toStartup payload addr dst protocol x⟩, rfl,
    fun _ hid => hid⟩

theorem ripGetData (id : RipId) (packet : List UInt8) :
    h.Answers addr (h.ripGetData id packet) := by
  unfold Host.ripGetData
  split
  · next queue hqueue =>
    refine ⟨.inl rfl, rfl, fun id' hid => ?_⟩
    have hne : id' ≠ id := by
      rintro rfl
      rw [hid] at hqueue
      cases hqueue
    simp only [Function.update_of_ne hne, hid]
  · exact refl addr h

/-- A field that was read is that of the packet. -/
theorem reading {α : Type} {stop : Nat} {e : PyError} {a : α} {next : α → Host × TxEnd}
    (hnext : h.Answers addr (next a).1) : h.Answers addr (h.reading (field p stop e a) next).1 := by
  unfold field
  split
  · exact hnext
  · exact refl addr h

theorem icmpError (hdst : p.dst = addr) (type code : Nat) :
    h.Answers addr (h.icmpError p type code x).1 := by
  rw [Host.icmpError, Host.txIcmp, hdst]
  exact txIp _ _ (by decide)

theorem rxIcmp (hdst : p.dst = addr) : h.Answers addr (h.rxIcmp p frame x).1 := by
  unfold Host.rxIcmp
  dsimp only
  split
  · exact refl addr h
  split
  · exact refl addr h
  split
  · unfold hIcmpDestUnreachPort quotedHeader
    split <;> exact refl addr h
  split
  · unfold hIcmpDestUnreachProto quotedHeader
    split <;> exact refl addr h
  split
  · refine reading (reading ?_)
    rw [hdst]
    exact txIp _ _ (by decide)
  split
  · exact reading (reading (ripGetData _ _))
  · exact refl addr h

theorem rxUdp (hdst : p.dst = addr) : h.Answers addr (h.rxUdp p frame x).1 := by
  unfold Host.rxUdp
  split
  · exact refl addr h
  · refine reading (reading ?_)
    split
    · exact refl addr h
    · dsimp only
      split
      · exact ⟨.inl rfl, rfl, fun _ hid => hid⟩
      · exact icmpError hdst _ _

theorem rxTcp (hdst : p.dst = addr) : h.Answers addr (h.rxTcp p frame x).1 := by
  unfold Host.rxTcp
  split
  · exact refl addr h
  · refine reading (reading ?_)
    split
    · exact refl addr h
    · split
      · exact refl addr h
      · dsimp only
        split
        · exact ⟨.inl rfl, rfl, fun _ hid => hid⟩
        · rw [Host.txTcp, hdst]
          exact txIp _ _ (by decide)

theorem nextLayer {protocol : Nat} {nextLayer : Host → IPParser → List UInt8 → Picks → Host × TxEnd}
    (hmap : ipProtocolMap protocol = some nextLayer) (hdst : p.dst = addr) :
    h.Answers addr (nextLayer h p frame x).1 := by
  rcases ipProtocolMap_eq_some hmap with ⟨-, rfl⟩ | ⟨-, rfl⟩ | ⟨-, rfl⟩ | ⟨-, rfl⟩
  · exact refl addr h
  · exact rxIcmp hdst
  · exact rxUdp hdst
  · exact rxTcp hdst

end Host.Answers

/-- `rx_ip` takes packets for the address of the host only. -/
theorem Wire.dst_of_rxIp {unicastIp : Nat} {p : IPParser} (h : Wire.rxIp unicastIp p ≠ .dropped) :
    p.dst = unicastIp := by
  by_contra hne
  apply h
  unfold Wire.rxIp
  split
  · rfl
  split
  · rfl
  split
  · rfl
  · rw [if_pos (.inr (.inr hne))]

/-- **An IP packet that is no fragment** is answered from the address of the host. -/
theorem Host.answers_rxIp {h : Host} {frame : List UInt8} {x : Picks} {addr : Nat}
    (hraw : h.RawMapped) (hip : h.core.unicastIp = none ∨ h.core.unicastIp = some addr)
    (hfrag : Wire.rxIp addr ⟨frame⟩ ≠ .fragment) : h.Answers addr (h.rxIp frame x).1 := by
  unfold Host.rxIp
  dsimp only
  rcases hip with hip | hip
  · rw [hip]
    dsimp only
    split <;> exact .refl addr h
  · rw [hip]
    dsimp only
    have hdst := @Wire.dst_of_rxIp addr ⟨frame⟩
    cases hrx : Wire.rxIp addr ⟨frame⟩ with
    | dropped => exact .refl addr h
    | ttlExceeded =>
      refine Answers.icmpError (hdst ?_) _ _
      rw [hrx]
      exact IpInput.noConfusion
    | fragment => exact absurd hrx hfrag
    | whole payload =>
      have hdst := hdst (by rw [hrx]; exact IpInput.noConfusion)
      dsimp only
      split
      · next hmap => exact Answers.nextLayer hmap hdst
      · next hmap =>
        split
        · exact Answers.icmpError hdst _ _
        · next queue hqueue =>
          -- there is no raw socket for a protocol that is not in the map
          have hmapped : Mapped (IPParser.mk frame).protocol :=
            hraw (ripId ⟨frame⟩) (by rw [hqueue]; exact Option.some_ne_none _)
          exact absurd hmapped (ipProtocolMap_eq_none.1 hmap)

end Tipy
