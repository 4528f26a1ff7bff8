import Tipy.Host.Handled

/-!
# Runs of the receive thread

Any order of frames, timers, sends and calls on sockets, from the start of the stack. The address is
assigned before the map of the Ethernet types gets its entry for IPv4, and nothing takes it away
(`Assigned`); so the frames that end the RX thread in a state that is reached are those that are not
`Handled` there, and no others.
-/

namespace Tipy

open Components Arp Ip Wire Lib

/-! ## The address -/

section Core

variable {δ : Type} (k : Core δ)

/-- A datagram that waits for a MAC goes to a queue and may start a request. -/
@[simp] theorem Arp.Core.hUnresolvedMacDatagrams_unicastIp (src dst : Nat) (d : δ) :
    (k.hUnresolvedMacDatagrams src dst d).unicastIp = k.unicastIp := by
  unfold Core.hUnresolvedMacDatagrams Core.enqueue
  split
  · split
    · rfl
    · rw [Core.txArp_request, Core.arpWaitAdd]
      split <;> rfl
  · split
    · rfl
    · rw [Core.txArp_request, Core.arpWaitAdd]
      split <;> rfl

/-- A reply frees the datagrams that waited for it. -/
@[simp] theorem Arp.Core.dequeue_unicastIp (ip mac : Nat) :
    (k.dequeue ip mac).1.unicastIp = k.unicastIp := by
  cases hq : k.pendingQueue ip with
  | none => rw [k.dequeue_none mac hq]
  | some q =>
    rw [k.dequeue_some mac hq]
    rfl

/-- An ARP frame teaches the cache and is answered; a conflict is noted, and the address stays. -/
@[simp] theorem Arp.Core.rxArp_unicastIp (ether : EtherParser) (frame : List UInt8) :
    (k.rxArp ether frame).1.unicastIp = k.unicastIp := by
  unfold Core.rxArp
  dsimp only
  split
  · rfl
  · split
    · simp [Core.acceptReply, Core.scheduleTimer]
    · split
      · rfl
      · split
        · split
          · simp [Core.answerRequest, Core.txArp_reply, Core.txEther]
          · rfl
        · rfl

@[simp] theorem Arp.Core.call_unicastIp (call : ArpCall) :
    (k.call call).1.unicastIp = k.unicastIp := by
  rw [call_core]

end Core

/-- `tx_ip` reads the address of the stack, and never sets it. -/
@[simp] theorem Ip.txIp_unicastIp (k : Core Datagram) (payload : Payload)
    (src dst ttl protocol : Nat) (options : List IPOpt) (id fragId turns : Nat) :
    (Ip.txIp k payload src dst ttl protocol options id fragId turns).1.unicastIp = k.unicastIp := by
  rcases txIp_core k payload src dst ttl protocol options id fragId turns with hcore | ⟨d, hcore⟩
  · rw [hcore]
  · rw [hcore]
    unfold txDatagram
    split
    · rfl
    · exact k.hUnresolvedMacDatagrams_unicastIp _ _ d

namespace Host

/-- `tx_ip` works on the core. -/
theorem txIp_toStartup (h : Host) (payload : Payload) (src dst protocol : Nat) (x : Picks) :
    (h.txIp payload src dst protocol x).1.toStartup =
      { h.toStartup with
          core := (Ip.txIp h.core payload src dst 64 protocol [] x.id x.fragId x.turns).1 } := by
  unfold txIp
  generalize Ip.txIp h.core payload src dst 64 protocol [] x.id x.fragId x.turns = out
  rfl

/-- What no frame changes: the address and the entry for IPv4. -/
structure SameAddress (h h' : Host) : Prop where
  ipHandler : h'.ipHandler = h.ipHandler
  unicastIp : h'.core.unicastIp = h.core.unicastIp

namespace SameAddress

variable (h : Host) (p : IPParser) (frame : List UInt8) (x : Picks)

theorem refl : h.SameAddress h := ⟨rfl, rfl⟩

theorem txIp (payload : Payload) (src dst protocol : Nat) :
    h.SameAddress (h.txIp payload src dst protocol x).1 :=
  ⟨rfl, by simp [Host.txIp]⟩

/-- Where a property is read that may raise, both ways have to keep the address. -/
theorem reading {α : Type} {r : Except PyError α} {next : α → Host × TxEnd}
    (hnext : ∀ a, h.SameAddress (next a).1) : h.SameAddress (h.reading r next).1 := by
  cases r with
  | ok a => exact hnext a
  | error e => exact refl h

theorem ripGetData (id : RipId) (packet : List UInt8) : h.SameAddress (h.ripGetData id packet) := by
  unfold Host.ripGetData
  split
  · exact ⟨rfl, rfl⟩
  · exact refl h

theorem quotedHeader (errData : List UInt8) : h.SameAddress (h.quotedHeader errData).1 := by
  unfold Host.quotedHeader
  split
  · exact refl h
  · exact refl h

/-- The answer to an echo request, the delivery to raw sockets and the quoted headers of an error.
-/
theorem rxIcmp : h.SameAddress (h.rxIcmp p frame x).1 := by
  unfold Host.rxIcmp
  dsimp only
  split
  · exact refl h
  split
  · exact refl h
  split
  · exact quotedHeader h _
  split
  · exact quotedHeader h _
  split
  · exact reading h fun src => reading h fun dst => txIp h x _ _ _ _
  split
  · exact reading h fun src => reading h fun dst => ripGetData h _ _
  · exact refl h

/-- A datagram is delivered, or answered by an ICMP message. -/
theorem rxUdp : h.SameAddress (h.rxUdp p frame x).1 := by
  unfold Host.rxUdp
  split
  · exact refl h
  · refine reading h fun dst => reading h fun src => ?_
    split
    · exact refl h
    · dsimp only
      split
      · exact ⟨rfl, rfl⟩
      · exact txIp h x _ _ _ _

/-- A segment becomes an event, or is answered by a reset. -/
theorem rxTcp : h.SameAddress (h.rxTcp p frame x).1 := by
  unfold Host.rxTcp
  split
  · exact refl h
  · refine reading h fun dst => reading h fun src => ?_
    split
    · exact refl h
    · split
      · exact refl h
      · dsimp only
        split
        · exact ⟨rfl, rfl⟩
        · exact txIp h x _ _ _ _

/-- `next_layer` hands the packet to a handler that keeps the address. -/
theorem nextLayer {protocol : Nat} {nextLayer : Host → IPParser → List UInt8 → Picks → Host × TxEnd}
    (hmap : ipProtocolMap protocol = some nextLayer) : h.SameAddress (nextLayer h p frame x).1 := by
  rcases ipProtocolMap_eq_some hmap with ⟨-, rfl⟩ | ⟨-, rfl⟩ | ⟨-, rfl⟩ | ⟨-, rfl⟩
  · exact refl h
  · exact rxIcmp h p frame x
  · exact rxUdp h p frame x
  · exact rxTcp h p frame x

theorem rxDatagram (dgram : List UInt8) : h.SameAddress (h.rxDatagram dgram x).1 := by
  refine reading h fun totalLen => reading h fun protocol => ?_
  split
  · next hmap => exact nextLayer h _ _ x hmap
  · refine reading h fun dst => reading h fun src => ?_
    split
    · exact ripGetData h _ _
    · exact txIp h x _ _ _ _

/-- A packet that reassembly has completed is handled like one that came whole. -/
theorem rxReass : h.SameAddress (h.rxReass p x).1 := by
  unfold Host.rxReass
  dsimp only
  split
  · exact ⟨rfl, rfl⟩
  · exact ⟨rfl, rfl⟩
  · split
    · exact ⟨rfl, rfl⟩
    · obtain ⟨hhandler, hip⟩ := rxDatagram { h with reass := (ipReass h.reass p).1 } x ‹_›
      exact ⟨hhandler, hip⟩

theorem rxIp : h.SameAddress (h.rxIp frame x).1 := by
  unfold Host.rxIp
  dsimp only
  split
  · split
    · exact refl h
    · exact refl h
  · split
    · exact refl h
    · exact txIp h x _ _ _ _
    · split
      · next hmap => exact nextLayer h _ _ x hmap
      · split
        · exact txIp h x _ _ _ _
        · obtain ⟨hhandler, hip⟩ := ripGetData h (ripId ⟨frame⟩) (IPParser.mk frame).data
          obtain ⟨hhandler', hip'⟩ :=
            rxReass (h.ripGetData (ripId ⟨frame⟩) (IPParser.mk frame).data) ⟨frame⟩ x
          exact ⟨hhandler'.trans hhandler, hip'.trans hip⟩
    · exact rxReass h _ x

theorem rxArp (bytes : List UInt8) : h.SameAddress (h.rxArp bytes).1 := by
  unfold Host.rxArp
  dsimp only
  split
  · unfold Startup.notify
    split <;> exact ⟨rfl, h.core.rxArp_unicastIp _ _⟩
  · exact ⟨rfl, h.core.rxArp_unicastIp _ _⟩

/-- **No frame takes the address away**, whatever it holds and wherever its handling raises. -/
theorem handlePacket (bytes : List UInt8) : h.SameAddress (h.handlePacket bytes x).1 := by
  unfold Host.handlePacket
  dsimp only
  split
  · exact refl h
  · split
    · exact rxArp h bytes
    · split
      · exact rxIp h _ x
      · exact refl h

end SameAddress

end Host

/-! ## Every reachable state -/

namespace Arp.Startup

variable {δ : Type}

/-- IPv4 packets are received only by a stack that has an address. -/
def Assigned (s : Startup δ) : Prop := s.ipHandler = true → s.core.unicastIp ≠ none

/-- What no step but a frame changes: the RX thread, and that there is an address. -/
structure Still (s s' : Startup δ) : Prop where
  rxRuns : s'.rxRuns = s.rxRuns
  assigned : s.Assigned → s'.Assigned

variable {s s' : Startup δ}

theorem Still.of_eq (hruns : s'.rxRuns = s.rxRuns) (hhandler : s'.ipHandler = s.ipHandler)
    (hip : s'.core.unicastIp = s.core.unicastIp) : s.Still s' := by
  refine ⟨hruns, fun ha h => ?_⟩
  rw [hip]
  exact ha (hhandler ▸ h)

/-- A step that only works on the core. -/
theorem Still.of_core {k : Core δ} (hip : k.unicastIp = s.core.unicastIp) :
    s.Still { s with core := k } := .of_eq rfl rfl hip

/-- The acquirer is woken, and goes on in a step of its own. -/
theorem Still.notify (hstill : s.Still s') : s.Still s'.notify := by
  unfold Startup.notify
  split
  · exact ⟨hstill.rxRuns, hstill.assigned⟩
  · exact hstill

/-- The step of the acquirer that gives the stack its address and its entry for IPv4. -/
theorem step_resume_still (s : Startup δ) : s.Still (s.step .resume) := by
  simp only [step]
  split
  · unfold acquire
    split
    · exact .of_eq rfl rfl rfl
    · exact ⟨rfl, fun _ _ => by simp⟩
  · exact .of_eq rfl rfl rfl

/-- A callback of the timer, which may wake the acquirer. -/
theorem step_timer_still (s : Startup δ) (i : Nat) : s.Still (s.step (.timer i)) := by
  simp only [step]
  split
  · split
    · exact .of_eq rfl rfl rfl
    · next task timer _ _ =>
      have hcall : s.Still { s with
          core := ({ s.core with timer := timer }.call task.call).1
          timerRuns := ({ s.core with timer := timer }.call task.call).2.isOk } :=
        .of_eq rfl rfl (Core.call_unicastIp _ _)
      split
      · exact hcall.notify
      · exact hcall
  · exact .of_eq rfl rfl rfl

end Arp.Startup

namespace Host

theorem SameAddress.assigned {h h' : Host} (hsame : h.SameAddress h') (ha : h.Assigned) :
    h'.Assigned := by
  intro hhandler
  rw [hsame.unicastIp]
  exact ha (hsame.ipHandler ▸ hhandler)

/-- Nothing but a frame ends the RX thread. -/
theorem step_still (h : Host) {e : HostEvent} (hframe : ∀ bytes x, e ≠ .frame bytes x) :
    h.toStartup.Still (h.step e).toStartup := by
  cases e with
  | frame bytes x => exact absurd rfl (hframe bytes x)
  | resume => exact h.step_resume_still
  | timer i => exact h.step_timer_still i
  | reassTimer i x =>
    simp only [step]
    split
    · split
      · exact .of_eq rfl rfl rfl
      · unfold reassTimerExceeded
        split
        split
        · exact .of_eq rfl rfl rfl
        · unfold icmpDefragmentExceeded icmpError txIcmp
          rw [txIp_toStartup]
          exact .of_core (Ip.txIp_unicastIp ..)
    · exact .of_eq rfl rfl rfl
  | elapse ms => exact .of_eq rfl rfl rfl
  | txIp payload src dst ttl protocol options x => exact .of_core (Ip.txIp_unicastIp ..)
  | udp id queue => exact .of_eq rfl rfl rfl
  | rip id queue => exact .of_eq rfl rfl rfl
  | tcp table events => exact .of_eq rfl rfl rfl

/-- **The entry for IPv4 comes after the address**, in every step. -/
theorem step_assigned {h : Host} (ha : h.Assigned) (e : HostEvent) : (h.step e).Assigned := by
  by_cases hframe : ∃ bytes x, e = .frame bytes x
  · obtain ⟨bytes, x, rfl⟩ := hframe
    simp only [step]
    split
    · exact (SameAddress.handlePacket h x bytes).assigned ha
    · exact ha
  · exact (h.step_still fun bytes x heq => hframe ⟨bytes, x, heq⟩).assigned ha

/-- Every frame that is received is handled. -/
def HandledStep (h : Host) (e : HostEvent) : Prop := ∀ bytes x, e = .frame bytes x → h.Handled bytes

/-- A step leaves the RX thread running exactly when the frame it takes is handled. -/
theorem step_rxRuns_iff {h : Host} (ha : h.Assigned) (hruns : h.rxRuns = true) (e : HostEvent) :
    (h.step e).rxRuns = true ↔ h.HandledStep e := by
  by_cases hframe : ∃ bytes x, e = .frame bytes x
  · obtain ⟨bytes, x, rfl⟩ := hframe
    simp only [step, if_pos hruns, decide_eq_true_eq, h.handlePacket_returned_iff x ha, HandledStep,
      HostEvent.frame.injEq, and_imp]
    constructor
    · rintro hhandled _ _ rfl rfl
      exact hhandled
    · exact fun hhandled => hhandled bytes x rfl rfl
  · have hother : ∀ bytes x, e ≠ .frame bytes x := fun bytes x heq => hframe ⟨bytes, x, heq⟩
    rw [(h.step_still hother).rxRuns]
    exact ⟨fun _ bytes x heq => absurd heq (hother bytes x), fun _ => hruns⟩

/-- At the start there is no entry for IPv4. -/
theorem start_assigned (unicastMac network mask router : Nat) (nowMs : Int) (ipaddr : String)
    (addr : Nat) :
    (start unicastMac network mask router nowMs ipaddr addr).Assigned := by
  intro hhandler
  cases hhandler

/-- **What the receive thread survives.** In every state the stack reaches, `handle_packet` returns
exactly on the frames that are handled there; and the RX thread is alive in every state of a run
exactly when every frame of the run was handled. -/
theorem handle_packet_returns_iff (unicastMac network mask router : Nat) (nowMs : Int)
    (ipaddr : String) (addr : Nat) (es : List HostEvent) :
    let h₀ := start unicastMac network mask router nowMs ipaddr addr
    (∀ bytes x, ((run step h₀ es).handlePacket bytes x).2 = .returned ↔
    (run step h₀ es).Handled bytes) ∧
      ((∀ pre, pre <+: es → (run step h₀ pre).rxRuns = true) ↔ Guarded step HandledStep h₀ es) := by
  intro h₀
  have hstart : h₀.Assigned := start_assigned unicastMac network mask router nowMs ipaddr addr
  constructor
  · intro bytes x
    have hreached : (run step h₀ es).Assigned :=
      run_inv' (I := fun h : Host => h.Assigned) (fun _ e ha => step_assigned ha e) hstart es
    exact handlePacket_returned_iff _ x hreached bytes
  · refine forall_reached_iff_guarded (D := fun _ _ => True)
      (I := fun h => h.Assigned ∧ h.rxRuns = true) (fun _ hinv => hinv.2) ?_ ?_ ⟨hstart, rfl⟩
      (guarded_of_forall_mem (P := fun _ => True) (fun _ _ => trivial) h₀)
    · intro h e ⟨ha, hruns⟩ _ hhandled
      exact ⟨step_assigned ha e, (step_rxRuns_iff ha hruns e).2 hhandled⟩
    · intro h e ⟨ha, hruns⟩ _ hpost
      exact (step_rxRuns_iff ha hruns e).1 hpost

/-- A stack that takes the address 10.0.0.2. -/
def sampleStart : Host :=
  start 0x020000000001 0x0A000000 0xFFFFFF00 0x0A0000FE 0 "10.0.0.2" 0x0A000002

/-- The probe times out and the address is assigned. -/
def sampleAcquire : List HostEvent := [.elapse 3000, .timer 0, .resume]

/-- 10.0.0.1 has no UDP socket for a datagram that was sent there: the message quotes its headers.
-/
def portUnreachable : List UInt8 :=
  [2, 0, 0, 0, 0, 1, 2, 0, 0, 0, 0, 255, 8, 0] ++
    [69, 0, 0, 56, 0, 9, 0, 0, 64, 1, 102, 186, 10, 0, 0, 1, 10, 0, 0, 2] ++
    [3, 3, 233, 54, 0, 0, 0, 0] ++
    [69, 0, 0, 29, 0, 7, 0, 0, 64, 17, 102, 199, 10, 0, 0, 2, 10, 0, 0, 1, 19, 136, 0,
      53, 0, 9, 0, 0]

/-- A well-formed message of another host ends the RX thread. -/
theorem port_unreachable_raises :
    14 ≤ portUnreachable.length ∧
      ((run step sampleStart sampleAcquire).handlePacket portUnreachable ⟨1, 2, 0⟩).2 =
        .raised .nameError ∧
      (run step sampleStart (sampleAcquire ++ [.frame portUnreachable ⟨1, 2, 0⟩])).rxRuns =
          false := by
  decide +kernel

end Host

end Tipy
