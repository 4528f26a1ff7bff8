import Tipy.Host.Segment

/-!
# Where the datagrams come from

Every datagram on a TX ring or in a queue of the ARP cache was given to `tx_ip`: by a socket of the
host, or by a handler that answers a packet. The answers are ICMP and TCP. So what holds of the
datagrams that the sockets of all stations send, and of all that is not UDP, holds of every frame on
the segment.
-/

namespace Tipy

open Components Arp Ip Wire Lib

/-! ## What a core has -/

namespace Arp.Core

variable {δ : Type} {k k' : Core δ} {d d' : δ}

/-- The datagram was sent or waits. -/
def Has (k : Core δ) (d : δ) : Prop :=
  (∃ f ∈ k.txRing, f.payload = .datagram d) ∨ ∃ ip q, k.pendingQueue ip = some q ∧ d ∈ q

/-- What the rest of the tables has to do with it: nothing. -/
theorem Has.congr (h : k'.Has d) (hring : k'.txRing = k.txRing)
    (hqueue : k'.pendingQueue = k.pendingQueue) :
    k.Has d := by
  unfold Has at h
  rwa [hring, hqueue] at h

theorem Has.of_updateArpCache {ip mac : Nat} (h : (k.updateArpCache ip mac).Has d) : k.Has d :=
  h.congr (k.updateArpCache_txRing ip mac) (k.updateArpCache_pendingQueue ip mac)

/-- A new frame. -/
theorem Has.of_txEther {payload : Carried δ} {dst src type : Nat}
    (h : (k.txEther payload dst src type).Has d) :
    k.Has d ∨ payload = .datagram d := by
  rcases h with ⟨f, hf, hd⟩ | hqueued
  · rcases List.mem_append.1 hf with hf | hf
    · exact .inl (.inl ⟨f, hf, hd⟩)
    · obtain rfl := List.mem_singleton.1 hf
      exact .inr hd
  · exact .inl (.inr hqueued)

/-- A new queue for one address. -/
theorem Has.of_setQueue {ip : Nat} {q : Option (List δ)} (h : (k.setQueue ip q).Has d) :
    k.Has d ∨ ∃ q', q = some q' ∧ d ∈ q' := by
  rcases h with hsent | ⟨ip', q', hq, hd⟩
  · exact .inl (.inl hsent)
  · rcases of_update_eq_some hq with ⟨-, hnew⟩ | ⟨-, hold⟩
    · exact .inr ⟨q', hnew, hd⟩
    · exact .inl (.inr ⟨ip', q', hold, hd⟩)

theorem Has.of_enqueue {ip : Nat} (h : (k.enqueue ip d').Has d) : k.Has d ∨ d = d' := by
  unfold enqueue at h
  split at h
  · next q hq =>
    rcases h.of_setQueue with hold | ⟨q', hnew, hd⟩
    · exact .inl hold
    · obtain rfl := Option.some.inj hnew
      rcases List.mem_append.1 hd with hd | hd
      · exact .inl (.inr ⟨ip, q, hq, hd⟩)
      · exact .inr (List.mem_singleton.1 hd)
  · rcases h.of_setQueue with hold | ⟨q', hnew, hd⟩
    · exact .inl hold
    · obtain rfl := Option.some.inj hnew
      exact .inr (List.mem_singleton.1 hd)

theorem Has.of_arpWaitAdd {ip : Nat} (h : (k.arpWaitAdd ip).Has d) : k.Has d := by
  refine h.congr ?_ (k.arpWaitAdd_pendingQueue ip)
  unfold arpWaitAdd
  split <;> rfl

theorem Has.of_hUnresolvedMacDatagrams {src ip : Nat}
    (h : (k.hUnresolvedMacDatagrams src ip d').Has d) :
    k.Has d ∨ d = d' := by
  unfold hUnresolvedMacDatagrams at h
  rcases h.of_enqueue with h | hnew
  · left
    split at h
    · exact h
    · rw [txArp_request] at h
      rcases h.of_txEther with h | hnone
      · exact h.of_arpWaitAdd
      · cases hnone
  · exact .inr hnew

/-- **`tx_ip`** sends nothing but its own packet. -/
theorem Has.of_txDatagram {src tpa : Nat} {mac : Option Nat}
    (h : (txDatagram k src tpa mac d').Has d) :
    k.Has d ∨ d = d' := by
  unfold txDatagram at h
  split at h
  · rcases h.of_txEther with hold | hnew
    · exact .inl hold
    · exact .inr (Carried.datagram.inj hnew).symm
  · exact h.of_hUnresolvedMacDatagrams

/-- What waits is only moved. -/
theorem Has.of_acceptReply {spa sha : Nat} (h : (k.acceptReply spa sha).1.Has d) : k.Has d := by
  have hnoted :
    ∀ d, ((k.updateArpCache spa sha).scheduleTimer ARP_CACHE_TTL (.flushEntry spa)).Has d →
      k.Has d := fun d h => Has.of_updateArpCache (h.congr rfl rfl)
  unfold acceptReply at h
  generalize (k.updateArpCache spa sha).scheduleTimer ARP_CACHE_TTL (.flushEntry spa) =
    k₁ at h hnoted
  cases hq : k₁.pendingQueue spa with
  | none =>
    simp only [dequeue, hq] at h
    exact hnoted d h
  | some q =>
    rw [dequeue_some _ sha hq] at h
    refine hnoted d ?_
    rcases h with ⟨f, hf, hd⟩ | ⟨ip, q', hq', hd⟩
    · rcases List.mem_append.1 hf with hf | hf
      · exact .inl ⟨f, hf, hd⟩
      · obtain ⟨d', hd', rfl⟩ := List.mem_map.1 hf
        obtain rfl := Carried.datagram.inj hd
        exact .inr ⟨spa, q, hq, hd'⟩
    · rcases of_update_eq_some hq' with ⟨-, hnone⟩ | ⟨-, hold⟩
      · cases hnone
      · exact .inr ⟨ip, q', hold, hd⟩

theorem Has.of_rxArp {ether : EtherParser} {frame : List UInt8}
    (h : (k.rxArp ether frame).1.Has d) :
    k.Has d := by
  unfold rxArp at h
  dsimp only at h
  split at h
  · exact h
  · split at h
    · exact h.of_acceptReply
    · split at h
      · exact h.congr rfl rfl
      · split at h
        · split at h
          · rw [answerRequest, txArp_reply] at h
            rcases h.of_updateArpCache.of_txEther with hold | hnone
            · exact hold
            · cases hnone
          · exact h
        · exact h

theorem Has.of_call {call : ArpCall} (h : (k.call call).1.Has d) : k.Has d :=
  h.congr (by rw [call_core]) (by rw [call_core])

end Arp.Core

theorem Ip.has_of_txIp {k : Core Datagram} {payload : Payload} {src dst ttl protocol : Nat}
    {options : List IPOpt} {id fragId turns : Nat} {d : Datagram}
    (h : (txIp k payload src dst ttl protocol options id fragId turns).1.Has d) :
    k.Has d ∨ ∃ b, IPBuilder.new payload id ttl protocol src dst options = .ok b ∧ b.len ≤ MTU ∧
      d = .whole b := by
  rcases txIp_cases k payload src dst ttl protocol options id fragId turns
    with hcore | ⟨b, hnew, hlen, hcore⟩
  · rw [hcore] at h
    exact .inl h
  · rw [hcore] at h
    rcases h.of_txDatagram with hold | hd
    · exact .inl hold
    · exact .inr ⟨b, hnew, hlen, hd⟩

theorem Wire.IPBuilder.protocol_of_new {payload : Payload} {id ttl protocol src dst : Nat}
    {options : List IPOpt} {b : IPBuilder}
    (h : IPBuilder.new payload id ttl protocol src dst options = .ok b) :
    b.protocol = protocol := by
  obtain ⟨ihl, -, h⟩ := bind_eq_ok.1 h
  rw [← Except.ok.inj h]

/-! ## What a host has -/

namespace Host

variable {h h' : Host} {d : Datagram}

/-- The datagram is given to `tx_ip` by a socket. -/
def Gives : HostEvent → Datagram → Prop
  | .txIp payload src dst ttl protocol options x, d => ∃ b,
    IPBuilder.new payload x.id ttl protocol src dst options = .ok b ∧ b.len ≤ MTU ∧ d = .whole b
  | _, _ => False

/-- An answer is a whole packet, and not UDP. -/
def IsAnswer (d : Datagram) : Prop := ∃ b, d = .whole b ∧ b.protocol ≠ IP_PROTO_UDP

theorem Answers.has {addr : Nat} (ha : h.Answers addr h') (hd : h'.core.Has d) :
    h.core.Has d ∨ IsAnswer d := by
  rcases ha.startup with hsame | ⟨payload, dst, protocol, x, hprotocol, hsent⟩
  · rw [hsame] at hd
    exact .inl hd
  · rw [hsent] at hd
    rcases has_of_txIp hd with hold | ⟨b, hnew, -, rfl⟩
    · exact .inl hold
    · exact .inr ⟨b, rfl, IPBuilder.protocol_of_new hnew ▸ hprotocol⟩

theorem core_notify (s : Startup Datagram) : s.notify.core = s.core := by
  unfold Startup.notify
  split <;> rfl

/-- A step of the starting thread or of a timer of ARP. -/
theorem has_of_startup {s : Startup Datagram} {e : StartupEvent} (he : ∀ bytes, e ≠ .frame bytes)
    (hd : (s.step e).core.Has d) : s.core.Has d := by
  cases e with
  | frame bytes => exact absurd rfl (he bytes)
  | resume =>
    simp only [Startup.step] at hd
    split at hd
    · unfold Startup.acquire at hd
      split at hd
      · exact hd
      · exact hd.congr rfl rfl
    · exact hd
  | elapse ms => exact hd.congr rfl rfl
  | timer i =>
    simp only [Startup.step] at hd
    split at hd
    · next task timer _ =>
      split at hd
      · exact hd.congr rfl rfl
      · suffices hcalled : ({ s.core with timer := timer }.call task.call).1.Has d from
          hcalled.of_call.congr rfl rfl
        split at hd
        · rwa [core_notify] at hd
        · exact hd
    · exact hd

end Host

namespace Stations

variable {ι : Type} {S : Stations ι} {i j : ι} {h : Host} {d : Datagram}

/-- **A frame** makes a station send answers only. -/
theorem Station.has_of_frame (hs : S.Station i h) {f : Frame Datagram} {bs body : List UInt8}
    (hf : S.Honest j f) (hw : f.Written bs body) {x : Picks}
    (hd : (h.step (.frame bs x)).core.Has d) :
    h.core.Has d ∨ Host.IsAnswer d := by
  simp only [Host.step] at hd
  split at hd
  · simp only [Host.handlePacket, if_neg (Nat.not_lt.2 hw.length), hw.ether.type] at hd
    cases hf with
    | arp b dst hsha hspa =>
      rw [if_pos rfl] at hd
      have hcore : (h.rxArp bs).1.core = (h.core.rxArp ⟨bs⟩ (bs.drop 14)).1 := by
        unfold Host.rxArp
        dsimp only
        split
        · exact Host.core_notify _
        · rfl
      rw [hcore] at hd
      exact .inl hd.of_rxArp
    | whole b dst hb hlen hdst =>
      rw [if_neg (by decide : ¬ (0x0800 = 0x0806))] at hd
      split at hd
      · exact (Host.answers_rxIp hs.raw hs.core.unicastIp (hw.not_fragment rfl hb _)).has hd
      · exact .inl hd
  · exact .inl hd

/-- Every other event of a station. -/
theorem Station.has_of_own (hs : S.Station i h) {e : HostEvent} (he : S.Own i e)
    (hd : (h.step e).core.Has d) :
    h.core.Has d ∨ Host.Gives e d := by
  cases e with
  | frame bytes x => exact absurd he id
  | resume => exact .inl (Host.has_of_startup (fun bytes hne => by cases hne) hd)
  | timer n => exact .inl (Host.has_of_startup (fun bytes hne => by cases hne) hd)
  | reassTimer n x =>
    have hnone : h.reass.timer.popDue h.reass.nowMs n = none := by
      rw [hs.timer]
      rfl
    simp only [Host.step, hnone, ite_self] at hd
    exact .inl hd
  | elapse ms => exact .inl (hd.congr rfl rfl)
  | txIp payload src dst ttl protocol options x => exact has_of_txIp hd
  | udp id queue => exact .inl hd
  | rip id queue => exact .inl hd
  | tcp table events => exact .inl hd

end Stations

/-! ## What the segment has -/

namespace Segment

variable {ι : Type} {S : Stations ι} {P : Datagram → Prop}

/-- The sockets send datagrams that are `P`. -/
def Sends (P : Datagram → Prop) (_ : Segment ι) : SegmentEvent ι → Prop
  | .host _ e => ∀ d, Host.Gives e d → P d
  | .transmit _ _ => True
  | .receive _ _ _ => True

/-- The stations are as they are to be, and the datagrams of all that was sent or waits are `P`. -/
structure Holds (S : Stations ι) (P : Datagram → Prop) (s : Segment ι) : Prop where
  inv : s.Inv S
  has : ∀ i d, (s.host i).core.Has d → P d
  wire : ∀ bs ∈ s.wire, ∃ i f body, S.Honest i f ∧ f.Written bs body ∧
    ∀ d, f.payload = .datagram d → P d

theorem holds_start (S : Stations ι) (P : Datagram → Prop) (nowMs : ι → Int) (ipaddr : ι → String) :
    Holds S P (start S nowMs ipaddr) := by
  refine ⟨inv_start S nowMs ipaddr, fun i d hd => ?_, ?_⟩
  · -- the probe is the only frame, and nothing waits
    have hprobe : ((Core.init (S.mac i) (S.network i) (S.mask i) (S.router i) (nowMs i)).arpProbeAdd
        (S.addr i)).Has d ∨ Carried.arp ⟨S.mac i, 0, 0, S.addr i, ARP_OP_REQUEST⟩ = .datagram d :=
      Core.Has.of_txEther hd
    rcases hprobe with hinit | hnone
    · unfold Core.arpProbeAdd at hinit
      rcases hinit with ⟨f, hf, -⟩ | ⟨ip, q, hq, -⟩
      · split at hf <;> cases hf
      · split at hq <;> cases hq
    · cases hnone
  · rintro bs ⟨⟩

variable [DecidableEq ι] {s : Segment ι}

theorem Holds.update (h : Holds S P s) {i : ι} {h' : Host} (hi : S.Station i h')
    (hhas : ∀ d, h'.core.Has d → P d) :
    Holds S P { s with host := Function.update s.host i h' } := by
  refine ⟨h.inv.update hi, fun j d hd => ?_, h.wire⟩
  by_cases hij : j = i
  · subst hij
    simp only [Function.update_self] at hd
    exact hhas d hd
  · simp only [Function.update_of_ne hij] at hd
    exact h.has j d hd

/-- **One step**, when the answers are `P`. -/
theorem Holds.step (hanswer : ∀ d, Host.IsAnswer d → P d) (h : Holds S P s) {e : SegmentEvent ι}
    (hown : Admits S s e) (hsends : Sends P s e) : Holds S P (s.step e) := by
  cases e with
  | host i e =>
    refine h.update ((h.inv.host i).own hown) fun d hd => ?_
    rcases (h.inv.host i).has_of_own hown hd with hold | hgiven
    · exact h.has i d hold
    · exact hsends d hgiven
  | transmit i n =>
    have hinv := h.inv.step (e := .transmit i n) trivial
    simp only [Segment.step] at hinv ⊢
    split at hinv
    · next bs hbytes =>
      obtain ⟨f, hf, hbytes⟩ := Option.map_eq_some_iff.1 hbytes
      obtain ⟨body, hwritten⟩ := Frame.bytes_ok hbytes
      have hmem := List.mem_of_getElem? hf
      refine ⟨hinv, h.has, fun bs' hbs' => ?_⟩
      rcases List.mem_append.1 hbs' with hbs' | hbs'
      · exact h.wire bs' hbs'
      · obtain rfl := List.mem_singleton.1 hbs'
        exact ⟨i, f, body, (h.inv.host i).core.ring f hmem, hwritten,
          fun d hd => h.has i d (.inl ⟨f, hmem, hd⟩)⟩
    · exact h
  | receive i n x =>
    simp only [Segment.step]
    split
    · next bs hbs =>
      obtain ⟨j, f, body, hf, hwritten, -⟩ := h.wire bs (List.mem_of_getElem? hbs)
      refine h.update ((h.inv.host i).frame hf hwritten x) fun d hd => ?_
      rcases (h.inv.host i).has_of_frame hf hwritten hd with hold | hans
      · exact h.has i d hold
      · exact hanswer d hans
    · exact h

end Segment

end Tipy
