import Tipy.Tcp.Stack
import Tipy.Udp.Usrreq

/-!
# What close releases

`udp_close` looks for a key made of address objects, which no registration makes, and neither it nor
`tcp_close` takes the pair out of `bound_sockets`. `close_releases_iff`: after any history, closing
a socket leaves nothing of it behind exactly when it had taken nothing.
-/

namespace Tipy.Sockets

open Tipy.Lib Tipy.Tcp Tipy.Udp

/-- Nothing of the socket `so` is left: no entry of the table leads to it, the pair of its socket id
is not reported as bound, and the entries of the other sockets are what they were `before`. -/
structure Released {κ : Type} (before after : κ → Option Nat) (bound : List (Nat × Nat)) (so : Nat)
    (pair : Nat × Nat) : Prop where
  no_entry : ∀ key, after key ≠ some so
  not_bound : pair ∉ bound
  others : ∀ key so', so' ≠ so → (after key = some so' ↔ before key = some so')

/-! ## UDP -/

/-- After `udp_close` nothing is left of the socket. -/
def UdpReleased (s : UdpStack) (so : Nat) (x : UDPSocket) : Prop :=
  Released s.udp.sockets (s.step (.close so)).udp.sockets (s.step (.close so)).udp.boundSockets so
    (x.sockId.localIp, x.sockId.localPort)

theorem udpReleased_iff {s : UdpStack} (h : s.Inv) {so : Nat} {x : UDPSocket}
    (hso : s.socks[so]? = some x) :
    UdpReleased s so x ↔ x.sockId = ⟨0, 0, 0, 0⟩ ∧ (0, 0) ∉ s.udp.boundSockets := by
  have hclose : s.step (.close so) = s := by
    simp only [UdpStack.step, hso]
    exact h.udpClose_eq x
  rw [UdpReleased, hclose]
  refine ⟨fun hr => ?_, fun ⟨hid, hfree⟩ => ?_⟩
  · rcases h.took so x hso with ⟨hid, -⟩ | hb | ⟨hmine, -⟩
    · refine ⟨hid, ?_⟩
      have := hr.not_bound
      rwa [hid] at this
    · exact absurd hb hr.not_bound
    · exact absurd hmine (hr.no_entry _)
  · refine ⟨?_, by rwa [hid], fun _ _ _ => Iff.rfl⟩
    rcases h.took so x hso with ⟨-, hnone⟩ | hb | ⟨-, hp, heph, -⟩
    · exact hnone
    · rw [UdpStack.Bound, hid] at hb
      exact absurd hb hfree
    · rw [hid] at hp
      have := heph.1
      simp only at hp
      omega

/-! ## TCP without a connection -/

/-- The calls on TCP sockets that make no connection. -/
def Unconnected : StackEvent → Prop
  | .socket | .bind .. | .close _ => True
  | _ => False

instance : DecidablePred Unconnected
  | .socket | .bind .. | .close _ => .isTrue trivial
  | .setsockopt .. | .connect .. | .send .. | .recv .. | .shutdown _ | .resume .. | .timeout _
  | .rxTcp .. | .fire _ | .handle _ | .tick _ => .isFalse id

/-- The local part of a socket id is bound. -/
def TcpBound (s : Stack) (id : SockId) : Prop := (id.localIp, id.localPort) ∈ s.boundSockets

/-- Sockets that were never connected: no control block is registered, every entry belongs to a
bound pair and a socket with a bound id, and an id is the first one or bound. -/
structure TcpInv (s : Stack) : Prop where
  no_tcpcb : ∀ id, s.core.tcp.tcpcbs id = none
  entry_lt : ∀ id so, s.core.tcp.sockets id = some so → so < s.sockets.length
  entry_bound : ∀ id so, s.core.tcp.sockets id = some so → TcpBound s id
  owner_bound : ∀ (id : SockId) (so : Nat) (x : TCPSocket), s.core.tcp.sockets id = some so →
    s.sockets[so]? = some x → TcpBound s x.sockId
  id_bound : ∀ (so : Nat) (x : TCPSocket), s.sockets[so]? = some x →
    x.sockId = ⟨0, 0, 0, 0⟩ ∨ TcpBound s x.sockId

/-- After `tcp_close` nothing is left of the socket. -/
def TcpReleased (s : Stack) (so : Nat) (x : TCPSocket) : Prop :=
  Released s.core.tcp.sockets (s.step (.close so)).core.tcp.sockets
    (s.step (.close so)).boundSockets so
    (x.sockId.localIp, x.sockId.localPort)

section Tcp

variable {s : Stack} {so : Nat} {x : TCPSocket}

theorem tcpInv_new (ip : Option Nat) : TcpInv (.new ip) := by
  refine ⟨?_, ?_, ?_, ?_, ?_⟩ <;> simp [Stack.new, Core.idle]

theorem TcpInv.tcpClose_eq (h : TcpInv s) (x : TCPSocket) :
    s.tcpClose x = s.removeSocket x.sockId := by
  rw [Stack.tcpClose, h.no_tcpcb]

theorem TcpInv.removeSocket (h : TcpInv s) (id : SockId) : TcpInv (s.removeSocket id) := by
  have hsub : ∀ id' so, (s.removeSocket id).core.tcp.sockets id' = some so →
      s.core.tcp.sockets id' = some so := by
    intro id' so hso
    rcases of_update_eq_some hso with ⟨-, hnone⟩ | ⟨-, hold⟩
    · cases hnone
    · exact hold
  exact ⟨h.no_tcpcb, fun id' so hso => h.entry_lt id' so (hsub _ _ hso),
    fun id' so hso => h.entry_bound id' so (hsub _ _ hso),
    fun id' so x hso hx => h.owner_bound id' so x (hsub _ _ hso) hx, h.id_bound⟩

/-- A call that leaves the table and the ids of the sockets alone. -/
theorem TcpInv.congr {s' : Stack} (h : TcpInv s) (htcp : s'.core.tcp = s.core.tcp)
    (hbound : s'.boundSockets = s.boundSockets) (hlen : s'.sockets.length = s.sockets.length)
    (hid : ∀ (so : Nat) (x' : TCPSocket), s'.sockets[so]? = some x' →
      ∃ x, s.sockets[so]? = some x ∧ x.sockId = x'.sockId) : TcpInv s' := by
  refine ⟨?_, ?_, ?_, ?_, ?_⟩
  · rw [htcp]
    exact h.no_tcpcb
  · rw [htcp, hlen]
    exact h.entry_lt
  · unfold TcpBound
    rw [htcp, hbound]
    exact h.entry_bound
  · intro id so x' hso hx'
    obtain ⟨x, hx, he⟩ := hid so x' hx'
    rw [htcp] at hso
    rw [TcpBound, hbound, ← he]
    exact h.owner_bound id so x hso hx
  · intro so x' hx'
    obtain ⟨x, hx, he⟩ := hid so x' hx'
    rw [TcpBound, hbound, ← he]
    exact h.id_bound so x hx

/-- The sockets of a list after one of them was changed. -/
theorem TcpInv.setSocket (h : TcpInv s) (hso : s.sockets[so]? = some x) (x' : TCPSocket)
    (hid : x'.sockId = x.sockId) : TcpInv (s.setSocket so x') := by
  refine h.congr rfl rfl (by simp) fun i y hy => ?_
  rcases getElem?_set_cases hy with ⟨rfl, rfl⟩ | ⟨-, hold⟩
  · exact ⟨x, hso, hid.symm⟩
  · exact ⟨y, hold, rfl⟩

theorem TcpInv.fail (h : TcpInv s) (so : Nat) (e : Errno) : TcpInv (s.fail so e) :=
  h.congr rfl rfl rfl fun _ y hy => ⟨y, hy, rfl⟩

/-- A bind that succeeds: the pair is bound and the socket registered under it. -/
theorem TcpInv.register (h : TcpInv s) (hso : s.sockets[so]? = some x)
    {x' : TCPSocket} {id : SockId} (hid : x'.sockId = id) :
    TcpInv { (s.setSocket so x').registerSocket id so with
      boundSockets := s.boundSockets ++ [(id.localIp, id.localPort)] } := by
  have hlt : so < s.sockets.length := (List.getElem?_eq_some_iff.1 hso).1
  have hmem : (id.localIp, id.localPort) ∈ s.boundSockets ++ [(id.localIp, id.localPort)] :=
    List.mem_append_right _ (List.mem_singleton.2 rfl)
  have hcases : ∀ id' i, ((s.setSocket so x').registerSocket id so).core.tcp.sockets id' = some i →
      (id' = id ∧ i = so) ∨ s.core.tcp.sockets id' = some i := by
    intro id' i hi
    rcases of_update_eq_some hi with ⟨he, hnew⟩ | ⟨-, hold⟩
    · exact .inl ⟨he, (Option.some.inj hnew).symm⟩
    · exact .inr hold
  refine ⟨h.no_tcpcb, ?_, ?_, ?_, ?_⟩
  · intro id' i hi
    rcases hcases id' i hi with ⟨-, rfl⟩ | hold
    · simpa [Stack.registerSocket] using hlt
    · simpa [Stack.registerSocket] using h.entry_lt id' i hold
  · intro id' i hi
    rcases hcases id' i hi with ⟨rfl, -⟩ | hold
    · exact hmem
    · exact List.mem_append_left _ (h.entry_bound id' i hold)
  · intro id' i y hi hy
    rcases getElem?_set_cases hy with ⟨rfl, rfl⟩ | ⟨hne, hold⟩
    · rw [TcpBound, hid]
      exact hmem
    · rcases hcases id' i hi with ⟨-, rfl⟩ | hi
      · exact absurd rfl hne
      · exact List.mem_append_left _ (h.owner_bound id' i y hi hold)
  · intro i y hy
    rcases getElem?_set_cases hy with ⟨rfl, rfl⟩ | ⟨-, hold⟩
    · rw [TcpBound, hid]
      exact .inr hmem
    · exact (h.id_bound i y hold).imp (fun h => h) (List.mem_append_left _)

theorem TcpInv.tcpBind (h : TcpInv s) (hso : s.sockets[so]? = some x) (address : Option Nat)
    (port : Nat) : TcpInv (s.tcpBind so x address port) := by
  have hlt : so < s.sockets.length := (List.getElem?_eq_some_iff.1 hso).1
  cases address with
  | none => exact h.fail so _
  | some ip =>
    simp only [Stack.tcpBind]
    -- the address is stored and looked at first, with or without an error
    generalize hs₁ : (if some ip = s.unicastIp then s else s.fail so .eaddrnotavail) = s₁
    have h₁ : TcpInv s₁ ∧ s₁.sockets = s.sockets := by
      rw [← hs₁]
      split
      · exact ⟨h, rfl⟩
      · exact ⟨h.fail so _, rfl⟩
    have hso₁ : s₁.sockets[so]? = some x := by rw [h₁.2]; exact hso
    have h₂ := h₁.1.setSocket hso₁ { x with localIp := some ip } rfl
    have hso₂ : (s₁.setSocket so { x with localIp := some ip }).sockets[so]? =
        some { x with localIp := some ip } := by
      rw [Stack.setSocket_sockets, List.getElem?_set_self (by rw [h₁.2]; exact hlt)]
    split
    · exact h₂
    · split
      · exact h₂.fail so _
      · have h₃ := h₂.setSocket hso₂ { x with localIp := some ip, localPort := port } rfl
        have hso₃ : ((s₁.setSocket so { x with localIp := some ip }).setSocket so
            { x with localIp := some ip, localPort := port }).sockets[so]? =
            some { x with localIp := some ip, localPort := port } := by
          rw [Stack.setSocket_sockets, List.getElem?_set_self]
          rw [Stack.setSocket_sockets, List.length_set, h₁.2]
          exact hlt
        split
        · exact h₃.fail so _
        · exact h₃.register hso₃ rfl

theorem TcpInv.step (h : TcpInv s) {e : StackEvent} (he : Unconnected e) : TcpInv (s.step e) := by
  have hcall : ∀ (so : Nat) (f : TCPSocket → Stack),
      (∀ x, s.sockets[so]? = some x → TcpInv (f x)) → TcpInv (s.sockets[so]?.elim s f) := by
    intro so f hf
    cases hx : s.sockets[so]? with
    | none => exact h
    | some x => exact hf x hx
  cases e with
  | socket =>
    have hget : ∀ (i : Nat) (y : TCPSocket), (s.sockets ++ [.new])[i]? = some y →
        s.sockets[i]? = some y ∨ (s.sockets.length ≤ i ∧ y.sockId = ⟨0, 0, 0, 0⟩) := by
      intro i y hy
      rw [List.getElem?_append] at hy
      split at hy
      · exact .inl hy
      · next hge =>
        rw [List.getElem?_singleton] at hy
        split at hy
        · exact .inr ⟨by omega, by rw [← Option.some.inj hy]; rfl⟩
        · exact absurd hy (by simp)
    refine ⟨h.no_tcpcb, ?_, h.entry_bound, ?_, ?_⟩
    · intro id i hi
      have := h.entry_lt id i hi
      simp only [Stack.step, List.length_append]
      omega
    · intro id i y hi hy
      rcases hget i y hy with hold | ⟨hge, -⟩
      · exact h.owner_bound id i y hi hold
      · exact absurd (h.entry_lt id i hi) (by omega)
    · intro i y hy
      rcases hget i y hy with hold | ⟨-, hid⟩
      · exact h.id_bound i y hold
      · exact .inl hid
  | bind so address port => exact hcall so _ fun x hx => h.tcpBind hx address port
  | close so => exact hcall so _ fun x _ => by rw [h.tcpClose_eq]; exact h.removeSocket _
  | _ => exact absurd he id

theorem tcpReleased_iff (h : TcpInv s) (hso : s.sockets[so]? = some x) :
    TcpReleased s so x ↔ x.sockId = ⟨0, 0, 0, 0⟩ ∧ (0, 0) ∉ s.boundSockets := by
  have hclose : s.step (.close so) = s.removeSocket x.sockId := by
    simp only [Stack.step, hso]
    exact h.tcpClose_eq x
  rw [TcpReleased, hclose]
  refine ⟨fun hr => ?_, fun ⟨hid, hfree⟩ => ?_⟩
  · rcases h.id_bound so x hso with hid | hb
    · refine ⟨hid, ?_⟩
      have := hr.not_bound
      rwa [hid] at this
    · exact absurd hb hr.not_bound
  · -- nothing is registered under the first id, so nothing is removed
    have hnone : s.core.tcp.sockets x.sockId = none := by
      by_contra hne
      obtain ⟨i, hi⟩ := Option.ne_none_iff_exists'.1 hne
      have := h.entry_bound x.sockId i hi
      rw [TcpBound, hid] at this
      exact hfree this
    have hsame : (s.removeSocket x.sockId).core.tcp.sockets = s.core.tcp.sockets := by
      change Function.update s.core.tcp.sockets x.sockId none = _
      rw [← hnone, Function.update_eq_self]
    rw [hsame]
    refine ⟨fun id hentry => ?_, by rwa [hid], fun _ _ _ => Iff.rfl⟩
    have := h.owner_bound id so x hentry hso
    rw [TcpBound, hid] at this
    exact hfree this

end Tcp

/-- **Close releases what a socket took exactly when it took nothing.** After every history of calls
on UDP sockets, and of calls on TCP sockets that make no connection, closing a socket leaves nothing
of it behind if and only if its socket id is still the first one and the pair `(0, 0)` is not bound,
that is when it was never bound or connected. -/
theorem close_releases_iff (ip : Option Nat) (so : Nat) :
    (∀ es x, (run UdpStack.step (.new ip) es).socks[so]? = some x →
        (UdpReleased (run UdpStack.step (.new ip) es) so x ↔ x.sockId = ⟨0, 0, 0, 0⟩ ∧
          (0, 0) ∉ (run UdpStack.step (.new ip) es).udp.boundSockets)) ∧
      ∀ es x, (∀ e ∈ es, Unconnected e) → (run Stack.step (.new ip) es).sockets[so]? = some x →
        (TcpReleased (run Stack.step (.new ip) es) so x ↔ x.sockId = ⟨0, 0, 0, 0⟩ ∧
          (0, 0) ∉ (run Stack.step (.new ip) es).boundSockets) := by
  refine ⟨fun es x hso => ?_, fun es x hes hso => ?_⟩
  · have hinv : (run UdpStack.step (.new ip) es).Inv :=
      run_inv' (fun _ e h => h.step e) (UdpStack.inv_new ip) es
    exact udpReleased_iff hinv hso
  · exact tcpReleased_iff (run_inv (fun _ _ h he => h.step he) (tcpInv_new ip)
      (guarded_of_forall_mem hes _)) hso

/-- A socket that was only made is released by its close, with UDP and with TCP. -/
theorem close_releases_iff_unbound :
    (∃ x, (run UdpStack.step (.new (some 5)) [.socket]).socks[0]? = some x ∧
        UdpReleased (run UdpStack.step (.new (some 5)) [.socket]) 0 x) ∧
      ∃ x, (run Stack.step (.new (some 5)) [.socket]).sockets[0]? = some x ∧
        TcpReleased (run Stack.step (.new (some 5)) [.socket]) 0 x :=
  ⟨⟨_, rfl, ((close_releases_iff (some 5) 0).1 [.socket] _ rfl).2 ⟨rfl, by decide⟩⟩,
    ⟨_, rfl, ((close_releases_iff (some 5) 0).2 [.socket] _ (by decide) rfl).2 ⟨rfl, by decide⟩⟩⟩

/-- A bound UDP socket keeps its entry and its pair after its close, and a bound TCP socket keeps
its pair. -/
theorem bound_socket_not_released :
    (∃ x, (run UdpStack.step (.new (some 5)) [.socket, .bind 0 (some 5) 80]).socks[0]? = some x ∧
        ¬ UdpReleased (run UdpStack.step (.new (some 5)) [.socket, .bind 0 (some 5) 80]) 0 x) ∧
      ∃ x, (run Stack.step (.new (some 5)) [.socket, .bind 0 (some 5) 80]).sockets[0]? = some x ∧
        ¬ TcpReleased (run Stack.step (.new (some 5)) [.socket, .bind 0 (some 5) 80]) 0 x := by
  refine ⟨⟨_, rfl, fun h => h.no_entry (.ints ⟨5, 80, 0, 0⟩) (by decide)⟩,
    ⟨_, rfl, fun h => h.not_bound (by decide)⟩⟩

end Tipy.Sockets
