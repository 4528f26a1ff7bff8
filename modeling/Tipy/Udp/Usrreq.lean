import Tipy.Tcp.Stack
import Tipy.Wire.Rx

/-!
# UDP sockets

`UDPTable` of `tipy/components/sockets_table.py` and the calls `udp_bind`, `udp_connect` and
`udp_close` of `tipy/protocols/udp/udp_usrreq.py`. Sockets are numbered as they are made and the
table holds their numbers. An `IPAddress` has no `__eq__`, so two of them are equal only when they
are one object; a key of the table that holds such objects is never equal to a key made of integers.
-/

namespace Tipy.Udp

open Tipy.Wire Tipy.Tcp

/-- An `IPAddress` object: the number of the object and the address it holds. -/
structure IPAddress where
  obj : Nat
  ip : Nat
deriving Repr, DecidableEq

/-- A key of `UDPTable.sockets`. -/
inductive Key where
  | ints (id : UdpId)
  /-- what `udp_close` makes -/
  | objects (localIp : Option IPAddress) (localPort : Nat) (remoteIp : IPAddress) (remotePort : Nat)
deriving Repr, DecidableEq

/-- `UDPTable`. The set `ephemeral_ports` is the range without `usedPorts`. -/
structure UDPTable where
  sockets : Key → Option Nat
  boundSockets : List (Nat × Nat)
  usedPorts : List Nat

/-- `UDPSocket`, as far as these calls use it. `local_ip` is `none` after a connect on a stack that
has no address yet. -/
structure UDPSocket where
  localIp : Option IPAddress
  localPort : Nat
  remoteIp : IPAddress
  remotePort : Nat
  sockId : UdpId
  error : Option Errno
deriving Repr, DecidableEq

/-- The sockets made so far, the table, and the number of address objects. -/
structure UdpStack where
  unicastIp : Option IPAddress
  socks : List UDPSocket
  udp : UDPTable
  objs : Nat

namespace UDPTable

variable (t : UDPTable)

/-- `register_socket`. -/
def registerSocket (key : Key) (so : Nat) : UDPTable :=
  { t with sockets := Function.update t.sockets key (some so) }

/-- `remove_socket`. -/
def removeSocket (key : Key) : UDPTable :=
  { t with sockets := Function.update t.sockets key none }

/-- `update_socket`. -/
def updateSocket (old new : Key) (so : Nat) : UDPTable :=
  (t.removeSocket old).registerSocket new so

/-- `register_bound_socket`. -/
def registerBoundSocket (pair : Nat × Nat) : UDPTable :=
  { t with boundSockets := t.boundSockets ++ [pair] }

end UDPTable

namespace UdpStack

variable (s : UdpStack)

/-- A stack with the address `ip`, before any call. -/
def new (ip : Option Nat) : UdpStack := ⟨ip.map (⟨0, ·⟩), [], ⟨fun _ => none, [], []⟩, 1⟩

/-- `UDPSocket.__init__`. -/
def socket : UdpStack :=
  { s with
    socks := s.socks ++
      [⟨some ⟨s.objs, 0⟩, 0, ⟨s.objs + 1, 0⟩, 0, ⟨0, 0, 0, 0⟩, none⟩]
    objs := s.objs + 2 }

def setSocket (so : Nat) (x : UDPSocket) : UdpStack := { s with socks := s.socks.set so x }

/-- `udp_bind`; the address is `none` when `IPAddress` cannot read it. -/
def udpBind (so : Nat) (x : UDPSocket) (address : Option Nat) (port : Nat) : UdpStack :=
  match address with
  | none => s.setSocket so { x with error := some .eaiNoname }
  | some ip =>
    let x := if some ip = s.unicastIp.map (·.ip) then x
      else { x with error := some .eaddrnotavail }
    if x.error ≠ none then s.setSocket so x
    else
      let x := { x with localIp := some ⟨s.objs, ip⟩ }
      let s := { s with objs := s.objs + 1 }
      if 1 ≤ x.localPort ∧ x.localPort < 65535 then s.setSocket so { x with error := some .einval }
      else
        let x := { x with localPort := port }
        if (ip, port) ∈ s.udp.boundSockets then
          s.setSocket so { x with error := some .eaddrinuse }
        else
          let id := ⟨ip, port, x.remoteIp.ip, x.remotePort⟩
          { s.setSocket so { x with sockId := id } with
            udp := (s.udp.registerSocket (.ints id) so).registerBoundSocket (ip, port) }

/-- `udp_connect`. An address that `IPAddress` cannot read raises before anything is changed;
`pick_ephemeral_udp_port` takes any port that is left. -/
def udpConnect (so : Nat) (x : UDPSocket) (address : Option Nat) (port picked : Nat) : UdpStack :=
  match address with
  | none => s
  | some ip =>
    let x := { x with remoteIp := ⟨s.objs, ip⟩, remotePort := port }
    let s := { s with objs := s.objs + 1 }
    if x.localPort = 0 then
      if EphemeralPort picked ∧ picked ∉ s.udp.usedPorts then
        let s := { s with udp := { s.udp with usedPorts := s.udp.usedPorts ++ [picked] } }
        let x := { x with localPort := picked, localIp := s.unicastIp }
        match x.localIp with
        -- `so.local_ip.ip` raises
        | none => s.setSocket so x
        | some a =>
          let id := ⟨a.ip, picked, ip, port⟩
          { s.setSocket so { x with sockId := id } with udp := s.udp.registerSocket (.ints id) so }
      else s.setSocket so x
    else
      match x.localIp with
      | none => s.setSocket so x
      | some a =>
        let id := ⟨a.ip, x.localPort, ip, port⟩
        { s.setSocket so { x with sockId := id } with
          udp := s.udp.updateSocket (.ints ⟨a.ip, x.localPort, 0, 0⟩) (.ints id) so }

/-- `udp_close`. The key is made of the address objects. -/
def udpClose (x : UDPSocket) : UdpStack :=
  { s with
    udp := s.udp.removeSocket (.objects x.localIp x.localPort x.remoteIp x.remotePort) }

end UdpStack

/-- The calls of the application on its UDP sockets. -/
inductive UdpEvent where
  | socket
  | bind (so : Nat) (address : Option Nat) (port : Nat)
  | connect (so : Nat) (address : Option Nat) (port picked : Nat)
  | close (so : Nat)
deriving Repr, DecidableEq

/-- One call, on a socket object the application has. -/
def UdpStack.step (s : UdpStack) : UdpEvent → UdpStack
  | .socket => s.socket
  | .bind so address port => s.socks[so]?.elim s fun x => s.udpBind so x address port
  | .connect so address port picked =>
    s.socks[so]?.elim s fun x => s.udpConnect so x address port picked
  | .close so => s.socks[so]?.elim s fun x => s.udpClose x

/-! ## What the calls keep -/

namespace UdpStack

/-- The local part of a socket id is bound. -/
def Bound (s : UdpStack) (id : UdpId) : Prop := (id.localIp, id.localPort) ∈ s.udp.boundSockets

/-- The port belongs to a pair that is bound with the address of the stack. -/
def PortBound (s : UdpStack) (port : Nat) : Prop :=
  ∃ a, s.unicastIp = some a ∧ (a.ip, port) ∈ s.udp.boundSockets

/-- What a socket has taken: nothing; a pair that is bound; or an ephemeral port of its own, with
its entry in place. -/
def Took (s : UdpStack) (so : Nat) (x : UDPSocket) : Prop :=
  (x.sockId = ⟨0, 0, 0, 0⟩ ∧ ∀ key, s.udp.sockets key ≠ some so) ∨ s.Bound x.sockId ∨
    (s.udp.sockets (.ints x.sockId) = some so ∧ x.sockId.localPort = x.localPort ∧
      EphemeralPort x.localPort ∧ s.unicastIp.map (·.ip) = some x.sockId.localIp)

structure Inv (s : UdpStack) : Prop where
  /-- keys are made of integers, and lead to sockets that exist -/
  keys : ∀ key so, s.udp.sockets key = some so → (∃ id, key = .ints id) ∧ so < s.socks.length
  address : ∀ (so : Nat) (x : UDPSocket), s.socks[so]? = some x → x.localPort ≠ 0 →
    x.localIp.map (·.ip) = s.unicastIp.map (·.ip)
  port : ∀ (so : Nat) (x : UDPSocket), s.socks[so]? = some x → x.localPort ≠ 0 →
    (EphemeralPort x.localPort ∧ x.localPort ∈ s.udp.usedPorts) ∨ s.PortBound x.localPort
  /-- a port that two sockets have is bound -/
  shared : ∀ (so : Nat) (x : UDPSocket) (so' : Nat) (x' : UDPSocket), s.socks[so]? = some x →
    s.socks[so']? = some x' → so ≠ so' → x.localPort ≠ 0 → x.localPort = x'.localPort →
      s.PortBound x.localPort
  took : ∀ (so : Nat) (x : UDPSocket), s.socks[so]? = some x → s.Took so x

theorem inv_new (ip : Option Nat) : (new ip).Inv := by
  refine ⟨?_, ?_, ?_, ?_, ?_⟩ <;> simp [new]

variable {s s' : UdpStack} {so : Nat} {x : UDPSocket}

theorem PortBound.mono {port : Nat} (h : s.PortBound port) (hip : s'.unicastIp = s.unicastIp)
    (hbound : s.udp.boundSockets ⊆ s'.udp.boundSockets) : s'.PortBound port := by
  obtain ⟨a, ha, hmem⟩ := h
  exact ⟨a, hip.trans ha, hbound hmem⟩

/-- A call has changed one socket, to `x'`, and the table only at keys with that socket's port. -/
structure Changed (s s' : UdpStack) (so : Nat) (x' : UDPSocket) : Prop where
  lt : so < s.socks.length
  socks : s'.socks = s.socks.set so x'
  unicastIp : s'.unicastIp = s.unicastIp
  bound : s.udp.boundSockets ⊆ s'.udp.boundSockets
  used : s.udp.usedPorts ⊆ s'.udp.usedPorts
  keys : ∀ key, s'.udp.sockets key ≠ s.udp.sockets key →
    ∃ id, key = .ints id ∧ id.localPort = x'.localPort
  entry : ∀ key i, s'.udp.sockets key = some i → s.udp.sockets key = some i ∨ i = so

/-- What the invariant asks of the socket that was changed. -/
structure Admitted (s s' : UdpStack) (so : Nat) (x' : UDPSocket) : Prop where
  address : x'.localPort ≠ 0 → x'.localIp.map (·.ip) = s.unicastIp.map (·.ip)
  port : x'.localPort ≠ 0 → (EphemeralPort x'.localPort ∧ x'.localPort ∈ s'.udp.usedPorts) ∨
    s'.PortBound x'.localPort
  shared : ∀ (i : Nat) (y : UDPSocket), s.socks[i]? = some y → i ≠ so → x'.localPort ≠ 0 →
    y.localPort = x'.localPort → s'.PortBound x'.localPort
  took : s'.Took so x'

namespace Changed

variable {x' y : UDPSocket} {i : Nat}

/-- A socket of the new state is the changed one or an old one. -/
theorem socks_cases (hc : s.Changed s' so x') (hy : s'.socks[i]? = some y) :
    (i = so ∧ y = x') ∨ (i ≠ so ∧ s.socks[i]? = some y) :=
  getElem?_set_cases (hc.socks ▸ hy)

theorem portBound (hc : s.Changed s' so x') {port : Nat} (h : s.PortBound port) :
    s'.PortBound port :=
  h.mono hc.unicastIp hc.bound

/-- A call that leaves the table alone. -/
theorem of_udp_eq (hso : s.socks[so]? = some x) (hsocks : s'.socks = s.socks.set so x')
    (hip : s'.unicastIp = s.unicastIp) (hudp : s'.udp = s.udp) : s.Changed s' so x' where
  lt := (List.getElem?_eq_some_iff.1 hso).1
  socks := hsocks
  unicastIp := hip
  bound := by rw [hudp]; exact List.Subset.refl _
  used := by rw [hudp]; exact List.Subset.refl _
  keys key hne := absurd (by rw [hudp]) hne
  entry key i hi := .inl (hudp ▸ hi)

/-- An entry stays, or leads to the changed socket, or has a key whose port is bound. -/
theorem took (hc : s.Changed s' so x') (ha : s.Admitted s' so x') (hold : s.socks[i]? = some y)
    (hi : i ≠ so) (h : s.Took i y) : s'.Took i y := by
  rcases h with ⟨hid, hnone⟩ | hb | ⟨hmine, hp, heph, hu⟩
  · refine .inl ⟨hid, fun key hkey => ?_⟩
    rcases hc.entry key i hkey with hkey | hkey
    · exact hnone key hkey
    · exact hi hkey
  · exact .inr (.inl (hc.bound hb))
  · by_cases hsame : s'.udp.sockets (.ints y.sockId) = s.udp.sockets (.ints y.sockId)
    · exact .inr (.inr ⟨hsame.trans hmine, hp, heph, hc.unicastIp ▸ hu⟩)
    · -- the changed key has this socket's port, so the port is bound
      obtain ⟨id, hid, hidp⟩ := hc.keys _ hsame
      obtain rfl : y.sockId = id := by simpa using hid
      have hne : y.localPort ≠ 0 := by
        have := heph.1
        omega
      have hxy : y.localPort = x'.localPort := hp.symm.trans hidp
      obtain ⟨a, ha, hmem⟩ := ha.shared i y hold hi (hxy ▸ hne) hxy
      rw [← hc.unicastIp, ha] at hu
      refine .inr (.inl ?_)
      rw [Bound, hidp, ← Option.some.inj hu]
      exact hmem

end Changed

/-- **A call that changes one socket** has to show the invariant for that socket alone. -/
theorem Inv.update {x' : UDPSocket} (h : s.Inv) (hc : s.Changed s' so x')
    (ha : s.Admitted s' so x') :
    s'.Inv := by
  refine ⟨?_, ?_, ?_, ?_, ?_⟩
  · intro key i hi
    refine ⟨?_, ?_⟩
    · by_cases hsame : s'.udp.sockets key = s.udp.sockets key
      · exact (h.keys key i (hsame ▸ hi)).1
      · obtain ⟨id, hid, -⟩ := hc.keys key hsame
        exact ⟨id, hid⟩
    · rw [hc.socks, List.length_set]
      rcases hc.entry key i hi with hold | rfl
      · exact (h.keys key i hold).2
      · exact hc.lt
  · intro i y hy hne
    rw [hc.unicastIp]
    rcases hc.socks_cases hy with ⟨rfl, rfl⟩ | ⟨-, hold⟩
    · exact ha.address hne
    · exact h.address i y hold hne
  · intro i y hy hne
    rcases hc.socks_cases hy with ⟨rfl, rfl⟩ | ⟨-, hold⟩
    · exact ha.port hne
    · exact (h.port i y hold hne).imp (fun hp => ⟨hp.1, hc.used hp.2⟩) hc.portBound
  · intro i y j z hy hz hij hne heq
    rcases hc.socks_cases hy with ⟨rfl, rfl⟩ | ⟨hi, hold⟩
    · rcases hc.socks_cases hz with ⟨rfl, rfl⟩ | ⟨hj, hold'⟩
      · exact absurd rfl hij
      · exact ha.shared j z hold' hj hne heq.symm
    · rcases hc.socks_cases hz with ⟨rfl, rfl⟩ | ⟨hj, hold'⟩
      · rw [heq]
        exact ha.shared i y hold hi (heq ▸ hne) heq
      · exact hc.portBound (h.shared i y j z hold hold' hij hne heq)
  · intro i y hy
    rcases hc.socks_cases hy with ⟨rfl, rfl⟩ | ⟨hi, hold⟩
    · exact ha.took
    · exact hc.took ha hold hi (h.took i y hold)

/-- A call that leaves the table, the port and the id of the socket alone. -/
theorem Inv.keep (h : s.Inv) (x' : UDPSocket) (hsocks : s'.socks = s.socks.set so x')
    (hso : s.socks[so]? = some x)
    (hip : s'.unicastIp = s.unicastIp) (hudp : s'.udp = s.udp) (hp : x'.localPort = x.localPort)
    (hid : x'.sockId = x.sockId)
    (haddress : x'.localPort ≠ 0 → x'.localIp.map (·.ip) = s.unicastIp.map (·.ip)) : s'.Inv := by
  have hc : s.Changed s' so x' := .of_udp_eq hso hsocks hip hudp
  refine h.update hc ⟨haddress, ?_, ?_, ?_⟩
  · intro hne
    rw [hp] at hne ⊢
    rw [hudp]
    exact (h.port so x hso hne).imp id hc.portBound
  · intro i y hy hi hne heq
    rw [hp] at hne heq ⊢
    exact hc.portBound (h.shared so x i y hso hy (Ne.symm hi) hne heq.symm)
  · have := h.took so x hso
    unfold Took Bound at this ⊢
    rwa [hudp, hip, hp, hid]

theorem Inv.socket (h : s.Inv) : s.socket.Inv := by
  have hget : ∀ (i : Nat) (y : UDPSocket), s.socket.socks[i]? = some y →
      s.socks[i]? = some y ∨ (i = s.socks.length ∧ y.localPort = 0 ∧ y.sockId = ⟨0, 0, 0, 0⟩) := by
    intro i y hy
    simp only [UdpStack.socket, List.getElem?_append] at hy
    split at hy
    · exact .inl hy
    · next hge =>
      have hi : i - s.socks.length = 0 := by
        have := (List.getElem?_eq_some_iff.1 hy).1
        simpa using this
      rw [hi] at hy
      cases hy
      exact .inr ⟨by omega, rfl, rfl⟩
  refine ⟨?_, ?_, ?_, ?_, ?_⟩
  · intro key i hi
    refine ⟨(h.keys key i hi).1, ?_⟩
    have := (h.keys key i hi).2
    simp only [UdpStack.socket, List.length_append]
    omega
  · intro i y hy hne
    rcases hget i y hy with hold | ⟨-, hzero, -⟩
    · exact h.address i y hold hne
    · exact absurd hzero hne
  · intro i y hy hne
    rcases hget i y hy with hold | ⟨-, hzero, -⟩
    · exact h.port i y hold hne
    · exact absurd hzero hne
  · intro i y j z hy hz hij hne heq
    rcases hget i y hy with hold | ⟨-, hzero, -⟩
    · rcases hget j z hz with hold' | ⟨-, hzero, -⟩
      · exact h.shared i y j z hold hold' hij hne heq
      · exact absurd (heq.trans hzero) hne
    · exact absurd hzero hne
  · intro i y hy
    rcases hget i y hy with hold | ⟨hi, -, hid⟩
    · exact h.took i y hold
    · refine .inl ⟨hid, fun key hkey => ?_⟩
      have := (h.keys key i hkey).2
      omega

/-! The table after a registration and after an update. -/

section Register

variable {t : UDPTable} {id old : UdpId} {key : Key} {i : Nat}

theorem registerSocket_cases (h : (t.registerSocket (.ints id) so).sockets key = some i) :
    t.sockets key = some i ∨ i = so := by
  rcases of_update_eq_some h with ⟨-, hnew⟩ | ⟨-, hold⟩
  · exact .inr (Option.some.inj hnew).symm
  · exact .inl hold

theorem key_of_registered (h : (t.registerSocket (.ints id) so).sockets key ≠ t.sockets key) :
    key = .ints id := by
  by_contra hk
  exact h (Function.update_of_ne hk _ _)

theorem updateSocket_cases (h : (t.updateSocket (.ints old) (.ints id) so).sockets key = some i) :
    t.sockets key = some i ∨ i = so := by
  refine (registerSocket_cases h).imp_left fun hold => ?_
  rcases of_update_eq_some hold with ⟨-, hnone⟩ | ⟨-, hold⟩
  · cases hnone
  · exact hold

theorem key_of_updated
    (h : (t.updateSocket (.ints old) (.ints id) so).sockets key ≠ t.sockets key) :
    key = .ints id ∨ key = .ints old := by
  by_contra hk
  rw [not_or] at hk
  exact h ((Function.update_of_ne hk.1 _ _).trans (Function.update_of_ne hk.2 _ _))

end Register

/-- A bind that got as far as the port, on a pair that is bound then. -/
theorem Inv.rebind (h : s.Inv) (x' : UDPSocket) (hc : s.Changed s' so x')
    (hpb : s'.PortBound x'.localPort)
    (haddress : x'.localIp.map (·.ip) = s.unicastIp.map (·.ip)) (htook : s'.Took so x') : s'.Inv :=
  h.update hc ⟨fun _ => haddress, fun _ => .inr hpb, fun _ _ _ _ _ _ => hpb, htook⟩

theorem Inv.udpBind (h : s.Inv) (hso : s.socks[so]? = some x) (address : Option Nat) (port : Nat) :
    (s.udpBind so x address port).Inv := by
  unfold UdpStack.udpBind
  cases address with
  | none => exact h.keep _ rfl hso rfl rfl rfl rfl (h.address so x hso)
  | some ip =>
    by_cases hip : some ip = s.unicastIp.map (·.ip)
    · obtain ⟨a, ha, rfl⟩ : ∃ a, s.unicastIp = some a ∧ a.ip = ip := by
        simpa [eq_comm] using hip
      simp only [if_pos hip]
      split
      · exact h.keep _ rfl hso rfl rfl rfl rfl (h.address so x hso)
      · split
        · exact h.keep ({ x with localIp := some ⟨s.objs, a.ip⟩, error := some .einval }) rfl hso
            rfl rfl rfl rfl fun _ => by simpa using hip
        · next hfree =>
          split
          · next hinuse =>
            refine h.rebind ⟨some ⟨s.objs, a.ip⟩, port, x.remoteIp, x.remotePort, x.sockId,
              some .eaddrinuse⟩ (.of_udp_eq hso rfl rfl rfl) ⟨a, ha, hinuse⟩ (by simpa using hip) ?_
            rcases h.took so x hso with hnone | hb | ⟨-, -, heph, -⟩
            · exact .inl hnone
            · exact .inr (.inl hb)
            · -- a socket with an ephemeral port does not get here
              have := heph.1
              have := heph.2
              omega
          · have hmem : (a.ip, port) ∈ s.udp.boundSockets ++ [(a.ip, port)] :=
              List.mem_append_right _ (List.mem_singleton.2 rfl)
            have hlt : so < s.socks.length := (List.getElem?_eq_some_iff.1 hso).1
            exact h.rebind ⟨some ⟨s.objs, a.ip⟩, port, x.remoteIp, x.remotePort,
                ⟨a.ip, port, x.remoteIp.ip, x.remotePort⟩, x.error⟩
              ⟨hlt, rfl, rfl, List.subset_append_left _ _, List.Subset.refl _,
                fun key hne => ⟨_, key_of_registered hne, rfl⟩, fun key i hi =>
                  registerSocket_cases hi⟩
              ⟨a, ha, hmem⟩ (by simpa using hip) (.inr (.inl hmem))
    · simp only [if_neg hip]
      exact h.keep ({ x with error := some .eaddrnotavail }) rfl hso rfl rfl rfl rfl
        (h.address so x hso)

/-- A connect that takes the ephemeral port `picked`: the port is one that no socket has, or is
bound. -/
theorem Inv.connectPicked {picked : Nat} (h : s.Inv) (x' : UDPSocket) (hc : s.Changed s' so x')
    (hpick : EphemeralPort picked ∧ picked ∉ s.udp.usedPorts) (hport : x'.localPort = picked)
    (hused : picked ∈ s'.udp.usedPorts) (haddress : x'.localIp = s.unicastIp)
    (htook : s'.Took so x') :
    s'.Inv := by
  subst hport
  refine h.update hc ⟨fun _ => by rw [haddress], fun _ => .inl ⟨hpick.1, hused⟩, ?_, htook⟩
  intro i y hy _ hne heq
  rcases h.port i y hy (heq ▸ hne) with ⟨-, hmem⟩ | hb
  · exact absurd (heq ▸ hmem) hpick.2
  · exact hc.portBound (heq ▸ hb)

/-- A connect of a socket that has a port moves its entry to the new remote pair. -/
theorem Inv.connectMoved (h : s.Inv) (hso : s.socks[so]? = some x) (hne : x.localPort ≠ 0)
    {a : IPAddress} (ha : x.localIp = some a) (ip port : Nat) :
    ({ s.setSocket so ⟨x.localIp, x.localPort, ⟨s.objs, ip⟩, port, ⟨a.ip, x.localPort, ip, port⟩,
        x.error⟩ with
      udp := s.udp.updateSocket (.ints ⟨a.ip, x.localPort, 0, 0⟩)
        (.ints ⟨a.ip, x.localPort, ip, port⟩) so
      objs := s.objs + 1 } : UdpStack).Inv := by
  have haddr := h.address so x hso hne
  rw [ha] at haddr
  refine h.update ⟨(List.getElem?_eq_some_iff.1 hso).1, rfl, rfl, List.Subset.refl _,
      List.Subset.refl _, fun key hne => ?_, fun key i hi => updateSocket_cases hi⟩
    ⟨h.address so x hso, fun _ => h.port so x hso hne,
      fun i y hy hi _ heq => h.shared so x i y hso hy (Ne.symm hi) hne heq.symm, ?_⟩
  · -- the two keys the call touches have the port of the socket
    rcases key_of_updated hne with rfl | rfl
    · exact ⟨_, rfl, rfl⟩
    · exact ⟨_, rfl, rfl⟩
  · rcases h.port so x hso hne with ⟨heph, -⟩ | ⟨b, hb, hmem⟩
    · refine .inr (.inr ⟨?_, rfl, heph, haddr.symm⟩)
      simp [UDPTable.updateSocket, UDPTable.registerSocket]
    · rw [hb] at haddr
      have hab : a.ip = b.ip := Option.some.inj haddr
      refine .inr (.inl ?_)
      change (a.ip, x.localPort) ∈ s.udp.boundSockets
      rw [hab]
      exact hmem

theorem Inv.udpConnect (h : s.Inv) (hso : s.socks[so]? = some x) (address : Option Nat)
    (port picked : Nat) : (s.udpConnect so x address port picked).Inv := by
  have hlt : so < s.socks.length := (List.getElem?_eq_some_iff.1 hso).1
  unfold UdpStack.udpConnect
  cases address with
  | none => exact h
  | some ip =>
    simp only
    split
    · next hzero =>
      split
      · next hpick =>
        have hused : picked ∈ s.udp.usedPorts ++ [picked] :=
          List.mem_append_right _ (List.mem_singleton.2 rfl)
        split
        · next ha =>
          refine h.connectPicked ⟨s.unicastIp, picked, ⟨s.objs, ip⟩, port, x.sockId, x.error⟩
            ⟨hlt, rfl, rfl, List.Subset.refl _, List.subset_append_left _ _,
              fun key hne => absurd rfl hne, fun key i hi => .inl hi⟩ hpick rfl hused rfl ?_
          rcases h.took so x hso with hnone | hb | ⟨-, -, heph, -⟩
          · exact .inl hnone
          · exact .inr (.inl hb)
          · have := heph.1
            omega
        · next a ha =>
          refine h.connectPicked ⟨s.unicastIp, picked, ⟨s.objs, ip⟩, port,
              ⟨a.ip, picked, ip, port⟩, x.error⟩
            ⟨hlt, rfl, rfl, List.Subset.refl _, List.subset_append_left _ _,
              fun key hne => ⟨_, key_of_registered hne, rfl⟩, fun key i hi =>
                registerSocket_cases hi⟩
            hpick rfl hused rfl ?_
          refine .inr (.inr ⟨?_, rfl, hpick.1, congrArg (Option.map _) ha⟩)
          simp [UDPTable.registerSocket]
      · exact h.keep _ rfl hso rfl rfl rfl rfl (h.address so x hso)
    · next hne =>
      split
      · exact h.keep _ rfl hso rfl rfl rfl rfl (h.address so x hso)
      · next a ha => exact h.connectMoved hso hne ha ip port

/-- `udp_close` leaves the table as it is: no key is made of objects. -/
theorem Inv.udpClose_eq (h : s.Inv) (x : UDPSocket) : s.udpClose x = s := by
  have hnone : s.udp.sockets (.objects x.localIp x.localPort x.remoteIp x.remotePort) = none := by
    by_contra hne
    obtain ⟨so, hso⟩ := Option.ne_none_iff_exists'.1 hne
    obtain ⟨id, hid⟩ := (h.keys _ so hso).1
    exact absurd hid (by simp)
  have hsame : Function.update s.udp.sockets
      (.objects x.localIp x.localPort x.remoteIp x.remotePort) none = s.udp.sockets := by
    rw [← hnone, Function.update_eq_self]
  rw [UdpStack.udpClose, UDPTable.removeSocket, hsame]

theorem Inv.step (h : s.Inv) (e : UdpEvent) : (s.step e).Inv := by
  -- a call on a socket that does not exist does nothing
  have hcall : ∀ (so : Nat) (f : UDPSocket → UdpStack), (∀ x, s.socks[so]? = some x → (f x).Inv) →
      (s.socks[so]?.elim s f).Inv := by
    intro so f hf
    cases hx : s.socks[so]? with
    | none => exact h
    | some x => exact hf x hx
  cases e with
  | socket => exact h.socket
  | bind so address port => exact hcall so _ fun x hx => h.udpBind hx address port
  | connect so address port picked =>
    exact hcall so _ fun x hx => h.udpConnect hx address port picked
  | close so => exact hcall so _ fun x _ => by rw [h.udpClose_eq]; exact h

end UdpStack

end Tipy.Udp
