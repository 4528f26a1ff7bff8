import Tipy.Tcp.StoredError
import Tipy.Udp.Usrreq

/-!
# Calls that fail

`bind` and `recv` with what they return or raise. A call that fails stores its error in the socket,
where `raise_exception` finds it in every later call, and `tcp_bind` has assigned `local_ip` by
then. So a `bind` that raises leaves its socket as it was only when the socket had that very error,
and for TCP that very address, before; and a `recv` that has timed out is the last one that could
have returned anything.
-/

namespace Tipy.Sockets

open Tipy.Lib Tipy.Buffer Tipy.Tcp Tipy.Udp

/-! ## The address of a `bind` -/

/-- The error the first test of `bind` stores; the address is `none` when `IPAddress` cannot read
it. -/
def addressError (unicastIp : Option Nat) : Option Nat → Option Errno
  | none => some .eaiNoname
  | some ip => if some ip = unicastIp then none else some .eaddrnotavail

/-- Every test of `bind` passes: no error is stored, the address is the one of the stack, the socket
is not bound and the pair is free. -/
def Bindable (stored : Option Errno) (unicastIp : Option Nat) (localPort : Nat)
    (boundSockets : List (Nat × Nat)) (address : Option Nat) (port : Nat) : Prop :=
  stored = none ∧ addressError unicastIp address = none ∧ ¬ (1 ≤ localPort ∧ localPort < 65535) ∧
    ∀ ip ∈ address, (ip, port) ∉ boundSockets

instance (stored : Option Errno) (unicastIp : Option Nat) (localPort : Nat)
    (boundSockets : List (Nat × Nat)) (address : Option Nat) (port : Nat) :
    Decidable (Bindable stored unicastIp localPort boundSockets address port) :=
  inferInstanceAs (Decidable (_ ∧ _ ∧ _ ∧ _))

/-- An error is stored already, and the test of the address stores no other. -/
def AlreadyFailed (stored unicastError : Option Errno) : Prop :=
  stored ≠ none ∧ unicastError.or stored = stored

/-- A call that raises leaves what `view` shows of the state as it was, so a following call that
would have gone through before it goes through. -/
def Harmless {σ β : Type} (view : σ → β) (bind : σ → Option Nat → Nat → σ × Except Errno Unit)
    (s : σ) (address : Option Nat) (port : Nat) : Prop :=
  ∀ e, (bind s address port).2 = .error e →
    view (bind s address port).1 = view s ∧
      ∀ address' port', (bind s address' port').2 = .ok () →
        (bind (bind s address port).1 address' port').2 = .ok ()

theorem AlreadyFailed.of_stored {stored unicastError : Option Errno} {e : Errno}
    (hstored : stored = some e) (hsame : ∀ e', unicastError = some e' → e' = e) :
    AlreadyFailed stored unicastError := by
  subst hstored
  refine ⟨Option.some_ne_none e, ?_⟩
  cases unicastError with
  | none => rfl
  | some e' => rw [hsame e' rfl, Option.some_or]

section Harmless

variable {σ β : Type} {view : σ → β} {bind : σ → Option Nat → Nat → σ × Except Errno Unit} {s : σ}
  {address : Option Nat} {port : Nat}

theorem Harmless.of_ok (h : (bind s address port).2 = .ok ()) :
    Harmless view bind s address port := by
  intro e he
  rw [h] at he
  cases he

theorem Harmless.of_eq (h : (bind s address port).1 = s) : Harmless view bind s address port := by
  intro e _
  rw [h]
  exact ⟨rfl, fun _ _ h => h⟩

/-- Where what `view` shows is as it was only when all is as it was. -/
theorem harmless_iff {bindable failed : Prop} (hok : (bind s address port).2 = .ok () ↔ bindable)
    (hkept : ∀ e, (bind s address port).2 = .error e →
      view (bind s address port).1 = view s → failed)
    (hsame : failed → (bind s address port).1 = s) :
    Harmless view bind s address port ↔ bindable ∨ failed := by
  constructor
  · intro hharm
    cases hres : (bind s address port).2 with
    | ok _ => exact .inl (hok.1 hres)
    | error e => exact .inr (hkept e hres (hharm e hres).1)
  · rintro (hbind | hfailed)
    · exact .of_ok (hok.2 hbind)
    · exact .of_eq (hsame hfailed)

end Harmless

/-! ## TCP -/

section Tcp

variable (s : Stack) (so : Nat)

/-- `raise_exception`, with what comes after it when there is no error. -/
def raiseException {α : Type} (rest : Stack × Except Errno α) : Stack × Except Errno α :=
  match s.core.soError so with
  | some e => (s, .error e)
  | none => rest

/-- `so.error = e` and `so.raise_exception()`. -/
def failWith {α : Type} (e : Errno) : Stack × Except Errno α := (s.fail so e, .error e)

/-- `tcp_bind`, with what it raises. -/
def tcpBindCall (x : TCPSocket) (address : Option Nat) (port : Nat) : Stack × Except Errno Unit :=
  match address with
  | none => failWith s so .eaiNoname
  | some ip =>
    let s := if some ip = s.unicastIp then s else s.fail so .eaddrnotavail
    let x := { x with localIp := some ip }
    let s := s.setSocket so x
    raiseException s so <|
      if 1 ≤ x.localPort ∧ x.localPort < 65535 then failWith s so .einval
      else
        let x := { x with localPort := port }
        let s := s.setSocket so x
        if (ip, port) ∈ s.boundSockets then failWith s so .eaddrinuse
        else
          let id := ⟨ip, port, x.remoteIp, x.remotePort⟩
          let s := (s.setSocket so { x with sockId := id }).registerSocket id so
          ({ s with boundSockets := s.boundSockets ++ [(ip, port)] }, .ok ())

/-- `bind` of the socket object. -/
def tcpBindOf (address : Option Nat) (port : Nat) : Stack × Except Errno Unit :=
  match s.sockets[so]? with
  | some x => tcpBindCall s so x address port
  | none => (s, .ok ())

/-- What a failed `bind` must leave alone: the socket's `local_ip`, `local_port`, `sock_id` and
`error`, and the tables. -/
def tcpView :
    Option (Option Nat × Nat × SockId) × Option Errno × TCPTable × List (Nat × Nat) × List Nat :=
  (s.sockets[so]?.map fun x => (x.localIp, x.localPort, x.sockId), s.core.soError so, s.core.tcp,
    s.boundSockets, s.usedPorts)

/-- How a call of `tcp_recv` ends. -/
inductive RecvResult where
  | returned (data : List UInt8)
  | raised (e : Errno)
  | waits
deriving Repr, DecidableEq

/-- `tcp_recv`, with what it returns or raises. -/
def tcpRecvCall (x : TCPSocket) (bufsize : Nat) : Stack × RecvResult :=
  match s.core.soError so with
  | some e => (s, .raised e)
  | none =>
    match s.core.tcp.tcpcbs x.sockId with
    | none => (s.fail so .enotconn, .raised .enotconn)
    | some tcpcb =>
      match s.tcbs[tcpcb]? with
      | some t =>
        if t.state ∈ Conn.NON_RECEIVABLE_STATES then (s, .returned [])
        else if t.rcv.rcvBuf.isEmpty then
          ({ s with calls := s.calls ++ [.receiving so tcpcb bufsize] }, .waits)
        else
          (s.onTcb tcpcb (·.tcpRecv bufsize),
            .returned (viewBytes t.rcv.rcvBuf.ring (t.rcv.rcvBuf.dequeue bufsize).1))
      -- the table only has control blocks that were made
      | none => (s, .waits)

/-- The step is a `recv` on the socket that raises `TimeoutError`: one that gives up, or one that
finds that error stored. -/
def RecvTimesOut : StackEvent → Prop
  | .timeout k => ∃ tcpcb bufsize, s.calls[k]? = some (.receiving so tcpcb bufsize)
  | .recv so' bufsize => so' = so ∧
      ∃ x, s.sockets[so]? = some x ∧ (tcpRecvCall s so x bufsize).2 = .raised .etimedout
  | _ => False

/-- The data that has arrived for a socket and was not read. -/
def arrived (x : TCPSocket) : List UInt8 :=
  match (s.core.tcp.tcpcbs x.sockId).bind (s.tcbs[·]?) with
  | some t => t.rcv.rcvBuf.queue
  | none => []

end Tcp

/-! ## UDP -/

section Udp

variable (s : UdpStack) (so : Nat)

/-- `udp_bind`, with what it raises. -/
def udpBindCall (x : UDPSocket) (address : Option Nat) (port : Nat) :
    UdpStack × Except Errno Unit :=
  match address with
  | none => (s.setSocket so { x with error := some .eaiNoname }, .error .eaiNoname)
  | some ip =>
    let x := if some ip = s.unicastIp.map (·.ip) then x
      else { x with error := some .eaddrnotavail }
    match x.error with
    | some e => (s.setSocket so x, .error e)
    | none =>
      let x := { x with localIp := some ⟨s.objs, ip⟩ }
      let s := { s with objs := s.objs + 1 }
      if 1 ≤ x.localPort ∧ x.localPort < 65535 then
        (s.setSocket so { x with error := some .einval }, .error .einval)
      else
        let x := { x with localPort := port }
        if (ip, port) ∈ s.udp.boundSockets then
          (s.setSocket so { x with error := some .eaddrinuse }, .error .eaddrinuse)
        else
          let id := ⟨ip, port, x.remoteIp.ip, x.remotePort⟩
          ({ s.setSocket so { x with sockId := id } with
            udp := (s.udp.registerSocket (.ints id) so).registerBoundSocket (ip, port) }, .ok ())

/-- `bind` of the socket object. -/
def udpBindOf (address : Option Nat) (port : Nat) : UdpStack × Except Errno Unit :=
  match s.socks[so]? with
  | some x => udpBindCall s so x address port
  | none => (s, .ok ())

/-- What a failed `bind` must leave alone. -/
def udpView : Option (Option Nat × Nat × Wire.UdpId × Option Errno) × UDPTable :=
  (s.socks[so]?.map fun x => (x.localIp.map (·.ip), x.localPort, x.sockId, x.error), s.udp)

end Udp

/-! ## The calls are those of the stack -/

theorem tcpBindCall_fst (s : Stack) (so : Nat) (x : TCPSocket) (address : Option Nat) (port : Nat) :
    (tcpBindCall s so x address port).1 = s.tcpBind so x address port := by
  cases address with
  | none => rfl
  | some ip =>
    obtain ⟨s₁, hs₁⟩ : ∃ s₁ : Stack,
        (if some ip = s.unicastIp then s else s.fail so .eaddrnotavail) = s₁ := ⟨_, rfl⟩
    simp only [tcpBindCall, Stack.tcpBind, hs₁, raiseException]
    cases herr : (s₁.setSocket so { x with localIp := some ip }).core.soError so with
    | some e => exact (if_pos (Option.some_ne_none e)).symm
    | none =>
      refine Eq.trans ?_ (if_neg fun h => h rfl).symm
      dsimp only
      split
      · rfl
      · split <;> rfl

theorem tcpRecvCall_fst (s : Stack) (so : Nat) (x : TCPSocket) (bufsize : Nat) :
    (tcpRecvCall s so x bufsize).1 = s.tcpRecv so x bufsize := by
  unfold tcpRecvCall Stack.tcpRecv
  cases s.core.soError so with
  | some e => exact (if_pos (Option.some_ne_none e)).symm
  | none =>
    refine Eq.trans ?_ (if_neg fun h => h rfl).symm
    cases s.core.tcp.tcpcbs x.sockId with
    | none => rfl
    | some tcpcb =>
      simp only
      cases s.tcbs[tcpcb]? with
      | none => rfl
      | some t =>
        simp only
        split
        · rfl
        · split <;> rfl

theorem udpBindCall_fst (s : UdpStack) (so : Nat) (x : UDPSocket) (address : Option Nat)
    (port : Nat) : (udpBindCall s so x address port).1 = s.udpBind so x address port := by
  cases address with
  | none => rfl
  | some ip =>
    obtain ⟨x₁, hx₁⟩ : ∃ x₁ : UDPSocket, (if some ip = s.unicastIp.map (·.ip) then x
        else { x with error := some .eaddrnotavail }) = x₁ := ⟨_, rfl⟩
    simp only [udpBindCall, UdpStack.udpBind, hx₁]
    cases herr : x₁.error with
    | some e => exact (if_pos (Option.some_ne_none e)).symm
    | none =>
      refine Eq.trans ?_ (if_neg fun h => h rfl).symm
      dsimp only
      split
      · rfl
      · split <;> rfl

/-! ## When a `bind` goes through, and what it leaves when it raises -/

section TcpBind

variable {s : Stack} {so : Nat} {x : TCPSocket} {address : Option Nat} {port : Nat} {e : Errno}

theorem fail_of_stored (h : s.core.soError so = some e) : s.fail so e = s := by
  have hcore : s.core.setSoError so e = s.core := by
    unfold Core.setSoError
    rw [← h, Function.update_eq_self]
  change { s with core := s.core.setSoError so e } = s
  rw [hcore]

theorem setSocket_of_get (h : s.sockets[so]? = some x) : s.setSocket so x = s := by
  have hset : s.sockets.set so x = s.sockets := by
    obtain ⟨hlt, rfl⟩ := List.getElem?_eq_some_iff.1 h
    exact List.set_getElem_self hlt
  unfold Stack.setSocket
  rw [hset]

theorem soError_fail (s : Stack) (so : Nat) (e : Errno) :
    (s.fail so e).core.soError so = some e := by
  simp [Stack.fail]

/-- `tcp_bind` for an address that can be read and is not that of the stack. -/
theorem tcpBindCall_foreign {ip : Nat} (h : some ip ≠ s.unicastIp) :
    tcpBindCall s so x (some ip) port =
      ((s.fail so .eaddrnotavail).setSocket so { x with localIp := some ip },
        .error .eaddrnotavail) := by
  have herr :
    ((s.fail so .eaddrnotavail).setSocket so { x with localIp := some ip }).core.soError so =
      some .eaddrnotavail := soError_fail s so _
  simp only [tcpBindCall, if_neg h, raiseException, herr]

/-- `tcp_bind` for the address of the stack, on a socket with an error. -/
theorem tcpBindCall_stored {ip : Nat} (h : some ip = s.unicastIp)
    (he : s.core.soError so = some e) :
    tcpBindCall s so x (some ip) port = (s.setSocket so { x with localIp := some ip },
        .error e) := by
  have herr : (s.setSocket so { x with localIp := some ip }).core.soError so = some e := he
  simp only [tcpBindCall, if_pos h, raiseException, herr]

/-- `tcp_bind` for the address of the stack, on a socket without an error. -/
theorem tcpBindCall_clear {ip : Nat} (h : some ip = s.unicastIp) (he : s.core.soError so = none) :
    tcpBindCall s so x (some ip) port =
      let y := { x with localIp := some ip }
      let t := s.setSocket so y
      if 1 ≤ x.localPort ∧ x.localPort < 65535 then failWith t so .einval
      else
        let z := { y with localPort := port }
        let t := t.setSocket so z
        if (ip, port) ∈ s.boundSockets then failWith t so .eaddrinuse
        else
          let id := ⟨ip, port, x.remoteIp, x.remotePort⟩
          let t := (t.setSocket so { z with sockId := id }).registerSocket id so
          ({ t with boundSockets := t.boundSockets ++ [(ip, port)] }, .ok ()) := by
  have herr : (s.setSocket so { x with localIp := some ip }).core.soError so = none := he
  simp only [tcpBindCall, if_pos h, raiseException, herr]
  rfl

/-- The test of the address decides the error that is raised. -/
theorem tcpBindCall_addressError (h : addressError s.unicastIp address = some e) :
    (tcpBindCall s so x address port).2 = .error e := by
  cases address with
  | none =>
    cases h
    rfl
  | some ip =>
    by_cases hown : some ip = s.unicastIp
    · simp [addressError, hown] at h
    · simp only [addressError, if_neg hown, Option.some.injEq] at h
      rw [tcpBindCall_foreign hown, h]

/-- A call that raises has stored its error. -/
theorem tcpBindCall_stores (h : (tcpBindCall s so x address port).2 = .error e) :
    (tcpBindCall s so x address port).1.core.soError so = some e := by
  cases address with
  | none =>
    cases h
    exact soError_fail s so _
  | some ip =>
    by_cases hown : some ip = s.unicastIp
    · cases herr : s.core.soError so with
      | some e' =>
        rw [tcpBindCall_stored hown herr] at h ⊢
        cases h
        exact herr
      | none =>
        rw [tcpBindCall_clear hown herr] at h ⊢
        dsimp only at h ⊢
        split_ifs at h ⊢
        · cases h
          exact soError_fail _ so _
        · cases h
          exact soError_fail _ so _
    · rw [tcpBindCall_foreign hown] at h ⊢
      cases h
      exact soError_fail s so _

/-- An address that can be read is assigned, whatever the call ends with. -/
theorem tcpBindCall_localIp (ip port : Nat) (h : s.sockets[so]? = some x) :
    ∃ y, (tcpBindCall s so x (some ip) port).1.sockets[so]? = some y ∧ y.localIp = some ip := by
  have hlt : so < s.sockets.length := (List.getElem?_eq_some_iff.1 h).1
  by_cases hown : some ip = s.unicastIp
  · cases herr : s.core.soError so with
    | some e' =>
      rw [tcpBindCall_stored hown herr]
      exact ⟨_, List.getElem?_set_self hlt, rfl⟩
    | none =>
      rw [tcpBindCall_clear hown herr]
      dsimp only
      split_ifs
      · exact ⟨_, List.getElem?_set_self hlt, rfl⟩
      · exact ⟨_, List.getElem?_set_self (by simpa using hlt), rfl⟩
      · exact ⟨_, List.getElem?_set_self (by simpa using hlt), rfl⟩
  · rw [tcpBindCall_foreign hown]
    exact ⟨_, List.getElem?_set_self hlt, rfl⟩

theorem tcpBindCall_ok_iff : (tcpBindCall s so x address port).2 = .ok () ↔
    Bindable (s.core.soError so) s.unicastIp x.localPort s.boundSockets address port := by
  cases address with
  | none => simp [tcpBindCall, failWith, Bindable, addressError]
  | some ip =>
    by_cases hown : some ip = s.unicastIp
    · cases herr : s.core.soError so with
      | some e' =>
        rw [tcpBindCall_stored hown herr]
        simp [Bindable]
      | none =>
        rw [tcpBindCall_clear hown herr]
        simp only [Bindable, addressError, if_pos hown]
        split_ifs with hport hbound
        · simp [failWith, hport]
        · simp [failWith, hbound]
        · simp [hbound, hport]
    · rw [tcpBindCall_foreign hown]
      simp [Bindable, addressError, hown]

/-- A call that stores what is there already changes nothing. -/
theorem tcpBindCall_repeats (hso : s.sockets[so]? = some x)
    (h : AlreadyFailed (s.core.soError so) (addressError s.unicastIp address))
    (hip : ∀ ip ∈ address, x.localIp = some ip) : (tcpBindCall s so x address port).1 = s := by
  obtain ⟨hne, hor⟩ := h
  obtain ⟨e, he⟩ := Option.ne_none_iff_exists'.1 hne
  cases address with
  | none =>
    refine fail_of_stored ?_
    rw [← hor]
    rfl
  | some ip =>
    have hx : { x with localIp := some ip } = x := by
      rw [← hip ip rfl]
    by_cases hown : some ip = s.unicastIp
    · rw [tcpBindCall_stored hown he, hx]
      exact setSocket_of_get hso
    · have hstored : s.core.soError so = some .eaddrnotavail := by
        rw [← hor, addressError, if_neg hown, Option.some_or]
      rw [tcpBindCall_foreign hown, hx, fail_of_stored hstored]
      exact setSocket_of_get hso

/-- **When a `bind` of a TCP socket is harmless.** -/
theorem tcp_harmless_iff (h : s.sockets[so]? = some x) :
    Harmless (tcpView · so) (tcpBindOf · so) s address port ↔
      Bindable (s.core.soError so) s.unicastIp x.localPort s.boundSockets address port ∨
        (AlreadyFailed (s.core.soError so) (addressError s.unicastIp address) ∧
          ∀ ip ∈ address, x.localIp = some ip) := by
  have hcall : tcpBindOf s so address port = tcpBindCall s so x address port := by
    simp only [tcpBindOf, h]
  refine harmless_iff ?_ ?_ ?_
  · rw [hcall]
    exact tcpBindCall_ok_iff
  · rw [hcall]
    intro e hres hview
    simp only [tcpView, Prod.mk.injEq] at hview
    obtain ⟨hsock, herr, -⟩ := hview
    rw [tcpBindCall_stores hres] at herr
    refine ⟨.of_stored herr.symm fun e' he' => ?_, ?_⟩
    · rw [tcpBindCall_addressError he'] at hres
      exact Except.error.inj hres
    · rintro ip ⟨⟩
      obtain ⟨y, hy, hyip⟩ := tcpBindCall_localIp ip port h
      rw [hy, h] at hsock
      simp only [Option.map_some, Option.some.injEq, Prod.mk.injEq] at hsock
      rw [← hsock.1, hyip]
  · rw [hcall]
    rintro ⟨hfailed, hip⟩
    exact tcpBindCall_repeats h hfailed hip

end TcpBind

section UdpBind

variable {s : UdpStack} {so : Nat} {x : UDPSocket} {address : Option Nat} {port : Nat} {e : Errno}

theorem setSock_of_get (h : s.socks[so]? = some x) : s.setSocket so x = s := by
  have hset : s.socks.set so x = s.socks := by
    obtain ⟨hlt, rfl⟩ := List.getElem?_eq_some_iff.1 h
    exact List.set_getElem_self hlt
  unfold UdpStack.setSocket
  rw [hset]

/-- `udp_bind` for an address that can be read and is not that of the stack. -/
theorem udpBindCall_foreign {ip : Nat} (h : some ip ≠ s.unicastIp.map (·.ip)) :
    udpBindCall s so x (some ip) port =
      (s.setSocket so { x with error := some .eaddrnotavail }, .error .eaddrnotavail) := by
  simp only [udpBindCall, if_neg h]

/-- `udp_bind` for the address of the stack, on a socket with an error. -/
theorem udpBindCall_stored {ip : Nat} (h : some ip = s.unicastIp.map (·.ip))
    (he : x.error = some e) :
    udpBindCall s so x (some ip) port = (s.setSocket so x, .error e) := by
  simp only [udpBindCall, if_pos h, he]

theorem udpBindCall_addressError (h : addressError (s.unicastIp.map (·.ip)) address = some e) :
    (udpBindCall s so x address port).2 = .error e := by
  cases address with
  | none =>
    cases h
    rfl
  | some ip =>
    by_cases hown : some ip = s.unicastIp.map (·.ip)
    · simp [addressError, hown] at h
    · simp only [addressError, if_neg hown, Option.some.injEq] at h
      rw [udpBindCall_foreign hown, h]

/-- A call that raises has stored its error. -/
theorem udpBindCall_stores (hso : s.socks[so]? = some x)
    (h : (udpBindCall s so x address port).2 = .error e) :
    ∃ y, (udpBindCall s so x address port).1.socks[so]? = some y ∧ y.error = some e := by
  have hlt : so < s.socks.length := (List.getElem?_eq_some_iff.1 hso).1
  cases address with
  | none =>
    cases h
    exact ⟨_, List.getElem?_set_self hlt, rfl⟩
  | some ip =>
    by_cases hown : some ip = s.unicastIp.map (·.ip)
    · cases herr : x.error with
      | some e' =>
        rw [udpBindCall_stored hown herr] at h ⊢
        cases h
        exact ⟨_, List.getElem?_set_self hlt, herr⟩
      | none =>
        simp only [udpBindCall, if_pos hown, herr] at h ⊢
        split_ifs at h ⊢
        · cases h
          exact ⟨_, List.getElem?_set_self hlt, rfl⟩
        · cases h
          exact ⟨_, List.getElem?_set_self hlt, rfl⟩
    · rw [udpBindCall_foreign hown] at h ⊢
      cases h
      exact ⟨_, List.getElem?_set_self hlt, rfl⟩

theorem udpBindCall_ok_iff : (udpBindCall s so x address port).2 = .ok () ↔
    Bindable x.error (s.unicastIp.map (·.ip)) x.localPort s.udp.boundSockets address port := by
  cases address with
  | none => simp [udpBindCall, Bindable, addressError]
  | some ip =>
    by_cases hown : some ip = s.unicastIp.map (·.ip)
    · cases herr : x.error with
      | some e' =>
        rw [udpBindCall_stored hown herr]
        simp [Bindable]
      | none =>
        simp only [udpBindCall, if_pos hown, herr, Bindable, addressError]
        split_ifs with hport hbound
        · simp [hport]
        · simp [hbound]
        · simp [hbound, hport]
    · rw [udpBindCall_foreign hown]
      simp [Bindable, addressError, hown]

/-- A call that stores what is there already changes nothing: `udp_bind` assigns the address later.
-/
theorem udpBindCall_repeats (hso : s.socks[so]? = some x)
    (h : AlreadyFailed x.error (addressError (s.unicastIp.map (·.ip)) address)) :
    (udpBindCall s so x address port).1 = s := by
  obtain ⟨hne, hor⟩ := h
  obtain ⟨e, he⟩ := Option.ne_none_iff_exists'.1 hne
  have hsame : ∀ e', x.error = some e' → { x with error := some e' } = x := by
    intro e' he'
    rw [← he']
  cases address with
  | none =>
    have hstored : x.error = some .eaiNoname := by
      rw [← hor]
      rfl
    change s.setSocket so { x with error := some .eaiNoname } = s
    rw [hsame _ hstored]
    exact setSock_of_get hso
  | some ip =>
    by_cases hown : some ip = s.unicastIp.map (·.ip)
    · rw [udpBindCall_stored hown he]
      exact setSock_of_get hso
    · have hstored : x.error = some .eaddrnotavail := by
        rw [← hor, addressError, if_neg hown, Option.some_or]
      rw [udpBindCall_foreign hown, hsame _ hstored]
      exact setSock_of_get hso

/-- **When a `bind` of a UDP socket is harmless.** -/
theorem udp_harmless_iff (h : s.socks[so]? = some x) :
    Harmless (udpView · so) (udpBindOf · so) s address port ↔
      Bindable x.error (s.unicastIp.map (·.ip)) x.localPort s.udp.boundSockets address port ∨
        AlreadyFailed x.error (addressError (s.unicastIp.map (·.ip)) address) := by
  have hcall : udpBindOf s so address port = udpBindCall s so x address port := by
    simp only [udpBindOf, h]
  refine harmless_iff ?_ ?_ ?_
  · rw [hcall]
    exact udpBindCall_ok_iff
  · rw [hcall]
    intro e hres hview
    obtain ⟨y, hy, hye⟩ := udpBindCall_stores h hres
    simp only [udpView, hy, h, Option.map_some, Option.some.injEq, Prod.mk.injEq] at hview
    refine .of_stored (hview.1.2.2.2.symm.trans hye) fun e' he' => ?_
    rw [udpBindCall_addressError he'] at hres
    exact Except.error.inj hres
  · rw [hcall]
    exact udpBindCall_repeats h

end UdpBind

/-! ## After a call that raised -/

section After

variable {s : Stack} {so : Nat}

theorem tcpRecvCall_raises (h : s.HasError so) (x : TCPSocket) (bufsize : Nat) :
    ∃ e, tcpRecvCall s so x bufsize = (s, .raised e) := by
  obtain ⟨e, he⟩ := Option.ne_none_iff_exists'.1 h
  exact ⟨e, by simp only [tcpRecvCall, he]⟩

/-- A `recv` that times out leaves an error. -/
theorem RecvTimesOut.hasError {e : StackEvent} (h : RecvTimesOut s so e) :
    (s.step e).HasError so := by
  cases e with
  | timeout k =>
    obtain ⟨tcpcb, bufsize, hk⟩ := h
    simp only [Stack.step, Stack.timeout, hk]
    exact Stack.hasError_fail _ so _
  | recv so' bufsize =>
    obtain ⟨rfl, x, hx, hres⟩ := h
    by_cases herr : s.HasError so'
    · exact herr.step _
    · have hnone : s.core.soError so' = none := not_not.1 herr
      -- without a stored error it raises `ENOTCONN` or nothing
      simp only [tcpRecvCall, hnone] at hres
      repeat' split at hres
      all_goals cases hres
  | _ => cases h

/-- After a `bind` that raised no `bind` of the socket ever goes through, whatever happens between.
-/
theorem bind_fails_for_good {x : TCPSocket} {address : Option Nat} {port : Nat} {e : Errno}
    (h : (tcpBindCall s so x address port).2 = .error e) (es : List StackEvent) (y : TCPSocket)
    (address' : Option Nat) (port' : Nat) :
    (tcpBindCall (run Stack.step (tcpBindCall s so x address port).1 es) so y address' port').2 ≠
      .ok () := by
  have herr : (tcpBindCall s so x address port).1.HasError so := by
    unfold Stack.HasError
    rw [tcpBindCall_stores h]
    exact Option.some_ne_none e
  intro hok
  exact herr.run es (tcpBindCall_ok_iff.1 hok).1

/-- **What a failed call leaves.** A `bind` that raises is harmless exactly when the socket has that
error already and, for TCP, has the address already. After a `recv` that timed out, a later one
returns the data that has arrived exactly when there is none. -/
theorem failed_call_iff (s : Stack) (u : UdpStack) (so : Nat) (address : Option Nat) (port : Nat) :
    (∀ x : TCPSocket, s.sockets[so]? = some x →
        (Harmless (tcpView · so) (tcpBindOf · so) s address port ↔
          Bindable (s.core.soError so) s.unicastIp x.localPort s.boundSockets address port ∨
            (AlreadyFailed (s.core.soError so) (addressError s.unicastIp address) ∧
              ∀ ip ∈ address, x.localIp = some ip))) ∧
      (∀ x : UDPSocket, u.socks[so]? = some x →
        (Harmless (udpView · so) (udpBindOf · so) u address port ↔
          Bindable x.error (u.unicastIp.map (·.ip)) x.localPort u.udp.boundSockets address port ∨
            AlreadyFailed x.error (addressError (u.unicastIp.map (·.ip)) address))) ∧
      ∀ e : StackEvent, RecvTimesOut s so e →
        ∀ (es : List StackEvent) (x : TCPSocket) (bufsize : Nat),
        (run Stack.step (s.step e) es).sockets[so]? = some x →
          ((arrived (run Stack.step (s.step e) es) x ≠ [] →
            (tcpRecvCall (run Stack.step (s.step e) es) so x bufsize).2 =
              .returned ((arrived (run Stack.step (s.step e) es) x).take bufsize)) ↔
            arrived (run Stack.step (s.step e) es) x = []) := by
  refine ⟨fun x h => tcp_harmless_iff h, fun x h => udp_harmless_iff h, ?_⟩
  intro e hout es x bufsize _
  obtain ⟨errno, hraise⟩ := tcpRecvCall_raises (hout.hasError.run es) x bufsize
  rw [hraise]
  constructor
  · intro h
    by_contra hdata
    cases h hdata
  · exact fun h hne => absurd h hne

/-- A new TCP and a new UDP socket are bound, and a connected socket gives up its `recv` when
nothing has come. -/
theorem failed_call_new :
    let start := run Stack.step (.new (some 1)) [.socket, .bind 0 (some 1) 1234,
      .connect 0 (some 2) 80 32768, .resume 0 1000, .handle 0,
      .rxTcp 2 1 (.sample 100 1001 0x12 4096 []), .handle 0, .recv 0 9]
    let x : TCPSocket := ⟨some 1, 1234, 2, 80, ⟨1, 1234, 2, 80⟩, none⟩
    Harmless (tcpView · 0) (tcpBindOf · 0) ((Stack.new (some 1)).step .socket) (some 1) 1234 ∧
      Harmless (udpView · 0) (udpBindOf · 0) ((UdpStack.new (some 1)).step .socket) (some 1) 1234 ∧
      ((arrived (start.step (.timeout 0)) x ≠ [] →
        (tcpRecvCall (start.step (.timeout 0)) 0 x 9).2 =
          .returned ((arrived (start.step (.timeout 0)) x).take 9)) ↔
        arrived (start.step (.timeout 0)) x = []) := by
  intro start x
  have hout : RecvTimesOut start 0 (.timeout 0) := ⟨0, 9, by decide +kernel⟩
  have hx : (run Stack.step (start.step (.timeout 0)) []).sockets[0]? = some x := by decide +kernel
  refine ⟨?_, ?_, ?_⟩
  · exact ((failed_call_iff _ (.new (some 1)) 0 (some 1) 1234).1 .new rfl).2 (.inl (by decide))
  · exact ((failed_call_iff start _ 0 (some 1) 1234).2.1 _ rfl).2 (.inl (by decide))
  · exact (failed_call_iff start (.new (some 1)) 0 none 0).2.2 (.timeout 0) hout [] x 9 hx

/-- An address that is not the stack's is the end of the socket: with its own address it raises too.
And data that comes after a `recv` has timed out is not returned. -/
theorem failed_call_leaves_error :
    let start := run Stack.step (.new (some 1)) [.socket, .bind 0 (some 1) 1234,
      .connect 0 (some 2) 80 32768, .resume 0 1000, .handle 0,
      .rxTcp 2 1 (.sample 100 1001 0x12 4096 []), .handle 0, .recv 0 9]
    let s := run Stack.step (start.step (.timeout 0))
      [.rxTcp 2 1 (.sample 101 1001 0x18 4096 [7, 8]), .handle 0]
    ¬ Harmless (tcpView · 0) (tcpBindOf · 0) ((Stack.new (some 1)).step .socket) (some 9) 1234 ∧
      ¬ Harmless (udpView · 0) (udpBindOf · 0) ((UdpStack.new (some 1)).step .socket)
        (some 9) 1234 ∧
      RecvTimesOut start 0 (.timeout 0) ∧
      ∃ x, s.sockets[0]? = some x ∧ arrived s x = [7, 8] ∧
        (tcpRecvCall s 0 x 9).2 = .raised .etimedout := by
  refine ⟨fun h => ?_, fun h => ?_, ⟨0, 9, by decide +kernel⟩, ?_⟩
  · cases (h .eaddrnotavail rfl).2 (some 1) 1234 rfl
  · cases (h .eaddrnotavail rfl).2 (some 1) 1234 rfl
  · refine ⟨⟨some 1, 1234, 2, 80, ⟨1, 1234, 2, 80⟩, none⟩, ?_, ?_, ?_⟩
    · decide +kernel
    · decide +kernel
    · decide +kernel

end After

end Tipy.Sockets
