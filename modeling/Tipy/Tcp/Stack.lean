import Tipy.Tcp.EventLoop

/-!
# Sockets and the stack

The whole of TCP: the sockets and control blocks the application has made, the calls of
`tipy/protocols/tcp/tcp_usrreq.py` from any thread, `rx_tcp` of `tipy/protocols/tcp/rx.py`, the
timer and the event loop. Socket and control block objects are numbered as they are made, and the
tables and the events hold their numbers. A call that waits, or that another thread can come in
between, is kept in `calls` and goes on in a step of its own. An exception in a call of the
application is its own business; only one in the event loop is a fault of the stack.
-/

namespace Tipy.Tcp

open Tipy.Components

/-- `TCPSocket`; its `error` is kept in the core. `local_ip` is `none` after a connect on a stack
that has no address yet. -/
structure TCPSocket where
  localIp : Option Nat
  localPort : Nat
  remoteIp : Nat
  remotePort : Nat
  sockId : SockId
  soLinger : Option (List UInt8)
deriving DecidableEq

/-- `TCPSocket.__init__`. -/
def TCPSocket.new : TCPSocket := ⟨some 0, 0, 0, 0, ⟨0, 0, 0, 0⟩, none⟩

/-- A call of the application that has not returned. -/
inductive Call where
  /-- `tcp_connect` between the registration of the socket and the making of its control block. -/
  | connecting (so : Nat)
  /-- `tcp_send` waiting for room, with its data and the number of bytes it still means to send. -/
  | sending (so tcpcb : Nat) (data : List UInt8) (dlen : Int)
  /-- `tcp_recv` waiting for data. -/
  | receiving (so tcpcb bufsize : Nat)
deriving DecidableEq

/-- The state of the stack. The set `ephemeral_ports` is the range without `usedPorts`. -/
structure Stack where
  unicastIp : Option Nat
  sockets : List TCPSocket
  tcbs : List TCPCB
  boundSockets : List (Nat × Nat)
  usedPorts : List Nat
  calls : List Call
  core : Core
  fault : Option Fault

/-- A port of `EPHEMERAL_PORTS`. -/
def EphemeralPort (port : Nat) : Prop := 32768 ≤ port ∧ port < 60999

instance (port : Nat) : Decidable (EphemeralPort port) := inferInstanceAs (Decidable (_ ∧ _))

/-- The test of `check_bound`. -/
instance decidableMemBound (pair : Nat × Nat) (boundSockets : List (Nat × Nat)) :
    Decidable (pair ∈ boundSockets) :=
  List.instDecidableMemOfLawfulBEq pair boundSockets

namespace Stack

variable (s : Stack)

/-- A stack with the address `ip`, before any call. -/
def new (ip : Option Nat) : Stack := ⟨ip, [], [], [], [], [], .idle, none⟩

/-! ## Updates -/

@[simps] def onCore (f : Core → Core) : Stack := { s with core := f s.core }

/-- An update of a socket object. -/
@[simps] def setSocket (so : Nat) (x : TCPSocket) : Stack :=
  { s with sockets := s.sockets.set so x }

/-- `so.error = e`. -/
def fail (so : Nat) (e : Errno) : Stack := s.onCore (·.setSoError so e)

/-- Something done to a control block by a thread of the application. -/
def onTcb (tcpcb : Nat) (f : Conn → Conn) : Stack :=
  match s.tcbs[tcpcb]? with
  | some t =>
    let c := f ⟨t, s.core⟩
    { s with tcbs := s.tcbs.set tcpcb c.tcb, core := c.core }
  | none => s

theorem getElem?_onTcb {tcpcb : Nat} {t : TCPCB} (h : s.tcbs[tcpcb]? = some t) (f : Conn → Conn) :
    (s.onTcb tcpcb f).tcbs[tcpcb]? = some (f ⟨t, s.core⟩).tcb := by
  have hlt := (List.getElem?_eq_some_iff.1 h).1
  simp only [onTcb, h, List.getElem?_set_self hlt]

theorem onTcb_calls (tcpcb : Nat) (f : Conn → Conn) : (s.onTcb tcpcb f).calls = s.calls := by
  unfold onTcb
  split <;> rfl

/-- `register_socket`. -/
def registerSocket (id : SockId) (so : Nat) : Stack :=
  s.onCore fun k => k.setTcp { k.tcp with sockets := Function.update k.tcp.sockets id (some so) }

/-- `remove_socket`. -/
def removeSocket (id : SockId) : Stack :=
  s.onCore fun k => k.setTcp { k.tcp with sockets := Function.update k.tcp.sockets id none }

/-- `register_tcpcb`. -/
def registerTcpcb (id : SockId) (tcpcb : Nat) : Stack :=
  s.onCore fun k => k.setTcp { k.tcp with tcpcbs := Function.update k.tcp.tcpcbs id (some tcpcb) }

/-! ## Calls of the application -/

/-- `tcp_bind`; the address is `none` when `IPAddress` cannot read it. -/
def tcpBind (so : Nat) (x : TCPSocket) (address : Option Nat) (port : Nat) : Stack :=
  match address with
  | none => s.fail so .eaiNoname
  | some ip =>
    let s := if some ip = s.unicastIp then s else s.fail so .eaddrnotavail
    let x := { x with localIp := some ip }
    let s := s.setSocket so x
    if s.core.soError so ≠ none then s
    else if 1 ≤ x.localPort ∧ x.localPort < 65535 then s.fail so .einval
    else
      let x := { x with localPort := port }
      let s := s.setSocket so x
      if (ip, port) ∈ s.boundSockets then s.fail so .eaddrinuse
      else
        let id := ⟨ip, port, x.remoteIp, x.remotePort⟩
        let s := (s.setSocket so { x with sockId := id }).registerSocket id so
        { s with boundSockets := s.boundSockets ++ [(ip, port)] }

/-- The end of the first part of `tcp_connect`: the socket id, the table, and the call goes on. -/
def connectRegister (so : Nat) (x : TCPSocket) (old : Option SockId) : Stack :=
  match x.localIp with
  -- `so.local_ip.ip` raises
  | none => s.setSocket so x
  | some ip =>
    let id := ⟨ip, x.localPort, x.remoteIp, x.remotePort⟩
    let s := (old.elim s s.removeSocket).setSocket so { x with sockId := id }
    let s := s.registerSocket id so
    { s with calls := s.calls ++ [.connecting so] }

/-- `tcp_connect` up to the making of the control block. `pick_ephemeral_tcp_port` takes any port
that is left. -/
def tcpConnect (so : Nat) (x : TCPSocket) (address : Option Nat) (port picked : Nat) : Stack :=
  match address with
  | none => s.fail so .eaddrnotavail
  | some ip =>
    let x := { x with remoteIp := ip, remotePort := port }
    if x.localPort = 0 then
      if EphemeralPort picked ∧ picked ∉ s.usedPorts then
        { s with usedPorts := s.usedPorts ++ [picked] }.connectRegister so
          { x with localPort := picked, localIp := s.unicastIp } none
      else s.setSocket so x
    else s.connectRegister so x (x.localIp.map fun ip => ⟨ip, x.localPort, 0, 0⟩)

/-- The rest of `tcp_connect`: the control block, with the initial sequence number it draws, and its
`CONNECT`. -/
def connectTcpcb (so : Nat) (x : TCPSocket) (iss : Nat) : Stack :=
  let tcpcb := s.tcbs.length
  let id := ⟨x.localIp.getD 0, x.localPort, x.remoteIp, x.remotePort⟩
  let t := TCPCB.new tcpcb so id x.soLinger (iss % 4294967296 : Nat) s.core.nowNs
  ({ s with tcbs := s.tcbs ++ [t] }.registerTcpcb x.sockId tcpcb).onCore
    (·.scheduleEvent ⟨.connect, some tcpcb⟩)

/-- One turn of the loop of `tcp_send`. The data is offered from its start in every turn. -/
def sendTurn (so tcpcb : Nat) (data : List UInt8) (dlen : Int) : Stack :=
  match s.tcbs[tcpcb]? with
  | some t =>
    let dlen' := dlen - (t.snd.sndBuf.enqueue data).2
    let s := s.onTcb tcpcb (·.tcpSend data)
    if 0 < dlen' then { s with calls := s.calls ++ [.sending so tcpcb data dlen'] } else s
  | none => s

/-- `tcp_send`. -/
def tcpSend (so : Nat) (x : TCPSocket) (data : List UInt8) : Stack :=
  if s.core.soError so ≠ none then s
  else match s.core.tcp.tcpcbs x.sockId with
    | none => s.fail so .epipe
    | some tcpcb => if data = [] then s else s.sendTurn so tcpcb data data.length

/-- `tcp_recv`. -/
def tcpRecv (so : Nat) (x : TCPSocket) (bufsize : Nat) : Stack :=
  if s.core.soError so ≠ none then s
  else match s.core.tcp.tcpcbs x.sockId with
    | none => s.fail so .enotconn
    | some tcpcb =>
      match s.tcbs[tcpcb]? with
      | some t =>
        if t.state ∈ Conn.NON_RECEIVABLE_STATES then s
        else if t.rcv.rcvBuf.isEmpty then
          { s with calls := s.calls ++ [.receiving so tcpcb bufsize] }
        else s.onTcb tcpcb (·.tcpRecv bufsize)
      | none => s

/-- `tcp_close`. -/
def tcpClose (x : TCPSocket) : Stack :=
  match s.core.tcp.tcpcbs x.sockId with
  | none => s.removeSocket x.sockId
  | some tcpcb => s.onTcb tcpcb (·.tcpClose)

/-- `tcp_shutdown`. -/
def tcpShutdown (so : Nat) (x : TCPSocket) : Stack :=
  match s.core.tcp.tcpcbs x.sockId with
  | none => s.fail so .enotconn
  | some tcpcb => s.onTcb tcpcb (·.tcpShutdown)

/-- A call that waits goes on: `tcp_connect` makes its control block, `tcp_send` looks at the error
and takes another turn, and `tcp_recv` reads without looking at the state again. -/
def resume (k iss : Nat) : Stack :=
  match s.calls[k]? with
  | none => s
  | some call =>
    let s := { s with calls := s.calls.eraseIdx k }
    match call with
    | .connecting so => s.sockets[so]?.elim s fun x => s.connectTcpcb so x iss
    | .sending so tcpcb data dlen =>
      if s.core.soError so ≠ none then s else s.sendTurn so tcpcb data dlen
    | .receiving _ tcpcb bufsize => s.onTcb tcpcb fun c =>
        c.setRcv { c.tcb.rcv with rcvBuf := (c.tcb.rcv.rcvBuf.dequeue bufsize).2 }

/-- A `tcp_recv` that waits gives up. -/
def timeout (k : Nat) : Stack :=
  match s.calls[k]? with
  | some (.receiving so _ _) => { s with calls := s.calls.eraseIdx k }.fail so .etimedout
  | _ => s

/-! ## Segments, timers and events -/

/-- The segment that `rx_tcp` answers with when there is no socket. -/
def resetFor (p : Segment) : TxTcp :=
  if p.ack then { TxTcp.bare p.ackSeq 0 0 with rst := true }
  else { TxTcp.bare 0 ((p.seq + p.dlen + p.syn.toInt + p.fin.toInt) % 4294967296) 0 with
    rst := true, ack := true }

/-- `rx_tcp`, for a segment with a good checksum. -/
def rxTcp (src dst : Nat) (packet : TCPParser) : Stack :=
  let id := ⟨dst, packet.dst, src, packet.src⟩
  if s.core.tcp.sockets id ≠ none then
    s.onCore (·.scheduleEvent ⟨.rxSegment packet, s.core.tcp.tcpcbs id⟩)
  else s.onCore (·.txTcp id (resetFor packet.segment))

/-- The event loop takes the event at place `i` and runs its handler, while it is alive. -/
def handle (i : Nat) : Stack :=
  match s.fault, s.core.events[i]? with
  | none, some ev =>
    let s := s.onCore fun k => { k with events := k.events.eraseIdx i }
    match ev.tcpcb with
    -- reading `state` of `None` raises
    | none => { s with fault := some (.raised .attributeError) }
    | some tcpcb =>
      match s.tcbs[tcpcb]? with
      | some t =>
        let o := Conn.eventsMap ⟨t, s.core⟩ ev.type
        { s with tcbs := s.tcbs.set tcpcb o.st.tcb, core := o.st.core, fault := o.fault }
      | none => s
  | _, _ => s

end Stack

/-- What can happen to the stack. -/
inductive StackEvent where
  | socket
  | setsockopt (so : Nat) (soLinger : Option (List UInt8))
  | bind (so : Nat) (address : Option Nat) (port : Nat)
  | connect (so : Nat) (address : Option Nat) (port picked : Nat)
  | send (so : Nat) (data : List UInt8)
  | recv (so bufsize : Nat)
  | close (so : Nat)
  | shutdown (so : Nat)
  | resume (k iss : Nat)
  | timeout (k : Nat)
  | rxTcp (src dst : Nat) (packet : TCPParser)
  | fire (i : Nat)
  | handle (i : Nat)
  | tick (ns : Nat)

/-- One step. The calls of the application work on a socket object that it has. -/
def Stack.step (s : Stack) : StackEvent → Stack
  | .socket => { s with sockets := s.sockets ++ [.new] }
  | .setsockopt so l => s.sockets[so]?.elim s fun x => s.setSocket so { x with soLinger := l }
  | .bind so address port => s.sockets[so]?.elim s fun x => s.tcpBind so x address port
  | .connect so address port picked =>
    s.sockets[so]?.elim s fun x => s.tcpConnect so x address port picked
  | .send so data => s.sockets[so]?.elim s fun x => s.tcpSend so x data
  | .recv so bufsize => s.sockets[so]?.elim s fun x => s.tcpRecv so x bufsize
  | .close so => s.sockets[so]?.elim s fun x => s.tcpClose x
  | .shutdown so => s.sockets[so]?.elim s fun x => s.tcpShutdown so x
  | .resume k iss => s.resume k iss
  | .timeout k => s.timeout k
  | .rxTcp src dst packet => s.rxTcp src dst packet
  | .fire i => s.onCore (·.fireTimer i)
  | .handle i => s.handle i
  | .tick ns => s.onCore fun k => { k with nowNs := k.nowNs + ns }

end Tipy.Tcp
