import Tipy.Lib.Runs
import Tipy.Tcp.Stack

/-!
# The error of a socket stays

`so.error` is where a call of the application and the event loop leave what went wrong, and the
calls that look at it never take it back. So a socket that has an error once has one after
everything that can happen to the stack.
-/

namespace Tipy.Tcp

open Tipy.Lib

namespace Conn

variable (c : Conn) (p : Segment) (so : Nat)

/-! ## The helpers

Of the errors a helper changes that of its own socket or none. -/

section Helpers

@[simp] theorem sendChallengeAck_soError :
    c.sendChallengeAck.core.soError so = c.core.soError so := by rw [sendChallengeAck_core]

@[simp] theorem sendAck_soError : c.sendAck.core.soError so = c.core.soError so := rfl

@[simp] theorem signalRst_soError : c.signalRst.core.soError so = c.core.soError so := rfl

@[simp] theorem dropWithReset_soError :
    (c.dropWithReset p).core.soError so = c.core.soError so := by rw [dropWithReset_core]

@[simp] theorem hRxRst_soError (errno : Errno) : (c.hRxRst errno).core.soError so =
    Function.update c.core.soError c.tcb.so (some errno) so := by
  rw [hRxRst_core]
  rfl

@[simp] theorem hActiveCloseRx_soError :
    (c.hActiveCloseRx p).core.soError so = c.core.soError so := by rw [hActiveCloseRx_core]

@[simp] theorem hActiveCloseTx_soError : c.hActiveCloseTx.core.soError so = c.core.soError so := by
  rw [hActiveCloseTx_core]

@[simp] theorem appendData_soError : (c.appendData p).core.soError so = c.core.soError so := by
  rw [appendData_core]

@[simp] theorem estabAck_soError : (c.estabAck p).core.soError so = c.core.soError so := by
  rw [estabAck_core]

@[simp] theorem finWait1Ack_soError : (c.finWait1Ack p).core.soError so = c.core.soError so := by
  rw [finWait1Ack_core]

@[simp] theorem closingAck_soError : (c.closingAck p).core.soError so = c.core.soError so := by
  rw [closingAck_core]

@[simp] theorem closeWaitAck_soError : (c.closeWaitAck p).core.soError so = c.core.soError so := by
  rw [closeWaitAck_core]

@[simp] theorem lastAckAck_soError : (c.lastAckAck p).core.soError so = c.core.soError so := by
  rw [lastAckAck_core]

@[simp] theorem synSentEstab_soError :
    (c.synSentEstab p).core.soError so = c.core.soError so := by rw [synSentEstab_core]

@[simp] theorem sendFin_soError (next : Option STATES) :
    (c.sendFin next).core.soError so = c.core.soError so := by rw [sendFin_core]

@[simp] theorem txLoop_soError (data : List (List UInt8)) (next : Option STATES)
    (shutReq closeReq : Bool) :
    (txLoop c data next shutReq closeReq).st.core.soError so = c.core.soError so := by
  refine txLoop_inv (I := fun c' => c'.core.soError so = c.core.soError so) rfl ?_ ?_ ?_ ?_ ?_
  · exact fun c' h => by simpa using h
  · exact fun c' data fin h => by rw [afterSegment_core, ← h]; rfl
  · exact fun c' h => by simpa using h
  · exact fun c' s _ h => by simpa using h
  · exact fun c' h => by simpa using h

end Helpers

/-! ## The handlers -/

section Handlers

/-- A send handler stores no error. -/
theorem tx_soError : c.tx.st.core.soError so = c.core.soError so := by
  refine tx_inv (I := fun c' => c'.core.soError so = c.core.soError so) rfl ?_ ?_ ?_ ?_ ?_ ?_ ?_ ?_
  · simp [txSynSent]
  · simp [txSynRecv]
  · rintro c₁ (rfl | rfl) <;> simp
  · exact fun c' h => by simpa using h
  · exact fun c' next h => by simpa using h
  · exact fun c' h => by simpa using h
  · exact fun c' h => by simpa using h
  · exact fun c' data next shutReq closeReq h => by rw [txLoop_soError, h]

/-- The error of a socket after a handler: as it was, or a new one. -/
def StoresError (c c' : Conn) : Prop :=
  c'.core.soError so = c.core.soError so ∨ c'.core.soError so ≠ none

theorem rxSynSent_stores : StoresError so c (c.rxSynSent p).st := by
  refine rxSynSent_rule c p (I := fun o => StoresError so c o.st) ?_ (Or.inl rfl) (Or.inl ?_) ?_ ?_
    (Or.inl ?_)
  · unfold StoresError
    simp only [Outcome.ok_st, notify_core, Core.notify_soError, onCore_core,
      Core.setSoError_soError, Function.update_apply]
    split
    · exact Or.inr (Option.some_ne_none _)
    · exact Or.inl (by simp)
  · simp
  · exact fun _ => Or.inl (by simp [synSentAccept])
  · exact fun _ => Or.inl (by simp [synSentAccept])
  · simp [synSentSimultaneous]

theorem rxSynRecv_stores : StoresError so c (c.rxSynRecv p) := by
  left
  unfold rxSynRecv
  simp only
  split_ifs <;> simp

/-- A reset stores an error for the socket of its connection. -/
theorem hRxRst_stores (errno : Errno) {c' : Conn}
    (hcore : c'.core.soError so = c.core.soError so) :
    StoresError so c (c'.hRxRst errno).signalRst := by
  unfold StoresError
  rw [signalRst_soError, hRxRst_soError, Function.update_apply]
  split
  · exact Or.inr (Option.some_ne_none errno)
  · exact Or.inl hcore

theorem rxEstab_stores : StoresError so c (c.rxEstab p) := by
  unfold rxEstab
  simp only
  split
  · split
    · exact c.hRxRst_stores so _ rfl
    · left
      split
      · simp
      · simp only [estabAccept]
        split <;> split <;> simp
  · exact Or.inl (by simp)
  · exact Or.inl (by simp)

theorem rxFinWait1_stores : StoresError so c (c.rxFinWait1 p) := by
  unfold rxFinWait1
  simp only
  split
  · split
    · exact c.hRxRst_stores so _ rfl
    · left
      simp only [finWait1Accept]
      split_ifs <;> simp
  · exact Or.inl (by simp)
  · exact Or.inl (by simp)

theorem rxFinWait2_stores : StoresError so c (c.rxFinWait2 p) := by
  unfold rxFinWait2
  simp only
  split
  · split
    · exact c.hRxRst_stores so _ rfl
    · left
      simp only [finWait2Accept]
      split_ifs <;> simp
  · exact Or.inl (by simp)
  · exact Or.inl (by simp)

theorem rxClosing_stores : StoresError so c (c.rxClosing p) := by
  unfold rxClosing
  split
  · split
    · exact c.hRxRst_stores so _ rfl
    · left
      split_ifs <;> simp
  · exact Or.inl (by simp)

theorem rxCloseWait_stores : StoresError so c (c.rxCloseWait p) := by
  unfold rxCloseWait
  split
  · split
    · exact c.hRxRst_stores so _ rfl
    · left
      split_ifs <;> simp
  · exact Or.inl (by simp)

theorem rxLastAck_stores : StoresError so c (c.rxLastAck p) := by
  unfold rxLastAck
  split
  · split
    · exact c.hRxRst_stores so _ rfl
    · left
      split_ifs <;> simp
  · exact Or.inl rfl

theorem rxTimeWait_stores : StoresError so c (c.rxTimeWait p) := by
  left
  unfold rxTimeWait
  split <;> simp

theorem rx_stores (packet : TCPParser) : StoresError so c (c.rx packet).st := by
  unfold rx
  cases c.tcb.state with
  | listen => exact Or.inl rfl
  | synSent => exact c.rxSynSent_stores _ so
  | synRecv => exact c.rxSynRecv_stores _ so
  | estab => exact c.rxEstab_stores _ so
  | finWait1 => exact c.rxFinWait1_stores _ so
  | finWait2 => exact c.rxFinWait2_stores _ so
  | closeWait => exact c.rxCloseWait_stores _ so
  | closing => exact c.rxClosing_stores _ so
  | lastAck => exact c.rxLastAck_stores _ so
  | timeWait => exact c.rxTimeWait_stores _ so
  | closed => exact Or.inl rfl

/-- **A handler** stores at most an error of its own socket. -/
theorem eventsMap_stores (type : TCPEventType) : StoresError so c (c.eventsMap type).st := by
  cases type with
  | rxSegment packet => exact c.rx_stores so packet
  | connect => exact Or.inl (by simp [eventsMap, activOpen])
  | send => exact Or.inl (c.tx_soError so)
  | rtx => exact Or.inl (c.prepareRtx.tx_soError so)

end Handlers

end Conn

/-! ## The steps of the stack -/

namespace Stack

variable (s : Stack) (so : Nat)

/-- The socket has an error. -/
def HasError : Prop := s.core.soError so ≠ none

instance : Decidable (s.HasError so) := inferInstanceAs (Decidable (_ ≠ _))

variable {s so}

theorem HasError.fail (h : s.HasError so) (so' : Nat) (e : Errno) : (s.fail so' e).HasError so := by
  unfold HasError Stack.fail
  rw [onCore_core, Core.setSoError_soError, Function.update_apply]
  split
  · exact Option.some_ne_none e
  · exact h

theorem hasError_fail (s : Stack) (so : Nat) (e : Errno) : (s.fail so e).HasError so := by
  unfold HasError Stack.fail
  rw [onCore_core, Core.setSoError_soError, Function.update_self]
  exact Option.some_ne_none e

/-- What changes no error. -/
theorem HasError.of_eq {s' : Stack} (h : s.HasError so)
    (heq : s'.core.soError so = s.core.soError so) : s'.HasError so := by
  unfold HasError
  rw [heq]
  exact h

theorem HasError.onTcb (h : s.HasError so) (tcpcb : Nat) {f : Conn → Conn}
    (hf : ∀ c : Conn, (f c).core.soError so = c.core.soError so) :
    (s.onTcb tcpcb f).HasError so := by
  refine h.of_eq ?_
  unfold Stack.onTcb
  split
  · exact hf _
  · rfl

theorem HasError.tcpBind (h : s.HasError so) (so' : Nat) (x : TCPSocket) (address : Option Nat)
    (port : Nat) : (s.tcpBind so' x address port).HasError so := by
  cases address with
  | none => exact h.fail so' _
  | some ip =>
    obtain ⟨s₁, hs₁, hfirst⟩ : ∃ s₁ : Stack,
        (if some ip = s.unicastIp then s else s.fail so' .eaddrnotavail) = s₁ ∧ s₁.HasError so := by
      refine ⟨_, rfl, ?_⟩
      split
      · exact h
      · exact h.fail so' _
    simp only [Stack.tcpBind, hs₁]
    split
    · exact hfirst.of_eq rfl
    · split
      · exact (hfirst.of_eq rfl).fail so' _
      · split
        · exact (hfirst.of_eq rfl).fail so' _
        · exact hfirst.of_eq rfl

theorem HasError.connectRegister (h : s.HasError so) (so' : Nat) (x : TCPSocket)
    (old : Option SockId) : (s.connectRegister so' x old).HasError so := by
  unfold Stack.connectRegister
  split
  · exact h.of_eq rfl
  · cases old with
    | none => exact h.of_eq rfl
    | some id => exact h.of_eq rfl

theorem HasError.tcpConnect (h : s.HasError so) (so' : Nat) (x : TCPSocket)
    (address : Option Nat) (port picked : Nat) :
    (s.tcpConnect so' x address port picked).HasError so := by
  cases address with
  | none => exact h.fail so' _
  | some ip =>
    unfold Stack.tcpConnect
    simp only
    split
    · split
      · refine HasError.connectRegister ?_ _ _ _
        exact h.of_eq rfl
      · exact h.of_eq rfl
    · exact h.connectRegister _ _ _

theorem HasError.sendTurn (h : s.HasError so) (so' tcpcb : Nat) (data : List UInt8) (dlen : Int) :
    (s.sendTurn so' tcpcb data dlen).HasError so := by
  have hsend : (s.onTcb tcpcb (·.tcpSend data)).HasError so := by
    refine h.onTcb tcpcb fun c => ?_
    unfold Conn.tcpSend
    split <;> rfl
  unfold Stack.sendTurn
  split
  · simp only
    split
    · exact hsend.of_eq rfl
    · exact hsend
  · exact h

theorem HasError.tcpSend (h : s.HasError so) (so' : Nat) (x : TCPSocket) (data : List UInt8) :
    (s.tcpSend so' x data).HasError so := by
  unfold Stack.tcpSend
  split
  · exact h
  · split
    · exact h.fail so' _
    · split
      · exact h
      · exact h.sendTurn _ _ _ _

theorem HasError.tcpRecv (h : s.HasError so) (so' : Nat) (x : TCPSocket) (bufsize : Nat) :
    (s.tcpRecv so' x bufsize).HasError so := by
  unfold Stack.tcpRecv
  split
  · exact h
  · split
    · exact h.fail so' _
    · split
      · split
        · exact h
        · split
          · exact h.of_eq rfl
          · refine h.onTcb _ fun c => ?_
            unfold Conn.tcpRecv
            split <;> rfl
      · exact h

theorem HasError.tcpClose (h : s.HasError so) (x : TCPSocket) : (s.tcpClose x).HasError so := by
  unfold Stack.tcpClose
  split
  · exact h.of_eq rfl
  · exact h.onTcb _ fun _ => rfl

theorem HasError.tcpShutdown (h : s.HasError so) (so' : Nat) (x : TCPSocket) :
    (s.tcpShutdown so' x).HasError so := by
  unfold Stack.tcpShutdown
  split
  · exact h.fail so' _
  · exact h.onTcb _ fun _ => rfl

theorem HasError.resume (h : s.HasError so) (k iss : Nat) : (s.resume k iss).HasError so := by
  unfold Stack.resume
  split
  · exact h
  · next call hcall =>
    cases call with
    | connecting so' =>
      simp only
      cases s.sockets[so']? with
      | none => exact h.of_eq rfl
      | some x => exact h.of_eq rfl
    | sending so' tcpcb data dlen =>
      simp only
      split
      · exact h.of_eq rfl
      · refine HasError.sendTurn ?_ _ _ _ _
        exact h.of_eq rfl
    | receiving so' tcpcb bufsize =>
      refine HasError.onTcb ?_ _ fun _ => rfl
      exact h.of_eq rfl

theorem HasError.timeout (h : s.HasError so) (k : Nat) : (s.timeout k).HasError so := by
  unfold Stack.timeout
  split
  · exact HasError.fail (h.of_eq rfl) _ _
  · exact h

theorem HasError.rxTcp (h : s.HasError so) (src dst : Nat) (packet : TCPParser) :
    (s.rxTcp src dst packet).HasError so := by
  unfold Stack.rxTcp
  simp only
  split <;> exact h.of_eq rfl

theorem HasError.handle (h : s.HasError so) (i : Nat) : (s.handle i).HasError so := by
  unfold Stack.handle
  split
  · next ev hfault hev =>
    simp only
    split
    · exact h.of_eq rfl
    · next tcpcb hto =>
      split
      · next t ht =>
        rcases Conn.eventsMap_stores ⟨t, _⟩ so ev.type with heq | hnew
        · exact h.of_eq heq
        · exact hnew
      · exact h.of_eq rfl
  · exact h

theorem HasError.fireTimer (h : s.HasError so) (i : Nat) :
    (s.onCore (·.fireTimer i)).HasError so := by
  refine h.of_eq ?_
  change (s.core.fireTimer i).soError so = s.core.soError so
  unfold Core.fireTimer
  split
  · rfl
  · simp only
    split
    · rfl
    · split <;> rfl

/-- **An error stays**, whatever happens. -/
theorem HasError.step (h : s.HasError so) (e : StackEvent) : (s.step e).HasError so := by
  have helim : ∀ (so' : Nat) {f : TCPSocket → Stack}, (∀ x, (f x).HasError so) →
      (s.sockets[so']?.elim s f).HasError so := by
    intro so' f hf
    cases s.sockets[so']? with
    | none => exact h
    | some x => exact hf x
  cases e with
  | socket => exact h.of_eq rfl
  | setsockopt so' l => exact helim so' fun x => h.of_eq rfl
  | bind so' address port => exact helim so' fun x => h.tcpBind so' x address port
  | connect so' address port picked =>
    exact helim so' fun x => h.tcpConnect so' x address port picked
  | send so' data => exact helim so' fun x => h.tcpSend so' x data
  | recv so' bufsize => exact helim so' fun x => h.tcpRecv so' x bufsize
  | close so' => exact helim so' fun x => h.tcpClose x
  | shutdown so' => exact helim so' fun x => h.tcpShutdown so' x
  | resume k iss => exact h.resume k iss
  | timeout k => exact h.timeout k
  | rxTcp src dst packet => exact h.rxTcp src dst packet
  | fire i => exact h.fireTimer i
  | handle i => exact h.handle i
  | tick ns => exact h.of_eq rfl

theorem HasError.run (h : s.HasError so) (es : List StackEvent) :
    (run Stack.step s es).HasError so :=
  run_inv' (I := fun s : Stack => s.HasError so) (fun _ e h => h.step e) h es

end Stack

end Tipy.Tcp

