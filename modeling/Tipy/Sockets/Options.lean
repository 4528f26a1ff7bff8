import Tipy.Tcp.Stack
import Tipy.Lib.Runs

/-!
# Socket options

`setsockopt` of `tipy/lib/socket.py` makes a new dictionary with the one option it is called for,
and a TCB keeps the dictionary its socket has when `connect` makes it. So what the stack reads
through the TCB is the last option set before that `connect` and no other. `tx_ip` reads nothing at
all for a TCP socket: `tx_tcp` hands its own parameter `sock_opt` on, and no call of `tx_tcp` gives
it one.
-/

namespace Tipy.Sockets

open Tipy.Lib Tipy.Tcp

/-- A key `(level, optname)`; the enumerations are compared as numbers. -/
abbrev OptKey := Int × Int

/-- The value of an option. -/
inductive OptValue where
  | int (n : Int)
  | bytes (b : List UInt8)
deriving Repr, DecidableEq

/-- A dictionary of options. -/
abbrev OptDict := List (OptKey × OptValue)

def IPPROTO_IP : Int := 0

def SOL_SOCKET : Int := 1

def IPPROTO_TTL : Int := 0

def SO_LINGER : Int := 2

/-- `d.get(key)`. -/
def OptDict.get (d : OptDict) (key : OptKey) : Option OptValue :=
  (d.find? fun entry => entry.1 = key).map Prod.snd

/-- The options of a TCP socket and of the TCB that its last `connect` made. -/
structure SockOpts where
  sockOpt : OptDict
  tcb : Option OptDict
deriving DecidableEq

/-- A call of `setsockopt`, or a call of `connect`: one that makes a TCB, or one that raises before.
-/
inductive OptEvent where
  | setsockopt (level optname : Int) (value : OptValue)
  | connect (madeTcb : Bool)
deriving DecidableEq

namespace SockOpts

/-- A new socket. -/
def new : SockOpts := ⟨[], none⟩

/-- `setsockopt`, and what `connect` does with the options. -/
def step (s : SockOpts) : OptEvent → SockOpts
  | .setsockopt level optname value => { s with sockOpt := [((level, optname), value)] }
  | .connect true => { s with tcb := some s.sockOpt }
  | .connect false => s

/-- Where the stack reads options of a connected socket: the test of `_h_active_close_tx`, and
`tx_ip` for a segment of the connection. -/
inductive Reader where
  | linger
  | txIp
deriving DecidableEq

/-- The dictionary a reader is given. -/
def given (s : SockOpts) : Reader → Option OptDict
  | .linger => s.tcb
  | .txIp => s.tcb.map fun _ => []

end SockOpts

/-- The call of `setsockopt` an event is. -/
def OptEvent.call : OptEvent → Option (OptKey × OptValue)
  | .setsockopt level optname value => some ((level, optname), value)
  | .connect _ => none

/-- The calls of `setsockopt`, in their order. -/
def calls (es : List OptEvent) : List (OptKey × OptValue) := es.filterMap OptEvent.call

/-- The value of the last call for a key. -/
def lastValue (cs : List (OptKey × OptValue)) (key : OptKey) : Option OptValue :=
  OptDict.get cs.reverse key

/-- A reader sees the last value of every key, and none for the others. -/
def SeesLast (es : List OptEvent) (r : SockOpts.Reader) : Prop :=
  ∀ d, (run SockOpts.step .new es).given r = some d →
    ∀ key, OptDict.get d key = lastValue (calls es) key

/-- The calls before a `connect` and those after it leave the TCB with the right options: there are
none, or they all are for one key and the last of all has the value of the last before the
`connect`. -/
def OneOption (before after : List (OptKey × OptValue)) : Prop :=
  before ++ after = [] ∨
    ∃ key value, before.getLast? = some (key, value) ∧
      (before ++ after).getLast? = some (key, value) ∧
      ∀ c ∈ before ++ after, c.1 = key

/-! ## What the events leave behind -/

@[simp] theorem calls_append (es es' : List OptEvent) : calls (es ++ es') = calls es ++ calls es' :=
  List.filterMap_append

/-- The socket has the option of its last call. -/
theorem sockOpt_run (s : SockOpts) (es : List OptEvent) : (run SockOpts.step s es).sockOpt =
    ((calls es).getLast?.map fun c => [c]).getD s.sockOpt := by
  induction es using List.reverseRecOn with
  | nil => rfl
  | append_singleton es e ih =>
    rw [run_append, run_cons, run_nil, calls_append]
    cases e with
    | setsockopt level optname value =>
      have hlast : (calls es ++ calls [.setsockopt level optname value]).getLast? =
          some ((level, optname), value) := List.getLast?_concat
      rw [hlast]
      rfl
    | connect madeTcb =>
      have hnone : calls [.connect madeTcb] = [] := rfl
      rw [hnone, List.append_nil, ← ih]
      cases madeTcb <;> rfl

/-- Events without a `connect` that makes a TCB leave the TCB's options alone. -/
theorem tcb_run (s : SockOpts) {es : List OptEvent} (h : OptEvent.connect true ∉ es) :
    (run SockOpts.step s es).tcb = s.tcb := by
  induction es generalizing s with
  | nil => rfl
  | cons e es ih =>
    rw [List.mem_cons, not_or] at h
    rw [run_cons, ih _ h.2]
    cases e with
    | setsockopt level optname value => rfl
    | connect madeTcb =>
      cases madeTcb with
      | true => exact absurd rfl h.1
      | false => rfl

/-- Either no `connect` has made a TCB, or there is a last one that did. -/
theorem last_connect (es : List OptEvent) : OptEvent.connect true ∉ es ∨
    ∃ before after, es = before ++ .connect true :: after ∧ OptEvent.connect true ∉ after := by
  induction es using List.reverseRecOn with
  | nil => exact .inl List.not_mem_nil
  | append_singleton es e ih =>
    by_cases he : e = .connect true
    · exact .inr ⟨es, [], by rw [he], List.not_mem_nil⟩
    · rcases ih with hno | ⟨before, after, rfl, hafter⟩
      · left
        simpa [hno] using Ne.symm he
      · right
        refine ⟨before, after ++ [e], by simp, ?_⟩
        simpa [hafter] using Ne.symm he

/-- The TCB has the option of the last call before the `connect` that made it. -/
theorem tcb_run_connect (before : List OptEvent) {after : List OptEvent}
    (h : OptEvent.connect true ∉ after) :
    (run SockOpts.step .new (before ++ .connect true :: after)).tcb =
      some ((calls before).getLast?.toList) := by
  rw [run_append, run_cons, tcb_run _ h]
  have hopt := sockOpt_run .new before
  simp only [SockOpts.step, hopt]
  cases (calls before).getLast? <;> rfl

/-! ## What the readers see -/

theorem lastValue_eq_none_iff {cs : List (OptKey × OptValue)} {key : OptKey} :
    lastValue cs key = none ↔ ∀ c ∈ cs, c.1 ≠ key := by
  rw [lastValue, OptDict.get, Option.map_eq_none_iff, List.find?_eq_none]
  simp

theorem lastValue_of_getLast {cs : List (OptKey × OptValue)} {key : OptKey} {value : OptValue}
    (h : cs.getLast? = some (key, value)) : lastValue cs key = some value := by
  obtain ⟨front, rfl⟩ := List.getLast?_eq_some_iff.1 h
  rw [lastValue, OptDict.get, List.reverse_append, List.reverse_singleton, List.singleton_append,
    List.find?_cons_of_pos (by simp)]
  rfl

theorem get_singleton_self (key : OptKey) (value : OptValue) :
    OptDict.get [(key, value)] key = some value := by
  rw [OptDict.get, List.find?_cons_of_pos (by simp)]
  rfl

theorem get_singleton_of_ne {key key' : OptKey} (h : key' ≠ key) (value : OptValue) :
    OptDict.get [(key, value)] key' = none := by
  rw [OptDict.get, List.find?_cons_of_neg (by simpa using Ne.symm h)]
  rfl

/-- The dictionary of the TCB is right exactly when the calls were for one option. -/
theorem get_toList_iff (before after : List (OptKey × OptValue)) :
    (∀ key, OptDict.get before.getLast?.toList key = lastValue (before ++ after) key) ↔
      OneOption before after := by
  constructor
  · intro h
    cases hlast : before.getLast? with
    | none =>
      left
      rw [hlast] at h
      cases hall : (before ++ after).getLast? with
      | none => exact List.getLast?_eq_none_iff.1 hall
      | some c =>
        obtain ⟨key, value⟩ := c
        have hkey := h key
        rw [lastValue_of_getLast hall] at hkey
        cases hkey
    | some c =>
      obtain ⟨key, value⟩ := c
      right
      rw [hlast] at h
      have hkeys : ∀ c ∈ before ++ after, c.1 = key := by
        intro c hc
        by_contra hne
        have hnone := h c.1
        rw [Option.toList_some, get_singleton_of_ne hne] at hnone
        exact lastValue_eq_none_iff.1 hnone.symm c hc rfl
      refine ⟨key, value, hlast, ?_, hkeys⟩
      cases hall : (before ++ after).getLast? with
      | none =>
        rw [(List.append_eq_nil_iff.1 (List.getLast?_eq_none_iff.1 hall)).1] at hlast
        cases hlast
      | some c =>
        obtain ⟨key', value'⟩ := c
        obtain rfl : key' = key := hkeys _ (List.mem_of_getLast? hall)
        have hkey := h key'
        rw [Option.toList_some, get_singleton_self, lastValue_of_getLast hall] at hkey
        cases hkey
        rfl
  · rintro (hnil | ⟨key, value, hlast, hall, hkeys⟩) key'
    · obtain ⟨rfl, rfl⟩ := List.append_eq_nil_iff.1 hnil
      rfl
    · rw [hlast, Option.toList_some]
      by_cases hkey : key' = key
      · rw [hkey, get_singleton_self, lastValue_of_getLast hall]
      · rw [get_singleton_of_ne hkey]
        exact (lastValue_eq_none_iff.2 fun c hc heq => hkey (heq.symm.trans (hkeys c hc))).symm

theorem calls_connect (before after : List OptEvent) :
    calls (before ++ .connect true :: after) = calls before ++ calls after := by
  rw [calls_append]
  rfl

/-- The SO_LINGER test sees the last values exactly when the calls were for one option. -/
theorem seesLast_linger_iff (es : List OptEvent) :
    SeesLast es .linger ↔ ∀ before after, es = before ++ .connect true :: after →
      OptEvent.connect true ∉ after → OneOption (calls before) (calls after) := by
  constructor
  · intro h before after hes hafter
    subst hes
    rw [← get_toList_iff, ← calls_connect]
    exact h _ (tcb_run_connect before hafter)
  · intro h d hd
    rcases last_connect es with hno | ⟨before, after, rfl, hafter⟩
    · have htcb := tcb_run .new hno
      rw [show (run SockOpts.step .new es).tcb = some d from hd] at htcb
      cases htcb
    · have htcb := tcb_run_connect before hafter
      rw [show (run SockOpts.step .new _).tcb = some d from hd] at htcb
      cases htcb
      rw [calls_connect]
      exact (get_toList_iff _ _).2 (h before after rfl hafter)

/-- `tx_ip` sees the last values exactly when there are none. -/
theorem seesLast_txIp_iff (es : List OptEvent) :
    SeesLast es .txIp ↔ (OptEvent.connect true ∈ es → calls es = []) := by
  constructor
  · intro h hmem
    rcases last_connect es with hno | ⟨before, after, rfl, hafter⟩
    · exact absurd hmem hno
    · have hgiven : (run SockOpts.step .new (before ++ .connect true :: after)).given .txIp =
          some [] := by
        rw [SockOpts.given, tcb_run_connect before hafter]
        rfl
      cases hlast : (calls (before ++ .connect true :: after)).getLast? with
      | none => exact List.getLast?_eq_none_iff.1 hlast
      | some c =>
        obtain ⟨key, value⟩ := c
        have hkey := h _ hgiven key
        rw [lastValue_of_getLast hlast] at hkey
        cases hkey
  · intro h d hd
    rcases last_connect es with hno | ⟨before, after, rfl, hafter⟩
    · rw [SockOpts.given, tcb_run .new hno] at hd
      cases hd
    · rw [SockOpts.given, tcb_run_connect before hafter] at hd
      cases hd
      intro key
      rw [h (by simp)]
      rfl

/-- **Socket options keep their last value** for all readers exactly when a connected socket never
had an option set, since `tx_ip` sees none; for the SO_LINGER test alone, exactly when there was no
call, or all calls were for one option and the last has the value of the last before the `connect`.
-/
theorem seesLast_iff (es : List OptEvent) :
    ((∀ r, SeesLast es r) ↔ (OptEvent.connect true ∈ es → calls es = [])) ∧
    (SeesLast es .linger ↔ ∀ before after, es = before ++ .connect true :: after →
      OptEvent.connect true ∉ after → OneOption (calls before) (calls after)) := by
  refine ⟨⟨fun h => (seesLast_txIp_iff es).1 (h .txIp), fun h r => ?_⟩, seesLast_linger_iff es⟩
  cases r with
  | txIp => exact (seesLast_txIp_iff es).2 h
  | linger =>
    refine (seesLast_linger_iff es).2 fun before after hes _ => .inl ?_
    subst hes
    rw [← calls_connect]
    exact h (by simp)

/-- SO_LINGER is set, then a TTL, and the socket connects: the test does not see SO_LINGER. -/
theorem linger_lost : ¬ SeesLast
    [.setsockopt SOL_SOCKET SO_LINGER (.bytes SO_LINGER_ON),
    .setsockopt IPPROTO_IP IPPROTO_TTL (.int 1),
      .connect true] .linger := by
  intro h
  have hkey := h _ rfl (SOL_SOCKET, SO_LINGER)
  exact absurd hkey (by decide)

/-! ## The stack -/

/-- What the test of `_h_active_close_tx` compares: the value of SO_LINGER, if it is a byte string.
-/
def lingerBytes (d : OptDict) : Option (List UInt8) :=
  match d.get (SOL_SOCKET, SO_LINGER) with
  | some (.bytes b) => some b
  | _ => none

/-- The events of the stack for the calls on a socket. -/
def stackEvent (so : Nat) : OptEvent → List StackEvent
  | .setsockopt level optname value => [.setsockopt so (lingerBytes [((level, optname), value)])]
  | .connect _ => []

/-- The stack's socket has the SO_LINGER of the dictionary. -/
theorem soLinger_run {s : Stack} {so : Nat} {x : TCPSocket} (hso : s.sockets[so]? = some x)
    {o : SockOpts} (hx : x.soLinger = lingerBytes o.sockOpt) (es : List OptEvent) :
    ∃ x', (run Stack.step s (es.flatMap (stackEvent so))).sockets[so]? = some x' ∧
      x'.soLinger = lingerBytes (run SockOpts.step o es).sockOpt := by
  induction es generalizing s x o with
  | nil => exact ⟨x, hso, hx⟩
  | cons e es ih =>
    rw [List.flatMap_cons, run_append, run_cons]
    cases e with
    | setsockopt level optname value =>
      have hlt : so < s.sockets.length := (List.getElem?_eq_some_iff.1 hso).1
      refine ih (x := { x with soLinger := lingerBytes [((level, optname), value)] }) ?_ rfl
      simp only [stackEvent, run_cons, run_nil, Stack.step, hso, Option.elim_some,
        Stack.setSocket_sockets]
      exact List.getElem?_set_self hlt
    | connect madeTcb => cases madeTcb <;> exact ih hso hx

/-- The control block that `connect` makes has the SO_LINGER of its socket. -/
theorem soLinger_connectTcpcb (s : Stack) (so : Nat) (x : TCPSocket) (iss : Nat) :
    ∃ t, (s.connectTcpcb so x iss).tcbs = s.tcbs ++ [t] ∧ t.req.soLinger = x.soLinger :=
  ⟨_, rfl, rfl⟩

end Tipy.Sockets
