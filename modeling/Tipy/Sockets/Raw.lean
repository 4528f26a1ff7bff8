import Tipy.Host.Rx
import Tipy.Lib.Runs

/-!
# Raw sockets

`RIPTable` of `tipy/components/sockets_table.py` and the calls of
`tipy/protocols/raw/raw_usrreq.py`. `raw_connect` looks for the old entry of a socket under the
remote address 0 only; so a connected socket that connects to another address keeps its old entry,
under which it goes on being given packets, and which closing it does not remove.
`exact_iff_careful` says that there is no other way to such an entry.
-/

namespace Tipy.Raw

open Tipy.Tcp Lib

/-- `RIPTable.sockets`; the table holds the numbers of the sockets. -/
abbrev RIPTable := RipId → Option Nat

namespace RIPTable

variable (t : RIPTable)

/-- `register_socket`. -/
def registerSocket (id : RipId) (so : Nat) : RIPTable := Function.update t id (some so)

/-- `remove_socket`. -/
def removeSocket (id : RipId) : RIPTable := Function.update t id none

/-- `update_socket`. -/
def updateSocket (old new : RipId) (so : Nat) : RIPTable :=
  (removeSocket t old).registerSocket new so

variable {t} {id id' : RipId} {so so' : Nat}

theorem of_registerSocket (h : registerSocket t id so id' = some so') :
    (id' = id ∧ so' = so) ∨ t id' = some so' := by
  rcases of_update_eq_some h with ⟨hid, hnew⟩ | ⟨-, hold⟩
  · exact .inl ⟨hid, (Option.some.inj hnew).symm⟩
  · exact .inr hold

theorem of_removeSocket (h : removeSocket t id id' = some so') : id' ≠ id ∧ t id' = some so' := by
  rcases of_update_eq_some h with ⟨-, hnone⟩ | hold
  · cases hnone
  · exact hold

end RIPTable

/-- `RIPSocket`, as far as these calls use it. `local_ip` is `none` after a connect on a stack that
has no address yet. -/
structure RIPSocket where
  proto : Nat
  localIp : Option Nat
  localPort : Nat
  remoteIp : Nat
  remotePort : Nat
  sockId : RipId
  error : Option Errno
deriving Repr, DecidableEq

/-- The sockets made so far and their table. -/
structure RawStack where
  unicastIp : Option Nat
  socks : List RIPSocket
  rip : RIPTable

namespace RawStack

variable (s : RawStack)

/-- A stack before any call. -/
def new (unicastIp : Option Nat) : RawStack := ⟨unicastIp, [], fun _ => none⟩

/-- `RIPSocket.__init__`. -/
def socket (proto : Nat) : RawStack :=
  { s with socks := s.socks ++ [⟨proto, some 0, 0, 0, 0, ⟨0, proto, 0⟩, none⟩] }

def setSocket (so : Nat) (x : RIPSocket) : RawStack := { s with socks := s.socks.set so x }

/-- `raw_bind`; the address is `none` when `IPAddress` cannot read it. `raise_exception` does not
clear the error. -/
def rawBind (so : Nat) (x : RIPSocket) (address : Option Nat) (port : Nat) : RawStack :=
  match address with
  | none => s.setSocket so { x with error := some .eaiNoname }
  | some ip =>
    let x := if some ip = s.unicastIp then x else { x with error := some .eaddrnotavail }
    if x.error ≠ none then s.setSocket so x
    else
      let id := ⟨ip, x.proto, x.remoteIp⟩
      { s.setSocket so { x with localIp := some ip, localPort := port, sockId := id } with
        rip := s.rip.registerSocket id so }

/-- `raw_connect`. -/
def rawConnect (so : Nat) (x : RIPSocket) (address : Option Nat) (port : Nat) : RawStack :=
  match address with
  | none => s.setSocket so { x with error := some .eaddrnotavail }
  | some ip =>
    let x := { x with remoteIp := ip }
    if x.error ≠ none then s.setSocket so x
    else
      let x := { x with remotePort := port }
      match x.localIp with
      -- `so.local_ip.ip` raises
      | none => s.setSocket so x
      | some localIp =>
        if localIp = 0 then
          let x := { x with localIp := s.unicastIp }
          match s.unicastIp with
          | none => s.setSocket so x
          | some unicastIp =>
            let id := ⟨unicastIp, x.proto, ip⟩
            { s.setSocket so { x with sockId := id } with rip := s.rip.registerSocket id so }
        else
          let id := ⟨localIp, x.proto, ip⟩
          { s.setSocket so { x with sockId := id } with
            rip := s.rip.updateSocket ⟨localIp, x.proto, 0⟩ id so }

/-- `raw_send`, as far as the socket goes: it needs a remote address. -/
def rawSend (so : Nat) (x : RIPSocket) : RawStack :=
  if x.remoteIp ≠ 0 then s else s.setSocket so { x with error := some .edestaddrreq }

/-- `raw_recv` that is given nothing in time. -/
def rawRecvTimeout (so : Nat) (x : RIPSocket) : RawStack :=
  s.setSocket so { x with error := some .etimedout }

/-- `raw_close`. -/
def rawClose (x : RIPSocket) : RawStack := { s with rip := s.rip.removeSocket x.sockId }

end RawStack

/-- The calls of the application on its raw sockets. -/
inductive RawEvent where
  | socket (proto : Nat)
  | bind (so : Nat) (address : Option Nat) (port : Nat)
  | connect (so : Nat) (address : Option Nat) (port : Nat)
  | send (so : Nat)
  | recvTimeout (so : Nat)
  | close (so : Nat)
deriving Repr, DecidableEq

/-- One call, on a socket object the application has. -/
def RawStack.step (s : RawStack) : RawEvent → RawStack
  | .socket proto => s.socket proto
  | .bind so address port => s.socks[so]?.elim s fun x => s.rawBind so x address port
  | .connect so address port => s.socks[so]?.elim s fun x => s.rawConnect so x address port
  | .send so => s.socks[so]?.elim s fun x => s.rawSend so x
  | .recvTimeout so => s.socks[so]?.elim s fun x => s.rawRecvTimeout so x
  | .close so => s.socks[so]?.elim s fun x => s.rawClose x

namespace RawStack

/-- Every entry is under the id that its socket has, which is what closing it removes. -/
def Exact (s : RawStack) : Prop :=
  ∀ id so, s.rip id = some so → ∃ x, s.socks[so]? = some x ∧ x.sockId = id

/-- A socket that is registered connects to the address it has, or for the first time. -/
def Careful (s : RawStack) : RawEvent → Prop
  | .connect so (some ip) _ =>
    ∀ x, s.socks[so]? = some x → s.rip x.sockId = some so → x.error = none →
    x.sockId.remoteIp = ip ∨ (x.sockId.remoteIp = 0 ∧ x.sockId.localIp ≠ 0)
  | _ => True

/-- What a socket that is registered under `id` is like. -/
structure Registered (s : RawStack) (id : RipId) (x : RIPSocket) : Prop where
  sockId : x.sockId = id
  localIp : x.localIp = some id.localIp
  proto : x.proto = id.protocol
  unicastIp : s.unicastIp = some id.localIp
  remoteIp : x.error = none → x.remoteIp = id.remoteIp

structure Inv (s : RawStack) : Prop where
  entry : ∀ id so, s.rip id = some so → ∃ x, s.socks[so]? = some x ∧ s.Registered id x
  /-- a socket has no other address than that of the stack -/
  address : ∀ (so : Nat) (x : RIPSocket) (ip : Nat), s.socks[so]? = some x → x.localIp = some ip →
    ip = 0 ∨ s.unicastIp = some ip

theorem Inv.exact {s : RawStack} (h : s.Inv) : s.Exact := by
  intro id so hso
  obtain ⟨x, hx, hreg⟩ := h.entry id so hso
  exact ⟨x, hx, hreg.sockId⟩

theorem inv_new (unicastIp : Option Nat) : (new unicastIp).Inv := by
  refine ⟨?_, ?_⟩
  · rintro id so ⟨⟩
  · rintro so x ip ⟨⟩

variable {s s' : RawStack} {so : Nat} {x : RIPSocket}

/-- **A call changes one socket**, and its entries. -/
theorem Inv.update (h : s.Inv) (hso : s.socks[so]? = some x) (x' : RIPSocket)
    (hsocks : s'.socks = s.socks.set so x') (hip : s'.unicastIp = s.unicastIp)
    (haddress : ∀ ip, x'.localIp = some ip → ip = 0 ∨ s.unicastIp = some ip)
    (hothers : ∀ id so', so' ≠ so → s'.rip id = some so' → s.rip id = some so')
    (hown : ∀ id, s'.rip id = some so → s.Registered id x') : s'.Inv := by
  have hlt : so < s.socks.length := (List.getElem?_eq_some_iff.1 hso).1
  refine ⟨fun id so' hid => ?_, fun so' y ip hy hyip => ?_⟩
  · by_cases hsame : so' = so
    · subst hsame
      obtain ⟨hsockId, hlocal, hproto, hunicast, hremote⟩ := hown id hid
      refine ⟨x', ?_, hsockId, hlocal, hproto, hip.trans hunicast, hremote⟩
      rw [hsocks, List.getElem?_set_self hlt]
    · obtain ⟨y, hy, hsockId, hlocal, hproto, hunicast, hremote⟩ :=
        h.entry id so' (hothers id so' hsame hid)
      refine ⟨y, ?_, hsockId, hlocal, hproto, hip.trans hunicast, hremote⟩
      rw [hsocks, List.getElem?_set_ne (Ne.symm hsame)]
      exact hy
  · rw [hip]
    rw [hsocks] at hy
    by_cases hsame : so' = so
    · subst hsame
      rw [List.getElem?_set_self hlt] at hy
      obtain rfl := Option.some.inj hy
      exact haddress ip hyip
    · rw [List.getElem?_set_ne (Ne.symm hsame)] at hy
      exact h.address so' y ip hy hyip

/-- What is registered for a socket. -/
theorem Inv.registered (h : s.Inv) (hso : s.socks[so]? = some x) {id : RipId}
    (hid : s.rip id = some so) :
    s.Registered id x := by
  obtain ⟨y, hy, hreg⟩ := h.entry id so hid
  obtain rfl := Option.some.inj (hso.symm.trans hy)
  exact hreg

/-- A call that leaves the table alone, and the id and the local address of the socket. -/
theorem Inv.keep (h : s.Inv) (hso : s.socks[so]? = some x) {x' : RIPSocket}
    (hlocal : x'.localIp = x.localIp) (hid : x'.sockId = x.sockId) (hproto : x'.proto = x.proto)
    (herror : x'.error ≠ none) :
    (s.setSocket so x').Inv := by
  refine h.update hso x' rfl rfl (fun ip hip => h.address so x ip hso (hlocal ▸ hip))
    (fun id so' _ hid => hid)
    fun id hentry => ?_
  have hreg := h.registered hso hentry
  exact ⟨hid.trans hreg.sockId, hlocal.trans hreg.localIp, hproto.trans hreg.proto, hreg.unicastIp,
    fun hnone => absurd hnone herror⟩

/-- **A socket is registered** under a new id, and has no entry but this. -/
theorem Inv.register (h : s.Inv) (hso : s.socks[so]? = some x) {x' : RIPSocket}
    {t : RIPTable} {id : RipId} (hsub : ∀ id' so', t id' = some so' → s.rip id' = some so')
    (hown : ∀ id', t id' = some so → id' = id)
    (hreg : s.Registered id x') : Inv { s.setSocket so x' with rip := t.registerSocket id so } := by
  refine h.update hso x' rfl rfl ?_ ?_ fun id' hentry => ?_
  · intro ip hip
    obtain rfl := Option.some.inj (hreg.localIp.symm.trans hip)
    exact .inr hreg.unicastIp
  · intro id' so' hne hentry
    rcases RIPTable.of_registerSocket hentry with ⟨-, hsame⟩ | hother
    · exact absurd hsame hne
    · exact hsub id' so' hother
  · rcases RIPTable.of_registerSocket hentry with ⟨rfl, -⟩ | hold
    · exact hreg
    · exact hown id' hold ▸ hreg

/-- The id under which a socket is registered. -/
theorem Registered.eq {id : RipId} (hreg : s.Registered id x) {localIp remoteIp : Nat}
    (hlocal : localIp = id.localIp) (hremote : remoteIp = id.remoteIp) :
    id = ⟨localIp, x.proto, remoteIp⟩ := by
  rw [hlocal, hreg.proto, hremote]

theorem Inv.rawBind (h : s.Inv) (hso : s.socks[so]? = some x) (address : Option Nat) (port : Nat) :
    (s.rawBind so x address port).Inv := by
  unfold RawStack.rawBind
  cases address with
  | none => exact h.keep hso rfl rfl rfl (Option.some_ne_none _)
  | some ip =>
    by_cases hip : some ip = s.unicastIp
    · simp only [if_pos hip]
      split
      · next herror => exact h.keep hso rfl rfl rfl herror
      · next hnone =>
        refine h.register hso (fun _ _ hid => hid) (fun id hid => ?_) ⟨rfl, rfl, rfl,
          hip.symm, fun _ => rfl⟩
        have hreg := h.registered hso hid
        exact hreg.eq (Option.some.inj (hip.trans hreg.unicastIp)) (hreg.remoteIp (not_not.1 hnone))
    · simp only [if_neg hip]
      exact h.keep hso rfl rfl rfl (Option.some_ne_none _)

theorem Inv.rawConnect (h : s.Inv) (hso : s.socks[so]? = some x) (address : Option Nat) (port : Nat)
    (hcareful : s.Careful (.connect so address port)) : (s.rawConnect so x address port).Inv := by
  unfold RawStack.rawConnect
  cases address with
  | none => exact h.keep hso rfl rfl rfl (Option.some_ne_none _)
  | some ip =>
    dsimp only
    split
    · next herror => exact h.keep hso rfl rfl rfl herror
    · next hnone =>
      -- an entry of the socket has the address it connects to, or is the one that is removed
      have hold : ∀ id, s.rip id = some so → s.Registered id x ∧
          (id.remoteIp = ip ∨ (id.remoteIp = 0 ∧ id.localIp ≠ 0)) := by
        intro id hid
        have hreg := h.registered hso hid
        have hwhen := hcareful x hso (hreg.sockId ▸ hid) (not_not.1 hnone)
        rw [hreg.sockId] at hwhen
        exact ⟨hreg, hwhen⟩
      split
      · next hlocal =>
        refine h.update hso _ rfl rfl (fun ip' => h.address so x ip' hso) (fun id so' _ hid => hid)
          fun id hid => ?_
        obtain ⟨hreg, -⟩ := hold id hid
        rw [hreg.localIp] at hlocal
        cases hlocal
      · next localIp hlocal =>
        split
        · next hzero =>
          subst hzero
          split
          · next hunicast =>
            refine h.update hso _ rfl rfl (fun ip' => .inr) (fun id so' _ hid => hid) fun id hid =>
              ?_
            obtain ⟨hreg, -⟩ := hold id hid
            rw [hreg.unicastIp] at hunicast
            cases hunicast
          · next unicastIp hunicast =>
            refine h.register hso (fun _ _ hid => hid) (fun id hid => ?_)
              ⟨rfl, hunicast, rfl, hunicast, fun _ => rfl⟩
            obtain ⟨hreg, hremote⟩ := hold id hid
            rcases hremote with hremote | ⟨-, hne⟩
            · exact hreg.eq (Option.some.inj (hunicast.symm.trans hreg.unicastIp)) hremote.symm
            · exact absurd (Option.some.inj (hlocal.symm.trans hreg.localIp)).symm hne
        · next hne =>
          have hunicast : s.unicastIp = some localIp :=
            (h.address so x localIp hso hlocal).resolve_left hne
          refine h.register hso (fun id so' hid => (RIPTable.of_removeSocket hid).2)
            (fun id hid => ?_)
            ⟨rfl, hlocal, rfl, hunicast, fun _ => rfl⟩
          obtain ⟨hid, hown⟩ := RIPTable.of_removeSocket hid
          obtain ⟨hreg, hremote⟩ := hold id hown
          have hlocalIp : localIp = id.localIp := Option.some.inj (hlocal.symm.trans hreg.localIp)
          rcases hremote with hremote | ⟨hzero, -⟩
          · exact hreg.eq hlocalIp hremote.symm
          · exact absurd (hreg.eq hlocalIp hzero.symm) hid

theorem Inv.rawSend (h : s.Inv) (hso : s.socks[so]? = some x) : (s.rawSend so x).Inv := by
  unfold RawStack.rawSend
  split
  · exact h
  · exact h.keep hso rfl rfl rfl (Option.some_ne_none _)

theorem Inv.rawClose (h : s.Inv) (x : RIPSocket) : (s.rawClose x).Inv := by
  refine ⟨fun id so hid => ?_, h.address⟩
  obtain ⟨y, hy, hreg⟩ := h.entry id so (RIPTable.of_removeSocket hid).2
  exact ⟨y, hy, hreg.sockId, hreg.localIp, hreg.proto, hreg.unicastIp, hreg.remoteIp⟩

theorem Inv.socket (h : s.Inv) (proto : Nat) : (s.socket proto).Inv := by
  refine ⟨fun id so hid => ?_, fun so x ip hx hip => ?_⟩
  · obtain ⟨x, hx, hreg⟩ := h.entry id so hid
    refine ⟨x, ?_, hreg.sockId, hreg.localIp, hreg.proto, hreg.unicastIp, hreg.remoteIp⟩
    rw [RawStack.socket, List.getElem?_append_left (List.getElem?_eq_some_iff.1 hx).1]
    exact hx
  · rw [RawStack.socket, List.getElem?_append] at hx
    split at hx
    · exact h.address so x ip hx hip
    · obtain rfl := List.mem_singleton.1 (List.mem_of_getElem? hx)
      exact .inl (Option.some.inj hip).symm

theorem Inv.step (h : s.Inv) {e : RawEvent} (hcareful : s.Careful e) : (s.step e).Inv := by
  -- a call on a socket that does not exist does nothing
  have hcall : ∀ (so : Nat) (f : RIPSocket → RawStack), (∀ x, s.socks[so]? = some x → (f x).Inv) →
      (s.socks[so]?.elim s f).Inv := by
    intro so f hf
    cases hx : s.socks[so]? with
    | none => exact h
    | some x => exact hf x hx
  cases e with
  | socket proto => exact h.socket proto
  | bind so address port => exact hcall so _ fun x hx => h.rawBind hx address port
  | connect so address port => exact hcall so _ fun x hx => h.rawConnect hx address port hcareful
  | send so => exact hcall so _ fun x hx => h.rawSend hx
  | recvTimeout so => exact hcall so _ fun x hx => h.keep hx rfl rfl rfl (Option.some_ne_none _)
  | close so => exact hcall so _ fun x _ => h.rawClose x

/-- Closing a socket then leaves no entry of it. -/
theorem Exact.close (h : s.Exact) (hso : s.socks[so]? = some x) (id : RipId) :
    (s.step (.close so)).rip id ≠ some so := by
  simp only [RawStack.step, hso, Option.elim_some, RawStack.rawClose]
  intro hid
  obtain ⟨hne, hold⟩ := RIPTable.of_removeSocket hid
  obtain ⟨y, hy, hsockId⟩ := h id so hold
  obtain rfl := Option.some.inj (hso.symm.trans hy)
  exact hne hsockId.symm

/-- A socket that has another remote address than the entry it has left. -/
theorem not_exact {id : RipId} {x' : RIPSocket} (hso : s.socks[so]? = some x)
    (hsocks : s'.socks = s.socks.set so x') (hid : s'.rip id = some so)
    (hne : x'.sockId.remoteIp ≠ id.remoteIp) :
    ¬ s'.Exact := by
  intro hexact
  obtain ⟨y, hy, hsockId⟩ := hexact id so hid
  rw [hsocks, List.getElem?_set_self (List.getElem?_eq_some_iff.1 hso).1] at hy
  obtain rfl := Option.some.inj hy
  exact hne (congrArg RipId.remoteIp hsockId)

/-- A call that is not careful leaves an entry behind. -/
theorem Inv.careful_of_exact (h : s.Inv) {e : RawEvent} (hexact : (s.step e).Exact) :
    s.Careful e := by
  cases e with
  | socket proto => trivial
  | bind so address port => trivial
  | send so => trivial
  | recvTimeout so => trivial
  | close so => trivial
  | connect so address port =>
    cases address with
    | none => trivial
    | some ip =>
      intro x hso hentry hnone
      by_contra hnot
      rw [not_or] at hnot
      obtain ⟨hip, hremote⟩ := hnot
      have hreg := h.registered hso hentry
      simp only [RawStack.step, hso, Option.elim_some, RawStack.rawConnect, hnone, ne_eq,
        not_true_eq_false, if_false, hreg.localIp] at hexact
      split at hexact
      · next hzero =>
        simp only [hreg.unicastIp] at hexact
        refine not_exact hso rfl ?_ (Ne.symm hip) hexact
        refine (Function.update_of_ne ?_ _ _).trans hentry
        exact fun hsame => hip (congrArg RipId.remoteIp hsame)
      · next hne =>
        have hpos : x.sockId.remoteIp ≠ 0 := fun hzero => hremote ⟨hzero, hne⟩
        refine not_exact hso rfl ?_ (Ne.symm hip) hexact
        refine (Function.update_of_ne ?_ _ _).trans ((Function.update_of_ne ?_ _ _).trans hentry)
        · exact fun hsame => hip (congrArg RipId.remoteIp hsame)
        · exact fun hsame => hpos (congrArg RipId.remoteIp hsame)

/-- **A raw socket has no entry but its own**, in all states that a run reaches, exactly when no
registered socket connects to another address than it has. -/
theorem exact_iff_careful (unicastIp : Option Nat) (es : List RawEvent) :
    (∀ pre, pre <+: es → (run step (new unicastIp) pre).Exact) ↔
    Guarded step Careful (new unicastIp) es := by
  have hdomain : Guarded step (fun _ _ => True) (new unicastIp) es :=
    guarded_of_forall_mem (fun _ _ => trivial) _
  exact forall_reached_iff_guarded (fun s h => h.exact) (fun s e h _ hc => h.step hc)
    (fun s e h _ hexact => h.careful_of_exact hexact) (inv_new unicastIp) hdomain

/-- The socket connects to the address 2, then to 3, and is closed. -/
example :
    (run step (new (some 1)) [.socket 1, .connect 0 (some 2) 0, .connect 0 (some 3) 0,
    .close 0]).rip
    ⟨1, 1, 2⟩ = some 0 := by decide

end RawStack

end Tipy.Raw
