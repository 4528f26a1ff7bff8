import Tipy.Arp.Threads

/-!
# A thread that is not interrupted

When one thread of `Threads` runs from the start of a call to its end and no other thread does
anything in between, the call does what the function does that stands for it as a whole: `tx_ip`
what `txDatagram` does, and the handling of a reply what `acceptReply` does, exceptions included.
-/

namespace Tipy.Arp

open Tipy.Ip Lib

variable {δ : Type}

/-- The core with the lists themselves in place of the references to them. -/
def Threads.whole (s : Threads δ) : Core δ :=
  { s.core with pendingQueue := fun ip => (s.core.pendingQueue ip).map (s.lists ip) }

namespace Threads

variable {s s' s'' : Threads δ} {t : Nat}

/-! ## Runs of one event -/

/-- Nothing but `e` happens, any number of times. -/
def Repeats (e : ThreadEvent δ) (s s' : Threads δ) : Prop :=
  ∃ n, run step s (List.replicate n e) = s'

theorem Repeats.refl (e : ThreadEvent δ) (s : Threads δ) : Repeats e s s := ⟨0, rfl⟩

theorem Repeats.step {e : ThreadEvent δ} (h : Repeats e (s.step e) s') : Repeats e s s' := by
  obtain ⟨n, rfl⟩ := h
  exact ⟨n + 1, rfl⟩

theorem Repeats.trans {e : ThreadEvent δ} (h : Repeats e s s') (h' : Repeats e s' s'') :
    Repeats e s s'' := by
  obtain ⟨n, rfl⟩ := h
  obtain ⟨m, rfl⟩ := h'
  exact ⟨n + m, by rw [← List.replicate_append_replicate, run_append]⟩

/-! ## `tx_ip` -/

theorem whole_appendTo {tpa n : Nat} {d : δ} (hn : s.core.pendingQueue tpa = some n) :
    (s.appendTo tpa n d).whole = s.whole.enqueue tpa d := by
  have hq : s.whole.pendingQueue tpa = some (s.lists tpa n) := by simp [whole, hn]
  simp only [Core.enqueue, hq, Core.setQueue]
  simp only [whole, appendTo, Core.mk.injEq, true_and, and_true]
  funext ip
  by_cases hip : ip = tpa
  · subst hip
    simp [hn]
  · simp [hip]

theorem whole_create {tpa : Nat} {d : δ} (hn : s.core.pendingQueue tpa = none) :
    (s.create tpa d).whole = s.whole.enqueue tpa d := by
  have hq : s.whole.pendingQueue tpa = none := by simp [whole, hn]
  simp only [Core.enqueue, hq, Core.setQueue]
  simp only [whole, create, Core.setQueue, Core.mk.injEq, true_and, and_true]
  funext ip
  by_cases hip : ip = tpa
  · subst hip
    simp
  · simp [hip]

/-- The thread is done, and the core is as it should be. -/
def Ends (t : Nat) (s : Threads δ) (k : Core δ) : Prop :=
  ∃ s', Repeats (.tx t) s s' ∧ s'.txs t = .idle ∧ s'.whole = k

theorem Ends.of_idle (h : s.txs t = .idle) : Ends t s s.whole := ⟨s, .refl _ s, h, rfl⟩

theorem Ends.of_step {k : Core δ} (h : Ends t (s.txStep t) k) : Ends t s k := by
  obtain ⟨s', hrep, hend⟩ := h
  exact ⟨s', .step hrep, hend⟩

@[simp] theorem txs_goto (s : Threads δ) (t : Nat) (phase : TxPhase δ) :
    (s.goto t phase).txs t = phase :=
  Function.update_self ..

/-! The phases of `tx_ip`, from the last to the first. -/

section Phases

variable {src tpa n : Nat} {d : δ}

theorem ends_length (h : s.txs t = .length tpa) (hq : s.core.pendingQueue tpa = some n) :
    Ends t s s.whole := by
  refine .of_step ?_
  simp only [txStep, h, hq]
  exact .of_idle (txs_goto ..)

theorem ends_appendTo (h : s.txs t = .appendTo tpa d n) (hq : s.core.pendingQueue tpa = some n) :
    Ends t s (s.whole.enqueue tpa d) := by
  refine .of_step ?_
  simp only [txStep, h, ← whole_appendTo hq]
  exact ends_length (txs_goto ..) hq

theorem ends_append (h : s.txs t = .append tpa d) (hq : s.core.pendingQueue tpa = some n) :
    Ends t s (s.whole.enqueue tpa d) := by
  refine .of_step ?_
  simp only [txStep, h, hq]
  exact ends_appendTo (txs_goto ..) hq

theorem ends_create (h : s.txs t = .create tpa d) (hq : s.core.pendingQueue tpa = none) :
    Ends t s (s.whole.enqueue tpa d) := by
  refine .of_step ?_
  simp only [txStep, h, ← whole_create hq]
  exact .of_idle (txs_goto ..)

theorem ends_enqueue (h : s.txs t = .enqueue tpa d) : Ends t s (s.whole.enqueue tpa d) := by
  refine .of_step ?_
  cases hq : s.core.pendingQueue tpa with
  | none =>
    simp only [txStep, h, Core.isEnqueued, hq, Option.isSome_none, Bool.false_eq_true, if_false]
    exact ends_create (txs_goto ..) hq
  | some n =>
    simp only [txStep, h, Core.isEnqueued, hq, Option.isSome_some, if_true]
    exact ends_append (txs_goto ..) hq

theorem ends_request (h : s.txs t = .request src tpa d) :
    Ends t s ((s.whole.txEther (.arp ⟨s.core.unicastMac, src, 0, tpa, ARP_OP_REQUEST⟩)
      0xFFFFFFFFFFFF
      s.core.unicastMac 0x0806).enqueue tpa d) := by
  refine .of_step ?_
  simp only [txStep, h]
  exact ends_enqueue (txs_goto ..)

theorem ends_waitTest (h : s.txs t = .waitTest src tpa d) :
    Ends t s ((s.whole.txArp s.core.unicastMac src 0 tpa ARP_OP_REQUEST false).enqueue tpa d) := by
  refine .of_step ?_
  by_cases hwait : s.core.arpWaitTest tpa = true
  · have hadd : s.whole.arpWaitAdd tpa = s.whole := if_pos hwait
    simp only [txStep, h, if_pos hwait, Core.txArp_request, hadd]
    exact ends_request (txs_goto ..)
  · have hadd : s.whole.arpWaitAdd tpa =
        (s.whole.waitListAdd tpa).scheduleTimer ARP_REPLY_TIMEOUT (.waitRemove tpa) := if_neg hwait
    simp only [txStep, h, if_neg hwait, Core.txArp_request, hadd]
    refine .of_step ?_
    simp only [txStep, txs_goto]
    refine .of_step ?_
    simp only [txStep, txs_goto]
    exact ends_request (txs_goto ..)

theorem ends_check (h : s.txs t = .check src tpa d) :
    Ends t s (s.whole.hUnresolvedMacDatagrams src tpa d) := by
  have hsame : s.whole.isEnqueued tpa = s.core.isEnqueued tpa := by
    simp [Core.isEnqueued, whole]
  refine .of_step ?_
  by_cases hq : s.core.isEnqueued tpa = true
  · simp only [txStep, h, if_pos hq, Core.hUnresolvedMacDatagrams, hsame]
    exact ends_enqueue (txs_goto ..)
  · simp only [txStep, h, if_neg hq, Core.hUnresolvedMacDatagrams, hsame]
    exact ends_waitTest (txs_goto ..)

end Phases

/-- **`tx_ip` alone** does what `txDatagram` does. -/
theorem ends_call (h : s.txs t = .idle) (src dst : Nat) (d : δ) :
    Ends t (s.step (.call t src dst d))
      (txDatagram s.whole src (route s.whole dst).1 (route s.whole dst).2 d) := by
  have hroute : route s.whole dst = route s.core dst := rfl
  have hstep : s.step (.call t src dst d) = s.goto t (s.enter src dst d) := by
    simp only [Threads.step, h]
  rw [hstep, hroute]
  unfold enter txDatagram
  rcases route s.core dst with ⟨tpa, mac⟩
  cases mac with
  | some mac =>
    refine .of_step ?_
    simp only [txStep, txs_goto]
    exact .of_idle (txs_goto ..)
  | none => exact ends_check (txs_goto ..)

/-! ## The handling of a reply -/

/-- The RX thread is done, and the core is as it should be. -/
def Returns (s : Threads δ) (k : Core δ) : Prop :=
  ∃ s', Repeats .rx s s' ∧ s'.rx = .idle ∧ s'.whole = k

theorem Returns.of_step {k : Core δ} (h : Returns s.rxStep k) : Returns s k := by
  obtain ⟨s', hrep, hend⟩ := h
  exact ⟨s', .step hrep, hend⟩

section Reply

variable {spa sha n i : Nat}

theorem returns_pop (h : s.rx = .pop spa) : Returns s (s.whole.setQueue spa none) := by
  refine .of_step ⟨_, .refl _ _, ?_, ?_⟩
  · simp only [rxStep, h]
  · simp only [rxStep, h, whole, Core.setQueue, Core.mk.injEq, true_and, and_true]
    funext ip
    by_cases hip : ip = spa
    · subst hip
      simp
    · simp [hip]

/-- The loop sends what is left of its list. -/
theorem returns_loop {r : List δ} (h : s.rx = .loop spa sha n i) (hr : (s.lists spa n).drop i = r) :
    Returns s ((r.foldl (fun k d => k.txEther (.datagram d) sha k.unicastMac 0x0800)
      s.whole).setQueue spa none) := by
  induction r generalizing s i with
  | nil =>
    have hend : (s.lists spa n)[i]? = none := by
      rw [List.getElem?_eq_none_iff]
      exact List.drop_eq_nil_iff.1 hr
    refine .of_step ?_
    simp only [rxStep, h, hend]
    exact returns_pop rfl
  | cons d r ih =>
    have hget : (s.lists spa n)[i]? = some d := by
      rw [← Nat.add_zero i, ← List.getElem?_drop, hr]
      rfl
    refine .of_step ?_
    simp only [rxStep, h, hget]
    refine ih rfl ?_
    have hnext : (s.lists spa n).drop (i + 1) = r := by rw [← List.drop_drop, hr]; rfl
    exact hnext

/-- An accepted reply, up to `dequeue`. -/
def afterUpdate (s : Threads δ) (spa sha : Nat) : Threads δ :=
  { s with
    rx := .length spa sha
    core := (s.core.updateArpCache spa sha).scheduleTimer ARP_CACHE_TTL (.flushEntry spa)
    accepted := Function.update s.accepted spa (s.accepted spa ++ [sha]) }

theorem repeats_afterUpdate (h : s.rx = .waitTest spa sha) (hwait : s.core.arpWaitTest spa = true) :
    Repeats .rx s (s.afterUpdate spa sha) := by
  refine .step ?_
  simp only [Threads.step, rxStep, h, if_pos hwait]
  refine .step ?_
  simp only [Threads.step, rxStep]
  refine .step ?_
  simp only [Threads.step, rxStep]
  exact .refl ..

theorem whole_afterUpdate (s : Threads δ) (spa sha : Nat) :
    (s.afterUpdate spa sha).whole =
      (s.whole.updateArpCache spa sha).scheduleTimer ARP_CACHE_TTL (.flushEntry spa) := by
  by_cases hcache : s.core.arpCache spa = none
  · have hcore : s.core.updateArpCache spa sha =
        { s.core with arpCache := Function.update s.core.arpCache spa (some sha) } := if_pos hcache
    have hwhole : s.whole.updateArpCache spa sha =
        { s.whole with arpCache := Function.update s.core.arpCache spa (some sha) } := if_pos hcache
    rw [afterUpdate, hcore, hwhole]
    rfl
  · have hcore : s.core.updateArpCache spa sha = s.core := if_neg hcache
    have hwhole : s.whole.updateArpCache spa sha = s.whole := if_neg hcache
    rw [afterUpdate, hcore, hwhole]
    rfl

/-- **A reply handled alone** does what `acceptReply` does. -/
theorem reply_returns (h : s.rx = .waitTest spa sha) (hwait : s.core.arpWaitTest spa = true)
    (hq : s.core.pendingQueue spa = some n) :
    (s.whole.acceptReply spa sha).2 = .ok () ∧ Returns s (s.whole.acceptReply spa sha).1 := by
  have hqueue : (s.afterUpdate spa sha).core.pendingQueue spa = some n := by
    simpa [afterUpdate, Core.scheduleTimer] using hq
  have hwhole : (s.afterUpdate spa sha).whole.pendingQueue spa = some (s.lists spa n) := by
    simp only [whole, hqueue, Option.map_some]
    rfl
  have hrx : (s.afterUpdate spa sha).rx = .length spa sha := rfl
  have hend : Returns (s.afterUpdate spa sha) (((s.lists spa n).foldl
      (fun k d => k.txEther (.datagram d) sha k.unicastMac 0x0800)
      (s.afterUpdate spa sha).whole).setQueue spa none) := by
    refine .of_step ?_
    simp only [rxStep, hrx, hqueue]
    refine .of_step ?_
    simp only [rxStep, hqueue]
    exact returns_loop rfl (List.drop_zero ..)
  rw [Core.acceptReply, ← whole_afterUpdate, Core.dequeue, hwhole]
  obtain ⟨s', hrep, hend⟩ := hend
  exact ⟨rfl, s', (repeats_afterUpdate h hwait).trans hrep, hend⟩

/-- A reply that finds no queue raises, as `acceptReply` does. -/
theorem reply_raises (h : s.rx = .waitTest spa sha) (hwait : s.core.arpWaitTest spa = true)
    (hq : s.core.pendingQueue spa = none) :
    (s.whole.acceptReply spa sha).2 = .error .keyError ∧
      ∃ s', Repeats .rx s s' ∧ s'.rx = .dead ∧ s'.raised = s.raised ++ [.keyError] ∧
        s'.whole = (s.whole.acceptReply spa sha).1 := by
  have hqueue : (s.afterUpdate spa sha).core.pendingQueue spa = none := by
    simpa [afterUpdate, Core.scheduleTimer] using hq
  have hwhole : (s.afterUpdate spa sha).whole.pendingQueue spa = none := by
    simp only [whole, hqueue, Option.map_none]
  have hrx : (s.afterUpdate spa sha).rx = .length spa sha := rfl
  rw [Core.acceptReply, ← whole_afterUpdate, Core.dequeue, hwhole]
  refine ⟨rfl, (s.afterUpdate spa sha).rxStep,
    (repeats_afterUpdate h hwait).trans (.step (.refl ..)), ?_, ?_, ?_⟩
  · simp only [rxStep, hrx, hqueue]
  · simp only [rxStep, hrx, hqueue]
    rfl
  · simp only [rxStep, hrx, hqueue]
    rfl

end Reply

end Threads

end Tipy.Arp
