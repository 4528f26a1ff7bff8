import Tipy.Arp.Threads

/-!
# When no thread raises

The look-ups of `Threads` that fail are ruled out by three conditions: `dequeue` finds a queue when
it starts, no thread is about to append to a queue when it is taken out of the dictionary, and a
thread that puts an address into the wait list does not find it there. Then no step raises, in any
run. The wait timers need most of the argument: there is one for an address in the list, or a thread
that is about to start it.
-/

namespace Tipy.Arp

open Tipy.Components Lib

variable {δ ρ : Type}

/-! ## The conditions -/

/-- The thread has found a queue for the address, and is going to look it up again. -/
def TxPhase.Appending : TxPhase δ → Nat → Prop
  | .append tpa _, ip => tpa = ip
  | .appendTo tpa _ _, ip => tpa = ip
  | .length tpa, ip => tpa = ip
  | _, _ => False

/-- The thread has put the address into the wait list, and is going to start its timer. -/
def TxPhase.Adding : TxPhase δ → Nat → Prop
  | .waitTimer _ tpa _, ip => tpa = ip
  | _, _ => False

/-- What the state before a step must be like for the step not to go wrong. -/
structure Careful (s : Threads δ) (e : ThreadEvent δ) : Prop where
  reply : ∀ spa sha, e = .rx → s.rx = .length spa sha → s.core.pendingQueue spa ≠ none
  pop : ∀ spa t, e = .rx → s.rx = .pop spa → ¬ (s.txs t).Appending spa
  wait : ∀ t src tpa d, e = .tx t → s.txs t = .waitAdd src tpa d → tpa ∉ s.core.arpWaitList

/-! ## Wait timers -/

/-- The number of wait timers of an address. -/
def waitTasks (timer : Timer ArpCall) (ip : Nat) : Nat :=
  timer.tasks.countP fun task => task.call = .waitRemove ip

theorem waitTasks_scheduleTimer (timer : Timer ArpCall) (nowMs : Int)
    (expireAfter : ℚ) (c : ArpCall) (ip : Nat) : waitTasks
    (timer.scheduleTimer nowMs expireAfter c).2 ip =
      waitTasks timer ip + if c = .waitRemove ip then 1 else 0 := by
  simp only [waitTasks, Timer.scheduleTimer, List.countP_append, List.countP_singleton,
    decide_eq_true_eq]

theorem waitTasks_popDue {timer timer' : Timer ArpCall} {nowMs : Int} {task : TimerTask ArpCall}
    {i : Nat} (hpop : timer.popDue nowMs i = some (task, timer')) (ip : Nat) :
    waitTasks timer' ip + (if task.call = .waitRemove ip then 1 else 0) = waitTasks timer ip := by
  have hcount := Timer.countP_of_popDue hpop fun task => task.call = .waitRemove ip
  simpa only [waitTasks, decide_eq_true_eq] using hcount

/-- There is one wait timer for an address in the list, or a thread that is going to start it. -/
structure TimersMatch (s : Threads δ) : Prop where
  noProbe : ∀ task ∈ s.core.timer.tasks, ∀ ip, task.call ≠ .probeDone ip
  unique : ∀ ip, waitTasks s.core.timer ip ≤ 1
  mem : ∀ ip, 0 < waitTasks s.core.timer ip → ip ∈ s.core.arpWaitList
  adding : ∀ t ip, (s.txs t).Adding ip → ip ∈ s.core.arpWaitList ∧ waitTasks s.core.timer ip = 0
  alone : ∀ t t' ip, (s.txs t).Adding ip → (s.txs t').Adding ip → t = t'

namespace TimersMatch

variable {s s' : Threads δ}

theorem congr (h : TimersMatch s) (htimer : s'.core.timer = s.core.timer)
    (hwait : s'.core.arpWaitList = s.core.arpWaitList) (htxs : s'.txs = s.txs) :
    TimersMatch s' where
  noProbe := by rw [htimer]; exact h.noProbe
  unique := by rw [htimer]; exact h.unique
  mem := by rw [htimer, hwait]; exact h.mem
  adding := by rw [htimer, hwait, htxs]; exact h.adding
  alone := by rw [htxs]; exact h.alone

/-- A thread that goes on to another phase than starting a timer. -/
theorem goto (h : TimersMatch s) {t : Nat} {phase : TxPhase δ}
    (htimer : s'.core.timer = s.core.timer) (hwait : s'.core.arpWaitList = s.core.arpWaitList)
    (htxs : s'.txs = Function.update s.txs t phase)
    (hphase : ∀ ip, ¬ phase.Adding ip) : TimersMatch s' := by
  have hold (t' ip : Nat) (hadd : (s'.txs t').Adding ip) : (s.txs t').Adding ip := by
    rw [htxs, Function.update_apply] at hadd
    split at hadd
    · exact absurd hadd (hphase ip)
    · exact hadd
  exact {
    noProbe := by rw [htimer]; exact h.noProbe
    unique := by rw [htimer]; exact h.unique
    mem := by rw [htimer, hwait]; exact h.mem
    adding := by
      rw [htimer, hwait]
      exact fun t' ip hadd => h.adding t' ip (hold t' ip hadd)
    alone := fun t' t'' ip h' h'' => h.alone t' t'' ip (hold t' ip h') (hold t'' ip h'') }

/-- An address that is new to the list has no timer, and no other thread is going to start one. -/
theorem waitAdd (h : TimersMatch s) {t src tpa : Nat} {d : δ} (hnew : tpa ∉ s.core.arpWaitList) :
    TimersMatch (({ s with core := s.core.waitListAdd tpa } : Threads δ).goto t
      (.waitTimer src tpa d)) := by
  have hzero : waitTasks s.core.timer tpa = 0 := by
    by_contra hne
    exact hnew (h.mem tpa (Nat.pos_of_ne_zero hne))
  have hcases (t' ip : Nat) (hadd : ((({ s with core := s.core.waitListAdd tpa } : Threads δ).goto t
      (.waitTimer src tpa d)).txs t').Adding ip) : t' = t ∧ ip = tpa ∨ (s.txs t').Adding ip := by
    simp only [Threads.goto, Function.update_apply] at hadd
    split at hadd
    · next ht => exact .inl ⟨ht, Eq.symm hadd⟩
    · exact .inr hadd
  have hother {t' : Nat} (hadd : (s.txs t').Adding tpa) : False := hnew (h.adding t' tpa hadd).1
  refine ⟨h.noProbe, h.unique, ?_, ?_, ?_⟩
  · intro ip hpos
    exact Finset.mem_insert_of_mem (h.mem ip hpos)
  · intro t' ip hadd
    rcases hcases t' ip hadd with ⟨-, rfl⟩ | hadd
    · exact ⟨Finset.mem_insert_self .., hzero⟩
    · exact ⟨Finset.mem_insert_of_mem (h.adding t' ip hadd).1, (h.adding t' ip hadd).2⟩
  · intro t' t'' ip h' h''
    rcases hcases t' ip h' with ⟨rfl, rfl⟩ | hold' <;> rcases hcases t'' ip h''
      with ⟨rfl, hip⟩ | hold''
    · rfl
    · exact (hother hold'').elim
    · exact (hother (hip ▸ hold')).elim
    · exact h.alone t' t'' ip hold' hold''

theorem noProbe_scheduleTimer (h : TimersMatch s) (expireAfter : ℚ) {call : ArpCall}
    (hcall : ∀ ip, call ≠ .probeDone ip) :
    ∀ task ∈ (s.core.scheduleTimer expireAfter call).timer.tasks, ∀ ip,
        task.call ≠ .probeDone ip := by
  intro task htask ip
  simp only [Core.scheduleTimer, Timer.scheduleTimer, List.mem_append, List.mem_singleton] at htask
  rcases htask with htask | rfl
  · exact h.noProbe task htask ip
  · exact hcall ip

/-- The timer is started. -/
theorem waitTimer (h : TimersMatch s) {t src tpa : Nat} {d : δ}
    (hphase : s.txs t = .waitTimer src tpa d) :
    TimersMatch (({ s with core := s.core.scheduleTimer ARP_REPLY_TIMEOUT (.waitRemove tpa) } :
      Threads δ).goto t (.request src tpa d)) := by
  have hadding : (s.txs t).Adding tpa := by rw [hphase]; rfl
  obtain ⟨hmem, hzero⟩ := h.adding t tpa hadding
  have hcount (ip : Nat) :
      waitTasks (s.core.scheduleTimer ARP_REPLY_TIMEOUT (.waitRemove tpa)).timer ip =
        waitTasks s.core.timer ip + if tpa = ip then 1 else 0 := by
    simp [Core.scheduleTimer, waitTasks_scheduleTimer]
  have hcases (t' ip : Nat) (hadd : ((({ s with
      core := s.core.scheduleTimer ARP_REPLY_TIMEOUT (.waitRemove tpa) } : Threads δ).goto t
      (.request src tpa d)).txs t').Adding ip) : t' ≠ t ∧ (s.txs t').Adding ip := by
    simp only [Threads.goto, Function.update_apply] at hadd
    split at hadd
    · exact hadd.elim
    · next ht => exact ⟨ht, hadd⟩
  refine ⟨?_, ?_, ?_, ?_, ?_⟩
  · exact h.noProbe_scheduleTimer ARP_REPLY_TIMEOUT (fun ip => by rintro ⟨⟩)
  · intro ip
    simp only [Threads.goto, hcount]
    have := h.unique ip
    split
    · next hip =>
      subst hip
      omega
    · omega
  · intro ip hpos
    simp only [Threads.goto, hcount] at hpos
    split at hpos
    · next hip => exact hip ▸ hmem
    · exact h.mem ip hpos
  · intro t' ip hadd
    obtain ⟨hne, hadd⟩ := hcases t' ip hadd
    have hip : tpa ≠ ip := by
      rintro rfl
      exact hne (h.alone t' t tpa hadd hadding)
    refine ⟨(h.adding t' ip hadd).1, ?_⟩
    simp only [Threads.goto, hcount, if_neg hip]
    exact (h.adding t' ip hadd).2
  · intro t' t'' ip h' h''
    exact h.alone t' t'' ip (hcases t' ip h').2 (hcases t'' ip h'').2

/-- A task is taken off the heap. -/
theorem popDue (h : TimersMatch s) {timer : Timer ArpCall} {task : TimerTask ArpCall} {i : Nat}
    (hpop : s.core.timer.popDue s.core.nowMs i = some (task, timer)) :
    TimersMatch ({ s with core := { s.core with timer } } : Threads δ) := by
  have hle (ip : Nat) : waitTasks timer ip ≤ waitTasks s.core.timer ip := by
    have := waitTasks_popDue hpop ip
    omega
  refine ⟨?_, ?_, ?_, ?_, h.alone⟩
  · intro task' htask'
    exact h.noProbe task' ((Timer.popDue_mem hpop).2 task' htask')
  · intro ip
    exact (hle ip).trans (h.unique ip)
  · intro ip hpos
    exact h.mem ip (lt_of_lt_of_le hpos (hle ip))
  · intro t ip hadd
    obtain ⟨hmem, hzero⟩ := h.adding t ip hadd
    exact ⟨hmem, Nat.le_zero.1 (hzero ▸ hle ip)⟩

/-- The wait timer of an address is the only one: when it has run, none is left. -/
theorem expire (h : TimersMatch s) {timer : Timer ArpCall} {task : TimerTask ArpCall} {i ip : Nat}
    (hpop : s.core.timer.popDue s.core.nowMs i = some (task, timer))
    (hcall : task.call = .waitRemove ip) :
    ip ∈ s.core.arpWaitList ∧ TimersMatch ({ s with
      core := { s.core with timer, arpWaitList := s.core.arpWaitList.erase ip } } : Threads δ) := by
  have hcount := waitTasks_popDue hpop ip
  rw [if_pos hcall] at hcount
  have hunique := h.unique ip
  have hpop' := h.popDue hpop
  refine ⟨h.mem ip (by omega), hpop'.noProbe, hpop'.unique, ?_, ?_, h.alone⟩
  · intro ip' hpos
    have hne : ip' ≠ ip := by
      rintro rfl
      have hpos : 0 < waitTasks timer ip' := hpos
      omega
    exact Finset.mem_erase_of_ne_of_mem hne (hpop'.mem ip' hpos)
  · intro t ip' hadd
    have hne : ip' ≠ ip := by
      rintro rfl
      have := (h.adding t ip' hadd).2
      omega
    obtain ⟨hmem, hzero⟩ := hpop'.adding t ip' hadd
    exact ⟨Finset.mem_erase_of_ne_of_mem hne hmem, hzero⟩

/-- **The timer thread does not raise.** -/
theorem timerStep (h : TimersMatch s) (i : Nat) :
    TimersMatch (s.timerStep i) ∧ (s.timerStep i).raised = s.raised := by
  unfold Threads.timerStep
  split
  · next task timer hpop =>
    dsimp only
    split
    · exact ⟨h.popDue hpop, rfl⟩
    · cases hcall : task.call with
      | waitRemove ip =>
        obtain ⟨hmem, hmatch⟩ := h.expire hpop hcall
        simp only [Core.call, Core.arpWaitRemove, if_pos hmem]
        exact ⟨hmatch, trivial⟩
      | probeDone ip => exact absurd hcall (h.noProbe task (Timer.popDue_mem hpop).1 ip)
      | flushEntry ip =>
        simp only [Core.call]
        exact ⟨(h.popDue hpop).congr rfl rfl rfl, trivial⟩
  · exact ⟨h, rfl⟩

/-- The timer of a cache entry is started. -/
theorem flushTimer (h : TimersMatch s) (spa : Nat) :
    TimersMatch ({ s with core := s.core.scheduleTimer ARP_CACHE_TTL (.flushEntry spa) } :
      Threads δ) := by
  have hcount (ip : Nat) :
      waitTasks (s.core.scheduleTimer ARP_CACHE_TTL (.flushEntry spa)).timer ip =
        waitTasks s.core.timer ip := by
    simp [Core.scheduleTimer, waitTasks_scheduleTimer]
  refine ⟨?_, ?_, ?_, ?_, h.alone⟩
  · exact h.noProbe_scheduleTimer ARP_CACHE_TTL (fun ip => by rintro ⟨⟩)
  · intro ip
    simpa only [hcount] using h.unique ip
  · intro ip hpos
    rw [hcount] at hpos
    exact h.mem ip hpos
  · intro t ip hadd
    rw [hcount]
    exact h.adding t ip hadd

theorem txStep (h : TimersMatch s) {t : Nat} (hcareful : Careful s (.tx t)) :
    TimersMatch (s.txStep t) := by
  unfold Threads.txStep
  split
  · exact h
  · exact h.goto rfl rfl rfl fun _ => id
  · refine h.goto rfl rfl rfl fun ip => ?_
    split <;> exact id
  · refine h.goto rfl rfl rfl fun ip => ?_
    split <;> exact id
  · next src tpa d hphase => exact h.waitAdd (hcareful.wait t src tpa d rfl hphase)
  · next src tpa d hphase => exact h.waitTimer hphase
  · exact h.goto rfl rfl rfl fun _ => id
  · refine h.goto rfl rfl rfl fun ip => ?_
    split <;> exact id
  · split
    · exact h.goto rfl rfl rfl fun _ => id
    · exact h.goto rfl rfl rfl fun _ => id
  · exact h.goto rfl rfl rfl fun _ => id
  · split
    · exact h.goto rfl rfl rfl fun _ => id
    · exact h.goto rfl rfl rfl fun _ => id
  · exact h.goto rfl rfl rfl fun _ => id

theorem rxStep (h : TimersMatch s) : TimersMatch s.rxStep := by
  unfold Threads.rxStep
  split
  · exact h
  · exact h
  · split <;> exact h.congr rfl rfl rfl
  · split <;> exact h.congr rfl rfl rfl
  · exact h.congr (by simp) (by simp) rfl
  · next spa sha _ => exact (h.flushTimer spa).congr rfl rfl rfl
  · split <;> exact h.congr rfl rfl rfl
  · split <;> exact h.congr rfl rfl rfl
  · split <;> exact h.congr rfl rfl rfl
  · exact h.congr rfl rfl rfl
  · exact h.congr rfl rfl rfl
  · exact h.congr (by simp) (by simp) rfl

theorem step (h : TimersMatch s) {e : ThreadEvent δ} (hcareful : Careful s e) :
    TimersMatch (s.step e) := by
  cases e with
  | call t src dst d =>
    simp only [Threads.step]
    split
    · refine h.goto rfl rfl rfl fun ip => ?_
      unfold Threads.enter
      split <;> exact id
    · exact h
  | tx t => exact h.txStep hcareful
  | frame bytes =>
    simp only [Threads.step]
    split
    · exact h.congr rfl rfl rfl
    · exact h
  | rx => exact h.rxStep
  | timer i =>
    simp only [Threads.step]
    split
    · exact (h.timerStep i).1
    · exact h
  | elapse ms => exact h.congr rfl rfl rfl

end TimersMatch

/-! ## Look-ups -/

/-- Nothing was raised, and the queues that are going to be looked up exist. -/
structure Held (s : Threads δ) : Prop where
  raised : s.raised = []
  appending : ∀ t ip, (s.txs t).Appending ip → s.core.pendingQueue ip ≠ none
  iterating : ∀ spa sha, s.rx = .iterate spa sha → s.core.pendingQueue spa ≠ none

namespace Held

variable {s s' : Threads δ}

theorem congr (h : Held s) (hraised : s'.raised = s.raised) (htxs : s'.txs = s.txs)
    (hrx : s'.rx = s.rx) (hqueue : s'.core.pendingQueue = s.core.pendingQueue) : Held s' where
  raised := hraised.trans h.raised
  appending := by rw [htxs, hqueue]; exact h.appending
  iterating := by rw [hrx, hqueue]; exact h.iterating

theorem goto (h : Held s) {t : Nat} {phase : TxPhase δ} (hraised : s'.raised = s.raised)
    (hrx : s'.rx = s.rx) (hqueue : s'.core.pendingQueue = s.core.pendingQueue)
    (htxs : s'.txs = Function.update s.txs t phase)
    (hphase : ∀ ip, phase.Appending ip → s.core.pendingQueue ip ≠ none) : Held s' where
  raised := hraised.trans h.raised
  appending := by
    intro t' ip happ
    rw [htxs, Function.update_apply] at happ
    rw [hqueue]
    split at happ
    · exact hphase ip happ
    · exact h.appending t' ip happ
  iterating := by rw [hrx, hqueue]; exact h.iterating

/-- The RX thread goes on to a phase in which it does not look the queue up. -/
theorem turn (h : Held s) {phase : RxPhase} (hraised : s'.raised = s.raised) (htxs : s'.txs = s.txs)
    (hrx : s'.rx = phase) (hphase : ∀ spa sha, phase ≠ .iterate spa sha)
    (hqueue : s'.core.pendingQueue = s.core.pendingQueue) : Held s' where
  raised := hraised.trans h.raised
  appending := by rw [htxs, hqueue]; exact h.appending
  iterating := by
    intro spa sha hiter
    exact absurd (hrx.symm.trans hiter) (hphase spa sha)

theorem create (h : Held s) (ip : Nat) (d : δ) : Held (s.create ip d) := by
  have hsome (ip' : Nat) (hold : s.core.pendingQueue ip' ≠ none) :
      (s.create ip d).core.pendingQueue ip' ≠ none := by
    simp only [Threads.create, Core.setQueue, Function.update_apply]
    split
    · rintro ⟨⟩
    · exact hold
  exact {
    raised := h.raised
    appending := fun t ip' happ => hsome ip' (h.appending t ip' happ)
    iterating := fun spa sha hiter => hsome spa (h.iterating spa sha hiter) }

theorem txStep (h : Held s) (t : Nat) : Held (s.txStep t) := by
  have hfound {ip : Nat} (hsome : s.core.isEnqueued ip = true) : s.core.pendingQueue ip ≠ none :=
    Option.isSome_iff_ne_none.1 hsome
  unfold Threads.txStep
  split
  · exact h
  · exact h.goto rfl rfl rfl rfl (by rintro ip ⟨⟩)
  · refine h.goto rfl rfl rfl rfl fun ip => ?_
    split <;> rintro ⟨⟩
  · refine h.goto rfl rfl rfl rfl fun ip => ?_
    split <;> rintro ⟨⟩
  · exact h.goto rfl rfl rfl rfl (by rintro ip ⟨⟩)
  · exact h.goto rfl rfl rfl rfl (by rintro ip ⟨⟩)
  · exact h.goto rfl rfl rfl rfl (by rintro ip ⟨⟩)
  · next tpa d _ =>
    refine h.goto rfl rfl rfl rfl fun ip => ?_
    split
    · next hsome =>
      rintro rfl
      exact hfound hsome
    · rintro ⟨⟩
  · next tpa d hphase =>
    have hqueue := h.appending t tpa (by rw [hphase]; rfl)
    split
    · refine h.goto rfl rfl rfl rfl ?_
      rintro ip rfl
      exact hqueue
    · next hnone => exact absurd hnone hqueue
  · next tpa d n hphase =>
    have hqueue := h.appending t tpa (by rw [hphase]; rfl)
    refine h.goto rfl rfl rfl rfl ?_
    rintro ip rfl
    exact hqueue
  · next tpa hphase =>
    have hqueue := h.appending t tpa (by rw [hphase]; rfl)
    split
    · exact h.goto rfl rfl rfl rfl (by rintro ip ⟨⟩)
    · next hnone => exact absurd hnone hqueue
  · next tpa d _ => exact (h.create tpa d).goto rfl rfl rfl rfl (by rintro ip ⟨⟩)

/-- The key is taken out while no thread is going to look it up. -/
theorem pop (h : Held s) {spa : Nat} (hidle : ∀ t, ¬ (s.txs t).Appending spa) :
    Held ({ s with rx := .idle, core := s.core.setQueue spa none } : Threads δ) where
  raised := h.raised
  appending := by
    intro t ip happ
    have hne : ip ≠ spa := by
      rintro rfl
      exact hidle t happ
    simp only [Core.setQueue, Function.update_of_ne hne]
    exact h.appending t ip happ
  iterating := by rintro spa' sha' ⟨⟩

theorem rxStep (h : Held s) (hcareful : Careful s .rx) : Held s.rxStep := by
  unfold Threads.rxStep
  split
  · exact h
  · exact h
  · split <;> exact h.turn rfl rfl rfl (by rintro _ _ ⟨⟩) rfl
  · split <;> exact h.turn rfl rfl rfl (by rintro _ _ ⟨⟩) rfl
  · exact h.turn rfl rfl rfl (by rintro _ _ ⟨⟩) (by simp)
  · exact h.turn rfl rfl rfl (by rintro _ _ ⟨⟩) rfl
  · next spa sha hrx =>
    have hqueue := hcareful.reply spa sha rfl hrx
    split
    · refine ⟨h.raised, h.appending, ?_⟩
      rintro spa' sha' ⟨⟩
      exact hqueue
    · next hnone => exact absurd hnone hqueue
  · next spa sha hrx =>
    have hqueue := h.iterating spa sha hrx
    split
    · exact h.turn rfl rfl rfl (by rintro _ _ ⟨⟩) rfl
    · next hnone => exact absurd hnone hqueue
  · split <;> exact h.turn rfl rfl rfl (by rintro _ _ ⟨⟩) rfl
  · next spa hrx => exact h.pop fun t => hcareful.pop spa t rfl hrx
  · exact h.turn rfl rfl rfl (by rintro _ _ ⟨⟩) rfl
  · exact h.turn rfl rfl rfl (by rintro _ _ ⟨⟩) (by simp)

theorem timerStep (h : Held s) (htimers : TimersMatch s) (i : Nat) : Held (s.timerStep i) := by
  have hraised := (htimers.timerStep i).2
  obtain ⟨core, raised, timerRuns, hstep, hqueue⟩ := s.timerStep_eq i
  rw [hstep] at hraised ⊢
  exact h.congr hraised rfl rfl hqueue

theorem step (h : Held s) (htimers : TimersMatch s) {e : ThreadEvent δ} (hcareful : Careful s e) :
    Held (s.step e) := by
  cases e with
  | call t src dst d =>
    simp only [Threads.step]
    split
    · refine h.goto rfl rfl rfl rfl fun ip => ?_
      unfold Threads.enter
      split <;> rintro ⟨⟩
    · exact h
  | tx t => exact h.txStep t
  | frame bytes =>
    simp only [Threads.step]
    split
    · refine h.turn rfl rfl rfl ?_ rfl
      intro spa sha hiter
      have hiter : s.receive bytes = .iterate spa sha := hiter
      exact (s.receive_away bytes).2 spa sha (by rw [hiter]; exact ⟨rfl, rfl⟩)
    · exact h
  | rx => exact h.rxStep hcareful
  | timer i =>
    simp only [Threads.step]
    split
    · exact h.timerStep htimers i
    · exact h
  | elapse ms => exact h.congr rfl rfl rfl rfl

end Held

/-! ## Runs -/

namespace Threads

/-- A stack without timers and without datagrams that wait. -/
def start (k : Core δ Nat) : Threads δ where
  core := { k with pendingQueue := fun _ => none, timer := .new }
  lists _ _ := []
  serial _ := 0
  txs _ := .idle
  rx := .idle
  timerRuns := true
  raised := []
  queued _ := []
  released _ := []
  accepted _ := []

theorem accounted_start (k : Core δ Nat) : (start k).Accounted where
  serial_lt := by rintro ip n ⟨⟩
  loop_lt := by rintro spa sha n i ⟨⟩
  order ip := List.Sublist.refl []
  mac := by rintro ip p ⟨⟩
  handles := by rintro ip mac ⟨⟩

theorem timersMatch_start (k : Core δ Nat) : TimersMatch (start k) where
  noProbe := by rintro task ⟨⟩
  unique ip := Nat.zero_le 1
  mem := by rintro ip ⟨⟩
  adding := by rintro t ip ⟨⟩
  alone := by rintro t t' ip ⟨⟩

theorem held_start (k : Core δ Nat) : Held (start k) where
  raised := rfl
  appending := by rintro t ip ⟨⟩
  iterating := by rintro spa sha ⟨⟩

/-- **The books are right in every run**, careful or not. -/
theorem accounted_run (k : Core δ Nat) (es : List (ThreadEvent δ)) :
    (run step (start k) es).Accounted :=
  run_inv' (fun _ e h => h.step e) (accounted_start k) es

/-- What a step is to be: it raises nothing; what was released for an address is a part of what was
queued for it, each datagram once and in the order of the queue, and went to the MAC of an accepted
reply; and when the handling of a reply ends, the queue of its address is gone. -/
structure SendsOnce (s : Threads δ) (e : ThreadEvent δ) : Prop where
  raised : (s.step e).raised = []
  order : ∀ ip, (((s.step e).released ip).map Prod.fst).Sublist ((s.step e).queued ip)
  mac : ∀ ip, ∀ p ∈ (s.step e).released ip, p.2 ∈ (s.step e).accepted ip
  emptied : ∀ spa, e = .rx → s.rx = .pop spa → (s.step e).core.pendingQueue spa = none

theorem sendsOnce_of_inv {s : Threads δ} {e : ThreadEvent δ} (hacc : s.Accounted) (hheld : Held s)
    (htimers : TimersMatch s) (hcareful : Careful s e) : SendsOnce s e where
  raised := (hheld.step htimers hcareful).raised
  order ip := (List.sublist_append_left ..).trans ((hacc.step e).order ip)
  mac := (hacc.step e).mac
  emptied := by
    rintro spa rfl hrx
    simp [step, rxStep, hrx, Core.setQueue]

/-- **Datagrams that wait are sent once.** In a run whose steps are careful, every step does what it
is to do. -/
theorem sendsOnce_run (k : Core δ Nat) {es : List (ThreadEvent δ)}
    (h : Guarded step Careful (start k) es) {pre : List (ThreadEvent δ)} {e : ThreadEvent δ}
    (hpre : pre ++ [e] <+: es) : SendsOnce (run step (start k) pre) e := by
  obtain ⟨hguard, hcareful⟩ := (guarded_append step Careful (start k) pre [e]).1 (h.of_prefix hpre)
  have hinv : Held (run step (start k) pre) ∧ TimersMatch (run step (start k) pre) := by
    refine run_inv (I := fun s => Held s ∧ TimersMatch s) ?_ ⟨held_start k,
      timersMatch_start k⟩ hguard
    intro s e hs hc
    exact ⟨hs.1.step hs.2 hc, hs.2.step hc⟩
  exact sendsOnce_of_inv (accounted_run k pre) hinv.1 hinv.2 hcareful.1

/-- A stack at 10.0.0.2 that knows no address. -/
def sample : Threads Nat := start
  { unicastMac := 0x020000000001, unicastIp := some 0x0A000002, network := 0x0A000000,
    mask := 0xFFFFFF00, router := 0x0A0000FE, arpCache := fun _ => none, arpWaitList := ∅,
    arpWaitProbList := ∅, pendingQueue := fun _ => none, conflictIps := [], txRing :=
      [], timer := .new,
    nowMs := 0 }

/-- A thread sends a datagram to 10.0.0.1, up to the end of `tx_ip`. -/
def sampleSend : List (ThreadEvent Nat) :=
  .call 0 0x0A000002 0x0A000001 7 :: List.replicate 7 (.tx 0)

/-- The reply of 10.0.0.1 is handled. -/
def sampleReply : List (ThreadEvent Nat) :=
  .frame Resolver.sampleReply :: List.replicate 8 .rx

/-- A step of `tx_ip` that is not the one that adds to the wait list. -/
theorem careful_tx {s : Threads δ} {t : Nat} (h : ∀ src tpa d, s.txs t ≠ .waitAdd src tpa d) :
    Careful s (.tx t) where
  reply := by rintro spa sha ⟨⟩
  pop := by rintro spa t' ⟨⟩
  wait := by
    rintro t' src tpa d ⟨⟩ hphase
    exact absurd hphase (h src tpa d)

/-- A step of `rx_arp` that neither looks a queue up first nor takes it out of the dictionary. -/
theorem careful_rx {s : Threads δ} (hlength : ∀ spa sha, s.rx ≠ .length spa sha)
    (hpop : ∀ spa, s.rx ≠ .pop spa) : Careful s .rx where
  reply spa sha _ hrx := absurd hrx (hlength spa sha)
  pop spa _ _ hrx := absurd hrx (hpop spa)
  wait := by rintro t src tpa d ⟨⟩

theorem sampleSend_careful : Guarded step Careful sample sampleSend := by
  refine ⟨⟨?_, ?_, ?_⟩, ?_, ?_, ?_, ?_, ?_, ?_, ?_, trivial⟩
  · rintro spa sha ⟨⟩
  · rintro spa t ⟨⟩
  · rintro t src tpa d ⟨⟩
  · exact careful_tx (by rintro src tpa d ⟨⟩)
  · exact careful_tx (by rintro src tpa d ⟨⟩)
  · refine ⟨?_, ?_, ?_⟩
    · rintro spa sha ⟨⟩
    · rintro spa t ⟨⟩
    · rintro t src tpa d _ _
      exact Finset.notMem_empty tpa
  · exact careful_tx (by rintro src tpa d ⟨⟩)
  · exact careful_tx (by rintro src tpa d ⟨⟩)
  · exact careful_tx (by rintro src tpa d ⟨⟩)
  · exact careful_tx (by rintro src tpa d ⟨⟩)

set_option maxRecDepth 4000 in
theorem sampleReply_careful : Guarded step Careful (run step sample sampleSend) sampleReply := by
  refine ⟨⟨?_, ?_, ?_⟩, ?_, ?_, ?_, ⟨?_, ?_, ?_⟩, ?_, ?_, ?_, ⟨?_, ?_, ?_⟩, trivial⟩
  · rintro spa sha ⟨⟩
  · rintro spa t ⟨⟩
  · rintro t src tpa d ⟨⟩
  · exact careful_rx (by rintro spa sha ⟨⟩) (by rintro spa ⟨⟩)
  · exact careful_rx (by rintro spa sha ⟨⟩) (by rintro spa ⟨⟩)
  · exact careful_rx (by rintro spa sha ⟨⟩) (by rintro spa ⟨⟩)
  · rintro spa sha - ⟨⟩
    decide
  · rintro spa t - ⟨⟩
  · rintro t src tpa d ⟨⟩
  · exact careful_rx (by rintro spa sha ⟨⟩) (by rintro spa ⟨⟩)
  · exact careful_rx (by rintro spa sha ⟨⟩) (by rintro spa ⟨⟩)
  · exact careful_rx (by rintro spa sha ⟨⟩) (by rintro spa ⟨⟩)
  · rintro spa sha - ⟨⟩
  · rintro spa t - ⟨⟩ happ
    cases t <;> exact happ
  · rintro t src tpa d ⟨⟩

/-- A datagram is sent, and released by the reply. -/
theorem sendsOnce_run_release :
    (run step sample (sampleSend ++ sampleReply)).released 0x0A000001 = [(7, 0x0200000000FF)] ∧
      SendsOnce (run step sample (sampleSend ++ .frame Resolver.sampleReply :: List.replicate
          7 .rx)) .rx :=
  ⟨by decide, sendsOnce_run _ ((guarded_append step Careful sample sampleSend sampleReply).2
    ⟨sampleSend_careful, sampleReply_careful⟩) (List.prefix_refl (sampleSend ++ sampleReply))⟩

/-- The same reply comes twice: the second one is still waited for, and finds no queue. -/
theorem duplicate_reply_raises :
    ¬ SendsOnce (run step sample (sampleSend ++ sampleReply ++
      [.frame Resolver.sampleReply, .rx, .rx, .rx])) .rx := by
  intro h
  have hraised := h.raised
  revert hraised
  decide +kernel

end Threads

end Tipy.Arp
