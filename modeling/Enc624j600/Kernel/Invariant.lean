/-
# The invariant of the system

What holds between any two events: the lists agree with the times at which the tasks wake, a task
that is in no delay is ready, and no ready task has a higher priority than the current one unless a
context switch is triggered.  Every event that can happen keeps it, and with it no `configASSERT`
of the kernel fails.
-/
import Enc624j600.Kernel.System

namespace Enc624j600.Rtos.System

open Kernel

variable {τ : Type} [DecidableEq τ] {idle : τ} {s s' : System τ} {log : Log τ}
variable {c : TaskList → List (TcbItem τ)} {time : ℕ} {wake : τ → ℕ} {cur t u : τ}
variable {prio : τ → Fin configMaxPriorities} {n : TickType}

/-- The invariant, with the priorities of the tasks, the items of the lists, the ticks counted, the
times at which the tasks wake and the current task. -/
structure Inv (idle : τ) (prio : τ → Fin configMaxPriorities) (s : System τ) (log : Log τ)
    (c : TaskList → List (TcbItem τ)) (time : ℕ) (wake : τ → ℕ) (cur : τ) : Prop where
  priority : s.kernel.uxPriority = prio
  timed : s.kernel.Timed c time wake
  current : s.kernel.pxCurrentTCB = some cur
  tasks : 0 < s.kernel.uxCurrentNumberOfTasks
  placed : ∀ t, s.kernel.Placed t
  idleRuns : s.phase idle = .running
  ticks : log.ticks = time + s.kernel.xPendedTicks.toNat
  delaying : ∀ t n, s.phase t = .suspendedAll n →
    0 < n.toNat ∧ log.wakeTick t = time + n.toNat
  wakeTick : ∀ t, (∀ n, s.phase t ≠ .suspendedAll n) → log.wakeTick t = wake t
  others : ∀ t, t ≠ cur → (s.phase t).locked = false
  locked : (s.phase cur).locked = true → s.kernel.uxSchedulerSuspended = 1 ∧
    s.kernel.xYieldPending = false ∧ s.softwareInterrupt = false
  unlocked : (s.phase cur).locked = false → s.kernel.uxSchedulerSuspended = 0 ∧
    s.kernel.xPendedTicks = 0 ∧ (s.kernel.xYieldPending = true → s.softwareInterrupt = true)
  awake : ∀ t, (s.phase t).awake = true → s.kernel.Ready t
  switched : s.phase cur = .yielded → s.softwareInterrupt = false → s.kernel.Ready cur
  highest : s.softwareInterrupt = false →
    ∀ u, s.kernel.Ready u → s.kernel.uxPriority u ≤ s.kernel.uxPriority cur

lemma ne_suspendedAll {p : Phase} (hp : p.locked = false) (n : TickType) :
    p ≠ .suspendedAll n := by
  intro h
  rw [h] at hp
  cases hp

namespace Inv

omit [DecidableEq τ] in
lemma suspended_iff (h : Inv idle prio s log c time wake cur) :
    s.kernel.uxSchedulerSuspended = 0 ↔ (s.phase cur).locked = false := by
  constructor
  · intro hs
    by_contra hl
    have h₁ := (h.locked (by simpa using hl)).1
    omega
  · intro hl
    exact (h.unlocked hl).1

lemma all_unlocked (h : Inv idle prio s log c time wake cur) (hl : (s.phase cur).locked = false)
    (t : τ) : (s.phase t).locked = false := by
  by_cases ht : t = cur
  · rw [ht]
    exact hl
  · exact h.others t ht

/-- A tick while the scheduler runs. -/
lemma tick (h : Inv idle prio s log c time wake cur) (hs : s.kernel.uxSchedulerSuspended = 0) :
    ∃ s' c', s.vPortIncrementTick = some s' ∧
      Inv idle prio s' (log.next .tickInterrupt) c' (time + 1) wake cur := by
  have hl := h.suspended_iff.mp hs
  obtain ⟨-, hpended, hyield⟩ := h.unlocked hl
  obtain ⟨k', c', sw, hk', htimed, hwoken, hpending⟩ :=
    h.timed.xTaskIncrementTick hs h.current
  have hready : ∀ u, s.kernel.Ready u → k'.Ready u := by
    intro u hu
    rw [htimed.ready_iff (hwoken.placed u (h.placed u))]
    exact Nat.le_succ_of_le (h.timed.readyDue u hu)
  refine ⟨{ s with kernel := k', softwareInterrupt := s.softwareInterrupt || sw }, c', ?_, ?_⟩
  · simp [vPortIncrementTick, hk']
  · refine ⟨hwoken.frame.uxPriority.trans h.priority, htimed,
      hwoken.frame.pxCurrentTCB.trans h.current, ?_, ?_, h.idleRuns, ?_, ?_, h.wakeTick,
      h.others, ?_, ?_, ?_, ?_, ?_⟩
    · rw [hwoken.frame.uxCurrentNumberOfTasks]
      exact h.tasks
    · intro t
      exact hwoken.placed t (h.placed t)
    · show log.ticks + 1 = time + 1 + k'.xPendedTicks.toNat
      rw [hwoken.frame.xPendedTicks, h.ticks]
      omega
    · intro t n hn
      exact absurd hn (ne_suspendedAll (h.all_unlocked hl t) n)
    · intro hl'
      exact absurd (hl.symm.trans hl') (by simp)
    · intro _
      refine ⟨hwoken.frame.uxSchedulerSuspended.trans hs,
        hwoken.frame.xPendedTicks.trans hpended, ?_⟩
      intro hy
      rw [hwoken.yieldPending] at hy
      simp [hyield hy]
    · intro t ht
      exact hready t (h.awake t ht)
    · intro hy hsw
      simp only [Bool.or_eq_false_iff] at hsw
      exact hready cur (h.switched hy hsw.1)
    · intro hsw u hu
      simp only [Bool.or_eq_false_iff] at hsw
      rw [hwoken.frame.uxPriority]
      rcases hwoken.ready u hu with hr | hr | hr
      · exact h.highest hsw.1 u hr
      · exact hr
      · rw [hsw.2] at hr
        exact absurd hr (by simp)

/-- A tick while the scheduler is suspended. -/
lemma pendedTick (h : Inv idle prio s log c time wake cur) (hs : s.kernel.uxSchedulerSuspended ≠ 0)
    (hmax : s.kernel.xPendedTicks ≠ portMaxDelay) :
    ∃ s', s.vPortIncrementTick = some s' ∧
      Inv idle prio s' (log.next .tickInterrupt) c time wake cur := by
  have hl : (s.phase cur).locked = true := by
    by_contra hl
    exact hs (h.suspended_iff.mpr (by simpa using hl))
  obtain ⟨hone, hyield, hsw⟩ := h.locked hl
  have hpended : (s.kernel.xPendedTicks + 1).toNat = s.kernel.xPendedTicks.toNat + 1 := by
    have hlt := s.kernel.xPendedTicks.isLt
    have hne : s.kernel.xPendedTicks.toNat ≠ 2 ^ 32 - 1 := by
      intro he
      exact hmax (BitVec.eq_of_toNat_eq he)
    rw [BitVec.toNat_add]
    simp
    omega
  refine ⟨{ s with
    kernel := { s.kernel with xPendedTicks := s.kernel.xPendedTicks + 1 }
    softwareInterrupt := s.softwareInterrupt || false }, ?_, ?_⟩
  · simp [vPortIncrementTick, Kernel.xTaskIncrementTick, hs]
  · refine ⟨h.priority, h.timed.congr rfl rfl rfl rfl rfl rfl rfl, h.current, h.tasks, h.placed,
      h.idleRuns, ?_, h.delaying, h.wakeTick, h.others, ?_, ?_, h.awake, ?_, ?_⟩
    · show log.ticks + 1 = time + (s.kernel.xPendedTicks + 1).toNat
      rw [hpended, h.ticks]
      omega
    · intro _
      exact ⟨hone, hyield, by rw [hsw]; rfl⟩
    · intro hl'
      exact absurd (hl.symm.trans hl') (by simp)
    · intro hy hf
      exact h.switched hy hsw
    · intro _
      exact h.highest hsw

omit [DecidableEq τ] in
/-- No context switch is triggered while the scheduler is suspended. -/
lemma unlocked_of_interrupt (h : Inv idle prio s log c time wake cur)
    (hsw : s.softwareInterrupt = true) : (s.phase cur).locked = false := by
  by_contra hl
  have hf := (h.locked (by simpa using hl)).2.2
  rw [hsw] at hf
  exact absurd hf (by simp)

/-- The context switch. -/
lemma switch (h : Inv idle prio s log c time wake cur) (hsw : s.softwareInterrupt = true) :
    ∃ s' t, s.vPortYieldISR = some s' ∧ Inv idle prio s' log c time wake t := by
  have hl := h.unlocked_of_interrupt hsw
  obtain ⟨hs, hpended, -⟩ := h.unlocked hl
  have hidle : s.kernel.Ready idle := h.awake idle (by rw [h.idleRuns]; rfl)
  obtain ⟨k', t, hk', htimed, hswitched, ht, hmax⟩ := h.timed.vTaskSwitchContext hs ⟨idle, hidle⟩
  have hready : ∀ u, k'.Ready u ↔ s.kernel.Ready u := by
    intro u
    rw [Kernel.Ready, Kernel.Ready, hswitched.container, hswitched.uxPriority]
  refine ⟨{ s with kernel := k', softwareInterrupt := false }, t, ?_, ?_⟩
  · simp [vPortYieldISR, hk']
  · refine ⟨hswitched.uxPriority.trans h.priority, htimed, hswitched.current, ?_, ?_, h.idleRuns,
      ?_, h.delaying, h.wakeTick, ?_, ?_, ?_, ?_, ?_, ?_⟩
    · rw [hswitched.uxCurrentNumberOfTasks]
      exact h.tasks
    · intro u
      rw [Kernel.Placed, hswitched.container]
      exact h.placed u
    · rw [hswitched.xPendedTicks]
      exact h.ticks
    · intro u _
      exact h.all_unlocked hl u
    · intro hl'
      exact absurd ((h.all_unlocked hl t).symm.trans hl') (by simp)
    · intro _
      refine ⟨hswitched.uxSchedulerSuspended.trans hs, hswitched.xPendedTicks.trans hpended, ?_⟩
      intro hy
      rw [hswitched.xYieldPending] at hy
      exact absurd hy (by simp)
    · intro u hu
      exact (hready u).mpr (h.awake u hu)
    · intro _ _
      exact (hready t).mpr ht
    · intro _ u hu
      rw [hswitched.uxPriority]
      exact hmax u ((hready u).mp hu)

omit [DecidableEq τ] in
lemma wakeTick_of_ne (h : Inv idle prio s log c time wake cur) (ht : t ≠ cur) :
    log.wakeTick t = wake t :=
  h.wakeTick t (ne_suspendedAll (h.others t ht))

/-- A part of a call of `vTaskDelay`: the current task gets to the phase `p`. -/
lemma advance (h : Inv idle prio s log c time wake cur) (hidle : cur ≠ idle) {k' : Kernel τ}
    {sw : Bool} {log' : Log τ} {c' : TaskList → List (TcbItem τ)} {time' : ℕ} {wake' : τ → ℕ}
    {p : Phase} (hprio : k'.uxPriority = s.kernel.uxPriority) (htimed : k'.Timed c' time' wake')
    (hcurrent : k'.pxCurrentTCB = s.kernel.pxCurrentTCB)
    (htasks : k'.uxCurrentNumberOfTasks = s.kernel.uxCurrentNumberOfTasks)
    (hplaced : ∀ t, s.kernel.Placed t → k'.Placed t)
    (hticks : log'.ticks = time' + k'.xPendedTicks.toNat)
    (hdelaying : ∀ n, p = .suspendedAll n → 0 < n.toNat ∧ log'.wakeTick cur = time' + n.toNat)
    (hwake : (∀ n, p ≠ .suspendedAll n) → log'.wakeTick cur = wake' cur)
    (hwakeOther : ∀ t, t ≠ cur → log.wakeTick t = wake t → log'.wakeTick t = wake' t)
    (hlocked : p.locked = true → k'.uxSchedulerSuspended = 1 ∧ k'.xYieldPending = false ∧
      sw = false)
    (hunlocked : p.locked = false → k'.uxSchedulerSuspended = 0 ∧ k'.xPendedTicks = 0 ∧
      (k'.xYieldPending = true → sw = true))
    (hawake : p.awake = true → k'.Ready cur)
    (hawakeOther : ∀ t, t ≠ cur → s.kernel.Ready t → k'.Ready t)
    (hswitched : p = .yielded → sw = false → k'.Ready cur)
    (hhighest : sw = false → ∀ u, k'.Ready u → k'.uxPriority u ≤ k'.uxPriority cur) :
    Inv idle prio ⟨k', Function.update s.phase cur p, sw⟩ log' c' time' wake' cur := by
  have hself : Function.update s.phase cur p cur = p := Function.update_self ..
  have hother : ∀ t, t ≠ cur → Function.update s.phase cur p t = s.phase t :=
    fun t ht => Function.update_of_ne ht _ _
  refine ⟨hprio.trans h.priority, htimed, hcurrent.trans h.current, ?_,
    fun t => hplaced t (h.placed t), ?_, hticks, ?_, ?_, ?_, ?_, ?_, ?_, ?_, hhighest⟩
  · show 0 < k'.uxCurrentNumberOfTasks
    rw [htasks]
    exact h.tasks
  · exact (hother idle hidle.symm).trans h.idleRuns
  · intro t n hn
    have hn' : Function.update s.phase cur p t = .suspendedAll n := hn
    by_cases ht : t = cur
    · rw [ht] at hn' ⊢
      exact hdelaying n (hself.symm.trans hn')
    · exact absurd ((hother t ht).symm.trans hn') (ne_suspendedAll (h.others t ht) n)
  · intro t hne
    by_cases ht : t = cur
    · rw [ht] at hne ⊢
      exact hwake fun n hn => hne n (hself.trans hn)
    · exact hwakeOther t ht (h.wakeTick_of_ne ht)
  · intro t ht
    exact (congrArg Phase.locked (hother t ht)).trans (h.others t ht)
  · intro hl
    exact hlocked ((congrArg Phase.locked hself).symm.trans hl)
  · intro hl
    exact hunlocked ((congrArg Phase.locked hself).symm.trans hl)
  · intro t ht
    by_cases htc : t = cur
    · rw [htc] at ht ⊢
      exact hawake ((congrArg Phase.awake hself).symm.trans ht)
    · exact hawakeOther t htc (h.awake t ((congrArg Phase.awake (hother t htc)).symm.trans ht))
  · intro hy
    exact hswitched (hself.symm.trans hy)

omit [DecidableEq τ] in
/-- While the current task runs its own code, no context switch is pending anywhere. -/
lemma quiet (h : Inv idle prio s log c time wake cur) (hsw : s.softwareInterrupt = false)
    (hl : (s.phase cur).locked = false) : s.kernel.uxSchedulerSuspended = 0 ∧
      s.kernel.xPendedTicks = 0 ∧ s.kernel.xYieldPending = false := by
  obtain ⟨hs, hpended, hyield⟩ := h.unlocked hl
  refine ⟨hs, hpended, ?_⟩
  by_contra hy
  rw [hyield (by simpa using hy)] at hsw
  exact absurd hsw (by simp)

/-- A task calls `vTaskDelay`. -/
lemma callDelay (h : Inv idle prio s log c time wake cur) (hsw : s.softwareInterrupt = false)
    (hphase : s.phase cur = .running) (hidle : cur ≠ idle) (n : TickType) :
    Inv idle prio (s.vTaskDelay cur n) (log.next (.callDelay cur n)) c time wake cur := by
  have hl : (s.phase cur).locked = false := by
    rw [hphase]
    rfl
  obtain ⟨hs, hpended, hyf⟩ := h.quiet hsw hl
  have hready : s.kernel.Ready cur := h.awake cur (by rw [hphase]; rfl)
  have hwake : log.wakeTick cur = wake cur := h.wakeTick cur (ne_suspendedAll hl)
  by_cases hn : n > 0
  · have hpos : 0 < n.toNat := by simpa [BitVec.lt_def] using hn
    rw [vTaskDelay, if_pos hn, Log.next, if_pos hn]
    apply h.advance hidle
    · rfl
    · exact h.timed.congr rfl rfl rfl rfl rfl rfl rfl
    · rfl
    · rfl
    · intro t ht
      exact ht
    · exact h.ticks
    · intro m hm
      obtain rfl : n = m := by simpa using hm
      refine ⟨hpos, ?_⟩
      show Function.update log.wakeTick cur (log.ticks + n.toNat) cur = time + n.toNat
      rw [Function.update_self, h.ticks, hpended]
      rfl
    · intro hne
      exact absurd rfl (hne n)
    · intro t ht he
      exact (Function.update_of_ne ht _ _).trans he
    · intro _
      exact ⟨congrArg (· + 1) hs, hyf, hsw⟩
    · intro hl'
      cases hl'
    · intro _
      exact hready
    · intro t _ ht
      exact ht
    · intro hy
      cases hy
    · intro _
      exact h.highest hsw
  · rw [vTaskDelay, if_neg hn, Log.next, if_neg hn]
    apply h.advance hidle
    · rfl
    · exact h.timed
    · rfl
    · rfl
    · intro t ht
      exact ht
    · exact h.ticks
    · intro m hm
      cases hm
    · intro _
      exact hwake
    · intro t _ he
      exact he
    · intro hl'
      cases hl'
    · intro _
      exact h.unlocked hl
    · intro ha
      cases ha
    · intro t _ ht
      exact ht
    · intro hy
      cases hy
    · intro _
      exact h.highest hsw

/-- The task leaves its ready list for a delayed list. -/
lemma enterDelay (h : Inv idle prio s log c time wake cur) (hphase : s.phase cur = .suspendedAll n)
    (hidle : cur ≠ idle) :
    ∃ s' c' wake', s.continueDelay cur = some s' ∧ Inv idle prio s' log c' time wake' cur := by
  have hl : (s.phase cur).locked = true := by
    rw [hphase]
    rfl
  obtain ⟨hs, hyf, hsw⟩ := h.locked hl
  obtain ⟨hpos, hwake⟩ := h.delaying cur n hphase
  have hready : s.kernel.Ready cur := h.awake cur (by rw [hphase]; rfl)
  obtain ⟨k', c', l, hk', htimed, htransfer, hnot⟩ :=
    h.timed.prvAddCurrentTaskToDelayedList h.current hready hpos
  refine ⟨{ s with kernel := k' }.setPhase cur .delayed, c',
    Function.update wake cur (time + n.toNat), ?_, ?_⟩
  · rw [continueDelay, hphase]
    simp [configAssert, hs, hk']
  · apply h.advance hidle
    · exact htransfer.frame.uxPriority
    · exact htimed
    · exact htransfer.frame.pxCurrentTCB
    · exact htransfer.frame.uxCurrentNumberOfTasks
    · intro t ht
      exact htransfer.placed ht
    · rw [htransfer.frame.xPendedTicks]
      exact h.ticks
    · intro m hm
      cases hm
    · intro _
      rw [Function.update_self]
      exact hwake
    · intro t ht he
      rw [Function.update_of_ne ht]
      exact he
    · intro _
      exact ⟨htransfer.frame.uxSchedulerSuspended.trans hs, htransfer.yieldPending.trans hyf, hsw⟩
    · intro hl'
      cases hl'
    · intro ha
      cases ha
    · intro t ht hr
      exact (htransfer.ready_iff ht).mpr hr
    · intro hy
      cases hy
    · intro _ u hu
      have hne : u ≠ cur := by
        rintro rfl
        exact htransfer.not_ready hnot hu
      rw [htransfer.frame.uxPriority]
      exact h.highest hsw u ((htransfer.ready_iff hne).mp hu)

/-- The scheduler is resumed. -/
lemma resume (h : Inv idle prio s log c time wake cur) (hphase : s.phase cur = .delayed)
    (hidle : cur ≠ idle) :
    ∃ s' c' time', s.continueDelay cur = some s' ∧ Inv idle prio s' log c' time' wake cur := by
  have hl : (s.phase cur).locked = true := by
    rw [hphase]
    rfl
  obtain ⟨hs, hyf, hsw⟩ := h.locked hl
  have hwake : log.wakeTick cur = wake cur := h.wakeTick cur (by simp [hphase])
  obtain ⟨k', c', hk', htimed, hs', hp', hresumed⟩ :=
    h.timed.xTaskResumeAll hs h.tasks h.current
  have hready : ∀ t, s.kernel.Ready t → k'.Ready t := by
    intro t ht
    rw [htimed.ready_iff (hresumed.placed t (h.placed t))]
    exact (h.timed.readyDue t ht).trans (Nat.le_add_right _ _)
  refine ⟨{ s with
    kernel := k'
    softwareInterrupt := s.softwareInterrupt || k'.xYieldPending }.setPhase cur
      (if k'.xYieldPending then .yielded else .resumed), c',
    time + s.kernel.xPendedTicks.toNat, ?_, ?_⟩
  · rw [continueDelay, hphase]
    simp [hk']
  · have hp : ∀ b : Bool, (if b then Phase.yielded else .resumed).locked = false ∧
        (if b then Phase.yielded else .resumed).awake = false := by
      intro b
      cases b
      · exact ⟨rfl, rfl⟩
      · exact ⟨rfl, rfl⟩
    apply h.advance hidle
    · exact hresumed.uxPriority
    · exact htimed
    · exact hresumed.pxCurrentTCB
    · exact hresumed.uxCurrentNumberOfTasks
    · exact hresumed.placed
    · rw [hp', h.ticks]
      rfl
    · intro m hm
      exact absurd hm (ne_suspendedAll (hp _).1 m)
    · intro _
      exact hwake
    · intro t _ he
      exact he
    · intro hl'
      exact absurd ((hp _).1.symm.trans hl') (by simp)
    · intro _
      refine ⟨hs', hp', ?_⟩
      intro hy
      rw [hy, Bool.or_true]
    · intro ha
      exact absurd ((hp _).2.symm.trans ha) (by simp)
    · intro t _ ht
      exact hready t ht
    · intro hy hf
      rw [Bool.or_eq_false_iff] at hf
      rw [hf.2] at hy
      exact absurd hy (by simp)
    · intro hf u hu
      rw [Bool.or_eq_false_iff] at hf
      rw [hresumed.uxPriority]
      rcases hresumed.ready u hu with hr | hr | hr
      · exact h.highest hsw u hr
      · exact hr
      · rw [hf.2] at hr
        exact absurd hr (by simp)

/-- The task triggers the context switch. -/
lemma yield (h : Inv idle prio s log c time wake cur) (hphase : s.phase cur = .resumed)
    (hidle : cur ≠ idle) :
    Inv idle prio ({ s with softwareInterrupt := true }.setPhase cur .yielded) log c time wake
      cur := by
  have hl : (s.phase cur).locked = false := by
    rw [hphase]
    rfl
  obtain ⟨hs, hpended, -⟩ := h.unlocked hl
  apply h.advance hidle
  · rfl
  · exact h.timed
  · rfl
  · rfl
  · intro t ht
    exact ht
  · exact h.ticks
  · intro m hm
    cases hm
  · intro _
    exact h.wakeTick cur (ne_suspendedAll hl)
  · intro t _ he
    exact he
  · intro hl'
    cases hl'
  · intro _
    exact ⟨hs, hpended, fun _ => rfl⟩
  · intro ha
    cases ha
  · intro t _ ht
    exact ht
  · intro _ hf
    cases hf
  · intro hf
    cases hf

/-- The call of `vTaskDelay` returns. -/
lemma leaveDelay (h : Inv idle prio s log c time wake cur) (hsw : s.softwareInterrupt = false)
    (hphase : s.phase cur = .yielded) (hidle : cur ≠ idle) :
    Inv idle prio (s.setPhase cur .running) log c time wake cur := by
  have hl : (s.phase cur).locked = false := by
    rw [hphase]
    rfl
  apply h.advance hidle
  · rfl
  · exact h.timed
  · rfl
  · rfl
  · intro t ht
    exact ht
  · exact h.ticks
  · intro m hm
    cases hm
  · intro _
    exact h.wakeTick cur (ne_suspendedAll hl)
  · intro t _ he
    exact he
  · intro hl'
    cases hl'
  · intro _
    exact h.unlocked hl
  · intro _
    exact h.switched hphase hsw
  · intro t _ ht
    exact ht
  · intro hy
    cases hy
  · intro _
    exact h.highest hsw

end Inv

/-- Every event that can happen keeps the invariant. -/
theorem Inv.step (h : Inv idle prio s log c time wake cur) {e : Event τ} (he : s.Enabled idle e) :
    ∃ s' c' time' wake' cur', s.exec e = some s' ∧
      Inv idle prio s' (log.next e) c' time' wake' cur' := by
  cases e with
  | tickInterrupt =>
    by_cases hs : s.kernel.uxSchedulerSuspended = 0
    · obtain ⟨s', c', hs', hinv⟩ := h.tick hs
      exact ⟨s', c', _, _, _, hs', hinv⟩
    · rcases he with he | hmax
      · exact absurd he hs
      · obtain ⟨s', hs', hinv⟩ := h.pendedTick hs hmax
        exact ⟨s', _, _, _, _, hs', hinv⟩
  | yieldInterrupt =>
    obtain ⟨s', t, hs', hinv⟩ := h.switch he
    exact ⟨s', _, _, _, t, hs', hinv⟩
  | work t => exact ⟨s, _, _, _, _, rfl, h⟩
  | callDelay t n =>
    obtain ⟨⟨hsw, hcur⟩, hphase, hidle⟩ := he
    obtain rfl : cur = t := Option.some.inj (h.current.symm.trans hcur)
    exact ⟨_, _, _, _, _, rfl, h.callDelay hsw hphase hidle n⟩
  | continueDelay t =>
    obtain ⟨⟨hsw, hcur⟩, hphase⟩ := he
    obtain rfl : cur = t := Option.some.inj (h.current.symm.trans hcur)
    have hidle : cur ≠ idle := by
      intro heq
      rw [heq] at hphase
      exact hphase h.idleRuns
    cases hp : s.phase cur with
    | running => exact absurd hp hphase
    | suspendedAll n =>
      obtain ⟨s', c', wake', hs', hinv⟩ := h.enterDelay hp hidle
      exact ⟨s', c', _, wake', _, hs', hinv⟩
    | delayed =>
      obtain ⟨s', c', time', hs', hinv⟩ := h.resume hp hidle
      exact ⟨s', c', time', _, _, hs', hinv⟩
    | resumed =>
      refine ⟨_, c, time, wake, cur, ?_, h.yield hp hidle⟩
      simp [exec, continueDelay, hp]
    | yielded =>
      refine ⟨_, c, time, wake, cur, ?_, h.leaveDelay hsw hp hidle⟩
      simp [exec, continueDelay, hp]

/-- The invariant holds along every run. -/
theorem Inv.run {s₀ : System τ} {es : List (Event τ)}
    (h : ∃ c time wake cur, Inv idle prio s₀ (Log.ofEvents []) c time wake cur)
    (hrun : Run idle s₀ es s) :
    ∃ c time wake cur, Inv idle prio s (Log.ofEvents es) c time wake cur := by
  induction hrun with
  | start => exact h
  | @step es s s' e hrun he hs ih =>
    obtain ⟨c, time, wake, cur, hinv⟩ := ih
    obtain ⟨s'', c', time', wake', cur', hs'', hinv'⟩ := hinv.step he
    obtain rfl : s' = s'' := Option.some.inj (hs.symm.trans hs'')
    rw [Log.ofEvents_concat]
    exact ⟨c', time', wake', cur', hinv'⟩

end Enc624j600.Rtos.System
