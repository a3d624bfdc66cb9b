/-
# Delays by the log

What a run of the system looks like from the outside: which tasks are ready, what the tick count
is and which task runs follows from the ticks that came and the delays that the tasks called,
however the ticks, the context switches and the parts of the calls of `vTaskDelay` are interleaved
and however often the tick count has wrapped.
-/
import Enc624j600.Kernel.Start

namespace Enc624j600.Rtos.System

open Kernel

variable {τ : Type} [DecidableEq τ] {tasks : List (τ × Fin configMaxPriorities)} {idle : τ}
variable {m : ListMem TaskList (TcbItem τ)} {uxPriority : τ → Fin configMaxPriorities}
variable {es es₁ es₂ : List (Event τ)} {s s' : System τ} {t u : τ} {e : Event τ} {n : TickType}

/-! ### The log -/

lemma Log.ticks_foldl (log : Log τ) (es : List (Event τ)) :
    (es.foldl Log.next log).ticks = log.ticks + es.count .tickInterrupt := by
  induction es generalizing log with
  | nil => rfl
  | cons e es ih =>
    rw [List.foldl_cons, ih, List.count_cons]
    cases e with
    | tickInterrupt =>
      simp [Log.next]
      omega
    | callDelay t n =>
      have hnext : (log.next (.callDelay t n)).ticks = log.ticks := by
        rw [Log.next]
        split_ifs
        · rfl
        · rfl
      rw [hnext]
      simp
    | _ => simp [Log.next]

lemma Log.wakeTick_foldl (log : Log τ) (h : ∀ k, .callDelay t k ∉ es) :
    (es.foldl Log.next log).wakeTick t = log.wakeTick t := by
  induction es generalizing log with
  | nil => rfl
  | cons e es ih =>
    rw [List.foldl_cons, ih _ fun k hk => h k (List.mem_cons_of_mem _ hk)]
    cases e with
    | callDelay u k =>
      have hne : t ≠ u := by
        rintro rfl
        exact h k List.mem_cons_self
      rw [Log.next]
      split_ifs
      · exact Function.update_of_ne hne _ _
      · rfl
    | _ => rfl

lemma phase_continueDelay (ht : t ≠ u) (hs : s.continueDelay u = some s') :
    s'.phase t = s.phase t := by
  rw [continueDelay] at hs
  cases hp : s.phase u with
  | running =>
    rw [hp] at hs
    rw [← Option.some.inj hs]
  | suspendedAll n =>
    rw [hp] at hs
    obtain ⟨-, -, hs⟩ := Option.bind_eq_some_iff.mp hs
    obtain ⟨k, -, hs⟩ := Option.bind_eq_some_iff.mp hs
    rw [← Option.some.inj hs]
    exact Function.update_of_ne ht _ _
  | delayed =>
    rw [hp] at hs
    obtain ⟨⟨k, sw⟩, -, hs⟩ := Option.bind_eq_some_iff.mp hs
    rw [← Option.some.inj hs]
    exact Function.update_of_ne ht _ _
  | resumed =>
    rw [hp] at hs
    rw [← Option.some.inj hs]
    exact Function.update_of_ne ht _ _
  | yielded =>
    rw [hp] at hs
    rw [← Option.some.inj hs]
    exact Function.update_of_ne ht _ _

/-- A task that makes no delay stays in its own code. -/
lemma phase_of_run (hphase : ∀ k, .callDelay t k ∉ es) {s₀ : System τ}
    (h₀ : s₀.phase t = .running) (hrun : Run idle s₀ es s) : s.phase t = .running := by
  induction hrun with
  | start => exact h₀
  | @step es s s' e hrun he hs ih =>
    have hrunning := ih fun k hk => hphase k (List.mem_append_left _ hk)
    cases e with
    | tickInterrupt =>
      obtain ⟨⟨k, sw⟩, -, hk⟩ := Option.bind_eq_some_iff.mp hs
      rw [← Option.some.inj hk]
      exact hrunning
    | yieldInterrupt =>
      obtain ⟨k, -, hk⟩ := Option.bind_eq_some_iff.mp hs
      rw [← Option.some.inj hk]
      exact hrunning
    | work u =>
      rw [← Option.some.inj hs]
      exact hrunning
    | callDelay u k =>
      have hne : t ≠ u := by
        rintro rfl
        exact hphase k (by simp)
      rw [← Option.some.inj hs, vTaskDelay]
      split_ifs
      · exact (Function.update_of_ne hne _ _).trans hrunning
      · exact (Function.update_of_ne hne _ _).trans hrunning
    | continueDelay u =>
      have hne : t ≠ u := by
        rintro rfl
        exact he.2 hrunning
      rw [phase_continueDelay hne hs]
      exact hrunning

namespace Inv

variable {log : Log τ} {c : TaskList → List (TcbItem τ)} {time : ℕ} {wake : τ → ℕ} {cur : τ}
variable {prio : τ → Fin configMaxPriorities}

lemma ready_iff (h : Inv idle prio s log c time wake cur)
    (hs : s.kernel.uxSchedulerSuspended = 0) (t : τ) :
    s.kernel.Ready t ↔ log.wakeTick t ≤ log.ticks := by
  have hl := h.suspended_iff.mp hs
  have hpended := (h.unlocked hl).2.1
  have hticks : log.ticks = time := by
    rw [h.ticks, hpended]
    rfl
  rw [hticks, h.wakeTick t (ne_suspendedAll (h.all_unlocked hl t))]
  exact h.timed.ready_iff (h.placed t)

omit [DecidableEq τ] in
/-- A task that is in no delay. -/
lemma wakeTick_le (h : Inv idle prio s log c time wake cur) (ht : s.phase t = .running) :
    log.wakeTick t ≤ log.ticks := by
  rw [h.wakeTick t (by simp [ht]), h.ticks]
  exact (h.timed.readyDue t (h.awake t (by rw [ht]; rfl))).trans (Nat.le_add_right _ _)

omit [DecidableEq τ] in
/-- The running task has the highest priority of those that are ready. -/
lemma highest_of_runs (h : Inv idle prio s log c time wake cur) (ht : s.Runs t)
    (hu : s.kernel.Ready u) : prio u ≤ prio t := by
  obtain rfl : cur = t := Option.some.inj (h.current.symm.trans ht.2)
  have hle := h.highest ht.1 u hu
  rwa [h.priority] at hle

end Inv

/-! ### A run of the tasks of `main` -/

/-- Some memory for the lists. -/
def blank : ListMem TaskList (TcbItem MainTask) where
  pxNext := id
  pxPrevious := id
  xItemValue := fun _ => 0
  pxContainer := fun _ => none
  pxIndex := .listEnd
  uxNumberOfItems := fun _ => 0

/-- The system of `main`, when the scheduler starts. -/
def mainStart : System MainTask := started blank (fun _ => tskIdlePriority) mainTasks .prvIdleTask

/-- The second task sleeps for two ticks.  The scheduler is suspended when the first comes. -/
def twoTicks : List (Event MainTask) :=
  [.callDelay .mySecondTask 2, .tickInterrupt, .continueDelay .mySecondTask,
    .continueDelay .mySecondTask, .continueDelay .mySecondTask, .yieldInterrupt,
    .work .myFirstTask, .tickInterrupt, .yieldInterrupt, .continueDelay .mySecondTask]

/-- The state behind the first `n` of these events. -/
def mainAt (n : ℕ) : System MainTask :=
  (replay .prvIdleTask (twoTicks.take n) mainStart).getD mainStart

lemma run_mainAt (n : ℕ) (h : (replay .prvIdleTask (twoTicks.take n) mainStart).isSome) :
    Run .prvIdleTask mainStart (twoTicks.take n) (mainAt n) :=
  run_replay h

/-! ### Runs of the system -/

/-- Whatever happens, the kernel goes on: no `configASSERT` fails, no pointer that is read is
`NULL`, and every loop over a list ends. -/
theorem exec_of_run (h : Tasks tasks idle)
    (hrun : Run idle (started m uxPriority tasks idle) es s) (he : s.Enabled idle e) :
    ∃ s', s.exec e = some s' := by
  obtain ⟨c, time, wake, cur, hinv⟩ := inv_of_run h hrun
  obtain ⟨s', -, -, -, -, hs', -⟩ := hinv.step he
  exact ⟨s', hs'⟩

theorem exec_of_run_suspended :
    ∃ s', (mainAt 3).exec (.continueDelay .mySecondTask) = some s' :=
  exec_of_run tasks_mainTasks (run_mainAt 3 (by decide +kernel)) (by decide +kernel)

/-- While the scheduler is not suspended, exactly those tasks are ready whose last delay is over,
also after the tick count has wrapped. -/
theorem ready_iff_wakeTick_le (h : Tasks tasks idle)
    (hrun : Run idle (started m uxPriority tasks idle) es s)
    (hs : s.kernel.uxSchedulerSuspended = 0) (t : τ) :
    s.kernel.Ready t ↔ (Log.ofEvents es).wakeTick t ≤ (Log.ofEvents es).ticks := by
  obtain ⟨c, time, wake, cur, hinv⟩ := inv_of_run h hrun
  exact hinv.ready_iff hs t

theorem ready_iff_wakeTick_le_second : (mainAt 8).kernel.Ready .mySecondTask ↔
    (Log.ofEvents (twoTicks.take 8)).wakeTick .mySecondTask ≤
      (Log.ofEvents (twoTicks.take 8)).ticks :=
  ready_iff_wakeTick_le tasks_mainTasks (run_mainAt 8 (by decide +kernel)) (by decide +kernel) _

/-- No tick is lost: those that come while the scheduler is suspended are pended, and a task that
runs its own code reads the number of all ticks so far. -/
theorem tickCount_of_run (h : Tasks tasks idle)
    (hrun : Run idle (started m uxPriority tasks idle) es s) :
    s.kernel.xTickCount + s.kernel.xPendedTicks = BitVec.ofNat 32 (es.count .tickInterrupt) ∧
      ∀ t, s.Runs t → s.phase t = .running →
        s.kernel.xTaskGetTickCount = BitVec.ofNat 32 (es.count .tickInterrupt) := by
  obtain ⟨c, time, wake, cur, hinv⟩ := inv_of_run h hrun
  have hticks : es.count .tickInterrupt = time + s.kernel.xPendedTicks.toNat := by
    rw [← hinv.ticks, Log.ofEvents, Log.ticks_foldl, Nat.zero_add]
  constructor
  · rw [hinv.timed.tick, hticks]
    simp [BitVec.ofNat_add]
  · intro t ht hphase
    obtain rfl : cur = t := Option.some.inj (hinv.current.symm.trans ht.2)
    have hpended := (hinv.unlocked (by rw [hphase]; rfl)).2.1
    rw [Kernel.xTaskGetTickCount, hinv.timed.tick, hticks, hpended]
    rfl

theorem tickCount_of_run_first :
    (mainAt 7).kernel.xTickCount + (mainAt 7).kernel.xPendedTicks = 1#32 ∧
      ∀ t, (mainAt 7).Runs t → (mainAt 7).phase t = .running →
        (mainAt 7).kernel.xTaskGetTickCount = 1#32 :=
  tickCount_of_run tasks_mainTasks (run_mainAt 7 (by decide +kernel))

/-- While a task runs its own code, it is ready, and every task with a higher priority is in a
delay that is not over. -/
theorem asleep_of_runs (h : Tasks tasks idle)
    (hrun : Run idle (started m uxPriority tasks idle) es s) (ht : s.Runs t)
    (hphase : s.phase t = .running) :
    s.kernel.Ready t ∧ ∀ u, priorityOf tasks t < priorityOf tasks u →
      (Log.ofEvents es).ticks < (Log.ofEvents es).wakeTick u := by
  obtain ⟨c, time, wake, cur, hinv⟩ := inv_of_run h hrun
  refine ⟨hinv.awake t (by rw [hphase]; rfl), ?_⟩
  intro u hlt
  obtain rfl : cur = t := Option.some.inj (hinv.current.symm.trans ht.2)
  have hs := (hinv.unlocked (by rw [hphase]; rfl)).1
  by_contra hwake
  have hready := (hinv.ready_iff hs u).mpr (Nat.le_of_not_lt hwake)
  exact absurd (hinv.highest_of_runs ht hready) (Fin.not_le.mpr hlt)

theorem asleep_of_runs_first : (mainAt 7).kernel.Ready .myFirstTask ∧
    ∀ u, priorityOf mainTasks .myFirstTask < priorityOf mainTasks u →
      (Log.ofEvents (twoTicks.take 7)).ticks < (Log.ofEvents (twoTicks.take 7)).wakeTick u :=
  asleep_of_runs tasks_mainTasks (run_mainAt 7 (by decide +kernel)) (by decide +kernel)
    (by decide +kernel)

/-- A call of `vTaskDelay` does not return before its ticks have come. -/
theorem delay_not_early (h : Tasks tasks idle)
    (hrun : Run idle (started m uxPriority tasks idle) (es₁ ++ .callDelay t n :: es₂) s)
    (hlast : ∀ k, .callDelay t k ∉ es₂) (hphase : s.phase t = .running) :
    n.toNat ≤ es₂.count .tickInterrupt := by
  obtain ⟨c, time, wake, cur, hinv⟩ := inv_of_run h hrun
  have hwake := hinv.wakeTick_le hphase
  rw [Log.ofEvents, List.foldl_append, List.foldl_cons, Log.wakeTick_foldl _ hlast,
    Log.ticks_foldl, Log.next] at hwake
  split_ifs at hwake with hn
  · simp only [Function.update_self] at hwake
    omega
  · have hzero : n = 0 := by simpa using hn
    simp [hzero]

theorem delay_not_early_second : 2 ≤ (twoTicks.drop 1).count .tickInterrupt := by
  have hrun : Run .prvIdleTask mainStart ([] ++ .callDelay .mySecondTask 2 :: twoTicks.drop 1)
      (mainAt 10) := run_mainAt 10 (by decide +kernel)
  exact delay_not_early tasks_mainTasks hrun (by simp [twoTicks]) (by decide +kernel)

/-- When no context switch is pending, the task of the highest priority runs exactly when its delay
is over. -/
theorem runs_iff_of_top (h : Tasks tasks idle)
    (hrun : Run idle (started m uxPriority tasks idle) es s)
    (htop : ∀ u, u ≠ t → priorityOf tasks u < priorityOf tasks t)
    (hsw : s.softwareInterrupt = false) (hs : s.kernel.uxSchedulerSuspended = 0)
    (hphase : s.phase t ≠ .resumed) :
    s.Runs t ↔ (Log.ofEvents es).wakeTick t ≤ (Log.ofEvents es).ticks := by
  obtain ⟨c, time, wake, cur, hinv⟩ := inv_of_run h hrun
  rw [← hinv.ready_iff hs]
  constructor
  · rintro ⟨-, hcur⟩
    obtain rfl : cur = t := Option.some.inj (hinv.current.symm.trans hcur)
    have hl := hinv.suspended_iff.mp hs
    cases hp : s.phase cur with
    | running => exact hinv.awake cur (by rw [hp]; rfl)
    | suspendedAll k =>
      rw [hp] at hl
      cases hl
    | delayed =>
      rw [hp] at hl
      cases hl
    | resumed => exact absurd hp hphase
    | yielded => exact hinv.switched hp hsw
  · intro hready
    have hle := hinv.highest_of_runs ⟨hsw, hinv.current⟩ hready
    have heq : cur = t := by
      by_contra hne
      exact absurd hle (Fin.not_le.mpr (htop cur hne))
    exact ⟨hsw, heq ▸ hinv.current⟩

theorem runs_iff_of_top_second : (mainAt 9).Runs .mySecondTask ↔
    (Log.ofEvents (twoTicks.take 9)).wakeTick .mySecondTask ≤
      (Log.ofEvents (twoTicks.take 9)).ticks :=
  runs_iff_of_top tasks_mainTasks (run_mainAt 9 (by decide +kernel))
    (by rintro (_ | _ | _) <;> decide) (by decide +kernel) (by decide +kernel)
    (by decide +kernel)

/-- A task that makes no delay keeps the tasks of lower priorities from running at all. -/
theorem not_runs_of_lower (h : Tasks tasks idle)
    (hrun : Run idle (started m uxPriority tasks idle) es s)
    (hbusy : ∀ k, .callDelay t k ∉ es) (hlt : priorityOf tasks u < priorityOf tasks t) :
    ¬ s.Runs u := by
  obtain ⟨c, time, wake, cur, hinv⟩ := inv_of_run h hrun
  have hphase : s.phase t = .running := phase_of_run hbusy rfl hrun
  have hready : s.kernel.Ready t := hinv.awake t (by rw [hphase]; rfl)
  intro hu
  exact absurd (hinv.highest_of_runs hu hready) (Fin.not_le.mpr hlt)

theorem not_runs_of_lower_idle : ¬ (mainAt 10).Runs .prvIdleTask :=
  not_runs_of_lower (t := .myFirstTask) tasks_mainTasks (run_mainAt 10 (by decide +kernel))
    (by simp [twoTicks]) (by decide)

end Enc624j600.Rtos.System
