/-
# Turns

Tasks of one priority take turns.  A ready task may lose its place: the index of its ready list is
at the last task that was chosen, and when that one goes to sleep, the tasks that wake come in in
front of a task that waits.  But the others of its priority are chosen before it at most twice as
often as there are of them.
-/
import Mathlib.Data.List.Perm.Subperm
import Enc624j600.Kernel.Clock

namespace Enc624j600.Rtos.System

open Kernel

variable {τ : Type} [DecidableEq τ] {tasks : List (τ × Fin configMaxPriorities)} {idle : τ}
variable {m : ListMem TaskList (TcbItem τ)} {uxPriority : τ → Fin configMaxPriorities}
variable {es : List (Event τ)} {s s' s₀ : System τ} {t : τ} {e : Event τ} {n j k : ℕ}

/-- The other tasks of the priority of a task. -/
def peers (tasks : List (τ × Fin configMaxPriorities)) (idle t : τ) : List τ :=
  (idle :: tasks.map Prod.fst).filter fun u =>
    decide (u ≠ t ∧ priorityOf tasks u = priorityOf tasks t)

/-- A context switch that chooses a task of the priority of `t` counts one. -/
def passesOver (t : τ) (e : Event τ) (s' : System τ) : ℕ :=
  if e = .yieldInterrupt ∧
      s'.kernel.pxCurrentTCB.map s'.kernel.uxPriority = some (s'.kernel.uxPriority t) then 1
  else 0

/-- The runs from a state in which the task is never chosen, with the number of times that another
task of its priority is. -/
inductive PassedOver (idle t : τ) (s₀ : System τ) : ℕ → System τ → Prop
  | start : PassedOver idle t s₀ 0 s₀
  | step {k : ℕ} {s s' : System τ} {e : Event τ} (h : PassedOver idle t s₀ k s)
      (he : s.Enabled idle e) (hs : s.exec e = some s') (ht : s'.kernel.pxCurrentTCB ≠ some t) :
      PassedOver idle t s₀ (k + passesOver t e s') s'

/-- The run of some events, with the count. -/
def countPasses (idle t : τ) : List (Event τ) → ℕ → System τ → Option (ℕ × System τ)
  | [], k, s => some (k, s)
  | e :: es, k, s =>
    if s.Enabled idle e then
      (s.exec e).bind fun s' =>
        if s'.kernel.pxCurrentTCB = some t then none
        else countPasses idle t es (k + passesOver t e s') s'
    else none

lemma PassedOver.count {k' : ℕ} (h : PassedOver idle t s₀ k s)
    (hs : countPasses idle t es k s = some (k', s')) : PassedOver idle t s₀ k' s' := by
  induction es generalizing k s with
  | nil =>
    obtain ⟨rfl, rfl⟩ : k = k' ∧ s = s' := by simpa [countPasses] using hs
    exact h
  | cons e es ih =>
    rw [countPasses] at hs
    split_ifs at hs with he
    obtain ⟨s₁, hs₁, hs⟩ := Option.bind_eq_some_iff.mp hs
    split_ifs at hs with ht
    exact ih (h.step he hs₁ ht) hs

namespace Inv

variable {log : Log τ} {c : TaskList → List (TcbItem τ)} {time : ℕ} {wake : τ → ℕ} {cur : τ}
variable {prio : τ → Fin configMaxPriorities}

/-- A ready list holds a task and some of its peers. -/
lemma uxNumberOfItems_le (h : Inv idle (priorityOf tasks) s log c time wake cur)
    (hall : ∀ u, u = idle ∨ u ∈ tasks.map Prod.fst) (t : τ) :
    s.kernel.lists.uxNumberOfItems (.ready (priorityOf tasks t)) ≤
      (peers tasks idle t).length + 1 := by
  have hsub : c (.ready (priorityOf tasks t)) ⊆
      (t :: peers tasks idle t).map TcbItem.xStateListItem := by
    intro x hx
    obtain ⟨u, rfl⟩ := h.timed.stateItem _ x hx
    have hu : priorityOf tasks u = priorityOf tasks t := by
      have hp := h.timed.toShape.priority _ u hx
      rwa [h.priority] at hp
    refine List.mem_map_of_mem ?_
    by_cases hut : u = t
    · rw [hut]
      exact List.mem_cons_self
    · refine List.mem_cons_of_mem _ (List.mem_filter.mpr ⟨?_, ?_⟩)
      · rw [List.mem_cons]
        exact hall u
      · exact decide_eq_true ⟨hut, hu⟩
  have hle := (List.subperm_of_subset (h.timed.holds.nodup _) hsub).length_le
  rw [(h.timed.holds.contains _).count]
  simpa using hle

/-- An event does not make a task wait longer, and a turn of a peer makes it wait less. -/
lemma waits (h : Inv idle prio s log c time wake cur) (he : s.Enabled idle e)
    (hs : s.exec e = some s') (ht : cur ≠ t) (ht' : s'.kernel.pxCurrentTCB ≠ some t)
    (hlen : s.kernel.lists.uxNumberOfItems (.ready (prio t)) ≤ n + 1)
    (hw : s.kernel.lists.Waits (.ready (prio t)) (.xStateListItem t) n j) :
    ∃ i, i + passesOver t e s' ≤ j ∧
      s'.kernel.lists.Waits (.ready (prio t)) (.xStateListItem t) n i := by
  cases e with
  | tickInterrupt =>
    refine ⟨j, by simp [passesOver], ?_⟩
    by_cases hsus : s.kernel.uxSchedulerSuspended = 0
    · obtain ⟨k', c', sw, hk', -, hwoken, -⟩ := h.timed.xTaskIncrementTick hsus h.current
      obtain rfl : _ = s' := by simpa [exec, vPortIncrementTick, hk'] using hs
      exact hwoken.patient _ _ _ _ hw
    · obtain rfl : _ = s' := by
        simpa [exec, vPortIncrementTick, Kernel.xTaskIncrementTick, hsus] using hs
      exact hw
  | yieldInterrupt =>
    have hl := h.unlocked_of_interrupt he
    have hidle : s.kernel.Ready idle := h.awake idle (by rw [h.idleRuns]; rfl)
    obtain ⟨k', u, hk', -, hswitched, -, -⟩ :=
      h.timed.vTaskSwitchContext (h.unlocked hl).1 ⟨idle, hidle⟩
    obtain rfl : _ = s' := by simpa [exec, vPortYieldISR, hk'] using hs
    have hut : t ≠ u := by
      rintro rfl
      exact ht' hswitched.current
    have hpasses : passesOver t .yieldInterrupt
        { s with kernel := k', softwareInterrupt := false } =
          if prio u = prio t then 1 else 0 := by
      simp [passesOver, hswitched.current, hswitched.uxPriority, h.priority]
    have hturn := hswitched.turn t (prio t) n j hw hlen
    rw [h.priority] at hturn
    rw [hpasses]
    split_ifs at hturn ⊢ with hp
    · obtain ⟨i, hi, hwaits⟩ := hturn.resolve_left hut
      exact ⟨i, hi, hwaits⟩
    · exact ⟨j, le_rfl, hturn⟩
  | work u =>
    obtain rfl : s = s' := Option.some.inj hs
    exact ⟨j, by simp [passesOver], hw⟩
  | callDelay u d =>
    obtain rfl : _ = s' := Option.some.inj hs
    refine ⟨j, by simp [passesOver], ?_⟩
    rw [vTaskDelay]
    split_ifs
    · exact hw
    · exact hw
  | continueDelay u =>
    refine ⟨j, by simp [passesOver], ?_⟩
    obtain ⟨⟨hsw, hcur⟩, hphase⟩ := he
    obtain rfl : cur = u := Option.some.inj (h.current.symm.trans hcur)
    cases hp : s.phase cur with
    | running => exact absurd hp hphase
    | suspendedAll d =>
      have hready : s.kernel.Ready cur := h.awake cur (by rw [hp]; rfl)
      have hone := (h.locked (by rw [hp]; rfl)).1
      obtain ⟨k', c', l, hk', -, htransfer, -⟩ :=
        h.timed.prvAddCurrentTaskToDelayedList h.current hready (h.delaying cur d hp).1
      obtain rfl : _ = s' := by
        simpa [exec, continueDelay, hp, configAssert, hone, hk'] using hs
      exact htransfer.patient t ht.symm _ _ _ hw
    | delayed =>
      have hone := (h.locked (by rw [hp]; rfl)).1
      obtain ⟨k', c', hk', -, -, -, hresumed⟩ := h.timed.xTaskResumeAll hone h.tasks h.current
      obtain rfl : _ = s' := by simpa [exec, continueDelay, hp, hk'] using hs
      exact hresumed.patient _ _ _ _ hw
    | resumed =>
      obtain rfl : _ = s' := by simpa [exec, continueDelay, hp] using hs
      exact hw
    | yielded =>
      obtain rfl : _ = s' := by simpa [exec, continueDelay, hp] using hs
      exact hw

end Inv

/-! ### A task that is passed over -/

/-- Three tasks of one priority, one of a higher priority and the idle task. -/
inductive SliceTask where
  | waiting
  | second
  | third
  | urgent
  | idle
deriving DecidableEq, Repr

/-- Three tasks of one priority, and one above them. -/
def sliceTasks : List (SliceTask × Fin configMaxPriorities) :=
  [(.waiting, ⟨1, by decide⟩), (.second, ⟨1, by decide⟩), (.third, ⟨1, by decide⟩),
    (.urgent, ⟨2, by decide⟩)]

lemma tasks_sliceTasks : Tasks sliceTasks .idle where
  nonempty := by simp [sliceTasks]
  nodup := by simp [sliceTasks]
  all := by rintro (_ | _ | _ | _ | _) <;> simp [sliceTasks]
  notIdle := by simp [sliceTasks]

/-- Their system, when the scheduler starts. -/
def sliceStart : System SliceTask :=
  started ⟨id, id, fun _ => 0, fun _ => none, .listEnd, fun _ => 0⟩ (fun _ => tskIdlePriority)
    sliceTasks .idle

/-- The task is chosen and then loses the processor to a task of a higher priority. -/
def preempted : List (Event SliceTask) :=
  [.callDelay .urgent 1, .continueDelay .urgent, .continueDelay .urgent, .continueDelay .urgent,
    .yieldInterrupt, .tickInterrupt, .yieldInterrupt]

/-- Both other tasks sleep for one tick and are chosen again. -/
def passing : List (Event SliceTask) :=
  [.continueDelay .urgent, .callDelay .urgent 100, .continueDelay .urgent, .continueDelay .urgent,
    .continueDelay .urgent, .yieldInterrupt,
    .callDelay .second 1, .continueDelay .second, .tickInterrupt, .continueDelay .second,
    .yieldInterrupt,
    .callDelay .third 1, .continueDelay .third, .tickInterrupt, .continueDelay .third,
    .yieldInterrupt,
    .tickInterrupt, .yieldInterrupt]

/-- The state after the preemption. -/
def slicePreempted : System SliceTask := (replay .idle preempted sliceStart).getD sliceStart

/-! ### The bound -/

/-- However the tasks sleep and wake, a ready task is passed over for others of its priority at most
twice as often as there are of them. -/
theorem passedOver_le (h : Tasks tasks idle)
    (hrun : Run idle (started m uxPriority tasks idle) es s₀) (hready : s₀.kernel.Ready t)
    (hcur : s₀.kernel.pxCurrentTCB ≠ some t) (hpassed : PassedOver idle t s₀ k s) :
    k ≤ 2 * (peers tasks idle t).length := by
  suffices hinv : ∃ log c time wake cur j, Inv idle (priorityOf tasks) s log c time wake cur ∧
      cur ≠ t ∧ s.kernel.lists.Waits (.ready (priorityOf tasks t)) (.xStateListItem t)
        (peers tasks idle t).length j ∧ k + j ≤ 2 * (peers tasks idle t).length by
    obtain ⟨-, -, -, -, -, j, -, -, -, hle⟩ := hinv
    omega
  induction hpassed with
  | start =>
    obtain ⟨c, time, wake, cur, hinv⟩ := inv_of_run h hrun
    have hmem := hinv.timed.toShape.ready_iff.mp hready
    have hlen := hinv.uxNumberOfItems_le h.all t
    rw [hinv.priority] at hmem
    rw [(hinv.timed.holds.contains _).count] at hlen
    refine ⟨_, c, time, wake, cur, _, hinv, ?_, hinv.timed.holds.waits hmem hlen, by omega⟩
    rintro rfl
    exact hcur hinv.current
  | @step k s s' e hpassed he hs ht ih =>
    obtain ⟨log, c, time, wake, cur, j, hinv, hne, hwaits, hle⟩ := ih
    obtain ⟨i, hi, hwaits'⟩ := hinv.waits he hs hne ht (hinv.uxNumberOfItems_le h.all t) hwaits
    obtain ⟨s'', c', time', wake', cur', hs'', hinv'⟩ := hinv.step he
    obtain rfl : s' = s'' := Option.some.inj (hs.symm.trans hs'')
    refine ⟨_, c', time', wake', cur', i, hinv', ?_, hwaits', by omega⟩
    rintro rfl
    exact ht hinv'.current

theorem passedOver_le_slice : ∃ s, PassedOver .idle .waiting slicePreempted 4 s ∧
    4 ≤ 2 * (peers sliceTasks .idle .waiting).length := by
  have hrun : Run .idle sliceStart preempted slicePreempted := run_replay (by decide +kernel)
  have hcount : (countPasses .idle .waiting passing 0 slicePreempted).map Prod.fst = some 4 := by
    decide +kernel
  obtain ⟨⟨k, s⟩, hs, rfl⟩ := Option.map_eq_some_iff.mp hcount
  have hpassed := PassedOver.start.count hs
  exact ⟨s, hpassed, passedOver_le tasks_sliceTasks hrun (by decide +kernel) (by decide +kernel)
    hpassed⟩

end Enc624j600.Rtos.System
