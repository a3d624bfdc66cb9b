/-
# The start of the scheduler

`main` creates its tasks before the scheduler runs: the first creation sets up the lists, each puts
a task into its ready list, and the current task is one of the highest priority.  The scheduler
adds the idle task and starts the ticks; from there on the invariant of the system holds.
-/
import Enc624j600.Kernel.Invariant

namespace Enc624j600.Rtos

variable {L I : Type} [DecidableEq L] [DecidableEq I]

namespace ListMem

lemma contains_foldl_vListInitialise (ls : List L) (m : ListMem L I) {l : L}
    (h : l ∈ ls ∨ m.Contains l []) : (ls.foldl vListInitialise m).Contains l [] := by
  induction ls generalizing m with
  | nil => simpa using h
  | cons l' ls ih =>
    refine ih _ ?_
    rw [List.mem_cons] at h
    rcases h with (rfl | hmem) | hm
    · exact .inr (contains_vListInitialise m _)
    · exact .inl hmem
    · exact .inr (hm.vListInitialise _)

lemma pxContainer_foldl_vListInitialise (ls : List L) (m : ListMem L I) :
    (ls.foldl vListInitialise m).pxContainer = m.pxContainer := by
  induction ls generalizing m with
  | nil => rfl
  | cons l ls ih => exact ih _

end ListMem

namespace Kernel

variable {τ : Type} [DecidableEq τ] {k k' : Kernel τ} {c : TaskList → List (TcbItem τ)}
variable {t u : τ} {p : Fin configMaxPriorities} {created : List τ}

/-- The tasks of `main`, in the order in which it creates them. -/
def createTasks (k : Kernel τ) (tasks : List (τ × Fin configMaxPriorities)) : Kernel τ :=
  tasks.foldl (fun k task => (k.xTaskCreate task.1 task.2).1) k

/-! ### The lists -/

/-- The lists in the order of `prvInitialiseTaskLists`. -/
private def initialisedLists : List TaskList :=
  (List.finRange configMaxPriorities).map .ready ++
    [.xDelayedTaskList1, .xDelayedTaskList2, .xPendingReadyList, .xTasksWaitingTermination,
      .xSuspendedTaskList]

private lemma mem_initialisedLists (l : TaskList) : l ∈ initialisedLists := by
  cases l with
  | ready p =>
    rw [initialisedLists, List.mem_append]
    exact .inl (List.mem_map_of_mem (List.mem_finRange p))
  | xDelayedTaskList1 => simp [initialisedLists]
  | xDelayedTaskList2 => simp [initialisedLists]
  | xPendingReadyList => simp [initialisedLists]
  | xTasksWaitingTermination => simp [initialisedLists]
  | xSuspendedTaskList => simp [initialisedLists]

private lemma lists_prvInitialiseTaskLists (k : Kernel τ) :
    k.prvInitialiseTaskLists.lists = initialisedLists.foldl ListMem.vListInitialise k.lists := by
  rw [initialisedLists, List.foldl_append, List.foldl_map]
  rfl

lemma holds_prvInitialiseTaskLists (h : ∀ x, k.lists.pxContainer x = none) :
    k.prvInitialiseTaskLists.lists.Holds fun _ => [] := by
  rw [lists_prvInitialiseTaskLists]
  refine ⟨?_, ?_⟩
  · intro l
    exact ListMem.contains_foldl_vListInitialise _ _ (.inl (mem_initialisedLists l))
  · intro l x
    rw [ListMem.pxContainer_foldl_vListInitialise, h]
    simp

/-! ### The creation of the tasks -/

/-- The kernel behind the creation of some tasks, before the scheduler runs. -/
structure Created (k : Kernel τ) (c : TaskList → List (TcbItem τ)) (created : List τ) : Prop where
  shape : k.Shape c
  noDelay : c .xDelayedTaskList1 = [] ∧ c .xDelayedTaskList2 = []
  ready : ∀ t, t ∈ created → k.Ready t
  fresh : ∀ t, t ∉ created → k.lists.pxContainer (.xStateListItem t) = none
  current : ∃ cur, k.pxCurrentTCB = some cur ∧ cur ∈ created ∧
    ∀ t, t ∈ created → k.uxPriority t ≤ k.uxPriority cur
  tasks : 0 < k.uxCurrentNumberOfTasks
  notRunning : k.xSchedulerRunning = false
  pended : k.xPendedTicks = 0
  yieldPending : k.xYieldPending = false
  suspended : k.uxSchedulerSuspended = 0

/-- The items of a new task are in no list. -/
lemma Shape.prvInitialiseNewTask (h : k.Shape c)
    (ht : k.lists.pxContainer (.xStateListItem t) = none) :
    (k.prvInitialiseNewTask t p).Shape c ∧
      (k.prvInitialiseNewTask t p).lists.pxContainer = k.lists.pxContainer := by
  have hcontainer : (k.prvInitialiseNewTask t p).lists.pxContainer = k.lists.pxContainer := by
    funext x
    show Function.update (Function.update k.lists.pxContainer _ _) _ _ x = _
    by_cases hevent : x = .xEventListItem t
    · rw [hevent, Function.update_self, h.event_container]
    · rw [Function.update_of_ne hevent]
      by_cases hstate : x = .xStateListItem t
      · rw [hstate, Function.update_self, ht]
      · rw [Function.update_of_ne hstate]
  refine ⟨⟨?_, h.delayedLists, h.stateItem, h.place, ?_, h.bits⟩, hcontainer⟩
  · have hlists : (k.prvInitialiseNewTask t p).lists =
        { k.lists.setItemValue (.item (.xEventListItem t))
            (BitVec.ofNat 32 configMaxPriorities - BitVec.ofNat 32 p) with
          pxContainer := (k.prvInitialiseNewTask t p).lists.pxContainer } := rfl
    rw [hlists, hcontainer]
    exact ListMem.holds_setItemValue h.holds _ _
  · intro q u hu
    have hne : u ≠ t := by
      rintro rfl
      exact h.holds.not_mem ht _ hu
    exact (Function.update_of_ne hne _ _).trans (h.priority q u hu)

lemma readyWith_eq_nil {l : TaskList} (hl : ∀ p, l ≠ .ready p) (hc : c l = []) :
    k.readyWith c t l = [] := (readyWith_of_ne hl).trans hc

/-- A task that is in no list becomes ready. -/
lemma Created.addTask (hshape : k.Shape c)
    (hdelay : c .xDelayedTaskList1 = [] ∧ c .xDelayedTaskList2 = [])
    (hready : ∀ u, u ∈ created → k.Ready u)
    (hfresh : ∀ u, u ∉ created → k.lists.pxContainer (.xStateListItem u) = none)
    (ht : t ∉ created) {cur : τ} (hcur : k.pxCurrentTCB = some cur) (hmem : cur ∈ t :: created)
    (hmax : ∀ u, u ∈ t :: created → k.uxPriority u ≤ k.uxPriority cur)
    (htasks : 0 < k.uxCurrentNumberOfTasks) (hrunning : k.xSchedulerRunning = false)
    (hpended : k.xPendedTicks = 0) (hyield : k.xYieldPending = false)
    (hsuspended : k.uxSchedulerSuspended = 0) :
    Created (k.prvAddTaskToReadyList t) (k.readyWith c t) (t :: created) where
  shape := hshape.prvAddTaskToReadyList (hfresh t ht)
  noDelay := ⟨readyWith_eq_nil (by simp) hdelay.1, readyWith_eq_nil (by simp) hdelay.2⟩
  ready := by
    intro u hu
    rw [ready_prvAddTaskToReadyList]
    rcases List.mem_cons.mp hu with rfl | hu
    · exact .inl rfl
    · exact .inr (hready u hu)
  fresh := by
    intro u hu
    rw [List.mem_cons, not_or] at hu
    exact (Function.update_of_ne (by simpa using hu.1) _ _).trans (hfresh u hu.2)
  current := ⟨cur, hcur, hmem, hmax⟩
  tasks := htasks
  notRunning := hrunning
  pended := hpended
  yieldPending := hyield
  suspended := hsuspended

/-- The creation of the first task sets up the lists. -/
lemma created_first (m : ListMem TaskList (TcbItem τ)) (uxPriority : τ → Fin configMaxPriorities)
    (t : τ) (p : Fin configMaxPriorities) :
    ∃ c, Created ((zeroed m uxPriority).xTaskCreate t p).1 c [t] := by
  have hcreate : ((zeroed m uxPriority).xTaskCreate t p).1 =
      (prvInitialiseTaskLists { (zeroed m uxPriority).prvInitialiseNewTask t p with
        uxCurrentNumberOfTasks := 1, pxCurrentTCB := some t }).prvAddTaskToReadyList t := rfl
  have hnone : ∀ x,
      ((zeroed m uxPriority).prvInitialiseNewTask t p).lists.pxContainer x = none := by
    intro x
    show Function.update (Function.update (fun _ => none) _ _) _ _ x = none
    simp [Function.update_apply]
  have hshape : Shape (prvInitialiseTaskLists { (zeroed m uxPriority).prvInitialiseNewTask t p with
      uxCurrentNumberOfTasks := 1, pxCurrentTCB := some t }) fun _ => [] := by
    refine ⟨holds_prvInitialiseTaskLists hnone, .inl ⟨rfl, rfl⟩, by simp, by simp, by simp, ?_⟩
    intro i
    have hbits : (0 : UBaseType).getLsbD i = false := BitVec.getLsbD_zero
    constructor
    · intro hi
      exact absurd (hbits.symm.trans hi) (by simp)
    · rintro ⟨q, -, hne⟩
      exact absurd rfl hne
  have hfresh : ∀ u, u ∉ ([] : List τ) → (prvInitialiseTaskLists
      { (zeroed m uxPriority).prvInitialiseNewTask t p with
        uxCurrentNumberOfTasks := 1, pxCurrentTCB := some t }).lists.pxContainer
          (.xStateListItem u) = none := by
    intro u _
    rw [lists_prvInitialiseTaskLists, ListMem.pxContainer_foldl_vListInitialise]
    exact hnone _
  rw [hcreate]
  refine ⟨_, Created.addTask hshape ⟨rfl, rfl⟩ (by simp) hfresh (by simp) rfl
    List.mem_cons_self ?_ Nat.one_pos rfl rfl rfl rfl⟩
  intro u hu
  obtain rfl : u = t := by simpa using hu
  exact Fin.le_refl _

/-- The creation of a further task. -/
lemma Created.xTaskCreate (h : Created k c created) (ht : t ∉ created)
    (p : Fin configMaxPriorities) :
    ∃ c', Created (k.xTaskCreate t p).1 c' (t :: created) := by
  obtain ⟨cur, hcur, hmem, hmax⟩ := h.current
  obtain ⟨hshape, hcontainer⟩ := h.shape.prvInitialiseNewTask (p := p) (h.fresh t ht)
  have hprio : ∀ u, u ≠ t → (k.prvInitialiseNewTask t p).uxPriority u = k.uxPriority u :=
    fun u hu => Function.update_of_ne hu _ _
  have hself : (k.prvInitialiseNewTask t p).uxPriority t = p := Function.update_self ..
  have hne : ∀ u, u ∈ created → u ≠ t := by
    rintro u hu rfl
    exact ht hu
  have hready : ∀ u, u ∈ created → (k.prvInitialiseNewTask t p).Ready u := by
    intro u hu
    rw [Ready, hcontainer, hprio u (hne u hu)]
    exact h.ready u hu
  have hfresh : ∀ u, u ∉ created →
      (k.prvInitialiseNewTask t p).lists.pxContainer (.xStateListItem u) = none := by
    intro u hu
    rw [hcontainer]
    exact h.fresh u hu
  have hcreate : (k.xTaskCreate t p).1 = (chooseFirstTask { k.prvInitialiseNewTask t p with
      uxCurrentNumberOfTasks := k.uxCurrentNumberOfTasks + 1 } t).prvAddTaskToReadyList t := rfl
  have hshape' : Shape { k.prvInitialiseNewTask t p with
      uxCurrentNumberOfTasks := k.uxCurrentNumberOfTasks + 1 } c :=
    hshape.congr rfl rfl rfl rfl rfl
  rw [hcreate, chooseFirstTask]
  simp only [show (k.prvInitialiseNewTask t p).pxCurrentTCB = some cur from hcur]
  by_cases hp : k.uxPriority cur ≤ p
  · have hyes : (k.prvInitialiseNewTask t p).xSchedulerRunning = false ∧
        (k.prvInitialiseNewTask t p).uxPriority cur ≤
          (k.prvInitialiseNewTask t p).uxPriority t := by
      rw [hself, hprio cur (hne cur hmem)]
      exact ⟨h.notRunning, hp⟩
    rw [if_pos hyes]
    refine ⟨_, Created.addTask (hshape'.congr rfl rfl rfl rfl rfl) h.noDelay hready hfresh ht rfl
      List.mem_cons_self ?_ (Nat.succ_pos _) h.notRunning h.pended h.yieldPending h.suspended⟩
    intro u hu
    show (k.prvInitialiseNewTask t p).uxPriority u ≤ (k.prvInitialiseNewTask t p).uxPriority t
    rcases List.mem_cons.mp hu with rfl | hu
    · exact Fin.le_refl _
    · rw [hself, hprio u (hne u hu)]
      exact Fin.le_trans (hmax u hu) hp
  · have hno : ¬ ((k.prvInitialiseNewTask t p).xSchedulerRunning = false ∧
        (k.prvInitialiseNewTask t p).uxPriority cur ≤
          (k.prvInitialiseNewTask t p).uxPriority t) := by
      rw [hself, hprio cur (hne cur hmem)]
      exact fun hand => hp hand.2
    rw [if_neg hno]
    refine ⟨_, Created.addTask (hshape'.congr rfl rfl rfl rfl rfl) h.noDelay hready hfresh ht rfl
      (List.mem_cons_of_mem _ hmem) ?_ (Nat.succ_pos _) h.notRunning h.pended h.yieldPending
      h.suspended⟩
    intro u hu
    show (k.prvInitialiseNewTask t p).uxPriority u ≤ (k.prvInitialiseNewTask t p).uxPriority cur
    rw [hprio cur (hne cur hmem)]
    rcases List.mem_cons.mp hu with rfl | hu
    · rw [hself]
      exact Fin.le_of_lt (Fin.not_le.mp hp)
    · rw [hprio u (hne u hu)]
      exact hmax u hu

lemma Created.createTasks {tasks : List (τ × Fin configMaxPriorities)}
    (h : Created k c created) (hnodup : (tasks.map Prod.fst).Nodup)
    (hnew : ∀ t, t ∈ tasks.map Prod.fst → t ∉ created) :
    ∃ c' created', Created (k.createTasks tasks) c' created' ∧
      ∀ t, t ∈ created' ↔ t ∈ created ∨ t ∈ tasks.map Prod.fst := by
  induction tasks generalizing k c created with
  | nil => exact ⟨c, created, h, by simp⟩
  | cons task tasks ih =>
    rw [List.map_cons, List.nodup_cons] at hnodup
    obtain ⟨c₁, h₁⟩ := h.xTaskCreate (hnew task.1 (by simp)) task.2
    have hnew₁ : ∀ t, t ∈ tasks.map Prod.fst → t ∉ task.1 :: created := by
      intro t ht hmem
      rcases List.mem_cons.mp hmem with rfl | hmem
      · exact hnodup.1 ht
      · exact hnew t (by rw [List.map_cons]; exact List.mem_cons_of_mem _ ht) hmem
    obtain ⟨c', created', h', hmem⟩ := ih h₁ hnodup.2 hnew₁
    refine ⟨c', created', h', fun t => ?_⟩
    rw [hmem, List.map_cons, List.mem_cons, List.mem_cons]
    tauto

/-- Every task that `main` creates is ready. -/
lemma created_createTasks (m : ListMem TaskList (TcbItem τ))
    (uxPriority : τ → Fin configMaxPriorities) {tasks : List (τ × Fin configMaxPriorities)}
    (hne : tasks ≠ []) (hnodup : (tasks.map Prod.fst).Nodup) :
    ∃ c created, Created ((zeroed m uxPriority).createTasks tasks) c created ∧
      ∀ t, t ∈ created ↔ t ∈ tasks.map Prod.fst := by
  obtain ⟨task, tasks, rfl⟩ := List.exists_cons_of_ne_nil hne
  rw [List.map_cons, List.nodup_cons] at hnodup
  obtain ⟨c₁, h₁⟩ := created_first m uxPriority task.1 task.2
  have hnew : ∀ t, t ∈ tasks.map Prod.fst → t ∉ [task.1] := by
    intro t ht hmem
    obtain rfl : t = task.1 := by simpa using hmem
    exact hnodup.1 ht
  obtain ⟨c, created, h, hmem⟩ := h₁.createTasks hnodup.2 hnew
  refine ⟨c, created, h, fun t => ?_⟩
  rw [hmem]
  simp

/-! ### The priorities -/

lemma uxPriority_chooseFirstTask (k : Kernel τ) (t : τ) :
    (k.chooseFirstTask t).uxPriority = k.uxPriority := by
  rw [chooseFirstTask]
  split
  · dsimp only
    split
    · rfl
    · rfl
  · split
    · rfl
    · rfl

@[simp] lemma uxPriority_xTaskCreate (k : Kernel τ) (t : τ) (p : Fin configMaxPriorities) :
    (k.xTaskCreate t p).1.uxPriority = Function.update k.uxPriority t p :=
  uxPriority_chooseFirstTask _ _

lemma uxPriority_createTasks_of_not_mem {tasks : List (τ × Fin configMaxPriorities)}
    (ht : t ∉ tasks.map Prod.fst) : (k.createTasks tasks).uxPriority t = k.uxPriority t := by
  induction tasks generalizing k with
  | nil => rfl
  | cons task tasks ih =>
    rw [List.map_cons, List.mem_cons, not_or] at ht
    refine (ih ht.2).trans ?_
    rw [uxPriority_xTaskCreate, Function.update_of_ne ht.1]

lemma uxPriority_createTasks {tasks : List (τ × Fin configMaxPriorities)}
    (hnodup : (tasks.map Prod.fst).Nodup) (ht : (t, p) ∈ tasks) :
    (k.createTasks tasks).uxPriority t = p := by
  induction tasks generalizing k with
  | nil => exact absurd ht (by simp)
  | cons task tasks ih =>
    rw [List.map_cons, List.nodup_cons] at hnodup
    rcases List.mem_cons.mp ht with rfl | ht
    · refine (uxPriority_createTasks_of_not_mem hnodup.1).trans ?_
      rw [uxPriority_xTaskCreate, Function.update_self]
    · exact ih hnodup.2 ht

/-! ### The first task -/

/-- The kernel when the first task starts: behind `main` and `vTaskStartScheduler`, which creates
the idle task. -/
def started (m : ListMem TaskList (TcbItem τ)) (uxPriority : τ → Fin configMaxPriorities)
    (tasks : List (τ × Fin configMaxPriorities)) (idle : τ) : Kernel τ :=
  (((zeroed m uxPriority).createTasks tasks).xTaskCreate idle tskIdlePriority).1.vTaskStartScheduler

end Kernel

/-- The system when the first task starts. -/
def System.started {τ : Type} [DecidableEq τ] (m : ListMem TaskList (TcbItem τ))
    (uxPriority : τ → Fin configMaxPriorities) (tasks : List (τ × Fin configMaxPriorities))
    (idle : τ) : System τ where
  kernel := Kernel.started m uxPriority tasks idle
  phase := fun _ => .running
  softwareInterrupt := false

/-- The tasks of the system: those that `main` creates, and the idle task. -/
structure Tasks {τ : Type} (tasks : List (τ × Fin configMaxPriorities)) (idle : τ) : Prop where
  nonempty : tasks ≠ []
  nodup : (tasks.map Prod.fst).Nodup
  all : ∀ t, t = idle ∨ t ∈ tasks.map Prod.fst
  notIdle : idle ∉ tasks.map Prod.fst

lemma tasks_mainTasks : Tasks mainTasks .prvIdleTask where
  nonempty := by simp [mainTasks]
  nodup := by simp [mainTasks]
  all := by rintro (_ | _ | _) <;> simp [mainTasks]
  notIdle := by simp [mainTasks]

/-- The priority of a task; the idle task has the lowest. -/
def priorityOf {τ : Type} [DecidableEq τ] (tasks : List (τ × Fin configMaxPriorities)) (t : τ) :
    Fin configMaxPriorities :=
  (tasks.lookup t).getD tskIdlePriority

namespace System

open Kernel

variable {τ : Type} [DecidableEq τ] {tasks : List (τ × Fin configMaxPriorities)} {idle : τ}

/-- The tasks have the priorities that they are created with. -/
lemma uxPriority_started (h : Tasks tasks idle) (m : ListMem TaskList (TcbItem τ))
    (uxPriority : τ → Fin configMaxPriorities) :
    (Kernel.started m uxPriority tasks idle).uxPriority = priorityOf tasks := by
  have hstarted : (Kernel.started m uxPriority tasks idle).uxPriority =
      Function.update ((zeroed m uxPriority).createTasks tasks).uxPriority idle tskIdlePriority :=
    uxPriority_xTaskCreate _ _ _
  funext t
  rw [hstarted, priorityOf]
  rcases hp : tasks.lookup t with _ | p
  · have hnot : t ∉ tasks.map Prod.fst := by
      intro hmem
      obtain ⟨task, htask, rfl⟩ := List.mem_map.mp hmem
      rw [List.lookup_eq_none_iff] at hp
      simpa using hp task htask
    obtain rfl : t = idle := (h.all t).resolve_right hnot
    rw [Function.update_self]
    rfl
  · obtain ⟨us, vs, htasks, -⟩ := List.lookup_eq_some_iff.mp hp
    have ht : (t, p) ∈ tasks := by simp [htasks]
    have hne : t ≠ idle := by
      rintro rfl
      exact h.notIdle (List.mem_map_of_mem ht)
    rw [Function.update_of_ne hne]
    exact uxPriority_createTasks h.nodup ht

/-- The invariant holds when the first task starts. -/
theorem inv_started (h : Tasks tasks idle) (m : ListMem TaskList (TcbItem τ))
    (uxPriority : τ → Fin configMaxPriorities) :
    ∃ c time wake cur, Inv idle (priorityOf tasks) (started m uxPriority tasks idle)
      (Log.ofEvents []) c time wake cur := by
  obtain ⟨c₀, created, hcreated, hmem⟩ := created_createTasks m uxPriority h.nonempty h.nodup
  have hidle : idle ∉ created := by
    rw [hmem]
    exact h.notIdle
  obtain ⟨c, hc⟩ := hcreated.xTaskCreate hidle tskIdlePriority
  obtain ⟨cur, hcur, hcurmem, hmax⟩ := hc.current
  have hall : ∀ t, t ∈ idle :: created := by
    intro t
    rw [List.mem_cons, hmem]
    exact h.all t
  have hdelayed : c ((((zeroed m uxPriority).createTasks tasks).xTaskCreate idle tskIdlePriority).1
      ).pxDelayedTaskList = [] := by
    rcases hc.shape.delayedLists with ⟨h₁, -⟩ | ⟨h₁, -⟩
    · rw [h₁]
      exact hc.noDelay.1
    · rw [h₁]
      exact hc.noDelay.2
  have hoverflow : c ((((zeroed m uxPriority).createTasks tasks).xTaskCreate idle tskIdlePriority).1
      ).pxOverflowDelayedTaskList = [] := by
    rcases hc.shape.delayedLists with ⟨-, h₁⟩ | ⟨-, h₁⟩
    · rw [h₁]
      exact hc.noDelay.2
    · rw [h₁]
      exact hc.noDelay.1
  have htimed : (Kernel.started m uxPriority tasks idle).Timed c 0 fun _ => 0 := by
    refine ⟨⟨hc.shape.congr rfl rfl rfl rfl rfl, rfl, ?_, ?_, ?_, ?_, fun _ _ => le_rfl⟩, ?_, ?_⟩
    · exact hdelayed ▸ List.Pairwise.nil
    · exact hoverflow ▸ List.Pairwise.nil
    · intro t ht
      have ht' := hdelayed ▸ ht
      exact absurd ht' (by simp)
    · intro t ht
      have ht' := hoverflow ▸ ht
      exact absurd ht' (by simp)
    · intro t ht
      have ht' := hdelayed ▸ ht
      exact absurd ht' (by simp)
    · have hnext : (Kernel.started m uxPriority tasks idle).nextWake c = portMaxDelay := by
        rw [nextWake]
        exact hdelayed ▸ rfl
      exact hnext.symm
  refine ⟨c, 0, fun _ => 0, cur, uxPriority_started h m uxPriority, htimed, hcur, hc.tasks, ?_, rfl,
    ?_, ?_, ?_, ?_, ?_, ?_, ?_, ?_, ?_⟩
  · intro t
    exact htimed.toShape.placed (hc.shape.ready_iff.mp (hc.ready t (hall t)))
  · show 0 = 0 + (Kernel.started m uxPriority tasks idle).xPendedTicks.toNat
    rw [Nat.zero_add]
    exact (congrArg BitVec.toNat hc.pended).symm
  · intro t n hn
    cases hn
  · intro t _
    rfl
  · intro t _
    rfl
  · intro hl
    cases hl
  · intro _
    refine ⟨hc.suspended, hc.pended, ?_⟩
    intro hy
    exact absurd (hc.yieldPending.symm.trans hy) (by simp)
  · intro t _
    exact hc.ready t (hall t)
  · intro hy
    cases hy
  · intro _ u _
    exact hmax u (hall u)

/-- The invariant holds along every run of the system. -/
theorem inv_of_run (h : Tasks tasks idle) {m : ListMem TaskList (TcbItem τ)}
    {uxPriority : τ → Fin configMaxPriorities} {es : List (Event τ)} {s : System τ}
    (hrun : Run idle (started m uxPriority tasks idle) es s) :
    ∃ c time wake cur, Inv idle (priorityOf tasks) s (Log.ofEvents es) c time wake cur :=
  Inv.run (inv_started h m uxPriority) hrun

end System

end Enc624j600.Rtos
