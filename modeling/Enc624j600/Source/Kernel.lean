/-
# The scheduler

The functions of `tasks.c` that create the tasks of the application, count the ticks, put a task
to sleep and choose the task that runs, in the configuration of `FreeRTOSConfig.h`: one core,
preemption, time slices, the task selection of the port, no timers and no hooks but that of the
check for a stack overflow.  A failed `configASSERT`, which stops the processor, is `none`, and so
is a read through a `NULL` pointer or behind an array.

The stacks of the tasks are not modelled.  `configCHECK_FOR_STACK_OVERFLOW` is 2, so that
`vTaskSwitchContext` runs `taskCHECK_FOR_STACK_OVERFLOW`, whose hook in `main.c` never returns; this
check is left out.
-/
import Enc624j600.Source.Lists

namespace Enc624j600.Rtos

/-- `UBaseType_t`, where its width matters. -/
abbrev UBaseType : Type := BitVec 32

/-- `configMAX_PRIORITIES`. -/
abbrev configMaxPriorities : ℕ := 5

/-- `tskIDLE_PRIORITY`. -/
def tskIdlePriority : Fin configMaxPriorities := ⟨0, by decide⟩

/-- `configASSERT`. -/
def configAssert (x : Prop) [Decidable x] : Option Unit := if x then some () else none

/-- The lists of the scheduler. -/
inductive TaskList where
  /-- An entry of `pxReadyTasksLists`. -/
  | ready (uxPriority : Fin configMaxPriorities)
  | xDelayedTaskList1
  | xDelayedTaskList2
  | xPendingReadyList
  | xTasksWaitingTermination
  | xSuspendedTaskList
deriving DecidableEq, Repr

/-- The list items of a task control block. -/
inductive TcbItem (τ : Type) where
  | xStateListItem (pxTCB : τ)
  | xEventListItem (pxTCB : τ)
deriving DecidableEq, Repr

/-- `pvOwner`, which `prvInitialiseNewTask` sets. -/
def TcbItem.pvOwner {τ : Type} : TcbItem τ → τ
  | .xStateListItem t => t
  | .xEventListItem t => t

/-- The variables of the scheduler; `τ` names the task control blocks. -/
structure Kernel (τ : Type) where
  lists : ListMem TaskList (TcbItem τ)
  /-- The field `uxPriority` of the blocks. -/
  uxPriority : τ → Fin configMaxPriorities
  pxCurrentTCB : Option τ
  pxDelayedTaskList : TaskList
  pxOverflowDelayedTaskList : TaskList
  uxCurrentNumberOfTasks : ℕ
  xTickCount : TickType
  uxTopReadyPriority : UBaseType
  xSchedulerRunning : Bool
  xPendedTicks : TickType
  xYieldPending : Bool
  xNumOfOverflows : BitVec 32
  xNextTaskUnblockTime : TickType
  uxSchedulerSuspended : ℕ

namespace Kernel

variable {τ : Type} [DecidableEq τ]

/-- Replace the lists. -/
def setLists (k : Kernel τ) (lists : ListMem TaskList (TcbItem τ)) : Kernel τ :=
  { k with lists := lists }

/-- Replace the lists and the task that runs. -/
def setCurrent (k : Kernel τ) (lists : ListMem TaskList (TcbItem τ)) (pxCurrentTCB : τ) :
    Kernel τ :=
  { k with lists := lists, pxCurrentTCB := some pxCurrentTCB }

/-- Replace `xNextTaskUnblockTime`. -/
def setNextTaskUnblockTime (k : Kernel τ) (v : TickType) : Kernel τ :=
  { k with xNextTaskUnblockTime := v }

/-- `listGET_OWNER_OF_HEAD_ENTRY`. -/
def ownerOfHeadEntry (k : Kernel τ) (l : TaskList) : Option τ :=
  (k.lists.listHeadEntry l).item?.map TcbItem.pvOwner

/-! ## Ready lists -/

/-- `portRECORD_READY_PRIORITY`. -/
def portRecordReadyPriority (uxPriority : Fin configMaxPriorities)
    (uxReadyPriorities : UBaseType) : UBaseType :=
  uxReadyPriorities ||| (1#32 <<< (uxPriority : ℕ))

/-- `portRESET_READY_PRIORITY`. -/
def portResetReadyPriority (uxPriority : Fin configMaxPriorities)
    (uxReadyPriorities : UBaseType) : UBaseType :=
  uxReadyPriorities &&& ~~~(1#32 <<< (uxPriority : ℕ))

/-- `portGET_HIGHEST_PRIORITY`. -/
def portGetHighestPriority (uxReadyPriorities : UBaseType) : UBaseType :=
  31#32 - uxReadyPriorities.clz

/-- `prvAddTaskToReadyList`, with `taskRECORD_READY_PRIORITY`. -/
def prvAddTaskToReadyList (k : Kernel τ) (pxTCB : τ) : Kernel τ :=
  { k with
    uxTopReadyPriority := portRecordReadyPriority (k.uxPriority pxTCB) k.uxTopReadyPriority
    lists := k.lists.vListInsertEnd (.ready (k.uxPriority pxTCB)) (.xStateListItem pxTCB) }

/-- `taskSELECT_HIGHEST_PRIORITY_TASK`. -/
def taskSelectHighestPriorityTask (k : Kernel τ) : Option (Kernel τ) := do
  let uxTopPriority := portGetHighestPriority k.uxTopReadyPriority
  let i ←
    if h : uxTopPriority.toNat < configMaxPriorities then
      some (⟨uxTopPriority.toNat, h⟩ : Fin configMaxPriorities)
    else none
  configAssert (k.lists.uxNumberOfItems (.ready i) > 0)
  let lists := k.lists.listAdvanceIndex (.ready i)
  let pxCurrentTCB ← (lists.pxIndex (.ready i)).item?
  return k.setCurrent lists pxCurrentTCB.pvOwner

/-- `vTaskSwitchContext`, without the check of the stack. -/
def vTaskSwitchContext (k : Kernel τ) : Option (Kernel τ) :=
  if k.uxSchedulerSuspended ≠ 0 then
    some { k with xYieldPending := true }
  else
    taskSelectHighestPriorityTask { k with xYieldPending := false }

/-! ## Delayed lists -/

/-- `prvResetNextTaskUnblockTime`. -/
def prvResetNextTaskUnblockTime (k : Kernel τ) : Kernel τ :=
  if k.lists.listIsEmpty k.pxDelayedTaskList then
    k.setNextTaskUnblockTime portMaxDelay
  else
    k.setNextTaskUnblockTime (k.lists.listItemValueOfHeadEntry k.pxDelayedTaskList)

/-- `taskSWITCH_DELAYED_LISTS`. -/
def taskSwitchDelayedLists (k : Kernel τ) : Option (Kernel τ) := do
  configAssert (k.lists.listIsEmpty k.pxDelayedTaskList = true)
  return prvResetNextTaskUnblockTime
    { k with
      pxDelayedTaskList := k.pxOverflowDelayedTaskList
      pxOverflowDelayedTaskList := k.pxDelayedTaskList
      xNumOfOverflows := k.xNumOfOverflows + 1 }

/-- The first part of `prvAddCurrentTaskToDelayedList`: the task leaves its ready list. -/
def leaveReadyList (k : Kernel τ) (pxTCB : τ) : Option (Kernel τ) := do
  let (lists, length) ← k.lists.uxListRemove (.xStateListItem pxTCB)
  return { k with
    lists := lists
    uxTopReadyPriority :=
      if length = 0 then portResetReadyPriority (k.uxPriority pxTCB) k.uxTopReadyPriority
      else k.uxTopReadyPriority }

/-- `listSET_LIST_ITEM_VALUE` of the state item of a task. -/
def setStateItemValue (k : Kernel τ) (pxTCB : τ) (v : TickType) : Kernel τ :=
  k.setLists (k.lists.setItemValue (.item (.xStateListItem pxTCB)) v)

/-- The second part of `prvAddCurrentTaskToDelayedList`: the task enters a delayed list. -/
def enterDelayedList (k : Kernel τ) (pxTCB : τ) (xConstTickCount xTimeToWake : TickType) :
    Option (Kernel τ) :=
  let k := k.setStateItemValue pxTCB xTimeToWake
  if xTimeToWake < xConstTickCount then do
    let lists ← k.lists.vListInsert k.pxOverflowDelayedTaskList (.xStateListItem pxTCB)
    return k.setLists lists
  else do
    let lists ← k.lists.vListInsert k.pxDelayedTaskList (.xStateListItem pxTCB)
    let k := k.setLists lists
    return if xTimeToWake < k.xNextTaskUnblockTime then k.setNextTaskUnblockTime xTimeToWake
      else k

/-- `prvAddCurrentTaskToDelayedList`. -/
def prvAddCurrentTaskToDelayedList (k : Kernel τ) (xTicksToWait : TickType)
    (xCanBlockIndefinitely : Bool) : Option (Kernel τ) := do
  let xConstTickCount := k.xTickCount
  let current ← k.pxCurrentTCB
  let k ← k.leaveReadyList current
  if xTicksToWait = portMaxDelay ∧ xCanBlockIndefinitely = true then
    return k.setLists (k.lists.vListInsertEnd .xSuspendedTaskList (.xStateListItem current))
  else
    k.enterDelayedList current xConstTickCount (xConstTickCount + xTicksToWait)

/-! ## Ticks -/

/-- Take a task off the lists it waits in: the end of its delay. -/
def removeFromWait (k : Kernel τ) (pxTCB : τ) : Option (Kernel τ) := do
  let (lists, _) ← k.lists.uxListRemove (.xStateListItem pxTCB)
  if lists.pxContainer (.xEventListItem pxTCB) ≠ none then
    let (lists, _) ← lists.uxListRemove (.xEventListItem pxTCB)
    return k.setLists lists
  else
    return k.setLists lists

/-- The loop of `xTaskIncrementTick` over the delayed tasks, with `xSwitchRequired`. -/
def unblockTasks (xConstTickCount : TickType) : ℕ → Kernel τ → Bool → Option (Kernel τ × Bool)
  | 0, _, _ => none
  | fuel + 1, k, xSwitchRequired =>
    if k.lists.listIsEmpty k.pxDelayedTaskList then
      some (k.setNextTaskUnblockTime portMaxDelay, xSwitchRequired)
    else do
      let pxTCB ← k.ownerOfHeadEntry k.pxDelayedTaskList
      let xItemValue := k.lists.xItemValue (.item (.xStateListItem pxTCB))
      if xConstTickCount < xItemValue then
        return (k.setNextTaskUnblockTime xItemValue, xSwitchRequired)
      else
        let k ← k.removeFromWait pxTCB
        let k := k.prvAddTaskToReadyList pxTCB
        let current ← k.pxCurrentTCB
        unblockTasks xConstTickCount fuel k
          (xSwitchRequired || decide (k.uxPriority pxTCB > k.uxPriority current))

/-- The first part of `xTaskIncrementTick`: the count. -/
def countTick (k : Kernel τ) (xConstTickCount : TickType) : Option (Kernel τ) :=
  let k := { k with xTickCount := xConstTickCount }
  if xConstTickCount = 0 then k.taskSwitchDelayedLists else some k

/-- The second part of `xTaskIncrementTick`: the tasks whose time has come. -/
def wakeTasks (k : Kernel τ) (xConstTickCount : TickType) : Option (Kernel τ × Bool) :=
  if xConstTickCount ≥ k.xNextTaskUnblockTime then
    unblockTasks xConstTickCount (k.lists.uxNumberOfItems k.pxDelayedTaskList + 1) k false
  else some (k, false)

/-- The kernel and whether a context switch is required. -/
def xTaskIncrementTick (k : Kernel τ) : Option (Kernel τ × Bool) :=
  if k.uxSchedulerSuspended = 0 then do
    let xConstTickCount := k.xTickCount + 1
    let k ← k.countTick xConstTickCount
    let (k, xSwitchRequired) ← k.wakeTasks xConstTickCount
    let current ← k.pxCurrentTCB
    let sharing := decide (k.lists.uxNumberOfItems (.ready (k.uxPriority current)) > 1)
    return (k, xSwitchRequired || sharing || k.xYieldPending)
  else
    some ({ k with xPendedTicks := k.xPendedTicks + 1 }, false)

/-- `xTaskGetTickCount`. -/
def xTaskGetTickCount (k : Kernel τ) : TickType := k.xTickCount

/-! ## Suspension of the scheduler -/

/-- `vTaskSuspendAll`. -/
def vTaskSuspendAll (k : Kernel τ) : Kernel τ :=
  { k with uxSchedulerSuspended := k.uxSchedulerSuspended + 1 }

/-- Remember that a context switch is required. -/
def pendYield (k : Kernel τ) (required : Bool) : Kernel τ :=
  if required then { k with xYieldPending := true } else k

/-- The loop of `xTaskResumeAll` over the tasks of `xPendingReadyList`, and whether it moved any. -/
def movePendingReady : ℕ → Kernel τ → Bool → Option (Kernel τ × Bool)
  | 0, _, _ => none
  | fuel + 1, k, moved =>
    if k.lists.listIsEmpty .xPendingReadyList then
      some (k, moved)
    else do
      let pxTCB ← k.ownerOfHeadEntry .xPendingReadyList
      let (lists, _) ← k.lists.uxListRemove (.xEventListItem pxTCB)
      let (lists, _) ← lists.uxListRemove (.xStateListItem pxTCB)
      let k := (k.setLists lists).prvAddTaskToReadyList pxTCB
      let current ← k.pxCurrentTCB
      let k := k.pendYield (decide (k.uxPriority pxTCB > k.uxPriority current))
      movePendingReady fuel k true

/-- The loop of `xTaskResumeAll` over the ticks that came in the meantime. -/
def unwindPendedTicks : ℕ → Kernel τ → Option (Kernel τ)
  | 0, k => some k
  | xPendedCounts + 1, k => do
    let (k, xSwitchRequired) ← k.xTaskIncrementTick
    unwindPendedTicks xPendedCounts (k.pendYield xSwitchRequired)

/-- The kernel and `xAlreadyYielded`: the software interrupt is triggered when that is true. -/
def xTaskResumeAll (k : Kernel τ) : Option (Kernel τ × Bool) := do
  configAssert (k.uxSchedulerSuspended ≠ 0)
  let k := { k with uxSchedulerSuspended := k.uxSchedulerSuspended - 1 }
  if k.uxSchedulerSuspended = 0 ∧ k.uxCurrentNumberOfTasks > 0 then
    let (k, moved) ←
      movePendingReady (k.lists.uxNumberOfItems .xPendingReadyList + 1) k false
    let k := if moved then k.prvResetNextTaskUnblockTime else k
    let k ← unwindPendedTicks k.xPendedTicks.toNat k
    return ({ k with xPendedTicks := 0 }, k.xYieldPending)
  else
    return (k, false)

/-! ## The start -/

/-- `prvInitialiseTaskLists`. -/
def prvInitialiseTaskLists (k : Kernel τ) : Kernel τ :=
  let lists := (List.finRange configMaxPriorities).foldl
    (fun lists uxPriority => lists.vListInitialise (.ready uxPriority)) k.lists
  let lists := lists.vListInitialise .xDelayedTaskList1
  let lists := lists.vListInitialise .xDelayedTaskList2
  let lists := lists.vListInitialise .xPendingReadyList
  let lists := lists.vListInitialise .xTasksWaitingTermination
  let lists := lists.vListInitialise .xSuspendedTaskList
  { k with
    lists := lists
    pxDelayedTaskList := .xDelayedTaskList1
    pxOverflowDelayedTaskList := .xDelayedTaskList2 }

/-- The part of `prvInitialiseNewTask` that the scheduler reads.  The priority is given in its
range, which the function asserts. -/
def prvInitialiseNewTask (k : Kernel τ) (pxNewTCB : τ) (uxPriority : Fin configMaxPriorities) :
    Kernel τ :=
  let lists := k.lists.vListInitialiseItem (.xStateListItem pxNewTCB)
  let lists := lists.vListInitialiseItem (.xEventListItem pxNewTCB)
  let lists := lists.setItemValue (.item (.xEventListItem pxNewTCB))
    (BitVec.ofNat 32 configMaxPriorities - BitVec.ofNat 32 uxPriority)
  { k with
    lists := lists
    uxPriority := Function.update k.uxPriority pxNewTCB uxPriority }

/-- The part of `prvAddNewTaskToReadyList` that sets the lists up and chooses the task that is to
run first. -/
def chooseFirstTask (k : Kernel τ) (pxNewTCB : τ) : Kernel τ :=
  match k.pxCurrentTCB with
  | none =>
    let k := { k with pxCurrentTCB := some pxNewTCB }
    if k.uxCurrentNumberOfTasks = 1 then k.prvInitialiseTaskLists else k
  | some current =>
    if k.xSchedulerRunning = false ∧ k.uxPriority current ≤ k.uxPriority pxNewTCB then
      { k with pxCurrentTCB := some pxNewTCB }
    else k

/-- The kernel and whether the new task makes the running one yield. -/
def prvAddNewTaskToReadyList (k : Kernel τ) (pxNewTCB : τ) : Kernel τ × Bool :=
  let k := { k with uxCurrentNumberOfTasks := k.uxCurrentNumberOfTasks + 1 }
  let k := (k.chooseFirstTask pxNewTCB).prvAddTaskToReadyList pxNewTCB
  (k, k.xSchedulerRunning && (k.pxCurrentTCB.any fun current =>
    decide (k.uxPriority current < k.uxPriority pxNewTCB)))

/-- `xTaskCreate`, behind the allocation of the block and of the stack. -/
def xTaskCreate (k : Kernel τ) (pxNewTCB : τ) (uxPriority : Fin configMaxPriorities) :
    Kernel τ × Bool :=
  (k.prvInitialiseNewTask pxNewTCB uxPriority).prvAddNewTaskToReadyList pxNewTCB

/-- `vTaskStartScheduler`, between the creation of the idle task and the first task's start. -/
def vTaskStartScheduler (k : Kernel τ) : Kernel τ :=
  { k with
    xNextTaskUnblockTime := portMaxDelay
    xSchedulerRunning := true
    xTickCount := 0 }

/-- The variables before `main`: zero, and no list is initialised.  What the list items then hold
besides is not read and left open. -/
def zeroed (m : ListMem TaskList (TcbItem τ)) (uxPriority : τ → Fin configMaxPriorities) :
    Kernel τ where
  lists := { m with pxContainer := fun _ => none }
  uxPriority := uxPriority
  pxCurrentTCB := none
  pxDelayedTaskList := .xDelayedTaskList1
  pxOverflowDelayedTaskList := .xDelayedTaskList2
  uxCurrentNumberOfTasks := 0
  xTickCount := 0
  uxTopReadyPriority := 0
  xSchedulerRunning := false
  xPendedTicks := 0
  xYieldPending := false
  xNumOfOverflows := 0
  xNextTaskUnblockTime := 0
  uxSchedulerSuspended := 0

end Kernel

/-! ## The tasks of the application -/

/-- The tasks that `main` creates, and the idle task. -/
inductive MainTask where
  | myFirstTask
  | mySecondTask
  | prvIdleTask
deriving DecidableEq, Repr

/-- The calls of `xTaskCreate` in `main`, with their priorities. -/
def mainTasks : List (MainTask × Fin configMaxPriorities) :=
  [(.myFirstTask, 1), (.mySecondTask, 2)]

end Enc624j600.Rtos
