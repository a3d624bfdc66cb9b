/-
# Delays and ticks

Time is the number of ticks that the kernel has counted, without the wrap of `xTickCount`, and each
task has a time at which it wakes.  The list `pxDelayedTaskList` holds the tasks that wake before
the tick count wraps, the list `pxOverflowDelayedTaskList` those that wake behind the wrap, and a
tick makes exactly those tasks ready whose time has come.
-/
import Enc624j600.Kernel.Ready

namespace Enc624j600.Rtos

open LinkedRing

namespace Kernel

variable {τ : Type} {k k' k'' : Kernel τ} {c : TaskList → List (TcbItem τ)}
variable {t u cur : τ} {time : ℕ} {wake : τ → ℕ} {l : TaskList}

/-- The item value of a list item. -/
abbrev value (k : Kernel τ) (x : TcbItem τ) : ℕ := (k.lists.xItemValue (.item x)).toNat

/-- The task is in some list. -/
def Placed (k : Kernel τ) (t : τ) : Prop := k.lists.pxContainer (.xStateListItem t) ≠ none

/-- The value of the first item of the delayed list, or `portMAX_DELAY`. -/
def nextWake (k : Kernel τ) (c : TaskList → List (TcbItem τ)) : TickType :=
  match c k.pxDelayedTaskList with
  | [] => portMaxDelay
  | x :: _ => k.lists.xItemValue (.item x)

lemma nextWake_congr {c' : TaskList → List (TcbItem τ)}
    (hdelayed : c' k'.pxDelayedTaskList = c k.pxDelayedTaskList)
    (hvalue : k'.lists.xItemValue = k.lists.xItemValue) : k'.nextWake c' = k.nextWake c := by
  rw [nextWake, nextWake, hdelayed, hvalue]

/-- The delayed tasks by their times; some may be due at the present tick. -/
structure Due (k : Kernel τ) (c : TaskList → List (TcbItem τ)) (time : ℕ) (wake : τ → ℕ) : Prop
    extends k.Shape c where
  tick : k.xTickCount = BitVec.ofNat 32 time
  sorted : (c k.pxDelayedTaskList).Pairwise fun x y => k.value x ≤ k.value y
  sortedOverflow : (c k.pxOverflowDelayedTaskList).Pairwise fun x y => k.value x ≤ k.value y
  delayed : ∀ t, .xStateListItem t ∈ c k.pxDelayedTaskList →
    wake t = time / 2 ^ 32 * 2 ^ 32 + k.value (.xStateListItem t) ∧ time ≤ wake t
  overflow : ∀ t, .xStateListItem t ∈ c k.pxOverflowDelayedTaskList →
    wake t = (time / 2 ^ 32 + 1) * 2 ^ 32 + k.value (.xStateListItem t)
  readyDue : ∀ t, k.Ready t → wake t ≤ time

/-- Between the ticks no delayed task is due, and `xNextTaskUnblockTime` is exact. -/
structure Timed (k : Kernel τ) (c : TaskList → List (TcbItem τ)) (time : ℕ) (wake : τ → ℕ) : Prop
    extends k.Due c time wake where
  asleep : ∀ t, .xStateListItem t ∈ c k.pxDelayedTaskList → time < wake t
  next : k.xNextTaskUnblockTime = k.nextWake c

/-- The variables that a tick leaves as they are. -/
structure Frame (k k' : Kernel τ) : Prop where
  uxPriority : k'.uxPriority = k.uxPriority
  pxCurrentTCB : k'.pxCurrentTCB = k.pxCurrentTCB
  uxCurrentNumberOfTasks : k'.uxCurrentNumberOfTasks = k.uxCurrentNumberOfTasks
  xSchedulerRunning : k'.xSchedulerRunning = k.xSchedulerRunning
  xPendedTicks : k'.xPendedTicks = k.xPendedTicks
  uxSchedulerSuspended : k'.uxSchedulerSuspended = k.uxSchedulerSuspended

lemma Frame.refl (k : Kernel τ) : Frame k k := ⟨rfl, rfl, rfl, rfl, rfl, rfl⟩

lemma Frame.trans (h : Frame k k') (h' : Frame k' k'') : Frame k k'' where
  uxPriority := h'.uxPriority.trans h.uxPriority
  pxCurrentTCB := h'.pxCurrentTCB.trans h.pxCurrentTCB
  uxCurrentNumberOfTasks := h'.uxCurrentNumberOfTasks.trans h.uxCurrentNumberOfTasks
  xSchedulerRunning := h'.xSchedulerRunning.trans h.xSchedulerRunning
  xPendedTicks := h'.xPendedTicks.trans h.xPendedTicks
  uxSchedulerSuspended := h'.uxSchedulerSuspended.trans h.uxSchedulerSuspended

/-- No ready task has to wait for more turns of others. -/
def Patient [DecidableEq τ] (k k' : Kernel τ) : Prop :=
  ∀ u p n j, k.lists.Waits (.ready p) (.xStateListItem u) n j →
    k'.lists.Waits (.ready p) (.xStateListItem u) n j

/-- What a tick may do to the tasks while `cur` runs: no task is lost, a task of a higher
priority does not become ready without a request for a context switch, and the others keep their
turns. -/
structure Woken [DecidableEq τ] (cur : τ) (k k' : Kernel τ) (xSwitchRequired : Bool) : Prop where
  frame : Frame k k'
  yieldPending : k'.xYieldPending = k.xYieldPending
  placed : ∀ u, k.Placed u → k'.Placed u
  ready : ∀ u, k'.Ready u →
    k.Ready u ∨ k.uxPriority u ≤ k.uxPriority cur ∨ xSwitchRequired = true
  patient : Patient k k'

/-- A change that leaves the lists as they are. -/
lemma Woken.of_lists [DecidableEq τ] {sw : Bool} (h : Frame k k')
    (hyield : k'.xYieldPending = k.xYieldPending)
    (hlists : k'.lists = k.lists) : Woken cur k k' sw where
  frame := h
  yieldPending := hyield
  placed u hu := by rwa [Placed, hlists]
  ready u hu := by
    rw [Ready, hlists, h.uxPriority] at hu
    exact .inl hu
  patient u p n j hu := by rwa [hlists]

lemma Woken.trans [DecidableEq τ] {sw sw' : Bool} (h : Woken cur k k' sw)
    (h' : Woken cur k' k'' sw') (hsw : sw = true → sw' = true) : Woken cur k k'' sw' where
  frame := h.frame.trans h'.frame
  yieldPending := h'.yieldPending.trans h.yieldPending
  placed u hu := h'.placed u (h.placed u hu)
  ready u hu := by
    rcases h'.ready u hu with hr | hr | hr
    · rcases h.ready u hr with hr' | hr' | hr'
      · exact .inl hr'
      · exact .inr (.inl hr')
      · exact .inr (.inr (hsw hr'))
    · rw [h.frame.uxPriority] at hr
      exact .inr (.inl hr)
    · exact .inr (.inr hr)
  patient u p n j hu := h'.patient u p n j (h.patient u p n j hu)

lemma Shape.exists_mem (h : k.Shape c) (hu : k.Placed u) : ∃ l, .xStateListItem u ∈ c l := by
  obtain ⟨l, hl⟩ := Option.ne_none_iff_exists'.mp hu
  exact ⟨l, (h.holds.container l _).mp hl⟩

lemma Shape.placed (h : k.Shape c) (hu : .xStateListItem u ∈ c l) : k.Placed u := by
  rw [Placed, (h.holds.container l _).mpr hu]
  simp

/-- A task is ready exactly when its time has come. -/
lemma Timed.ready_iff (h : k.Timed c time wake) (hu : k.Placed u) :
    k.Ready u ↔ wake u ≤ time := by
  refine ⟨h.readyDue u, fun hwake => ?_⟩
  obtain ⟨l, hl⟩ := h.toShape.exists_mem hu
  rcases h.place l (List.ne_nil_of_mem hl) with ⟨p, rfl⟩ | rfl | rfl
  · exact h.toShape.ready_of_mem hl
  · have hlt := h.asleep u hl
    omega
  · have heq := h.overflow u hl
    omega

/-- Delayed tasks may leave their lists. -/
lemma Due.sublist {c' : TaskList → List (TcbItem τ)} (h : k.Due c time wake) (h' : k'.Shape c')
    (htick : k'.xTickCount = k.xTickCount)
    (hdelayed : k'.pxDelayedTaskList = k.pxDelayedTaskList)
    (hoverflow : k'.pxOverflowDelayedTaskList = k.pxOverflowDelayedTaskList)
    (hvalue : ∀ x, k'.value x = k.value x)
    (hsub : List.Sublist (c' k.pxDelayedTaskList) (c k.pxDelayedTaskList))
    (hsub' : List.Sublist (c' k.pxOverflowDelayedTaskList) (c k.pxOverflowDelayedTaskList))
    (hready : ∀ u, k'.Ready u → wake u ≤ time) : k'.Due c' time wake where
  toShape := h'
  tick := htick.trans h.tick
  sorted := by
    simp only [hdelayed, hvalue]
    exact h.sorted.sublist hsub
  sortedOverflow := by
    simp only [hoverflow, hvalue]
    exact h.sortedOverflow.sublist hsub'
  delayed := by
    intro u hu
    rw [hdelayed] at hu
    rw [hvalue]
    exact h.delayed u (hsub.subset hu)
  overflow := by
    intro u hu
    rw [hoverflow] at hu
    rw [hvalue]
    exact h.overflow u (hsub'.subset hu)
  readyDue := hready

/-! ### Entering a delayed list -/

/-- A list of delayed tasks takes in a task. -/
lemma Shape.insertDelayed (h : k.Shape c)
    (hl : l = k.pxDelayedTaskList ∨ l = k.pxOverflowDelayedTaskList)
    {lists : ListMem TaskList (TcbItem τ)} {q : TcbItem τ → Bool}
    (hholds : lists.Holds (Function.update c l (insertWhile q (.xStateListItem t) (c l)))) :
    (k.setLists lists).Shape (Function.update c l (insertWhile q (.xStateListItem t) (c l))) := by
  have hready : ∀ p, Function.update c l (insertWhile q (.xStateListItem t) (c l)) (.ready p) =
      c (.ready p) := by
    intro p
    refine Function.update_of_ne ?_ _ _
    rcases hl with rfl | rfl
    · exact h.delayed_ne_ready.symm
    · exact h.overflow_ne_ready.symm
  refine ⟨hholds, h.delayedLists, ?_, ?_, ?_, ?_⟩
  · intro l' x hx
    by_cases hll : l' = l
    · subst hll
      rw [Function.update_self, mem_insertWhile] at hx
      rcases hx with rfl | hx
      · exact ⟨t, rfl⟩
      · exact h.stateItem l' x hx
    · rw [Function.update_of_ne hll] at hx
      exact h.stateItem l' x hx
  · intro l' hne
    by_cases hll : l' = l
    · subst hll
      exact .inr hl
    · rw [Function.update_of_ne hll] at hne
      exact h.place l' hne
  · intro p u hu
    rw [hready] at hu
    exact h.priority p u hu
  · intro i
    simp only [hready]
    exact h.bits i

/-- The first item of a sorted list that takes in an item. -/
lemma nextWake_insert (hnext : k.xNextTaskUnblockTime = k.nextWake c)
    (lists : ListMem TaskList (TcbItem τ)) (hvalue : lists.xItemValue = k.lists.xItemValue) :
    (k.setLists lists).nextWake (Function.update c k.pxDelayedTaskList
        (insertWhile (k.lists.notBehind (.xStateListItem t)) (.xStateListItem t)
          (c k.pxDelayedTaskList))) =
      if k.lists.xItemValue (.item (.xStateListItem t)) < k.xNextTaskUnblockTime then
        k.lists.xItemValue (.item (.xStateListItem t))
      else k.xNextTaskUnblockTime := by
  rw [hnext]
  show (match Function.update c k.pxDelayedTaskList _ k.pxDelayedTaskList with
    | [] => portMaxDelay
    | x :: _ => lists.xItemValue (.item x)) = _
  rw [Function.update_self, nextWake, hvalue]
  match hc : c k.pxDelayedTaskList with
  | [] =>
    show k.lists.xItemValue (.item (.xStateListItem t)) = _
    split_ifs with hlt
    · rfl
    · exact portMaxDelay_le_iff.mp (BitVec.not_lt.mp hlt)
  | x :: rest =>
    by_cases hle : k.lists.xItemValue (.item x) ≤ k.lists.xItemValue (.item (.xStateListItem t))
    · rw [if_neg (BitVec.not_lt.mpr hle)]
      have hp : k.lists.notBehind (.xStateListItem t) x = true := decide_eq_true hle
      rw [insertWhile, List.takeWhile_cons_of_pos hp]
      rfl
    · rw [if_pos (BitVec.not_le.mp hle)]
      have hp : ¬ k.lists.notBehind (.xStateListItem t) x = true := by
        rwa [ListMem.notBehind, decide_eq_true_iff]
      rw [insertWhile, List.takeWhile_cons_of_neg hp]
      rfl

/-! ### The count of a tick -/

lemma Due.setNext (h : k.Due c time wake) (v : TickType) :
    (k.setNextTaskUnblockTime v).Due c time wake :=
  h.sublist (h.toShape.congr rfl rfl rfl rfl rfl) rfl rfl rfl (fun _ => rfl)
    (List.Sublist.refl _) (List.Sublist.refl _) h.readyDue

lemma Shape.prvResetNextTaskUnblockTime (h : k.Shape c) :
    k.prvResetNextTaskUnblockTime = k.setNextTaskUnblockTime (k.nextWake c) := by
  rw [Kernel.prvResetNextTaskUnblockTime]
  match hc : c k.pxDelayedTaskList with
  | [] =>
    rw [if_pos ((h.holds.isEmpty_iff _).mpr hc), nextWake, hc]
  | x :: rest =>
    have hempty : ¬ k.lists.listIsEmpty k.pxDelayedTaskList = true := by
      rw [h.holds.isEmpty_iff, hc]
      simp
    rw [if_neg hempty, nextWake, hc, ListMem.listItemValueOfHeadEntry, h.holds.headEntry, hc]
    rfl

/-- When the tick count wraps, no task is left that was to wake before. -/
lemma Timed.delayed_empty (h : k.Timed c time wake) (hwrap : (time + 1) % 2 ^ 32 = 0) :
    c k.pxDelayedTaskList = [] := by
  rw [List.eq_nil_iff_forall_not_mem]
  intro x hx
  obtain ⟨t, rfl⟩ := h.stateItem _ x hx
  have hwake := (h.delayed t hx).1
  have hlt := h.asleep t hx
  have hval := (k.lists.xItemValue (.item (.xStateListItem t))).isLt
  rw [value] at hwake
  omega

/-- The kernel behind the count of a tick and the switch of the lists. -/
private def switchedLists (k : Kernel τ) (time : ℕ) : Kernel τ :=
  { k with
    xTickCount := BitVec.ofNat 32 time
    pxDelayedTaskList := k.pxOverflowDelayedTaskList
    pxOverflowDelayedTaskList := k.pxDelayedTaskList
    xNumOfOverflows := k.xNumOfOverflows + 1 }

/-- The count of a tick, with the switch of the lists when it wraps. -/
lemma Timed.countTick [DecidableEq τ] (h : k.Timed c time wake) :
    ∃ k', k.countTick (BitVec.ofNat 32 (time + 1)) = some k' ∧
      k'.Due c (time + 1) wake ∧ k'.xNextTaskUnblockTime = k'.nextWake c ∧
      ∀ cur, Woken cur k k' false := by
  have hzero : BitVec.ofNat 32 (time + 1) = 0 ↔ (time + 1) % 2 ^ 32 = 0 := by
    rw [← BitVec.toNat_inj]
    simp
  rw [Kernel.countTick]
  by_cases hwrap : (time + 1) % 2 ^ 32 = 0
  · have hempty := h.delayed_empty hwrap
    have hdiv : (time + 1) / 2 ^ 32 = time / 2 ^ 32 + 1 := by omega
    rw [if_pos (hzero.mpr hwrap)]
    have hassert : k.lists.listIsEmpty k.pxDelayedTaskList = true :=
      (h.holds.isEmpty_iff _).mpr hempty
    have hshape : (switchedLists k (time + 1)).Shape c := by
      refine ⟨h.holds, h.delayedLists.symm.imp And.symm And.symm, h.stateItem, ?_, h.priority,
        h.bits⟩
      intro l hl
      rcases h.place l hl with hp | hd | ho
      · exact .inl hp
      · exact .inr (.inr hd)
      · exact .inr (.inl ho)
    have hdue : (switchedLists k (time + 1)).Due c (time + 1) wake := by
      refine ⟨hshape, rfl, h.sortedOverflow, ?_, ?_, ?_, ?_⟩
      · show List.Pairwise _ (c k.pxDelayedTaskList)
        rw [hempty]
        exact List.Pairwise.nil
      · intro u hu
        have heq := h.overflow u hu
        rw [hdiv]
        refine ⟨heq, ?_⟩
        omega
      · intro u hu
        have hmem : .xStateListItem u ∈ c k.pxDelayedTaskList := hu
        rw [hempty] at hmem
        simp at hmem
      · intro u hu
        have hle := h.readyDue u hu
        omega
    refine ⟨_, ?_, hdue.setNext ((switchedLists k (time + 1)).nextWake c), rfl, ?_⟩
    · rw [Kernel.taskSwitchDelayedLists]
      simp only [configAssert, hassert, if_true]
      exact congrArg some hshape.prvResetNextTaskUnblockTime
    · intro cur
      exact .of_lists ⟨rfl, rfl, rfl, rfl, rfl, rfl⟩ rfl rfl
  · have hdiv : (time + 1) / 2 ^ 32 = time / 2 ^ 32 := by omega
    rw [if_neg (fun he => hwrap (hzero.mp he))]
    refine ⟨_, rfl, ⟨h.toShape.congr rfl rfl rfl rfl rfl, rfl, h.sorted, h.sortedOverflow,
      ?_, ?_, ?_⟩, h.next, fun cur => .of_lists ⟨rfl, rfl, rfl, rfl, rfl, rfl⟩ rfl rfl⟩
    · intro u hu
      rw [hdiv]
      exact ⟨(h.delayed u hu).1, h.asleep u hu⟩
    · intro u hu
      rw [hdiv]
      exact h.overflow u hu
    · intro u hu
      have hle := h.readyDue u hu
      omega

/-! ### The loop over the delayed tasks -/

/-- The first item of the delayed list. -/
lemma Due.head (h : k.Due c time wake) {x : TcbItem τ} {rest : List (TcbItem τ)}
    (hc : c k.pxDelayedTaskList = x :: rest) :
    ∃ t, x = .xStateListItem t ∧ k.ownerOfHeadEntry k.pxDelayedTaskList = some t := by
  obtain ⟨t, rfl⟩ := h.stateItem k.pxDelayedTaskList x (by simp [hc])
  refine ⟨t, rfl, ?_⟩
  rw [ownerOfHeadEntry, h.holds.headEntry, hc]
  rfl

/-- A delayed task is due exactly when the tick count has reached its item value. -/
lemma Due.not_lt_value_iff (h : k.Due c time wake)
    (ht : .xStateListItem t ∈ c k.pxDelayedTaskList) :
    BitVec.ofNat 32 time < k.lists.xItemValue (.item (.xStateListItem t)) ↔ time < wake t := by
  obtain ⟨hwake, -⟩ := h.delayed t ht
  rw [value] at hwake
  rw [BitVec.lt_def, BitVec.toNat_ofNat, hwake]
  constructor
  · intro hlt
    omega
  · intro hlt
    omega

/-- When the first delayed task is not due, none is. -/
lemma Due.asleep_of_head (h : k.Due c time wake) {rest : List (TcbItem τ)}
    (hc : c k.pxDelayedTaskList = .xStateListItem t :: rest) (ht : time < wake t) :
    ∀ u, .xStateListItem u ∈ c k.pxDelayedTaskList → time < wake u := by
  intro u hu
  have htmem : .xStateListItem t ∈ c k.pxDelayedTaskList := by simp [hc]
  have hle : k.value (.xStateListItem t) ≤ k.value (.xStateListItem u) := by
    have hsorted := h.sorted
    rw [hc] at hsorted hu
    rcases List.mem_cons.mp hu with he | hmem
    · rw [he]
    · exact (List.pairwise_cons.mp hsorted).1 _ hmem
  have h₁ := (h.delayed t htmem).1
  have h₂ := (h.delayed u hu).1
  omega

lemma Due.setNextTaskUnblockTime (h : k.Due c time wake)
    (hasleep : ∀ u, .xStateListItem u ∈ c k.pxDelayedTaskList → time < wake u) :
    (k.setNextTaskUnblockTime (k.nextWake c)).Timed c time wake where
  toDue := h.setNext _
  asleep := hasleep
  next := rfl

variable [DecidableEq τ]

lemma Shape.removeFromWait (h : k.Shape c) (ht : .xStateListItem t ∈ c l)
    (hl : ∀ p, l ≠ .ready p) :
    ∃ lists n, k.removeFromWait t = some (k.setLists lists) ∧
      k.lists.uxListRemove (.xStateListItem t) = some (lists, n) ∧
      (k.setLists lists).Shape (Function.update c l ((c l).erase (.xStateListItem t))) ∧
      k.lists.Moved lists (.xStateListItem t) none := by
  obtain ⟨lists, hlists, hholds, hmoved⟩ := ListMem.holds_uxListRemove h.holds ht
  have hmem : ∀ l' x, x ∈ Function.update c l ((c l).erase (.xStateListItem t)) l' → x ∈ c l' := by
    intro l' x hx
    by_cases hl' : l' = l
    · subst hl'
      rw [Function.update_self] at hx
      exact List.mem_of_mem_erase hx
    · rwa [Function.update_of_ne hl'] at hx
  have hready : ∀ p, Function.update c l ((c l).erase (.xStateListItem t)) (.ready p) =
      c (.ready p) := fun p => Function.update_of_ne (hl p).symm _ _
  have hshape : (k.setLists lists).Shape
      (Function.update c l ((c l).erase (.xStateListItem t))) := by
    refine ⟨hholds, h.delayedLists, ?_, ?_, ?_, ?_⟩
    · intro l' x hx
      exact h.stateItem l' x (hmem l' x hx)
    · intro l' hne
      obtain ⟨x, hx⟩ := List.exists_mem_of_ne_nil _ hne
      exact h.place l' (List.ne_nil_of_mem (hmem l' x hx))
    · intro p u hu
      exact h.priority p u (hmem _ _ hu)
    · intro i
      simp only [hready]
      exact h.bits i
  refine ⟨lists, _, ?_, hlists, hshape, hmoved⟩
  have hevent : lists.pxContainer (.xEventListItem t) = none := hshape.event_container
  simp [Kernel.removeFromWait, hlists, hevent]

/-- One turn of the loop: the first delayed task becomes ready. -/
lemma Due.unblockHead (h : k.Due c time wake) {rest : List (TcbItem τ)}
    (hc : c k.pxDelayedTaskList = .xStateListItem t :: rest) (hdue : wake t ≤ time) (cur : τ) :
    ∃ lists c', k.removeFromWait t = some (k.setLists lists) ∧
      ((k.setLists lists).prvAddTaskToReadyList t).Due c' time wake ∧
      c' k.pxDelayedTaskList = rest ∧
      Woken cur k ((k.setLists lists).prvAddTaskToReadyList t)
        (decide (k.uxPriority t > k.uxPriority cur)) := by
  have ht : .xStateListItem t ∈ c k.pxDelayedTaskList := by simp [hc]
  obtain ⟨lists, len, hlists, hremove, hshape, hmoved⟩ :=
    h.toShape.removeFromWait ht fun p => h.toShape.delayed_ne_ready
  have hnone : lists.pxContainer (.xStateListItem t) = none := by
    rw [hmoved.container, Function.update_self]
  have hcontainer : ∀ u, u ≠ t →
      lists.pxContainer (.xStateListItem u) = k.lists.pxContainer (.xStateListItem u) := by
    intro u hu
    rw [hmoved.container, Function.update_of_ne (by simpa using hu)]
  have hready : ∀ u, ((k.setLists lists).prvAddTaskToReadyList t).Ready u → u = t ∨ k.Ready u := by
    intro u hu
    by_cases hut : u = t
    · exact .inl hut
    · rcases ready_prvAddTaskToReadyList.mp hu with he | hr
      · exact absurd he hut
      · exact .inr ((hcontainer u hut).symm.trans hr)
  have hval : ∀ x, ((k.setLists lists).prvAddTaskToReadyList t).value x = k.value x := by
    intro x
    show (lists.xItemValue _).toNat = _
    rw [hmoved.value]
  have hdelayed : (k.setLists lists).readyWith (Function.update c k.pxDelayedTaskList
      ((c k.pxDelayedTaskList).erase (.xStateListItem t))) t k.pxDelayedTaskList = rest := by
    rw [readyWith_of_ne fun p => h.toShape.delayed_ne_ready, Function.update_self, hc,
      List.erase_cons_head]
  have hoverflow : (k.setLists lists).readyWith (Function.update c k.pxDelayedTaskList
      ((c k.pxDelayedTaskList).erase (.xStateListItem t))) t k.pxOverflowDelayedTaskList =
        c k.pxOverflowDelayedTaskList := by
    rw [readyWith_of_ne fun p => h.toShape.overflow_ne_ready,
      Function.update_of_ne h.toShape.delayed_ne_overflow.symm]
  refine ⟨lists, _, hlists, ?_, hdelayed,
    ⟨⟨rfl, rfl, rfl, rfl, rfl, rfl⟩, rfl, ?_, ?_, ?_⟩⟩
  · refine h.sublist (hshape.prvAddTaskToReadyList hnone) rfl rfl rfl hval ?_ ?_ ?_
    · rw [hdelayed, hc]
      exact List.sublist_cons_self _ _
    · rw [hoverflow]
    · intro u hu
      rcases hready u hu with rfl | hu
      · exact hdue
      · exact h.readyDue u hu
  · intro u hu
    show Function.update lists.pxContainer _ _ (.xStateListItem u) ≠ none
    by_cases hut : u = t
    · subst hut
      simp
    · rw [Function.update_of_ne (by simpa using hut), hcontainer u hut]
      exact hu
  · intro u hu
    rcases hready u hu with rfl | hu
    · by_cases hprio : k.uxPriority u > k.uxPriority cur
      · exact .inr (.inr (decide_eq_true hprio))
      · exact .inr (.inl (Fin.not_lt.mp hprio))
    · exact .inl hu
  · intro u p n j hu
    have hne : TcbItem.xStateListItem t ≠ .xStateListItem u := by
      intro he
      have hc₁ := hu.container
      rw [← he, (h.holds.container _ _).mpr ht] at hc₁
      exact h.toShape.delayed_ne_ready (Option.some.inj hc₁)
    exact (hu.uxListRemove hremove hne).vListInsertEnd hnone _

/-- The loop makes the due tasks ready. -/
lemma Due.unblockTasks (fuel : ℕ) (sw : Bool) (h : k.Due c time wake)
    (hfuel : (c k.pxDelayedTaskList).length < fuel) (hcur : k.pxCurrentTCB = some cur) :
    ∃ k' c' sw', unblockTasks (BitVec.ofNat 32 time) fuel k sw = some (k', sw') ∧
      k'.Timed c' time wake ∧ Woken cur k k' sw' ∧ (sw = true → sw' = true) := by
  induction fuel generalizing k c sw with
  | zero => omega
  | succ fuel ih =>
    rw [Kernel.unblockTasks]
    match hc : c k.pxDelayedTaskList with
    | [] =>
      rw [if_pos ((h.holds.isEmpty_iff _).mpr hc)]
      have hnext : k.nextWake c = portMaxDelay := by rw [nextWake, hc]
      refine ⟨_, c, sw, rfl, hnext ▸ h.setNextTaskUnblockTime ?_, ?_, id⟩
      · simp [hc]
      · exact .of_lists ⟨rfl, rfl, rfl, rfl, rfl, rfl⟩ rfl rfl
    | x :: rest =>
      obtain ⟨t, rfl, howner⟩ := h.head hc
      have ht : .xStateListItem t ∈ c k.pxDelayedTaskList := by simp [hc]
      have hempty : ¬ k.lists.listIsEmpty k.pxDelayedTaskList = true := by
        rw [h.holds.isEmpty_iff, hc]
        simp
      rw [if_neg hempty, howner]
      simp only [Option.bind_eq_bind, Option.bind_some]
      by_cases hdue : time < wake t
      · rw [if_pos ((h.not_lt_value_iff ht).mpr hdue)]
        have hnext : k.nextWake c = k.lists.xItemValue (.item (.xStateListItem t)) := by
          rw [nextWake, hc]
        refine ⟨_, c, sw, rfl, hnext ▸ h.setNextTaskUnblockTime (h.asleep_of_head hc hdue), ?_, id⟩
        exact .of_lists ⟨rfl, rfl, rfl, rfl, rfl, rfl⟩ rfl rfl
      · rw [if_neg (fun hlt => hdue ((h.not_lt_value_iff ht).mp hlt))]
        obtain ⟨lists, c₁, hlists, hdue₁, hc₁, hwoken⟩ := h.unblockHead hc (not_lt.mp hdue) cur
        have hcur₁ : ((k.setLists lists).prvAddTaskToReadyList t).pxCurrentTCB = some cur := hcur
        have hfuel₁ : (c₁ ((k.setLists lists).prvAddTaskToReadyList t).pxDelayedTaskList).length <
            fuel := by
          rw [show ((k.setLists lists).prvAddTaskToReadyList t).pxDelayedTaskList =
            k.pxDelayedTaskList from rfl, hc₁]
          rw [hc, List.length_cons] at hfuel
          omega
        obtain ⟨k', c', sw', hk', htimed, hwoken', hsw⟩ :=
          ih (sw || decide (k.uxPriority t > k.uxPriority cur)) hdue₁ hfuel₁ hcur₁
        refine ⟨k', c', sw', ?_, htimed, hwoken.trans hwoken' ?_, ?_⟩
        · rw [hlists]
          simp only [Option.bind_some, hcur₁]
          exact hk'
        · intro hd
          exact hsw (by simp [hd])
        · intro hsw₀
          exact hsw (by simp [hsw₀])

/-! ### A tick -/

/-- The comparison with `xNextTaskUnblockTime` saves no wake. -/
lemma Due.wakeTasks (h : k.Due c time wake) (hnext : k.xNextTaskUnblockTime = k.nextWake c)
    (hcur : k.pxCurrentTCB = some cur) :
    ∃ k' c' sw, k.wakeTasks (BitVec.ofNat 32 time) = some (k', sw) ∧
      k'.Timed c' time wake ∧ Woken cur k k' sw := by
  rw [Kernel.wakeTasks]
  by_cases hge : BitVec.ofNat 32 time ≥ k.xNextTaskUnblockTime
  · rw [if_pos hge, (h.holds.contains _).count]
    obtain ⟨k', c', sw, hk', htimed, hwoken, -⟩ :=
      h.unblockTasks _ false (Nat.lt_succ_self _) hcur
    exact ⟨k', c', sw, hk', htimed, hwoken⟩
  · rw [if_neg hge]
    have hlt : BitVec.ofNat 32 time < k.nextWake c := by
      rw [← hnext]
      exact BitVec.not_le.mp hge
    refine ⟨k, c, false, rfl, ⟨h, ?_, hnext⟩, .of_lists (Frame.refl k) rfl rfl⟩
    match hc : c k.pxDelayedTaskList with
    | [] => simp
    | x :: rest =>
      obtain ⟨t, rfl, -⟩ := h.head hc
      have ht : .xStateListItem t ∈ c k.pxDelayedTaskList := by simp [hc]
      rw [nextWake, hc] at hlt
      rw [← hc]
      exact h.asleep_of_head hc ((h.not_lt_value_iff ht).mp hlt)

/-- The kernel counts a tick, and the tasks that wake then are ready. -/
theorem Timed.xTaskIncrementTick (h : k.Timed c time wake) (hs : k.uxSchedulerSuspended = 0)
    (hcur : k.pxCurrentTCB = some cur) :
    ∃ k' c' sw, k.xTaskIncrementTick = some (k', sw) ∧ k'.Timed c' (time + 1) wake ∧
      Woken cur k k' sw ∧ (k.xYieldPending = true → sw = true) := by
  obtain ⟨k₁, hk₁, hdue, hnext, hwoken⟩ := h.countTick
  have hwoken₁ := hwoken cur
  have hcur₁ : k₁.pxCurrentTCB = some cur := hwoken₁.frame.pxCurrentTCB.trans hcur
  obtain ⟨k', c', sw, hk', htimed, hwoken'⟩ := hdue.wakeTasks hnext hcur₁
  have hcur' : k'.pxCurrentTCB = some cur := hwoken'.frame.pxCurrentTCB.trans hcur₁
  have htick : k.xTickCount + 1 = BitVec.ofNat 32 (time + 1) := by
    rw [h.tick, BitVec.ofNat_add]
    rfl
  refine ⟨k', c', sw || decide (k'.lists.uxNumberOfItems (.ready (k'.uxPriority cur)) > 1) ||
    k'.xYieldPending, ?_, htimed, ?_, ?_⟩
  · rw [Kernel.xTaskIncrementTick, if_pos hs]
    simp only [htick, hk₁, hk', hcur', Option.bind_eq_bind, Option.bind_some]
    rfl
  · have hsw : Woken cur k₁ k' (sw ||
        decide (k'.lists.uxNumberOfItems (.ready (k'.uxPriority cur)) > 1) ||
        k'.xYieldPending) := by
      refine ⟨hwoken'.frame, hwoken'.yieldPending, hwoken'.placed, ?_, hwoken'.patient⟩
      intro u hu
      rcases hwoken'.ready u hu with hr | hr | hr
      · exact .inl hr
      · exact .inr (.inl hr)
      · exact .inr (.inr (by simp [hr]))
    exact hwoken₁.trans hsw (by simp)
  · intro hy
    rw [hwoken'.yieldPending, hwoken₁.yieldPending, hy, Bool.or_true]

/-! ### A delay -/

/-- A step that moves the state item of `t` to a list, or to none. -/
structure Transfer (t : τ) (l : Option TaskList) (k k' : Kernel τ) : Prop where
  frame : Frame k k'
  yieldPending : k'.xYieldPending = k.xYieldPending
  container : k'.lists.pxContainer = Function.update k.lists.pxContainer (.xStateListItem t) l
  tick : k'.xTickCount = k.xTickCount
  delayed : k'.pxDelayedTaskList = k.pxDelayedTaskList
  overflow : k'.pxOverflowDelayedTaskList = k.pxOverflowDelayedTaskList
  patient : ∀ u, u ≠ t → ∀ p n j, k.lists.Waits (.ready p) (.xStateListItem u) n j →
    k'.lists.Waits (.ready p) (.xStateListItem u) n j

lemma Transfer.ready_iff {o : Option TaskList} (h : Transfer t o k k') (hu : u ≠ t) :
    k'.Ready u ↔ k.Ready u := by
  rw [Ready, Ready, h.container, Function.update_of_ne (by simpa using hu),
    h.frame.uxPriority]

lemma Transfer.placed_iff {o : Option TaskList} (h : Transfer t o k k') (hu : u ≠ t) :
    k'.Placed u ↔ k.Placed u := by
  rw [Placed, Placed, h.container, Function.update_of_ne (by simpa using hu)]

/-- The bits follow a ready list that loses a task. -/
lemma Shape.bits_erase (h : k.Shape c) (ht : .xStateListItem t ∈ c (.ready (k.uxPriority t)))
    (i : ℕ) :
    (if ((c (.ready (k.uxPriority t))).erase (.xStateListItem t)).length = 0 then
        portResetReadyPriority (k.uxPriority t) k.uxTopReadyPriority
      else k.uxTopReadyPriority).getLsbD i = true ↔
      ∃ p : Fin configMaxPriorities, (p : ℕ) = i ∧
        Function.update c (.ready (k.uxPriority t))
          ((c (.ready (k.uxPriority t))).erase (.xStateListItem t)) (.ready p) ≠ [] := by
  have hother : ∀ p, p ≠ k.uxPriority t →
      Function.update c (.ready (k.uxPriority t))
        ((c (.ready (k.uxPriority t))).erase (.xStateListItem t)) (.ready p) = c (.ready p) :=
    fun p hp => Function.update_of_ne (by simpa using hp) _ _
  by_cases hempty : ((c (.ready (k.uxPriority t))).erase (.xStateListItem t)).length = 0
  · rw [if_pos hempty, getLsbD_portResetReadyPriority, Bool.and_eq_true, h.bits]
    constructor
    · rintro ⟨⟨p, rfl, hne⟩, hi⟩
      have hp : p ≠ k.uxPriority t := by
        rintro rfl
        simp at hi
      exact ⟨p, rfl, by rwa [hother p hp]⟩
    · rintro ⟨p, rfl, hne⟩
      have hp : p ≠ k.uxPriority t := by
        rintro rfl
        rw [Function.update_self] at hne
        exact hne (List.length_eq_zero_iff.mp hempty)
      rw [hother p hp] at hne
      refine ⟨⟨p, rfl, hne⟩, ?_⟩
      simpa [Fin.ext_iff] using fun he => hp (Fin.ext he).symm
  · rw [if_neg hempty, h.bits]
    constructor
    · rintro ⟨p, rfl, hne⟩
      refine ⟨p, rfl, ?_⟩
      by_cases hp : p = k.uxPriority t
      · subst hp
        rw [Function.update_self]
        exact fun he => hempty (by rw [he]; rfl)
      · rwa [hother p hp]
    · rintro ⟨p, rfl, hne⟩
      refine ⟨p, rfl, ?_⟩
      by_cases hp : p = k.uxPriority t
      · subst hp
        exact List.ne_nil_of_mem ht
      · rwa [hother p hp] at hne

lemma mem_of_mem_update_erase {x y : TcbItem τ} {l' : TaskList}
    (h : x ∈ Function.update c l ((c l).erase y) l') : x ∈ c l' := by
  by_cases hl : l' = l
  · subst hl
    rw [Function.update_self] at h
    exact List.mem_of_mem_erase h
  · rwa [Function.update_of_ne hl] at h

/-- The task leaves its ready list. -/
lemma Timed.leaveReadyList (h : k.Timed c time wake) (ht : k.Ready t) :
    ∃ k' c', k.leaveReadyList t = some k' ∧ k'.Timed c' time wake ∧ Transfer t none k k' := by
  have hmem := h.toShape.ready_iff.mp ht
  obtain ⟨lists, hlists, hholds, hmoved⟩ := ListMem.holds_uxListRemove h.holds hmem
  obtain ⟨k', hk', hframe, hbits⟩ : ∃ k', k.leaveReadyList t = some k' ∧
      (Transfer t none k k' ∧ k'.lists = lists ∧
        k'.xNextTaskUnblockTime = k.xNextTaskUnblockTime) ∧ k'.uxTopReadyPriority =
      if ((c (.ready (k.uxPriority t))).erase (.xStateListItem t)).length = 0 then
        portResetReadyPriority (k.uxPriority t) k.uxTopReadyPriority
      else k.uxTopReadyPriority := by
    rw [Kernel.leaveReadyList, hlists]
    refine ⟨_, rfl, ⟨⟨⟨rfl, rfl, rfl, rfl, rfl, rfl⟩,
      rfl, hmoved.container, rfl, rfl, rfl, ?_⟩, rfl, rfl⟩, rfl⟩
    intro u hut p n j hu
    exact hu.uxListRemove hlists (by simpa using hut.symm)
  obtain ⟨htransfer, rfl, hnext⟩ := hframe
  have hshape : k'.Shape (Function.update c (.ready (k.uxPriority t))
      ((c (.ready (k.uxPriority t))).erase (.xStateListItem t))) := by
    refine ⟨hholds, ?_, ?_, ?_, ?_, ?_⟩
    · rw [htransfer.delayed, htransfer.overflow]
      exact h.delayedLists
    · intro l x hx
      exact h.stateItem l x (mem_of_mem_update_erase hx)
    · intro l hne
      obtain ⟨x, hx⟩ := List.exists_mem_of_ne_nil _ hne
      rw [htransfer.delayed, htransfer.overflow]
      exact h.place l (List.ne_nil_of_mem (mem_of_mem_update_erase hx))
    · intro p u hu
      rw [htransfer.frame.uxPriority]
      exact h.priority p u (mem_of_mem_update_erase hu)
    · intro i
      rw [hbits]
      exact h.toShape.bits_erase hmem i
  have hvalue : ∀ x, k'.lists.xItemValue x = k.lists.xItemValue x := by
    intro x
    rw [hmoved.value]
  have hdelayed : Function.update c (.ready (k.uxPriority t))
      ((c (.ready (k.uxPriority t))).erase (.xStateListItem t)) k.pxDelayedTaskList =
        c k.pxDelayedTaskList := Function.update_of_ne h.toShape.delayed_ne_ready _ _
  have hoverflow : Function.update c (.ready (k.uxPriority t))
      ((c (.ready (k.uxPriority t))).erase (.xStateListItem t)) k.pxOverflowDelayedTaskList =
        c k.pxOverflowDelayedTaskList := Function.update_of_ne h.toShape.overflow_ne_ready _ _
  refine ⟨k', _, hk', ⟨h.toDue.sublist hshape htransfer.tick htransfer.delayed
    htransfer.overflow (fun x => by rw [value, value, hvalue]) ?_ ?_ ?_, ?_, ?_⟩, htransfer⟩
  · rw [hdelayed]
  · rw [hoverflow]
  · intro u hu
    by_cases hut : u = t
    · subst hut
      exact h.readyDue u ht
    · exact h.readyDue u ((htransfer.ready_iff hut).mp hu)
  · rw [htransfer.delayed, hdelayed]
    exact h.asleep
  · rw [hnext, h.next]
    simp only [nextWake, htransfer.delayed, hdelayed, hvalue]

lemma Due.insertDelayed (h : k.Due c time wake)
    (hl : l = k.pxDelayedTaskList ∨ l = k.pxOverflowDelayedTaskList)
    {lists : ListMem TaskList (TcbItem τ)}
    (hholds : lists.Holds (Function.update c l
      (insertWhile (k.lists.notBehind (.xStateListItem t)) (.xStateListItem t) (c l))))
    (hmoved : k.lists.Moved lists (.xStateListItem t) (some l))
    (hdelayed : l = k.pxDelayedTaskList →
      wake t = time / 2 ^ 32 * 2 ^ 32 + k.value (.xStateListItem t) ∧ time ≤ wake t)
    (hoverflow : l = k.pxOverflowDelayedTaskList →
      wake t = (time / 2 ^ 32 + 1) * 2 ^ 32 + k.value (.xStateListItem t)) :
    (k.setLists lists).Due (Function.update c l
      (insertWhile (k.lists.notBehind (.xStateListItem t)) (.xStateListItem t) (c l)))
      time wake := by
  have hvalue : ∀ x, (k.setLists lists).value x = k.value x := by
    intro x
    show (lists.xItemValue _).toNat = _
    rw [hmoved.value]
  have hsorted : ∀ l', List.Pairwise (fun x y => k.value x ≤ k.value y) (c l') →
      List.Pairwise (fun x y => k.value x ≤ k.value y) (Function.update c l
        (insertWhile (k.lists.notBehind (.xStateListItem t)) (.xStateListItem t) (c l)) l') := by
    intro l' hs
    by_cases hll : l' = l
    · subst hll
      rw [Function.update_self]
      exact sorted_insertWhile (fun _ => decide_eq_true_iff) hs
    · rwa [Function.update_of_ne hll]
  have hmem : ∀ l' u, .xStateListItem u ∈ Function.update c l
      (insertWhile (k.lists.notBehind (.xStateListItem t)) (.xStateListItem t) (c l)) l' →
        u = t ∧ l' = l ∨ .xStateListItem u ∈ c l' := by
    intro l' u hu
    by_cases hll : l' = l
    · subst hll
      rw [Function.update_self, mem_insertWhile] at hu
      rcases hu with he | hu
      · exact .inl ⟨by simpa using he, rfl⟩
      · exact .inr hu
    · rw [Function.update_of_ne hll] at hu
      exact .inr hu
  refine ⟨h.toShape.insertDelayed hl hholds, h.tick, ?_, ?_, ?_, ?_, ?_⟩
  · simp only [hvalue]
    exact hsorted _ h.sorted
  · simp only [hvalue]
    exact hsorted _ h.sortedOverflow
  · intro u hu
    rw [hvalue]
    rcases hmem _ u hu with ⟨rfl, he⟩ | hu
    · exact hdelayed he.symm
    · exact h.delayed u hu
  · intro u hu
    rw [hvalue]
    rcases hmem _ u hu with ⟨rfl, he⟩ | hu
    · exact hoverflow he.symm
    · exact h.overflow u hu
  · intro u hu
    have hcontainer : lists.pxContainer (.xStateListItem u) = some (.ready (k.uxPriority u)) := hu
    rw [hmoved.container] at hcontainer
    by_cases hut : u = t
    · subst hut
      rw [Function.update_self] at hcontainer
      rcases hl with rfl | rfl
      · exact absurd (Option.some.inj hcontainer) h.toShape.delayed_ne_ready
      · exact absurd (Option.some.inj hcontainer) h.toShape.overflow_ne_ready
    · rw [Function.update_of_ne (by simpa using hut)] at hcontainer
      exact h.readyDue u hcontainer

lemma xItemValue_setStateItemValue (k : Kernel τ) {x : TcbItem τ} (hx : x ≠ .xStateListItem t)
    (v : TickType) :
    (k.setStateItemValue t v).lists.xItemValue (.item x) = k.lists.xItemValue (.item x) := by
  have hne : ListItem.item (L := TaskList) x ≠ .item (.xStateListItem t) := by simpa using hx
  exact Function.update_of_ne hne v k.lists.xItemValue

lemma Timed.setStateItemValue (h : k.Timed c time wake)
    (ht : k.lists.pxContainer (.xStateListItem t) = none) (v : TickType) (n : ℕ) :
    (k.setStateItemValue t v).Timed c time (Function.update wake t n) := by
  have hne : ∀ l x, x ∈ c l → x ≠ .xStateListItem t := by
    rintro l x hx rfl
    exact h.holds.not_mem ht l hx
  have hvalue : ∀ l x, x ∈ c l → (k.setStateItemValue t v).value x = k.value x := by
    intro l x hx
    rw [value, value, xItemValue_setStateItemValue k (hne l x hx)]
  have hwake : ∀ l u, .xStateListItem u ∈ c l → Function.update wake t n u = wake u := by
    intro l u hu
    exact Function.update_of_ne (by simpa using hne l _ hu) _ _
  have hsorted : ∀ l, List.Pairwise (fun x y => k.value x ≤ k.value y) (c l) →
      List.Pairwise
        (fun x y => (k.setStateItemValue t v).value x ≤ (k.setStateItemValue t v).value y)
        (c l) := by
    intro l hs
    refine hs.imp_of_mem ?_
    intro x y hx hy hxy
    rwa [hvalue l x hx, hvalue l y hy]
  refine ⟨⟨?_, h.tick, hsorted _ h.sorted, hsorted _ h.sortedOverflow, ?_, ?_, ?_⟩, ?_, ?_⟩
  · exact ⟨ListMem.holds_setItemValue h.holds _ _, h.delayedLists, h.stateItem, h.place,
      h.priority, h.bits⟩
  · intro u hu
    rw [hwake _ u hu, hvalue _ _ hu]
    exact h.delayed u hu
  · intro u hu
    rw [hwake _ u hu, hvalue _ _ hu]
    exact h.overflow u hu
  · intro u hu
    have hr : k.Ready u := hu
    rw [hwake _ u (h.toShape.ready_iff.mp hr)]
    exact h.readyDue u hr
  · intro u hu
    rw [hwake _ u hu]
    exact h.asleep u hu
  · show k.xNextTaskUnblockTime = _
    rw [h.next, nextWake, nextWake]
    show _ = match c k.pxDelayedTaskList with
      | [] => portMaxDelay
      | x :: _ => (k.setStateItemValue t v).lists.xItemValue (.item x)
    match hc : c k.pxDelayedTaskList with
    | [] => rfl
    | x :: rest => exact (xItemValue_setStateItemValue k (hne _ x (by rw [hc]; simp)) v).symm

/-- The task enters a delayed list, with the time at which it wakes. -/
theorem Timed.enterDelayedList (h : k.Timed c time wake)
    (ht : k.lists.pxContainer (.xStateListItem t) = none) {n : TickType} (hn : 0 < n.toNat) :
    ∃ k' c' l, k.enterDelayedList t k.xTickCount (k.xTickCount + n) = some k' ∧
      k'.Timed c' time (Function.update wake t (time + n.toNat)) ∧
      Transfer t (some l) k k' ∧ ∀ p, l ≠ .ready p := by
  have hset := h.setStateItemValue ht (k.xTickCount + n) (time + n.toNat)
  have hvalue : (k.setStateItemValue t (k.xTickCount + n)).lists.xItemValue
      (.item (.xStateListItem t)) = k.xTickCount + n := Function.update_self ..
  have hnat : (k.setStateItemValue t (k.xTickCount + n)).value (.xStateListItem t) =
      (time % 2 ^ 32 + n.toNat) % 2 ^ 32 := by
    rw [value, hvalue, BitVec.toNat_add, h.tick, BitVec.toNat_ofNat]
  have hlt := n.isLt
  have hmod : time % 2 ^ 32 < 2 ^ 32 := Nat.mod_lt _ (by decide)
  have hwake : Function.update wake t (time + n.toNat) t = time + n.toNat := Function.update_self ..
  by_cases hover : k.xTickCount + n < k.xTickCount
  · have hover' : (time % 2 ^ 32 + n.toNat) % 2 ^ 32 < time % 2 ^ 32 := by
      rw [BitVec.lt_def, BitVec.toNat_add, h.tick, BitVec.toNat_ofNat] at hover
      exact hover
    obtain ⟨lists, hlists, hholds, hmoved⟩ :=
      ListMem.holds_vListInsert hset.holds ht k.pxOverflowDelayedTaskList
    have hdue := hset.toDue.insertDelayed (.inr rfl) hholds hmoved
      (fun he => absurd he hset.toShape.delayed_ne_overflow.symm)
      (fun _ => by rw [hwake, hnat]; omega)
    have hdelayed : Function.update c k.pxOverflowDelayedTaskList (insertWhile
        ((k.setStateItemValue t (k.xTickCount + n)).lists.notBehind (.xStateListItem t))
          (.xStateListItem t) (c k.pxOverflowDelayedTaskList)) k.pxDelayedTaskList =
            c k.pxDelayedTaskList := Function.update_of_ne h.toShape.delayed_ne_overflow _ _
    refine ⟨(k.setStateItemValue t (k.xTickCount + n)).setLists lists, _,
      k.pxOverflowDelayedTaskList, ?_, ⟨hdue, ?_, ?_⟩,
      ⟨⟨rfl, rfl, rfl, rfl, rfl, rfl⟩, rfl, hmoved.container, rfl, rfl, rfl, ?_⟩,
      fun p => h.toShape.overflow_ne_ready⟩
    · have hlists' : (k.setStateItemValue t (k.xTickCount + n)).lists.vListInsert
          (k.setStateItemValue t (k.xTickCount + n)).pxOverflowDelayedTaskList
            (.xStateListItem t) = some lists := hlists
      simp only [Kernel.enterDelayedList, if_pos hover, hlists', Option.bind_eq_bind,
        Option.bind_some]
      rfl
    · intro u hu
      exact hset.asleep u (hdelayed ▸ hu)
    · show (k.setStateItemValue t (k.xTickCount + n)).xNextTaskUnblockTime = _
      rw [hset.next]
      symm
      apply nextWake_congr
      · exact hdelayed
      · exact hmoved.value
    · intro u _ p m j hu
      exact (hu.setItemValue _ _).vListInsert ht hlists h.toShape.overflow_ne_ready.symm
  · have hover' : ¬ (time % 2 ^ 32 + n.toNat) % 2 ^ 32 < time % 2 ^ 32 := by
      rw [BitVec.lt_def, BitVec.toNat_add, h.tick, BitVec.toNat_ofNat] at hover
      exact hover
    obtain ⟨lists, hlists, hholds, hmoved⟩ :=
      ListMem.holds_vListInsert hset.holds ht k.pxDelayedTaskList
    have hdue := hset.toDue.insertDelayed (.inl rfl) hholds hmoved
      (fun _ => by rw [hwake, hnat]; omega)
      (fun he => absurd he hset.toShape.delayed_ne_overflow)
    have hnext := nextWake_insert (t := t) hset.next lists hmoved.value
    rw [hvalue] at hnext
    have hlists' : (k.setStateItemValue t (k.xTickCount + n)).lists.vListInsert
        (k.setStateItemValue t (k.xTickCount + n)).pxDelayedTaskList
          (.xStateListItem t) = some lists := hlists
    refine ⟨((k.setStateItemValue t (k.xTickCount + n)).setLists lists).setNextTaskUnblockTime
      (if k.xTickCount + n < k.xNextTaskUnblockTime then k.xTickCount + n
        else k.xNextTaskUnblockTime), _, k.pxDelayedTaskList, ?_, ⟨hdue.setNext _, ?_, hnext.symm⟩,
      ⟨⟨rfl, rfl, rfl, rfl, rfl, rfl⟩, rfl, hmoved.container, rfl, rfl, rfl, ?_⟩,
      fun p => h.toShape.delayed_ne_ready⟩
    · simp only [Kernel.enterDelayedList, if_neg hover, hlists', Option.bind_eq_bind,
        Option.bind_some]
      by_cases hless : k.xTickCount + n < k.xNextTaskUnblockTime
      · rw [if_pos hless]
        exact congrArg some (if_pos hless)
      · rw [if_neg hless]
        exact congrArg some (if_neg hless)
    · intro u hu
      have hu' : .xStateListItem u ∈ Function.update c k.pxDelayedTaskList (insertWhile
        ((k.setStateItemValue t (k.xTickCount + n)).lists.notBehind (.xStateListItem t))
          (.xStateListItem t) (c k.pxDelayedTaskList)) k.pxDelayedTaskList := hu
      rw [Function.update_self, mem_insertWhile] at hu'
      rcases hu' with he | hu'
      · obtain rfl : u = t := by simpa using he
        rw [hwake]
        omega
      · exact hset.asleep u hu'
    · intro u _ p m j hu
      exact (hu.setItemValue _ _).vListInsert ht hlists h.toShape.delayed_ne_ready.symm

lemma Transfer.trans {o o' : Option TaskList} (h : Transfer t o k k') (h' : Transfer t o' k' k'') :
    Transfer t o' k k'' where
  frame := h.frame.trans h'.frame
  yieldPending := h'.yieldPending.trans h.yieldPending
  container := by rw [h'.container, h.container, Function.update_idem]
  tick := h'.tick.trans h.tick
  delayed := h'.delayed.trans h.delayed
  overflow := h'.overflow.trans h.overflow
  patient u hut p n j hu := h'.patient u hut p n j (h.patient u hut p n j hu)

lemma Transfer.not_ready (h : Transfer t (some l) k k') (hl : ∀ p, l ≠ .ready p) :
    ¬ k'.Ready t := by
  intro hready
  rw [Ready, h.container, Function.update_self] at hready
  exact hl _ (Option.some.inj hready)

lemma Transfer.placed (h : Transfer t (some l) k k') (hu : k.Placed u) : k'.Placed u := by
  by_cases hut : u = t
  · subst hut
    rw [Placed, h.container, Function.update_self]
    simp
  · exact (h.placed_iff hut).mpr hu

/-- The running task goes to sleep for `n` ticks. -/
theorem Timed.prvAddCurrentTaskToDelayedList (h : k.Timed c time wake)
    (hcur : k.pxCurrentTCB = some t) (ht : k.Ready t) {n : TickType} (hn : 0 < n.toNat) :
    ∃ k' c' l, k.prvAddCurrentTaskToDelayedList n false = some k' ∧
      k'.Timed c' time (Function.update wake t (time + n.toNat)) ∧
      Transfer t (some l) k k' ∧ ∀ p, l ≠ .ready p := by
  obtain ⟨k₁, c₁, hk₁, htimed, hleft⟩ := h.leaveReadyList ht
  have hnone : k₁.lists.pxContainer (.xStateListItem t) = none := by
    rw [hleft.container, Function.update_self]
  obtain ⟨k', c', l, hk', htimed', hentered, hl⟩ := htimed.enterDelayedList hnone hn
  refine ⟨k', c', l, ?_, htimed', hleft.trans hentered, hl⟩
  rw [hleft.tick] at hk'
  simp [Kernel.prvAddCurrentTaskToDelayedList, hcur, hk₁, hk']

end Kernel

end Enc624j600.Rtos
