/-
# The suspended scheduler

While the scheduler is suspended, ticks are put off; `xTaskResumeAll` makes up for them, one after
the other, so that every task still wakes at its tick.  A context switch chooses a ready task of the
highest priority.
-/
import Enc624j600.Kernel.Delays

namespace Enc624j600.Rtos.Kernel

variable {τ : Type} {k k' k'' : Kernel τ} {c : TaskList → List (TcbItem τ)}
variable {t u cur : τ} {time n : ℕ} {wake : τ → ℕ}

/-- What the end of a suspension may do: as for a tick, where the request for a context switch is
`xYieldPending`. -/
structure Resumed [DecidableEq τ] (cur : τ) (k k' : Kernel τ) : Prop where
  uxPriority : k'.uxPriority = k.uxPriority
  pxCurrentTCB : k'.pxCurrentTCB = k.pxCurrentTCB
  uxCurrentNumberOfTasks : k'.uxCurrentNumberOfTasks = k.uxCurrentNumberOfTasks
  placed : ∀ u, k.Placed u → k'.Placed u
  ready : ∀ u, k'.Ready u →
    k.Ready u ∨ k.uxPriority u ≤ k.uxPriority cur ∨ k'.xYieldPending = true
  pending : k.xYieldPending = true → k'.xYieldPending = true
  patient : Patient k k'

lemma Resumed.refl [DecidableEq τ] (cur : τ) (k : Kernel τ) : Resumed cur k k :=
  ⟨rfl, rfl, rfl, fun _ hu => hu, fun _ hu => .inl hu, id, fun _ _ _ _ hu => hu⟩

lemma Resumed.trans [DecidableEq τ] (h : Resumed cur k k') (h' : Resumed cur k' k'') :
    Resumed cur k k'' where
  uxPriority := h'.uxPriority.trans h.uxPriority
  pxCurrentTCB := h'.pxCurrentTCB.trans h.pxCurrentTCB
  uxCurrentNumberOfTasks := h'.uxCurrentNumberOfTasks.trans h.uxCurrentNumberOfTasks
  placed u hu := h'.placed u (h.placed u hu)
  ready u hu := by
    rcases h'.ready u hu with hr | hr | hr
    · rcases h.ready u hr with hr' | hr' | hr'
      · exact .inl hr'
      · exact .inr (.inl hr')
      · exact .inr (.inr (h'.pending hr'))
    · rw [h.uxPriority] at hr
      exact .inr (.inl hr)
    · exact .inr (.inr hr)
  pending hy := h'.pending (h.pending hy)
  patient u p n j hu := h'.patient u p n j (h.patient u p n j hu)

lemma pendYield_eq (k : Kernel τ) (required : Bool) :
    k.pendYield required = { k with xYieldPending := required || k.xYieldPending } := by
  cases required
  · rfl
  · rfl

lemma Woken.resumed [DecidableEq τ] {sw : Bool} (h : Woken cur k k' sw) :
    Resumed cur k (k'.pendYield sw) := by
  rw [pendYield_eq]
  refine ⟨h.frame.uxPriority, h.frame.pxCurrentTCB, h.frame.uxCurrentNumberOfTasks, h.placed,
    ?_, ?_, h.patient⟩
  · intro u hu
    rcases h.ready u hu with hr | hr | hr
    · exact .inl hr
    · exact .inr (.inl hr)
    · exact .inr (.inr (by simp [hr]))
  · intro hy
    simp [h.yieldPending, hy]

lemma Timed.congr (h : k.Timed c time wake) (hlists : k'.lists = k.lists)
    (hpriority : k'.uxPriority = k.uxPriority)
    (hdelayed : k'.pxDelayedTaskList = k.pxDelayedTaskList)
    (hoverflow : k'.pxOverflowDelayedTaskList = k.pxOverflowDelayedTaskList)
    (hbits : k'.uxTopReadyPriority = k.uxTopReadyPriority)
    (htick : k'.xTickCount = k.xTickCount)
    (hnext : k'.xNextTaskUnblockTime = k.xNextTaskUnblockTime) : k'.Timed c time wake where
  toDue := h.toDue.sublist (h.toShape.congr hlists hpriority hdelayed hoverflow hbits) htick
    hdelayed hoverflow (fun x => by rw [value, value, hlists]) (List.Sublist.refl _)
    (List.Sublist.refl _) fun u hu => h.readyDue u (by rwa [Ready, hlists, hpriority] at hu)
  asleep := by
    rw [hdelayed]
    exact h.asleep
  next := by
    rw [hnext, h.next]
    symm
    apply nextWake_congr
    · rw [hdelayed]
    · rw [hlists]

lemma Timed.pendYield (h : k.Timed c time wake) (required : Bool) :
    (k.pendYield required).Timed c time wake := by
  rw [pendYield_eq]
  exact h.congr rfl rfl rfl rfl rfl rfl rfl

variable [DecidableEq τ]

/-! ### The ticks of a suspension -/

/-- No tick of a suspension is lost. -/
lemma Timed.unwindPendedTicks (n : ℕ) (h : k.Timed c time wake)
    (hs : k.uxSchedulerSuspended = 0) (hcur : k.pxCurrentTCB = some cur) :
    ∃ k' c', k.unwindPendedTicks n = some k' ∧ k'.Timed c' (time + n) wake ∧
      k'.uxSchedulerSuspended = 0 ∧ Resumed cur k k' := by
  induction n generalizing k c time with
  | zero => exact ⟨k, c, rfl, h, hs, Resumed.refl cur k⟩
  | succ n ih =>
    obtain ⟨k₁, c₁, sw, hk₁, htimed, hwoken, -⟩ := h.xTaskIncrementTick hs hcur
    have hs₁ : (k₁.pendYield sw).uxSchedulerSuspended = 0 := by
      rw [pendYield_eq]
      exact hwoken.frame.uxSchedulerSuspended.trans hs
    have hcur₁ : (k₁.pendYield sw).pxCurrentTCB = some cur :=
      hwoken.resumed.pxCurrentTCB.trans hcur
    obtain ⟨k', c', hk', htimed', hs', hresumed⟩ := ih (htimed.pendYield sw) hs₁ hcur₁
    refine ⟨k', c', ?_, ?_, hs', hwoken.resumed.trans hresumed⟩
    · rw [Kernel.unwindPendedTicks, hk₁]
      exact hk'
    · rwa [show time + (n + 1) = time + 1 + n by omega]

/-- The scheduler is resumed behind one suspension: the ticks put off are counted. -/
theorem Timed.xTaskResumeAll (h : k.Timed c time wake) (hs : k.uxSchedulerSuspended = 1)
    (htasks : 0 < k.uxCurrentNumberOfTasks) (hcur : k.pxCurrentTCB = some cur) :
    ∃ k' c', k.xTaskResumeAll = some (k', k'.xYieldPending) ∧
      k'.Timed c' (time + k.xPendedTicks.toNat) wake ∧ k'.uxSchedulerSuspended = 0 ∧
      k'.xPendedTicks = 0 ∧ Resumed cur k k' := by
  have hdown : Timed { k with uxSchedulerSuspended := 0 } c time wake :=
    h.congr rfl rfl rfl rfl rfl rfl rfl
  obtain ⟨k', c', hk', htimed, hs', hresumed⟩ :=
    hdown.unwindPendedTicks k.xPendedTicks.toNat rfl hcur
  refine ⟨{ k' with xPendedTicks := 0 }, c', ?_, htimed.congr rfl rfl rfl rfl rfl rfl rfl, hs', rfl,
    ⟨hresumed.uxPriority, hresumed.pxCurrentTCB, hresumed.uxCurrentNumberOfTasks,
      hresumed.placed, hresumed.ready, hresumed.pending, hresumed.patient⟩⟩
  have hpending : k.lists.listIsEmpty .xPendingReadyList = true :=
    (h.holds.isEmpty_iff _).mpr h.toShape.pending_empty
  rw [Kernel.xTaskResumeAll]
  simp [configAssert, hs, htasks, movePendingReady, hpending, hk']

/-! ### The context switch -/

/-- What a context switch to the task `t` leaves as it is. -/
structure Switched (t : τ) (k k' : Kernel τ) : Prop where
  current : k'.pxCurrentTCB = some t
  uxPriority : k'.uxPriority = k.uxPriority
  uxCurrentNumberOfTasks : k'.uxCurrentNumberOfTasks = k.uxCurrentNumberOfTasks
  xPendedTicks : k'.xPendedTicks = k.xPendedTicks
  uxSchedulerSuspended : k'.uxSchedulerSuspended = k.uxSchedulerSuspended
  xYieldPending : k'.xYieldPending = false
  container : k'.lists.pxContainer = k.lists.pxContainer
  /-- The turn of a task of another priority stays, and that of another task of this priority comes
  nearer. -/
  turn : ∀ u p n j, k.lists.Waits (.ready p) (.xStateListItem u) n j →
    k.lists.uxNumberOfItems (.ready p) ≤ n + 1 →
      if k.uxPriority t = p then
        u = t ∨ ∃ i, i < j ∧ k'.lists.Waits (.ready p) (.xStateListItem u) n i
      else k'.lists.Waits (.ready p) (.xStateListItem u) n j

/-- A context switch chooses a ready task of the highest priority. -/
theorem Timed.vTaskSwitchContext (h : k.Timed c time wake) (hs : k.uxSchedulerSuspended = 0)
    (hready : ∃ t, k.Ready t) :
    ∃ k' t, k.vTaskSwitchContext = some k' ∧ k'.Timed c time wake ∧ Switched t k k' ∧
      k.Ready t ∧ ∀ u, k.Ready u → k.uxPriority u ≤ k.uxPriority t := by
  have hclear : Shape { k with xYieldPending := false } c := h.toShape.congr rfl rfl rfl rfl rfl
  obtain ⟨lists, t, hk', hshape, hcontainer, hvalue, ⟨ht, hmax⟩, hadvance, hindex⟩ :=
    hclear.taskSelectHighestPriorityTask hready
  refine ⟨Kernel.setCurrent { k with xYieldPending := false } lists t, t, ?_, ?_,
    ⟨rfl, rfl, rfl, rfl, rfl, rfl, hcontainer, ?_⟩, ht, hmax⟩
  · rw [Kernel.vTaskSwitchContext, if_neg (by simpa using hs), hk']
  · refine ⟨h.toDue.sublist hshape rfl rfl rfl ?_ (List.Sublist.refl _) (List.Sublist.refl _) ?_,
      h.asleep, ?_⟩
    · intro x
      exact congrArg (fun f => (f (ListItem.item x)).toNat) hvalue
    · intro u hu
      have hu' : lists.pxContainer (.xStateListItem u) = some (.ready (k.uxPriority u)) := hu
      rw [hcontainer] at hu'
      exact h.readyDue u hu'
    · show k.xNextTaskUnblockTime = _
      rw [h.next]
      symm
      apply nextWake_congr
      · rfl
      · exact hvalue
  · intro u p n j hu hlen
    have hlists : lists = k.lists.listAdvanceIndex (.ready (k.uxPriority t)) := hadvance
    have htop : lists.pxIndex (.ready (k.uxPriority t)) = .item (.xStateListItem t) := hindex
    show if k.uxPriority t = p then u = t ∨ ∃ i, i < j ∧ lists.Waits _ _ n i
      else lists.Waits _ _ n j
    rw [hlists] at htop ⊢
    split_ifs with hp
    · subst hp
      refine (hu.listAdvanceIndex hlen).imp_left fun he => ?_
      simpa using he.symm.trans htop
    · have hpos : k.lists.uxNumberOfItems (.ready (k.uxPriority t)) > 0 := by
        rw [(h.holds.contains _).count]
        exact List.length_pos_of_mem (h.toShape.ready_iff.mp ht)
      exact hu.listAdvanceIndex_of_ne (by simpa using Ne.symm hp) hpos

end Enc624j600.Rtos.Kernel
