/-
# The ready lists

What holds of the lists of the scheduler between its operations: the tasks of a ready list have its
priority, and the bits of `uxTopReadyPriority` are those of the ready lists that hold a task.  The
selection of the next task then finds a ready task of the highest priority.
-/
import Enc624j600.Source.Kernel
import Enc624j600.Kernel.Rounds

namespace Enc624j600.Rtos

open LinkedRing

namespace Kernel

variable {τ : Type} {k k' : Kernel τ} {c : TaskList → List (TcbItem τ)} {t u : τ}
variable {p : Fin configMaxPriorities} {b : UBaseType} {i : ℕ}

/-! ### The bits of the ready priorities -/

lemma getLsbD_portRecordReadyPriority :
    (portRecordReadyPriority p b).getLsbD i = (b.getLsbD i || decide ((p : ℕ) = i)) := by
  have hp : (p : ℕ) < 32 := p.isLt.trans (by decide)
  rw [portRecordReadyPriority, BitVec.getLsbD_or, ← BitVec.twoPow_eq, BitVec.getLsbD_twoPow]
  simp [hp]

lemma getLsbD_portResetReadyPriority :
    (portResetReadyPriority p b).getLsbD i = (b.getLsbD i && !decide ((p : ℕ) = i)) := by
  have hp : (p : ℕ) < 32 := p.isLt.trans (by decide)
  rw [portResetReadyPriority, BitVec.getLsbD_and, BitVec.getLsbD_not, ← BitVec.twoPow_eq,
    BitVec.getLsbD_twoPow]
  by_cases hi : i < 32
  · simp [hp, hi]
  · simp [hi, BitVec.getLsbD_of_ge b i (by omega)]

/-- The highest priority is the place of the highest bit. -/
lemma portGetHighestPriority_spec (hb : b ≠ 0) :
    b.getLsbD (portGetHighestPriority b).toNat = true ∧
      ∀ j, b.getLsbD j = true → j ≤ (portGetHighestPriority b).toNat := by
  have hlt : b.clz.toNat < 32 := by
    have h := BitVec.clz_lt_iff_ne_zero.mpr hb
    rw [BitVec.lt_def] at h
    simpa using h
  have htop : (portGetHighestPriority b).toNat = 31 - b.clz.toNat := by
    rw [portGetHighestPriority, BitVec.toNat_sub_of_le]
    · rfl
    · rw [BitVec.le_def]
      simp
      omega
  refine ⟨?_, ?_⟩
  · rw [htop]
    exact BitVec.getLsbD_true_clz_of_ne_zero (by decide) hb
  · intro j hj
    by_contra hlarge
    have hzero := BitVec.getLsbD_false_of_clzAuxRec (x := b) (n := 31)
      (by intro i hi; exact BitVec.getLsbD_of_ge _ _ (by omega)) (j - (32 - b.clz.toNat))
    have hidx : 32 - (b.clzAuxRec 31).toNat + (j - (32 - b.clz.toNat)) = j := by
      have hclz : b.clzAuxRec 31 = b.clz := rfl
      rw [hclz]
      omega
    rw [hidx, hj] at hzero
    exact absurd hzero (by decide)

/-! ### The shape of the lists -/

/-- The task is in its ready list. -/
def Ready (k : Kernel τ) (t : τ) : Prop :=
  k.lists.pxContainer (.xStateListItem t) = some (.ready (k.uxPriority t))

instance (k : Kernel τ) (t : τ) : Decidable (k.Ready t) :=
  inferInstanceAs (Decidable (_ = _))

/-- The lists consist of the items `c`, which are state items in the lists they belong to. -/
structure Shape (k : Kernel τ) (c : TaskList → List (TcbItem τ)) : Prop where
  holds : k.lists.Holds c
  delayedLists :
    k.pxDelayedTaskList = .xDelayedTaskList1 ∧ k.pxOverflowDelayedTaskList = .xDelayedTaskList2 ∨
      k.pxDelayedTaskList = .xDelayedTaskList2 ∧ k.pxOverflowDelayedTaskList = .xDelayedTaskList1
  stateItem : ∀ l i, i ∈ c l → ∃ t, i = .xStateListItem t
  place : ∀ l, c l ≠ [] →
    (∃ p, l = .ready p) ∨ l = k.pxDelayedTaskList ∨ l = k.pxOverflowDelayedTaskList
  priority : ∀ p t, .xStateListItem t ∈ c (.ready p) → k.uxPriority t = p
  bits : ∀ i, k.uxTopReadyPriority.getLsbD i = true ↔
    ∃ p : Fin configMaxPriorities, (p : ℕ) = i ∧ c (.ready p) ≠ []

namespace Shape

/-- The shape depends on five of the variables. -/
lemma congr (h : k.Shape c) (hlists : k'.lists = k.lists) (hpriority : k'.uxPriority = k.uxPriority)
    (hdelayed : k'.pxDelayedTaskList = k.pxDelayedTaskList)
    (hoverflow : k'.pxOverflowDelayedTaskList = k.pxOverflowDelayedTaskList)
    (hbits : k'.uxTopReadyPriority = k.uxTopReadyPriority) : k'.Shape c where
  holds := hlists ▸ h.holds
  delayedLists := by rw [hdelayed, hoverflow]; exact h.delayedLists
  stateItem := h.stateItem
  place := by rw [hdelayed, hoverflow]; exact h.place
  priority := by rw [hpriority]; exact h.priority
  bits := by rw [hbits]; exact h.bits

lemma ready_iff (h : k.Shape c) :
    k.Ready t ↔ .xStateListItem t ∈ c (.ready (k.uxPriority t)) :=
  h.holds.container _ _

lemma ready_of_mem (h : k.Shape c) (ht : .xStateListItem t ∈ c (.ready p)) : k.Ready t := by
  rw [h.ready_iff, h.priority p t ht]
  exact ht

lemma event_container (h : k.Shape c) : k.lists.pxContainer (.xEventListItem t) = none := by
  rw [Option.eq_none_iff_forall_not_mem]
  intro l hl
  obtain ⟨u, hu⟩ := h.stateItem l _ ((h.holds.container l _).mp hl)
  exact absurd hu (by simp)

lemma delayed_ne_overflow (h : k.Shape c) : k.pxDelayedTaskList ≠ k.pxOverflowDelayedTaskList := by
  rcases h.delayedLists with ⟨h₁, h₂⟩ | ⟨h₁, h₂⟩
  · rw [h₁, h₂]
    decide
  · rw [h₁, h₂]
    decide

lemma delayed_ne_ready (h : k.Shape c) : k.pxDelayedTaskList ≠ .ready p := by
  rcases h.delayedLists with ⟨h₁, h₂⟩ | ⟨h₁, h₂⟩ <;> simp [h₁]

lemma overflow_ne_ready (h : k.Shape c) : k.pxOverflowDelayedTaskList ≠ .ready p := by
  rcases h.delayedLists with ⟨h₁, h₂⟩ | ⟨h₁, h₂⟩ <;> simp [h₂]

lemma pending_empty (h : k.Shape c) : c .xPendingReadyList = [] := by
  by_contra hne
  rcases h.place _ hne with ⟨p, hp⟩ | hd | ho
  · exact absurd hp (by simp)
  · rcases h.delayedLists with ⟨h₁, h₂⟩ | ⟨h₁, h₂⟩ <;> simp [h₁] at hd
  · rcases h.delayedLists with ⟨h₁, h₂⟩ | ⟨h₁, h₂⟩ <;> simp [h₂] at ho

lemma bits_ne_zero (h : k.Shape c) (ht : k.Ready t) : k.uxTopReadyPriority ≠ 0 := by
  intro hzero
  have hbit := (h.bits (k.uxPriority t)).mpr
    ⟨_, rfl, List.ne_nil_of_mem (h.ready_iff.mp ht)⟩
  rw [hzero] at hbit
  simp at hbit

end Shape

variable [DecidableEq τ]

/-! ### A task becomes ready -/

/-- The lists with the task in its ready list. -/
def readyWith (k : Kernel τ) (c : TaskList → List (TcbItem τ)) (t : τ) :
    TaskList → List (TcbItem τ) :=
  Function.update c (.ready (k.uxPriority t))
    (insertWhile (k.lists.beforeIndex (.ready (k.uxPriority t))) (.xStateListItem t)
      (c (.ready (k.uxPriority t))))

lemma mem_readyWith {l : TaskList} {x : TcbItem τ} :
    x ∈ k.readyWith c t l ↔
      x ∈ c l ∨ l = .ready (k.uxPriority t) ∧ x = .xStateListItem t := by
  rw [readyWith]
  by_cases hl : l = .ready (k.uxPriority t)
  · subst hl
    rw [Function.update_self, mem_insertWhile]
    tauto
  · rw [Function.update_of_ne hl]
    tauto

lemma readyWith_of_ne {l : TaskList} (hl : ∀ p, l ≠ .ready p) : k.readyWith c t l = c l :=
  Function.update_of_ne (hl _) _ _

lemma ready_prvAddTaskToReadyList : (k.prvAddTaskToReadyList t).Ready u ↔ u = t ∨ k.Ready u := by
  have hcontainer : (k.prvAddTaskToReadyList t).lists.pxContainer =
      Function.update k.lists.pxContainer (.xStateListItem t) (some (.ready (k.uxPriority t))) :=
    rfl
  by_cases hu : u = t
  · subst hu
    simp [Ready, hcontainer]
    rfl
  · simp [Ready, hcontainer, hu]
    rfl

lemma Shape.prvAddTaskToReadyList (h : k.Shape c)
    (ht : k.lists.pxContainer (.xStateListItem t) = none) :
    (k.prvAddTaskToReadyList t).Shape (k.readyWith c t) where
  holds := ListMem.holds_vListInsertEnd h.holds ht _
  delayedLists := h.delayedLists
  stateItem := by
    intro l i hi
    rcases mem_readyWith.mp hi with hmem | ⟨-, rfl⟩
    · exact h.stateItem l i hmem
    · exact ⟨t, rfl⟩
  place := by
    intro l hl
    obtain ⟨x, hx⟩ := List.exists_mem_of_ne_nil _ hl
    rcases mem_readyWith.mp hx with hmem | ⟨rfl, -⟩
    · exact h.place l (List.ne_nil_of_mem hmem)
    · exact .inl ⟨_, rfl⟩
  priority := by
    intro p u hu
    rcases mem_readyWith.mp hu with hmem | ⟨hp, hut⟩
    · exact h.priority p u hmem
    · obtain rfl : u = t := by simpa using hut
      have hp' : p = k.uxPriority u := by simpa using hp
      exact hp'.symm
  bits := by
    intro i
    show (portRecordReadyPriority _ _).getLsbD i = true ↔ _
    rw [getLsbD_portRecordReadyPriority, Bool.or_eq_true, h.bits i, decide_eq_true_iff]
    constructor
    · rintro (⟨p, hp, hne⟩ | hp)
      · obtain ⟨x, hx⟩ := List.exists_mem_of_ne_nil _ hne
        exact ⟨p, hp, List.ne_nil_of_mem (mem_readyWith.mpr (.inl hx))⟩
      · exact ⟨_, hp, List.ne_nil_of_mem (mem_readyWith.mpr (.inr ⟨rfl, rfl⟩))⟩
    · rintro ⟨p, hp, hne⟩
      obtain ⟨x, hx⟩ := List.exists_mem_of_ne_nil _ hne
      rcases mem_readyWith.mp hx with hmem | ⟨hl, -⟩
      · exact .inl ⟨p, hp, List.ne_nil_of_mem hmem⟩
      · obtain rfl : p = k.uxPriority t := by simpa using hl
        exact .inr hp

/-! ### Selection -/

/-- The selection finds a ready task of the highest priority.  It only moves the index of its ready
list. -/
lemma Shape.taskSelectHighestPriorityTask (h : k.Shape c) (hready : ∃ t, k.Ready t) :
    ∃ lists t, k.taskSelectHighestPriorityTask = some (k.setCurrent lists t) ∧
      (k.setCurrent lists t).Shape c ∧ lists.pxContainer = k.lists.pxContainer ∧
      lists.xItemValue = k.lists.xItemValue ∧
      (k.Ready t ∧ ∀ u, k.Ready u → k.uxPriority u ≤ k.uxPriority t) ∧
      lists = k.lists.listAdvanceIndex (.ready (k.uxPriority t)) ∧
      lists.pxIndex (.ready (k.uxPriority t)) = .item (.xStateListItem t) := by
  obtain ⟨v, hv⟩ := hready
  obtain ⟨htop, hmax⟩ := portGetHighestPriority_spec (h.bits_ne_zero hv)
  obtain ⟨p, hp, hne⟩ := (h.bits _).mp htop
  have hlt : (portGetHighestPriority k.uxTopReadyPriority).toNat < configMaxPriorities := by
    rw [← hp]
    exact p.isLt
  have hfin : (⟨_, hlt⟩ : Fin configMaxPriorities) = p := Fin.ext hp.symm
  obtain ⟨hholds, hvalue, x, hx, hindex⟩ := ListMem.holds_listAdvanceIndex h.holds hne
  obtain ⟨t, rfl⟩ := h.stateItem _ _ hx
  have hcount : k.lists.uxNumberOfItems (.ready p) > 0 := by
    rw [(h.holds.contains _).count]
    exact List.length_pos_iff.mpr hne
  refine ⟨k.lists.listAdvanceIndex (.ready p), t, ?_, ?_,
    ListMem.pxContainer_listAdvanceIndex _ _, hvalue, ⟨?_, ?_⟩, ?_, ?_⟩
  · simp [Kernel.taskSelectHighestPriorityTask, hlt, hfin, configAssert, hcount, hindex,
      ListItem.item?, TcbItem.pvOwner]
  · exact ⟨hholds, h.delayedLists, h.stateItem, h.place, h.priority, h.bits⟩
  · exact h.ready_of_mem hx
  · intro u hu
    have hbit := (h.bits (k.uxPriority u)).mpr ⟨_, rfl, List.ne_nil_of_mem (h.ready_iff.mp hu)⟩
    have hle := hmax _ hbit
    rw [h.priority p t hx, Fin.le_def, hp]
    exact hle
  · rw [h.priority p t hx]
  · rw [h.priority p t hx]
    exact hindex

end Kernel

end Enc624j600.Rtos
