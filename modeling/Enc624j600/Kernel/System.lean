/-
# The tasks and the interrupts

The processor runs the current task until an interrupt comes: the tick, or the software interrupt
that a `portYIELD` triggers and whose handler switches the context.  A task does its own work or
is in a call of `vTaskDelay`, whose parts the ticks come between.  The log of a run counts the ticks
that have come and notes the tick at which a task's delay is over; it knows nothing of lists.
-/
import Enc624j600.Kernel.Suspension

namespace Enc624j600.Rtos

/-- Where a task stands in a call of `vTaskDelay`. -/
inductive Phase where
  /-- It is not in a call. -/
  | running
  /-- Behind `vTaskSuspendAll`. -/
  | suspendedAll (xTicksToDelay : TickType)
  /-- Behind `prvAddCurrentTaskToDelayedList`. -/
  | delayed
  /-- In front of `taskYIELD_WITHIN_API`. -/
  | resumed
  /-- The context switch is triggered. -/
  | yielded
deriving DecidableEq, Repr

/-- The scheduler is suspended. -/
def Phase.locked : Phase → Bool
  | .suspendedAll _ => true
  | .delayed => true
  | _ => false

/-- The task has not left its ready list. -/
def Phase.awake : Phase → Bool
  | .running => true
  | .suspendedAll _ => true
  | _ => false

/-- The kernel with its tasks and the pending software interrupt, `portCORE_SW_0`. -/
structure System (τ : Type) where
  kernel : Kernel τ
  phase : τ → Phase
  softwareInterrupt : Bool

/-- What happens next. -/
inductive Event (τ : Type) where
  | tickInterrupt
  | yieldInterrupt
  /-- The task runs its own code. -/
  | work (t : τ)
  | callDelay (t : τ) (xTicksToDelay : TickType)
  /-- The next part of the call of `vTaskDelay`. -/
  | continueDelay (t : τ)
deriving DecidableEq, Repr

namespace System

variable {τ : Type} [DecidableEq τ]

/-- Replace the phase of a task. -/
def setPhase (s : System τ) (t : τ) (p : Phase) : System τ :=
  { s with phase := Function.update s.phase t p }

/-- `vPortIncrementTick`. -/
def vPortIncrementTick (s : System τ) : Option (System τ) := do
  let (kernel, xSwitchRequired) ← s.kernel.xTaskIncrementTick
  return { s with
    kernel := kernel
    softwareInterrupt := s.softwareInterrupt || xSwitchRequired }

/-- `vPortYieldISR`, which clears the interrupt. -/
def vPortYieldISR (s : System τ) : Option (System τ) := do
  let kernel ← s.kernel.vTaskSwitchContext
  return { s with kernel := kernel, softwareInterrupt := false }

/-- The start of `vTaskDelay`. -/
def vTaskDelay (s : System τ) (t : τ) (xTicksToDelay : TickType) : System τ :=
  if xTicksToDelay > 0 then
    { s with kernel := s.kernel.vTaskSuspendAll }.setPhase t (.suspendedAll xTicksToDelay)
  else
    s.setPhase t .resumed

/-- The parts of `vTaskDelay` behind its start. -/
def continueDelay (s : System τ) (t : τ) : Option (System τ) :=
  match s.phase t with
  | .running => some s
  | .suspendedAll xTicksToDelay => do
    configAssert (s.kernel.uxSchedulerSuspended = 1)
    let kernel ← s.kernel.prvAddCurrentTaskToDelayedList xTicksToDelay false
    return { s with kernel := kernel }.setPhase t .delayed
  | .delayed => do
    let (kernel, xAlreadyYielded) ← s.kernel.xTaskResumeAll
    return { s with
      kernel := kernel
      softwareInterrupt := s.softwareInterrupt || xAlreadyYielded }.setPhase t
        (if xAlreadyYielded then .yielded else .resumed)
  | .resumed => some ({ s with softwareInterrupt := true }.setPhase t .yielded)
  | .yielded => some (s.setPhase t .running)

/-- What an event does; `none` where the code would stop or read through `NULL`. -/
def exec (s : System τ) : Event τ → Option (System τ)
  | .tickInterrupt => s.vPortIncrementTick
  | .yieldInterrupt => s.vPortYieldISR
  | .work _ => some s
  | .callDelay t xTicksToDelay => some (s.vTaskDelay t xTicksToDelay)
  | .continueDelay t => s.continueDelay t

/-- The processor runs the task: no software interrupt is in front of it. -/
def Runs (s : System τ) (t : τ) : Prop :=
  s.softwareInterrupt = false ∧ s.kernel.pxCurrentTCB = some t

instance (s : System τ) (t : τ) : Decidable (s.Runs t) :=
  inferInstanceAs (Decidable (_ ∧ _))

/-- What can happen.  The idle task makes no delays; and no suspension of the scheduler lasts for
so many ticks that `xPendedTicks` would wrap. -/
def Enabled (idle : τ) (s : System τ) : Event τ → Prop
  | .tickInterrupt => s.kernel.uxSchedulerSuspended = 0 ∨ s.kernel.xPendedTicks ≠ portMaxDelay
  | .yieldInterrupt => s.softwareInterrupt = true
  | .work t => s.Runs t ∧ s.phase t = .running
  | .callDelay t _ => s.Runs t ∧ s.phase t = .running ∧ t ≠ idle
  | .continueDelay t => s.Runs t ∧ s.phase t ≠ .running

instance (idle : τ) (s : System τ) : (e : Event τ) → Decidable (s.Enabled idle e)
  | .tickInterrupt => inferInstanceAs (Decidable (_ ∨ _))
  | .yieldInterrupt => inferInstanceAs (Decidable (_ = _))
  | .work _ => inferInstanceAs (Decidable (_ ∧ _))
  | .callDelay _ _ => inferInstanceAs (Decidable (_ ∧ _ ∧ _))
  | .continueDelay _ => inferInstanceAs (Decidable (_ ∧ _))

/-- The runs from a state, with the events in their order. -/
inductive Run (idle : τ) (s₀ : System τ) : List (Event τ) → System τ → Prop
  | start : Run idle s₀ [] s₀
  | step {es : List (Event τ)} {s s' : System τ} {e : Event τ} (h : Run idle s₀ es s)
      (he : s.Enabled idle e) (hs : s.exec e = some s') : Run idle s₀ (es ++ [e]) s'

/-- The run of some events. -/
def replay (idle : τ) : List (Event τ) → System τ → Option (System τ)
  | [], s => some s
  | e :: es, s => if s.Enabled idle e then (s.exec e).bind (replay idle es) else none

lemma Run.replay {idle : τ} {s₀ s s' : System τ} {es₀ es : List (Event τ)}
    (h : Run idle s₀ es₀ s) (hs : replay idle es s = some s') : Run idle s₀ (es₀ ++ es) s' := by
  induction es generalizing es₀ s with
  | nil =>
    obtain rfl : s = s' := by simpa [System.replay] using hs
    rwa [List.append_nil]
  | cons e es ih =>
    rw [System.replay] at hs
    split_ifs at hs with he
    obtain ⟨s₁, hs₁, hs⟩ := Option.bind_eq_some_iff.mp hs
    rw [List.append_cons]
    exact ih (h.step he hs₁) hs

/-- Whether the events can happen one after the other can be computed. -/
lemma run_replay {idle : τ} {s₀ : System τ} {es : List (Event τ)}
    (h : (System.replay idle es s₀).isSome) :
    Run idle s₀ es ((System.replay idle es s₀).getD s₀) := by
  obtain ⟨s, hs⟩ := Option.isSome_iff_exists.mp h
  rw [hs]
  exact Run.start.replay hs

end System

/-! ### The log -/

/-- The ticks that have come, and for each task the tick at which its last delay is over. -/
structure Log (τ : Type) where
  ticks : ℕ
  wakeTick : τ → ℕ

namespace Log

variable {τ : Type} [DecidableEq τ]

/-- A delay of zero ticks is none. -/
def next (log : Log τ) : Event τ → Log τ
  | .tickInterrupt => { log with ticks := log.ticks + 1 }
  | .callDelay t n =>
    if n > 0 then
      { log with wakeTick := Function.update log.wakeTick t (log.ticks + n.toNat) }
    else log
  | _ => log

/-- The log of a run. -/
def ofEvents (es : List (Event τ)) : Log τ := es.foldl next ⟨0, fun _ => 0⟩

lemma ofEvents_concat (es : List (Event τ)) (e : Event τ) :
    ofEvents (es ++ [e]) = (ofEvents es).next e := by
  simp [ofEvents]

end Log

end Enc624j600.Rtos
