/-
# The driver and the chip together

A world is the chip, the static variables of the driver, and what the driver stored through
the pointers of its callers so far.  The driver's operations act on it; the events of the
chip happen in between.
-/
import Enc624j600.Chip.Events
import Enc624j600.Lib.RelyGuarantee

namespace Enc624j600

open Interaction

/-- One access of the driver to the objects of its caller. -/
inductive Stored where
  /-- The bytes at the indices `0, 1, …` of an array. -/
  | bytes (param : OutParam) (bytes : List Byte)
  | receivedBytes (value : Word)
deriving DecidableEq, Repr

/-- The chip, the static variables of the driver, and what it stored for its caller. -/
structure World where
  chip : Chip
  duplexMode : DuplexMode
  nextReceiveFramePointer : Word
  stored : List Stored

namespace World

variable (w : World)

/-- The local operations of the driver. -/
def performLocal (w : World) : (l : Local) → l.Res × World
  | .delay _ => ((), w)
  | .getDuplexMode => (w.duplexMode, w)
  | .setDuplexMode mode => ((), { w with duplexMode := mode })
  | .getNextReceiveFramePointer => (w.nextReceiveFramePointer, w)
  | .setNextReceiveFramePointer value => ((), { w with nextReceiveFramePointer := value })
  | .store param bytes => ((), { w with stored := w.stored ++ [.bytes param bytes] })
  | .storeReceivedBytes value => ((), { w with stored := w.stored ++ [.receivedBytes value] })

/-- The answer to an operation of the driver and its effect. -/
def perform (w : World) : (o : Op) → o.Res × World
  | .spi i => ((w.chip.exec i).1, { w with chip := (w.chip.exec i).2 })
  | .loc l => w.performLocal l

end World

/-- The driver on the chip. -/
def machine : Machine Op Op.Res World where
  step w o r w' := w.perform o = (r, w')

/-! ## Operations with their answers -/

/-- A register was written. -/
abbrev sfrWrite (a : Byte) (v : Word) : Event Op Op.Res := ⟨.spi (.writeSfr a v), ()⟩

/-- A register was read, and showed `v`. -/
abbrev sfrRead (a : Byte) (v : Word) : Event Op Op.Res := ⟨.spi (.readSfr a), v⟩

/-- Bytes were written through the window of the general-purpose area. -/
abbrev windowWrite (bytes : List Byte) : Event Op Op.Res :=
  ⟨.spi (.writeWindow .EGPDATA bytes), ()⟩

/-- The duplex mode was looked up. -/
abbrev modeRead (mode : DuplexMode) : Event Op Op.Res := ⟨.loc .getDuplexMode, mode⟩

/-! ## Steps -/

lemma machine_step_iff {w w' : World} {o : Op} {r : o.Res} :
    machine.step w o r w' ↔ r = (w.perform o).1 ∧ w' = (w.perform o).2 := by
  constructor
  · intro h
    have h' : w.perform o = (r, w') := h
    rw [h']
    exact ⟨rfl, rfl⟩
  · rintro ⟨rfl, rfl⟩
    rfl

/-- Past its power-on reset the chip follows an instruction. -/
lemma World.perform_spi {w : World} (hp : w.chip.por = false) (i : Instr) :
    w.perform (.spi i) = ((w.chip.perform i).1, { w with chip := (w.chip.perform i).2 }) := by
  simp only [World.perform, Chip.exec, hp, Bool.false_eq_true, if_false]

lemma step_spi {w : World} (hp : w.chip.por = false) (i : Instr) :
    machine.step w (.spi i) (w.chip.perform i).1 { w with chip := (w.chip.perform i).2 } :=
  w.perform_spi hp i

/-- Reading a register leaves the world as it is. -/
lemma step_readSfr {u u' : World} {b : Byte} {r : Word}
    (hs : machine.step u (.spi (.readSfr b)) r u') : u' = u := by
  obtain ⟨-, rfl⟩ := machine_step_iff.1 hs
  simp only [World.perform, Chip.exec]
  split <;> rfl

lemma machine_total (w : World) (o : Op) : ∃ r w', machine.step w o r w' :=
  ⟨_, _, rfl⟩

/-- The steps of the surroundings of the driver. -/
def Surroundings.rely (E : Surroundings) (w w' : World) : Prop :=
  ∃ e, E w.chip e ∧ e.Enabled w.chip ∧ w' = { w with chip := e.apply w.chip }

lemma Surroundings.rely_mono {E E' : Surroundings} (h : ∀ c e, E c e → E' c e) {w w' : World}
    (hr : E.rely w w') : E'.rely w w' := by
  obtain ⟨e, hE, hen, rfl⟩ := hr
  exact ⟨e, h _ _ hE, hen, rfl⟩

lemma not_rely_still (w w' : World) : ¬ still.rely w w' := by
  rintro ⟨_, h, -⟩
  exact h

/-! ## Rules for the operations of the driver -/

section Rules

variable {R : World → World → Prop} {G : Guarantee Op Op.Res World} {α : Type}
  {P : World → Prop} {Q : α → World → Prop}

/-- A transaction with a chip that is past its power-on reset. -/
lemma triple_spi {i : Instr} {k : i.Res → Driver α} {T : i.Res → World → Prop}
    (hst : Stable R P) (hpor : ∀ w, P w → w.chip.por = false)
    (hop : ∀ w, P w → G w (.spi i) (w.chip.perform i).1 { w with chip := (w.chip.perform i).2 } ∧
      T (w.chip.perform i).1 { w with chip := (w.chip.perform i).2 })
    (hk : ∀ r, Triple machine R G (T r) (k r) Q) :
    Triple machine R G P (.op (.spi i) k) Q := by
  refine Triple.op hst ?_ hk
  intro w r w' hw hs
  obtain ⟨rfl, rfl⟩ := machine_step_iff.1 hs
  rw [World.perform_spi (hpor w hw)]
  exact hop w hw

lemma triple_loc {l : Local} {k : l.Res → Driver α} {T : l.Res → World → Prop}
    (hst : Stable R P)
    (hop : ∀ w, P w → G w (.loc l) (w.performLocal l).1 (w.performLocal l).2 ∧
      T (w.performLocal l).1 (w.performLocal l).2)
    (hk : ∀ r, Triple machine R G (T r) (k r) Q) :
    Triple machine R G P (.op (.loc l) k) Q := by
  refine Triple.op hst ?_ hk
  intro w r w' hw hs
  obtain ⟨rfl, rfl⟩ := machine_step_iff.1 hs
  exact hop w hw

end Rules

end Enc624j600
