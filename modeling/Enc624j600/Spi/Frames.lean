/-
# Chip-select frames

Between asserting and deasserting the chip select the driver sends a number of bytes, and gets
one back for each.  Such a frame is an instruction of the chip: the opcode says what follows
it.  `decode` reads a frame as an instruction with its answer, by the table of the opcodes and
nothing else; `encode` and `answer` are the two directions of the bus as the driver uses them.

A stream of frames can be cut into its frames in one way only.
-/
import Mathlib.Data.List.Basic
import Enc624j600.Lib.Steps
import Enc624j600.Source.Spi

namespace Enc624j600

open Interaction

/-! ### The instruction set -/

/-- What an opcode stands for. -/
inductive Opcode where
  | single
  | readPointer (pointer : BufferPointer)
  | writePointer (pointer : BufferPointer)
  | readSfr
  | writeSfr
  | setBits
  | clearBits
  | readWindow (reg : WindowReg)
  | writeWindow (reg : WindowReg)
deriving DecidableEq, Repr

/-- The instruction set, but for the opcode `RBSEL` of two bytes, which the driver does not
use. -/
def instructionSet : List (Byte × Opcode) :=
  [(B0SEL, .single), (B1SEL, .single), (B2SEL, .single), (B3SEL, .single),
    (SETETHRST, .single), (FCDISABLE, .single), (FCSINGLE, .single), (FCMULTIPLE, .single),
    (FCCLEAR, .single), (SETPKTDEC, .single), (DMASTOP, .single), (DMACKSUM, .single),
    (DMACKSUMS, .single), (DMACOPY, .single), (DMACOPYS, .single), (SETTXRTS, .single),
    (ENABLERX, .single), (DISABLERX, .single), (SETEIE, .single), (CLREIE, .single),
    (WGPRDPT, .writePointer .EGPRDPT), (RGPRDPT, .readPointer .EGPRDPT),
    (WRXRDPT, .writePointer .ERXRDPT), (RRXRDPT, .readPointer .ERXRDPT),
    (WUDARDPT, .writePointer .EUDARDPT), (RUDARDPT, .readPointer .EUDARDPT),
    (WGPWRPT, .writePointer .EGPWRPT), (RGPWRPT, .readPointer .EGPWRPT),
    (WRXWRPT, .writePointer .ERXWRPT), (RRXWRPT, .readPointer .ERXWRPT),
    (WUDAWRPT, .writePointer .EUDAWRPT), (RUDAWRPT, .readPointer .EUDAWRPT),
    (RCRU, .readSfr), (WCRU, .writeSfr), (BFSU, .setBits), (BFCU, .clearBits),
    (RGPDATA, .readWindow .EGPDATA), (WGPDATA, .writeWindow .EGPDATA),
    (RRXDATA, .readWindow .ERXDATA), (WRXDATA, .writeWindow .ERXDATA),
    (RUDADATA, .readWindow .EUDADATA), (WUDADATA, .writeWindow .EUDADATA)]

/-- The instruction that a byte selects, if there is one. -/
def opcodeOf (byte : Byte) : Option Opcode := instructionSet.lookup byte

@[simp] lemma opcodeOf_rcru : opcodeOf RCRU = some .readSfr := rfl

@[simp] lemma opcodeOf_wcru : opcodeOf WCRU = some .writeSfr := rfl

@[simp] lemma opcodeOf_bfsu : opcodeOf BFSU = some .setBits := rfl

@[simp] lemma opcodeOf_bfcu : opcodeOf BFCU = some .clearBits := rfl

@[simp] lemma opcodeOf_readPointer (p : BufferPointer) :
    opcodeOf (Spi.readPointerOpcode p) = some (.readPointer p) := by
  cases p <;> rfl

@[simp] lemma opcodeOf_writePointer (p : BufferPointer) :
    opcodeOf (Spi.writePointerOpcode p) = some (.writePointer p) := by
  cases p <;> rfl

@[simp] lemma opcodeOf_readWindow (reg : WindowReg) :
    opcodeOf (Spi.readWindowOpcode reg) = some (.readWindow reg) := by
  cases reg <;> rfl

@[simp] lemma opcodeOf_writeWindow (reg : WindowReg) :
    opcodeOf (Spi.writeWindowOpcode reg) = some (.writeWindow reg) := by
  cases reg <;> rfl

/-! ### Frames -/

/-- A byte that the driver sent, with the byte that came back. -/
abbrev Exchange : Type := Byte × Byte

/-- An instruction with its answer. -/
abbrev Transaction : Type := Event Instr Instr.Res

/-- Registers are words at even addresses. -/
def IsSfrAddr (a : Byte) : Prop := 2 ∣ a.toNat

instance (a : Byte) : Decidable (IsSfrAddr a) := inferInstanceAs (Decidable (_ ∣ _))

/-- Read what follows an opcode. -/
def decodeRest (opcode : Byte) : Opcode → List Exchange → Option Transaction
  | .single, [] => some ⟨.single opcode, ()⟩
  | .readPointer p, [x, y] => some ⟨.readPointer p, assemble x.2 y.2⟩
  | .writePointer p, [x, y] => some ⟨.writePointer p (assemble x.1 y.1), ()⟩
  | .readSfr, [a, x, y] =>
    if IsSfrAddr a.1 then some ⟨.readSfr a.1, assemble x.2 y.2⟩ else none
  | .writeSfr, [a, x, y] =>
    if IsSfrAddr a.1 then some ⟨.writeSfr a.1 (assemble x.1 y.1), ()⟩ else none
  | .setBits, [a, x, y] =>
    if IsSfrAddr a.1 then some ⟨.setBits a.1 (assemble x.1 y.1), ()⟩ else none
  | .clearBits, [a, x, y] =>
    if IsSfrAddr a.1 then some ⟨.clearBits a.1 (assemble x.1 y.1), ()⟩ else none
  | .readWindow reg, xs => some ⟨.readWindow reg xs.length, xs.map Prod.snd⟩
  | .writeWindow reg, xs => some ⟨.writeWindow reg (xs.map Prod.fst), ()⟩
  | _, _ => none

/-- Read a frame as a complete instruction. -/
def decode : List Exchange → Option Transaction
  | [] => none
  | x :: xs => (opcodeOf x.1).bind fun o => decodeRest x.1 o xs

/-- The bytes that the driver sends for an instruction. -/
def encode : Instr → List Byte
  | .single opcode => [opcode]
  | .readPointer p => [Spi.readPointerOpcode p, 0xAA#8, 0xAA#8]
  | .writePointer p v => [Spi.writePointerOpcode p, lsb v, msb v]
  | .readSfr a => [RCRU, a, 0xAA#8, 0xAA#8]
  | .writeSfr a v => [WCRU, a, lsb v, msb v]
  | .setBits a mask => [BFSU, a, lsb mask, msb mask]
  | .clearBits a mask => [BFCU, a, lsb mask, msb mask]
  | .readWindow reg n => Spi.readWindowOpcode reg :: List.replicate n 0xAA#8
  | .writeWindow reg bytes => Spi.writeWindowOpcode reg :: bytes

/-- What the driver makes of the bytes that came back. -/
def answer : (i : Instr) → List Byte → i.Res
  | .single _, _ => ()
  | .readPointer _, bytes => assemble (bytes.getD 1 0#8) (bytes.getD 2 0#8)
  | .writePointer _ _, _ => ()
  | .readSfr _, bytes => assemble (bytes.getD 2 0#8) (bytes.getD 3 0#8)
  | .writeSfr _ _, _ => ()
  | .setBits _ _, _ => ()
  | .clearBits _ _, _ => ()
  | .readWindow _ _, bytes => bytes.tail
  | .writeWindow _ _, _ => ()

/-- The instructions of the set. -/
def Instr.Listed : Instr → Prop
  | .single opcode => opcodeOf opcode = some .single
  | .readSfr a => IsSfrAddr a
  | .writeSfr a _ => IsSfrAddr a
  | .setBits a _ => IsSfrAddr a
  | .clearBits a _ => IsSfrAddr a
  | _ => True

/-- **A frame of the driver decodes to the instruction it was sent for.** -/
theorem decode_encode {i : Instr} (hi : i.Listed) {bytes : List Byte}
    (hlen : bytes.length = (encode i).length) :
    decode ((encode i).zip bytes) = some ⟨i, answer i bytes⟩ := by
  obtain _ | ⟨b, bytes⟩ := bytes
  · cases i <;> simp [encode] at hlen
  -- `b` came back during the opcode; the length of the frame fixes how many bytes follow
  cases i with
  | single opcode =>
    obtain rfl : bytes = [] := by simpa [encode] using hlen
    have ho : opcodeOf opcode = some .single := hi
    simp [encode, decode, ho, decodeRest, answer]
  | readWindow reg n =>
    obtain rfl : bytes.length = n := by simpa [encode] using hlen
    have hback : ((List.replicate bytes.length 0xAA#8).zip bytes).map Prod.snd = bytes :=
      List.map_snd_zip (by simp)
    simp [encode, decode, decodeRest, answer, hback]
  | writeWindow reg sent =>
    have hsent : (sent.zip bytes).map Prod.fst = sent :=
      List.map_fst_zip (by simpa [encode] using hlen.ge)
    simp [encode, decode, decodeRest, answer, hsent]
  | readPointer p =>
    obtain ⟨x, y, rfl⟩ : ∃ x y, bytes = [x, y] :=
      List.length_eq_two.1 (by simpa [encode] using hlen)
    simp [encode, decode, decodeRest, answer]
  | writePointer p v =>
    obtain ⟨x, y, rfl⟩ : ∃ x y, bytes = [x, y] :=
      List.length_eq_two.1 (by simpa [encode] using hlen)
    simp [encode, decode, decodeRest, answer]
  | _ =>
    -- the register instructions: an address and two bytes
    obtain ⟨x, y, z, rfl⟩ : ∃ x y z, bytes = [x, y, z] :=
      List.length_eq_three.1 (by simpa [encode] using hlen)
    have ha := hi
    simp only [Instr.Listed] at ha
    simp [encode, decode, decodeRest, answer, ha]

/-! ### Cutting a stream into frames -/

/-- An event on the bus. -/
abbrev HalEvent : Type := Event HalOp HalOp.Res

/-- The byte transfer of an exchange. -/
def transferEvent (x : Exchange) : HalEvent := ⟨.spiTransfer x.1, x.2⟩

/-- A frame on the bus. -/
def frameEvents (xs : List Exchange) : List HalEvent :=
  ⟨.csAssert, ()⟩ :: (xs.map transferEvent ++ [⟨.csDeassert, ()⟩])

/-- A stream of frames on the bus. -/
def stream (frames : List (List Exchange)) : List HalEvent := (frames.map frameEvents).flatten

@[simp] lemma stream_nil : stream [] = [] := rfl

@[simp] lemma stream_cons (xs : List Exchange) (frames : List (List Exchange)) :
    stream (xs :: frames) = frameEvents xs ++ stream frames := rfl

/-- The first frame ends where the chip select is deasserted. -/
lemma transfers_inj {xs ys : List Exchange} {s t : List HalEvent}
    (h : xs.map transferEvent ++ ⟨.csDeassert, ()⟩ :: s =
      ys.map transferEvent ++ ⟨.csDeassert, ()⟩ :: t) : xs = ys ∧ s = t := by
  induction xs generalizing ys with
  | nil =>
    cases ys with
    | nil => exact ⟨rfl, by simpa using h⟩
    | cons y ys => simp [transferEvent] at h
  | cons x xs ih =>
    cases ys with
    | nil => simp [transferEvent] at h
    | cons y ys =>
      simp only [List.map_cons, List.cons_append, List.cons.injEq] at h
      obtain ⟨hxy, hrest⟩ := h
      obtain ⟨rfl, rfl⟩ := ih hrest
      simp only [transferEvent, Sigma.mk.injEq, HalOp.spiTransfer.injEq] at hxy
      obtain ⟨h1, h2⟩ := hxy
      have hx : x = y := by
        obtain ⟨a, b⟩ := x
        obtain ⟨c, d⟩ := y
        simp_all
      exact ⟨by rw [hx], rfl⟩

/-- **A stream falls into frames in one way.** -/
theorem stream_injective : Function.Injective stream := by
  intro fs
  induction fs with
  | nil =>
    intro gs h
    cases gs with
    | nil => rfl
    | cons ys gs => simp [frameEvents] at h
  | cons xs fs ih =>
    intro gs h
    cases gs with
    | nil => simp [frameEvents] at h
    | cons ys gs =>
      have h' : xs.map transferEvent ++ ⟨.csDeassert, ()⟩ :: stream fs =
          ys.map transferEvent ++ ⟨.csDeassert, ()⟩ :: stream gs := by
        simpa [frameEvents] using h
      obtain ⟨rfl, hrest⟩ := transfers_inj h'
      rw [ih hrest]

end Enc624j600
