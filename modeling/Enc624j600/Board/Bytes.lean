/-
# A byte through the SPI master

`enc624j600_hal_spi_transfer` exchanges one byte with the other side of the bus, and the chip
select is moved while the module is at rest: so the operations of the hardware abstraction layer
do on the board what they stand for.  Here are both directions: what a run on the board did on
the bus, and that everything which can happen on the bus has a run on the board.
-/
import Enc624j600.Board.Calls
import Enc624j600.Main.Delay

namespace Enc624j600

open Interaction

variable {W : Type} {B : Bus W} {level : Bool} {u u' : Board W}

/-- The SPI master as the driver uses it: switched on, with words of eight bits, and nothing on
its way; the chip select is at `level`. -/
structure SpiReady (level : Bool) (u : Board W) : Prop where
  idle : u.spi2.Idle
  bytes : sizeOf u.spi2.con = 1
  on : IsOn u.spi2.con
  cs : u.cs = level

/-- At rest, only the other side of the bus acts there. -/
lemma SpiReady.rely (hu : SpiReady level u) (hR : Board.Rely B u u') :
    SpiReady level u' ∧ Drift B.rely u.bus u'.bus := by
  cases hR with
  | load _ _ htxb => simp [hu.idle.still.1] at htxb
  | finish hsr => simp [hu.idle.still.2] at hsr
  | tick => exact ⟨⟨hu.idle, hu.bytes, hu.on, hu.cs⟩, .refl⟩
  | bus hw => exact ⟨⟨hu.idle, hu.bytes, hu.on, hu.cs⟩, .single hw⟩
  | lat hp => exact ⟨⟨hu.idle, hu.bytes, hu.on, (Board.cs_update hp).trans hu.cs⟩, .refl⟩

lemma SpiReady.drift (hu : SpiReady level u) (hd : Drift (Board.Rely B) u u') :
    SpiReady level u' ∧ Drift B.rely u.bus u'.bus := by
  induction hd with
  | refl => exact ⟨hu, .refl⟩
  | tail _ hR ih =>
    obtain ⟨hu', hd'⟩ := ih.1.rely hR
    exact ⟨hu', ih.2.trans hd'⟩

lemma stable_spiReady : Stable (Board.Rely B) (SpiReady level) := fun _ _ hu hR => (hu.rely hR).1

/-! ### Words of eight bits -/

section Bytes

variable {con : Word32}

lemma truncate_byte (h : sizeOf con = 1) (v : Word32) : truncate con v = v &&& 0xFF#32 := by
  rw [sizeOf] at h
  split at h
  · simp at h
  · rename_i h32
    split at h
    · simp at h
    · rename_i h16
      rw [truncate, if_neg h32, if_neg h16]

lemma getLsbD_byteMask : ∀ i < 8, (0xFF#32).getLsbD i = true := by decide

lemma getLsbD_byteMask8 : ∀ i < 8, (255#8).getLsbD i = true := by decide

/-- The request behind a byte. -/
def byteRequest (b : Byte) : SpiRequest := ⟨some fun _ => b, 1, .object, 1⟩

lemma hasData_byteRequest (b : Byte) : (byteRequest b).HasData := Or.inl ⟨Nat.one_pos, rfl⟩

@[simp] lemma txBytes_byteRequest (b : Byte) : (byteRequest b).txBytes = 1 := rfl

@[simp] lemma rxBytes_byteRequest (b : Byte) : (byteRequest b).rxBytes = 1 := rfl

lemma rxElements_byteRequest (h : sizeOf con = 1) (b : Byte) :
    (byteRequest b).rxElements con = 1 := by
  simp [SpiRequest.rxElements, h]

lemma elementAt_byte (b : Byte) : elementAt (fun _ => b) 1 0 = b.setWidth 32 := by
  simp [elementAt, List.range_succ]

lemma words_byteRequest (h : sizeOf con = 1) (b : Byte) :
    (byteRequest b).words con = [b.setWidth 32] := by
  have hb : b.setWidth 32 &&& 0xFF#32 = b.setWidth 32 := by
    ext i hi
    simp only [BitVec.getElem_and, BitVec.getElem_setWidth]
    rcases Nat.lt_or_ge i 8 with h8 | h8
    · rw [← BitVec.getLsbD_eq_getElem, getLsbD_byteMask i h8, Bool.and_true]
    · rw [BitVec.getLsbD_of_ge _ _ h8, Bool.false_and]
  have hsizes : (byteRequest b).txElements con = 1 ∧
      ((if (byteRequest b).rxBytes > (byteRequest b).txBytes then
        (byteRequest b).rxBytes - (byteRequest b).txBytes else 0) / sizeOf con) = 0 := by
    simp [SpiRequest.txElements, h]
  rw [SpiRequest.words, hsizes.1, hsizes.2, wordsSent]
  change (List.range 1).map _ ++ [] = _
  rw [List.append_nil, List.range_one, List.map_singleton, truncate_byte h, h]
  exact congrArg (· :: []) ((congrArg (· &&& 0xFF#32) (elementAt_byte b)).trans hb)

lemma storedBytes_byte (h : sizeOf con = 1) (y : Word32) :
    storedBytes con [truncate con y] 1 = [y.setWidth 8] := by
  rw [truncate_byte h, storedBytes, h]
  simp only [List.take_one, List.head?_cons, Option.toList_some, List.flatMap_singleton,
    elementBytes, List.range_one, List.map_singleton, List.cons.injEq, and_true]
  ext i hi
  have h8 : (255#8)[i] = true := getLsbD_byteMask8 i hi
  simp [h8]

end Bytes

lemma Bus.Exchanged.of_nil {w v : W} (h : B.Exchanged w [] v) : Drift B.rely w v := by
  generalize hxs : ([] : List (Word32 × Word32)) = xs at h
  induction h with
  | start => exact .refl
  | env _ hR ih => exact (ih hxs).tail hR
  | step _ _ => simp at hxs

/-- The exchange of one word. -/
lemma Bus.Exchanged.of_singleton {w v : W} {x y : Word32} (h : B.Exchanged w [(x, y)] v) :
    ∃ w₁ w₂, Drift B.rely w w₁ ∧ B.exchange w₁ x y w₂ ∧ Drift B.rely w₂ v := by
  generalize hxs : [(x, y)] = xs at h
  induction h with
  | start => simp at hxs
  | env _ hR ih =>
    obtain ⟨w₁, w₂, hd, hx, hd'⟩ := ih hxs
    exact ⟨w₁, w₂, hd, hx, hd'.tail hR⟩
  | @step xs x' y' v₁ v₂ h hx =>
    obtain ⟨rfl, hxy⟩ := List.append_eq_singleton_iff.1 hxs.symm |>.resolve_right (by simp)
    obtain ⟨rfl, rfl⟩ : x' = x ∧ y' = y := by simpa using hxy
    exact ⟨v₁, v₂, h.of_nil, hx, .refl⟩

/-! ### What a run did on the bus -/

lemma halSpiTransfer_eq (b : Byte) : enc624j600HalSpiTransfer b = .op (.put 0 [0#8]) fun _ =>
    (byteRequest b).call.bind fun _ => .op (.get 0) .pure := rfl

/-- A byte was exchanged. -/
lemma returns_halSpiTransfer {b r : Byte} {t : List (Event BoardOp BoardOp.Res)}
    (hu : SpiReady level u)
    (h : Returns (boardMachine B) (Board.Rely B) (enc624j600HalSpiTransfer b) u t r u') :
    SpiReady level u' ∧ ∃ w y v, Drift B.rely u.bus w ∧ B.exchange w (b.setWidth 32) y v ∧
      Drift B.rely v u'.bus ∧ r = y.setWidth 8 := by
  rw [halSpiTransfer_eq] at h
  obtain ⟨u₁, _, u₂, t', hd₁, rfl, -, h₁⟩ := returns_op_iff.1 h
  obtain ⟨x, u₃, t₁, t₂, hcall, h₂, -⟩ := returns_bind_iff.1 h₁
  obtain ⟨u₄, r', u₅, t₃, hd₄, ⟨rfl, rfl⟩, -, h₃⟩ := returns_op_iff.1 h₂
  obtain ⟨-, rfl, hd₅⟩ := returns_pure_iff.1 h₃
  obtain ⟨hu₁, hb₁⟩ := hu.drift hd₁
  have hstill : ({ u₁ with memory := putBytes u₁.memory 0 [0#8] } : Board W).spi2.Still :=
    hu₁.idle.still
  obtain ⟨-, hpost⟩ := (triple_call (byteRequest b)).returns (resting_of_still hstill _) hcall
  rw [if_pos (hasData_byteRequest b)] at hpost
  have hready : ∀ {v : Board W}, Transferred B (Board.setting { u₁ with
      memory := putBytes u₁.memory 0 [0#8] } 1) ((byteRequest b).words u₁.spi2.con)
      ((byteRequest b).rxElements u₁.spi2.con) (putBytes u₁.memory 0 [0#8]) v → SpiReady level v :=
    fun hv => ⟨hv.idle, hv.con ▸ hu₁.bytes, hv.con ▸ hu₁.on, hv.cs.trans hu₁.cs⟩
  have hpost₄ := stable_transferred.drift hpost hd₄
  obtain ⟨hu₅, hb₅⟩ := (hready hpost₄).drift hd₅
  obtain ⟨xs, hx, hwords, hmem⟩ := hpost₄.exchanged
  rw [words_byteRequest hu₁.bytes] at hwords
  obtain ⟨⟨_, y⟩, rfl, rfl⟩ := List.map_eq_singleton_iff.1 hwords
  obtain ⟨w, v, hd, hexch, hd'⟩ := hx.of_singleton
  refine ⟨hu₅, w, y, v, hb₁.trans hd, hexch, hd'.trans hb₅, ?_⟩
  have hbytes : storedBytes u₁.spi2.con [truncate u₁.spi2.con y]
      ((byteRequest b).rxElements u₁.spi2.con) = [y.setWidth 8] := by
    rw [rxElements_byteRequest hu₁.bytes, storedBytes_byte hu₁.bytes]
  have hget : u₅.memory 0 = putBytes (putBytes u₁.memory 0 [0#8]) 0 [y.setWidth 8] 0 := by
    rw [← hbytes]
    exact congrFun hmem 0
  exact hget

/-! ### The chip select -/

/-- Another value in a port latch. -/
def Board.withLat (u : Board W) (port : ℕ) (v : Word32) (w : W) : Board W :=
  { u with lat := Function.update u.lat port v, bus := w }

lemma Board.withLat_bus {port : ℕ} {v : Word32} (w : W) :
    (u.withLat port v w).cs = ({ u with lat := Function.update u.lat port v } : Board W).cs := rfl

lemma cs_clear (u : Board W) (w : W) : (u.withLat GPIO_PIN_RF12.port
    (u.lat GPIO_PIN_RF12.port &&& ~~~GPIO_PIN_RF12.mask) w).cs = false := by
  have hmask : (~~~GPIO_PIN_RF12.mask).getLsbD 12 = false := by decide
  simp only [Board.cs, Board.withLat, Function.update_self, BitVec.getLsbD_and, hmask,
    Bool.and_false]

lemma cs_set (u : Board W) (w : W) : (u.withLat GPIO_PIN_RF12.port
    (u.lat GPIO_PIN_RF12.port ||| GPIO_PIN_RF12.mask) w).cs = true := by
  have hmask : GPIO_PIN_RF12.mask.getLsbD 12 = true := by decide
  simp only [Board.cs, Board.withLat, Function.update_self, BitVec.getLsbD_or, hmask, Bool.or_true]

lemma SpiReady.withLat (hu : SpiReady level u) {v : Word32} {w : W} {level' : Bool}
    (h : (u.withLat GPIO_PIN_RF12.port v w).cs = level') :
    SpiReady level' (u.withLat GPIO_PIN_RF12.port v w) :=
  ⟨hu.idle, hu.bytes, hu.on, h⟩

/-- The chip select falls. -/
lemma returns_csAssert {t : List (Event BoardOp BoardOp.Res)} {x : Unit} (hu : SpiReady true u)
    (h : Returns (boardMachine B) (Board.Rely B) enc624j600HalCsAssert u t x u') :
    SpiReady false u' ∧ ∃ w v, Drift B.rely u.bus w ∧ B.select w v ∧ Drift B.rely v u'.bus := by
  obtain ⟨u₁, _, u₂, t', hd₁, ⟨w, hw, rfl⟩, -, h₁⟩ := returns_op_iff.1 h
  obtain ⟨-, -, hd₂⟩ := returns_pure_iff.1 h₁
  obtain ⟨hu₁, hb₁⟩ := hu.drift hd₁
  obtain ⟨hu', hb₂⟩ := (hu₁.withLat (cs_clear u₁ w)).drift hd₂
  rw [hu₁.cs, ← Board.withLat_bus u₁.bus, cs_clear] at hw
  exact ⟨hu', u₁.bus, w, hb₁, hw, hb₂⟩

/-- The chip select rises. -/
lemma returns_csDeassert {t : List (Event BoardOp BoardOp.Res)} {x : Unit} (hu : SpiReady false u)
    (h : Returns (boardMachine B) (Board.Rely B) enc624j600HalCsDeassert u t x u') :
    SpiReady true u' ∧ ∃ w v, Drift B.rely u.bus w ∧ B.deselect w v ∧ Drift B.rely v u'.bus := by
  obtain ⟨u₁, _, u₂, t', hd₁, ⟨w, hw, rfl⟩, -, h₁⟩ := returns_op_iff.1 h
  obtain ⟨-, -, hd₂⟩ := returns_pure_iff.1 h₁
  obtain ⟨hu₁, hb₁⟩ := hu.drift hd₁
  obtain ⟨hu', hb₂⟩ := (hu₁.withLat (cs_set u₁ w)).drift hd₂
  rw [hu₁.cs, ← Board.withLat_bus u₁.bus, cs_set] at hw
  exact ⟨hu', u₁.bus, w, hb₁, hw, hb₂⟩

/-! ### The wait -/

lemma onBoard_delay (us : Byte) : board (.loc (.delay us)) = .op .tickCount fun ticks =>
    .loop (.op .tickCount fun now => .pure (!decide (delayGoesOn us ticks now))) (.pure ()) := rfl

/-- The wait does not use the bus. -/
lemma returns_delay {us : Byte} {t : List (Event BoardOp BoardOp.Res)} {x : Unit}
    (hu : SpiReady level u)
    (h : Returns (boardMachine B) (Board.Rely B) (board (.loc (.delay us))) u t x u') :
    SpiReady level u' ∧ Drift B.rely u.bus u'.bus := by
  have hall : (board (.loc (.delay us))).All (· = .tickCount) :=
    ⟨rfl, fun _ => ⟨⟨rfl, fun _ => trivial⟩, trivial⟩⟩
  refine (h.invariant (F := fun v => SpiReady level v ∧ Drift B.rely u.bus v.bus) hall ?_ ?_
    ⟨hu, .refl⟩).1
  · rintro v _ r v' rfl hv ⟨-, rfl⟩
    exact hv
  · intro v v' hv hR
    obtain ⟨hv', hd⟩ := hv.1.rely hR
    exact ⟨hv', hv.2.trans hd⟩

/-- Time passes. -/
lemma drift_ticks (u : Board W) (n : ℕ) :
    Drift (Board.Rely B) u { u with ticks := u.ticks + BitVec.ofNat 32 n } := by
  induction n with
  | zero =>
    rw [BitVec.add_zero]
  | succ n ih =>
    have hstep : Board.Rely B { u with ticks := u.ticks + BitVec.ofNat 32 n }
        { u with ticks := u.ticks + BitVec.ofNat 32 n + 1#32 } := .tick
    rw [BitVec.ofNat_add, ← BitVec.add_assoc]
    exact ih.tail hstep

/-! ### Runs for what can happen on the bus -/

/-- The wait comes to its end. -/
lemma canReturn_delay (us : Byte) (hu : SpiReady level u) :
    ∃ u', SpiReady level u' ∧ u'.bus = u.bus ∧
    CanReturn (boardMachine B) (Board.Rely B) (board (.loc (.delay us))) u () u' := by
  have hover : ¬ delayGoesOn us u.ticks (u.ticks + BitVec.ofNat 32 us.toNat) := by
    rw [delayGoesOn, BitVec.lt_def, toNat_pdMsToTicks, BitVec.add_comm, BitVec.add_sub_cancel,
      BitVec.toNat_ofNat, Nat.mod_eq_of_lt (by have := us.isLt; omega)]
    exact lt_irrefl _
  refine ⟨{ u with ticks := u.ticks + BitVec.ofNat 32 us.toNat },
    ⟨hu.idle, hu.bytes, hu.on, hu.cs⟩, rfl, ?_⟩
  rw [onBoard_delay]
  refine CanReturn.op (u := u) (r := u.ticks) ⟨rfl, rfl⟩ (CanReturn.loop (x := true)
    (CanReturn.drift_left (drift_ticks u us.toNat) (CanReturn.op ⟨rfl, rfl⟩ ?_)) .pure)
  rw [decide_eq_false hover]
  exact .pure

lemma canReturn_csAssert {w : W} (hu : SpiReady true u) (hw : B.select u.bus w) :
    ∃ u', SpiReady false u' ∧ u'.bus = w ∧
      CanReturn (boardMachine B) (Board.Rely B) enc624j600HalCsAssert u () u' := by
  refine ⟨_, hu.withLat (cs_clear u w), rfl, CanReturn.op ⟨w, ?_, rfl⟩ .pure⟩
  rwa [hu.cs, ← Board.withLat_bus u.bus, cs_clear]

lemma canReturn_csDeassert {w : W} (hu : SpiReady false u) (hw : B.deselect u.bus w) :
    ∃ u', SpiReady true u' ∧ u'.bus = w ∧
      CanReturn (boardMachine B) (Board.Rely B) enc624j600HalCsDeassert u () u' := by
  refine ⟨_, hu.withLat (cs_set u w), rfl, CanReturn.op ⟨w, ?_, rfl⟩ .pure⟩
  rwa [hu.cs, ← Board.withLat_bus u.bus, cs_set]

lemma canReturn_awaitStat {flag : Word32} (h : u.spi2.stat &&& flag ≠ 0#32) :
    CanReturn (boardMachine B) (Board.Rely B) (awaitStat flag) u () u := by
  have hread : (boardMachine B).step u (.readReg .SPI2STAT) u.spi2.stat u := ⟨rfl, rfl⟩
  refine CanReturn.loop (x := true) (CanReturn.op hread ?_) .pure
  rw [show (true : Bool) = !decide (u.spi2.stat &&& flag = 0#32) by simp [h]]
  exact .pure

lemma canReturn_elementSize :
    CanReturn (boardMachine B) (Board.Rely B) elementSize u (sizeOf u.spi2.con) u := by
  have hread : (boardMachine B).step u (.readReg .SPI2CON) u.spi2.con u := ⟨rfl, rfl⟩
  rw [elementSize_eq, sizeOf]
  refine CanReturn.op hread ?_
  by_cases h32 : u.spi2.con &&& SPI2CON_MODE32 = SPI2CON_MODE32
  · rw [if_pos h32, if_pos h32]
    exact .pure
  · rw [if_neg h32, if_neg h32]
    refine CanReturn.op hread ?_
    by_cases h16 : u.spi2.con &&& SPI2CON_MODE16 = SPI2CON_MODE16
    · rw [if_pos h16, if_pos h16]
      exact .pure
    · rw [if_neg h16, if_neg h16]
      exact .pure

lemma canReturn_flush (hrbf : u.spi2.rbf = false) :
    CanReturn (boardMachine B) (Board.Rely B) flush u () u := by
  have hread : (boardMachine B).step u (.readReg .SPI2STAT) u.spi2.stat u := ⟨rfl, rfl⟩
  rw [flush_eq]
  refine CanReturn.loop (x := true) (CanReturn.op hread ?_) .pure
  rw [if_pos (u.spi2.stat_rbf.2 hrbf)]
  exact .pure

/-- The words of eight bits that are on the bus for a byte. -/
lemma truncate_elementAt {con : Word32} (h : sizeOf con = 1) (b : Byte) :
    truncate con (elementAt (fun _ => b) 1 0) = b.setWidth 32 := by
  have hwords := wordsSent_element con (fun _ => b) 0 Nat.one_pos
  have hall : wordsSent con (fun _ => b) 1 0 = [b.setWidth 32] := by
    have hbyte := words_byteRequest h b
    rw [SpiRequest.words, SpiRequest.txElements, h, txBytes_byteRequest, rxBytes_byteRequest,
      if_neg (lt_irrefl 1), Nat.div_one, Nat.div_one] at hbyte
    exact hbyte
  rw [hall, h] at hwords
  exact (Option.some.inj hwords).symm

/-- One turn of the transfer loop for a byte. -/
lemma canReturn_turn {b : Byte} {y : Word32} {v : W} (hu : SpiReady level u)
    (hx : B.exchange u.bus (b.setWidth 32) y v) : ∃ u', SpiReady level u' ∧ u'.bus = v ∧
      u'.memory 0 = y.setWidth 8 ∧
      CanReturn (boardMachine B) (Board.Rely B) (transferLoop (fun _ => b) 1 1 1 ⟨0, 0, 0, 0⟩) u
        ⟨1, 1, 0, 0⟩ u' := by
  -- the word is written, moves to the shift register, and is exchanged
  have hword := truncate_elementAt hu.bytes b
  let sent : Board W := { u with spi2 := u.spi2.write (elementAt (fun _ => b) 1 0) .SPI2BUF }
  let loaded : Board W :=
    { u with spi2 := { u.spi2 with txb := none, sr := some (b.setWidth 32) } }
  let full : Board W := { u with
    spi2 := { u.spi2 with txb := none, sr := none, rxb := truncate u.spi2.con y, rbf := true },
    bus := v }
  have hload : Board.Rely B sent loaded :=
    .load hu.on hu.idle.still.2 (congrArg some hword)
  have hfinish : Board.Rely B loaded full := by
    have hstep : Board.Rely B loaded { loaded with
        spi2 := loaded.spi2.finish (truncate u.spi2.con y), bus := v } := .finish rfl hx
    simpa [loaded, full, Spi2.finish, hu.idle.rbf, hu.idle.rov] using hstep
  have hstored : elementBytes 1 (truncate u.spi2.con y) = [y.setWidth 8] := by
    have hbytes := storedBytes_byte hu.bytes y
    rwa [storedBytes, hu.bytes, List.take_one, List.head?_cons, Option.toList_some,
      List.flatMap_singleton] at hbytes
  let read : Board W := { full with spi2 := { full.spi2 with rbf := false } }
  let stored : Board W := { read with memory := putBytes u.memory 0 [y.setWidth 8] }
  have hready : SpiReady level stored :=
    ⟨⟨⟨rfl, rfl⟩, rfl, hu.idle.rov⟩, hu.bytes, hu.on, hu.cs⟩
  refine ⟨stored, hready, rfl, rfl, ?_⟩
  -- the loop writes it
  rw [transferLoop, if_pos (Or.inl (by decide))]
  refine CanReturn.bind (a := ⟨1, 0, 0, 0⟩) (u := sent) ?_ ?_
  · rw [sendNext, if_pos (by decide)]
    refine CanReturn.bind canReturn_elementSize ?_
    rw [hu.bytes]
    refine CanReturn.op (u := sent) (r := ()) rfl ?_
    rw [Prog.pure_bind]
    exact .pure
  -- and waits for the answer
  refine CanReturn.bind (a := ⟨1, 1, 0, 0⟩) (u := stored) ?_ .pure
  rw [receiveNext, if_neg (by decide)]
  have hfull : full.spi2.stat &&& SPI2STAT_SPIRBF ≠ 0#32 := by
    rw [Ne, Spi2.stat_rbf]
    simp [full]
  have hwait : CanReturn (boardMachine B) (Board.Rely B) (awaitStat SPI2STAT_SPIRBF) sent () full :=
    (canReturn_awaitStat hfull).drift_left ((Relation.ReflTransGen.single hload).tail hfinish)
  refine CanReturn.bind hwait (CanReturn.op (u := read) ⟨rfl, rfl⟩ ?_)
  rw [Prog.pure_bind, if_pos (by decide)]
  refine CanReturn.bind canReturn_elementSize ?_
  have hput : (boardMachine B).step read (.put (1 * 0) (elementBytes 1 (truncate u.spi2.con y))) ()
      stored := by
    rw [hstored]
    rfl
  have hsize : sizeOf read.spi2.con = 1 := hu.bytes
  rw [hsize]
  refine CanReturn.op hput ?_
  rw [Prog.pure_bind]
  exact .pure

/-- Any exchange of a byte has a run. -/
lemma canReturn_halSpiTransfer {b : Byte} {y : Word32} {v : W} (hu : SpiReady level u)
    (hx : B.exchange u.bus (b.setWidth 32) y v) : ∃ u', SpiReady level u' ∧ u'.bus = v ∧
      CanReturn (boardMachine B) (Board.Rely B) (enc624j600HalSpiTransfer b) u (y.setWidth 8)
        u' := by
  -- in front of the loop
  have hu₁ : SpiReady level { u with memory := putBytes u.memory 0 [0#8] } :=
    ⟨hu.idle, hu.bytes, hu.on, hu.cs⟩
  have hu₂ : SpiReady level { u with
      memory := putBytes u.memory 0 [0#8], spi2 := u.spi2.write SPI2STAT_SPIROV .SPI2STATCLR } :=
    ⟨⟨hu.idle.still, hu.idle.rbf, rfl⟩, hu.bytes, hu.on, hu.cs⟩
  obtain ⟨u', hu', hbus, hmem, hturn⟩ := canReturn_turn hu₂ hx
  refine ⟨u', hu', hbus, ?_⟩
  have htransfer : CanReturn (boardMachine B) (Board.Rely B) (transferElements (fun _ => b) 1 1)
      { u with memory := putBytes u.memory 0 [0#8] } () u' := by
    refine CanReturn.op (r := ()) rfl ?_
    rw [Prog.pure_bind]
    refine CanReturn.bind (canReturn_flush hu₂.idle.rbf) (CanReturn.bind canReturn_elementSize ?_)
    rw [hu₂.bytes]
    refine CanReturn.bind (canReturn_awaitStat ?_) (CanReturn.bind hturn .pure)
    rw [Ne, Spi2.stat_tbe, hu₂.idle.still.1]
    simp
  rw [halSpiTransfer_eq, SpiRequest.call_eq, if_pos (hasData_byteRequest b)]
  refine CanReturn.op (r := ()) rfl (CanReturn.bind (CanReturn.bind htransfer .pure) ?_)
  exact CanReturn.op ⟨hmem.symm, rfl⟩ .pure

end Enc624j600
