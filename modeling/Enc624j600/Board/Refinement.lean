/-
# The driver on the board

The driver runs on the board, through the port pins and the SPI master; above it is the driver on
the bus, whose operations are those of the hardware abstraction layer.  Both do the same: every
call on the board is a call on the bus, and every call on the bus can be made on the board.  The
chip may be any.
-/
import Enc624j600.Board.Setup
import Enc624j600.Lib.Layers
import Enc624j600.Spi.Serial

namespace Enc624j600

open Interaction

section Layers

variable {W : Type} {M' : Machine HalOp HalOp.Res W} {R' : W → W → Prop} {level : Bool}
  {u u' : Board W} {w : W}

/-- The chip `M'` at the pins of the board. -/
def chipOnBus (M' : Machine HalOp HalOp.Res W) (R' : W → W → Prop) : Bus W where
  exchange w x y w' := M'.step w (.spiTransfer (x.setWidth 8)) (y.setWidth 8) w'
  select w w' := M'.step w .csAssert () w'
  deselect w w' := M'.step w .csDeassert () w'
  loc w l r w' := M'.step w (.loc l) r w'
  rely := R'

variable (M' R') in
/-- The board with the chip on its bus. -/
abbrev onBoard : Machine BoardOp BoardOp.Res (Board W) := boardMachine (chipOnBus M' R')

variable (M' R') in
/-- What the board does on its own between two steps of a function. -/
abbrev boardRely : Board W → Board W → Prop := Board.Rely (chipOnBus M' R')

lemma setWidth_byte (b : Byte) : (b.setWidth 32).setWidth 8 = b :=
  BitVec.setWidth_setWidth_of_le _ (by decide)

/-! ### Calls on the board are calls on the bus -/

/-- An exchange of a byte. -/
lemma spiTransfer_of_board {b r : Byte} {t : List (Event BoardOp BoardOp.Res)}
    (hu : SpiReady level u)
    (h : Returns (onBoard M' R') (boardRely M' R') (enc624j600HalSpiTransfer b) u t r u') :
    SpiReady level u' ∧ ∃ w v, Drift R' u.bus w ∧ M'.step w (.spiTransfer b) r v ∧
      Drift R' v u'.bus := by
  obtain ⟨hu', w, y, v, hd, hx, hd', rfl⟩ := returns_halSpiTransfer hu h
  refine ⟨hu', w, v, hd, ?_, hd'⟩
  rw [← setWidth_byte b]
  exact hx

lemma transfers_of_board {bytes rs : List Byte} {t : List (Event BoardOp BoardOp.Res)}
    (hu : SpiReady false u)
    (h : Returns (onBoard M' R') (boardRely M' R') ((transfers bytes).lower board) u t rs u') :
    SpiReady false u' ∧ CanReturn M' R' (transfers bytes) u.bus rs u'.bus := by
  induction bytes generalizing u u' t rs with
  | nil =>
    obtain ⟨-, rfl, hd⟩ := returns_pure_iff.1 h
    obtain ⟨hu', hd'⟩ := hu.drift hd
    exact ⟨hu', CanReturn.drift_left hd' .pure⟩
  | cons b bytes ih =>
    rw [transfers_cons, Prog.lower_op] at h
    obtain ⟨r, u₁, t₁, t₂, hr, h₁, -⟩ := returns_bind_iff.1 h
    obtain ⟨hu₁, w, v, hd, hstep, hd'⟩ := spiTransfer_of_board hu hr
    rw [Prog.lower_bind] at h₁
    obtain ⟨rs', u₂, t₃, t₄, hrs, h₂, -⟩ := returns_bind_iff.1 h₁
    obtain ⟨-, rfl, hd₂⟩ := returns_pure_iff.1 h₂
    obtain ⟨hu₂, hrun⟩ := ih hu₁ hrs
    obtain ⟨hu', hd₂'⟩ := hu₂.drift hd₂
    refine ⟨hu', ?_⟩
    rw [transfers_cons]
    refine CanReturn.drift_left hd (CanReturn.op hstep (CanReturn.drift_left hd'
      (CanReturn.bind hrun ?_)))
    exact CanReturn.drift_left hd₂' .pure

/-- A frame. -/
lemma exchange_of_board {bytes rs : List Byte} {t : List (Event BoardOp BoardOp.Res)}
    (hu : SpiReady true u)
    (h : Returns (onBoard M' R') (boardRely M' R') ((exchange bytes).lower board) u t rs u') :
    SpiReady true u' ∧ CanReturn M' R' (exchange bytes) u.bus rs u'.bus := by
  rw [exchange_eq, Prog.lower_op] at h
  obtain ⟨_, u₁, t₁, t₂, hassert, h₁, -⟩ := returns_bind_iff.1 h
  obtain ⟨hu₁, w, v, hd, hstep, hd'⟩ := returns_csAssert hu hassert
  rw [Prog.lower_bind] at h₁
  obtain ⟨rs', u₂, t₃, t₄, hrs, h₂, -⟩ := returns_bind_iff.1 h₁
  obtain ⟨hu₂, hrun⟩ := transfers_of_board hu₁ hrs
  rw [Prog.lower_op] at h₂
  obtain ⟨_, u₃, t₅, t₆, hdeassert, h₃, -⟩ := returns_bind_iff.1 h₂
  obtain ⟨hu₃, w', v', hd₂, hstep', hd₂'⟩ := returns_csDeassert hu₂ hdeassert
  obtain ⟨-, rfl, hd₃⟩ := returns_pure_iff.1 h₃
  obtain ⟨hu', hd₃'⟩ := hu₃.drift hd₃
  refine ⟨hu', ?_⟩
  rw [exchange_eq]
  refine CanReturn.drift_left hd (CanReturn.op hstep (CanReturn.drift_left hd'
    (CanReturn.bind hrun (CanReturn.drift_left hd₂ (CanReturn.op hstep' ?_)))))
  exact CanReturn.drift_left (hd₂'.trans hd₃') .pure

/-- An operation of the driver. -/
lemma hal_of_board (hdelay : ∀ {w us w'}, w' = w → M'.step w (.loc (.delay us)) () w') {o : Op}
    {r : o.Res} {t : List (Event BoardOp BoardOp.Res)} (hu : SpiReady true u)
    (h : Returns (onBoard M' R') (boardRely M' R') ((hal o).lower board) u t r u') :
    SpiReady true u' ∧ CanReturn M' R' (hal o) u.bus r u'.bus := by
  cases o with
  | spi i =>
    change Returns _ _ (i.hal.lower board) _ _ _ _ at h
    change _ ∧ CanReturn _ _ i.hal _ _ _
    rw [hal_eq, Prog.lower_bind] at h
    obtain ⟨rs, u₁, t₁, t₂, hrs, h₁, -⟩ := returns_bind_iff.1 h
    obtain ⟨hu₁, hrun⟩ := exchange_of_board hu hrs
    obtain ⟨-, rfl, hd⟩ := returns_pure_iff.1 h₁
    obtain ⟨hu', hd'⟩ := hu₁.drift hd
    rw [hal_eq]
    exact ⟨hu', hrun.bind (CanReturn.drift_left hd' .pure)⟩
  | loc l =>
    have hop : (hal (.loc l)).lower board = (board (.loc l)).bind .pure := rfl
    rw [hop] at h
    obtain ⟨r', u₁, t₁, t₂, h₁, h₂, -⟩ := returns_bind_iff.1 h
    obtain ⟨-, rfl, hd₂⟩ := returns_pure_iff.1 h₂
    by_cases hl : ∃ us, l = .delay us
    · obtain ⟨us, rfl⟩ := hl
      obtain ⟨hu₁, hd₁⟩ := returns_delay hu h₁
      obtain ⟨hu', hd'⟩ := hu₁.drift hd₂
      exact ⟨hu', CanReturn.drift_left (hd₁.trans hd') (CanReturn.op (hdelay rfl) .pure)⟩
    · have hloc : board (.loc l) = .perform (BoardOp.loc l) := by
        cases l with
        | delay us => exact absurd ⟨us, rfl⟩ hl
        | _ => rfl
      rw [hloc] at h₁
      obtain ⟨u₂, r'', u₃, t₃, hd₁, ⟨w, hw, rfl⟩, -, h₄⟩ := returns_op_iff.1 h₁
      obtain ⟨-, rfl, hd₃⟩ := returns_pure_iff.1 h₄
      obtain ⟨hu₂, hd₁'⟩ := hu.drift hd₁
      have hu₃ : SpiReady true { u₂ with bus := w } := ⟨hu₂.idle, hu₂.bytes, hu₂.on, hu₂.cs⟩
      obtain ⟨hu', hd'⟩ := hu₃.drift (hd₃.trans hd₂)
      exact ⟨hu', CanReturn.drift_left hd₁' (CanReturn.op hw (CanReturn.drift_left hd' .pure))⟩

/-! ### Calls on the bus can be made on the board -/

/-- What the chip does on its own. -/
lemma SpiReady.exists_drift (M' : Machine HalOp HalOp.Res W) (hu : SpiReady level u)
    (hd : Drift R' u.bus w) : ∃ v, Drift (boardRely M' R') u v ∧ SpiReady level v ∧ v.bus = w := by
  induction hd with
  | refl => exact ⟨u, .refl, hu, rfl⟩
  | tail _ hR ih =>
    obtain ⟨v, hd, hv, rfl⟩ := ih
    exact ⟨{ v with bus := _ }, hd.tail (.bus hR), ⟨hv.idle, hv.bytes, hv.on, hv.cs⟩, rfl⟩

lemma board_of_transfers {bytes rs : List Byte} {t : List HalEvent} (hu : SpiReady false u)
    (h : Returns M' R' (transfers bytes) u.bus t rs w) : ∃ v, SpiReady false v ∧ v.bus = w ∧
      CanReturn (onBoard M' R') (boardRely M' R') ((transfers bytes).lower board) u rs v := by
  induction bytes generalizing u t rs w with
  | nil =>
    obtain ⟨-, rfl, hd⟩ := returns_pure_iff.1 h
    obtain ⟨v, hd', hv, hbus⟩ := hu.exists_drift M' hd
    exact ⟨v, hv, hbus, CanReturn.drift_left hd' .pure⟩
  | cons b bytes ih =>
    rw [transfers_cons] at h
    obtain ⟨w₁, r, w₂, t', hd, hstep, -, h₁⟩ := returns_op_iff.1 h
    obtain ⟨v₁, hd₁, hv₁, rfl⟩ := hu.exists_drift M' hd
    have hx : (chipOnBus M' R').exchange v₁.bus (b.setWidth 32) (r.setWidth 32) w₂ := by
      change M'.step _ (.spiTransfer _) _ _
      rwa [setWidth_byte, setWidth_byte]
    obtain ⟨v₂, hv₂, rfl, hrun⟩ := canReturn_halSpiTransfer hv₁ hx
    rw [setWidth_byte] at hrun
    obtain ⟨rs', w₃, t₃, t₄, hrs, h₂, -⟩ := returns_bind_iff.1 h₁
    obtain ⟨v₃, hv₃, rfl, hrun'⟩ := ih hv₂ hrs
    obtain ⟨-, rfl, hd₄⟩ := returns_pure_iff.1 h₂
    obtain ⟨v₄, hd₄', hv₄, hbus⟩ := hv₃.exists_drift M' hd₄
    refine ⟨v₄, hv₄, hbus, ?_⟩
    rw [transfers_cons, Prog.lower_op]
    refine CanReturn.drift_left hd₁ (hrun.bind ?_)
    rw [Prog.lower_bind]
    exact hrun'.bind (CanReturn.drift_left hd₄' .pure)

lemma board_of_exchange {bytes rs : List Byte} {t : List HalEvent} (hu : SpiReady true u)
    (h : Returns M' R' (exchange bytes) u.bus t rs w) : ∃ v, SpiReady true v ∧ v.bus = w ∧
      CanReturn (onBoard M' R') (boardRely M' R') ((exchange bytes).lower board) u rs v := by
  rw [exchange_eq] at h
  obtain ⟨w₁, _, w₂, t₁, hd₁, hassert, -, h₁⟩ := returns_op_iff.1 h
  obtain ⟨v₁, hd₁', hv₁, rfl⟩ := hu.exists_drift M' hd₁
  obtain ⟨v₂, hv₂, rfl, hrun₂⟩ := canReturn_csAssert (B := chipOnBus M' R') hv₁ hassert
  obtain ⟨rs', w₃, t₃, t₄, hrs, h₂, -⟩ := returns_bind_iff.1 h₁
  obtain ⟨v₃, hv₃, rfl, hrun₃⟩ := board_of_transfers hv₂ hrs
  obtain ⟨w₄, _, w₅, t₅, hd₄, hdeassert, -, h₃⟩ := returns_op_iff.1 h₂
  obtain ⟨v₄, hd₄', hv₄, rfl⟩ := hv₃.exists_drift M' hd₄
  obtain ⟨v₅, hv₅, rfl, hrun₅⟩ := canReturn_csDeassert (B := chipOnBus M' R') hv₄ hdeassert
  obtain ⟨-, rfl, hd₆⟩ := returns_pure_iff.1 h₃
  obtain ⟨v₆, hd₆', hv₆, hbus⟩ := hv₅.exists_drift M' hd₆
  refine ⟨v₆, hv₆, hbus, ?_⟩
  rw [exchange_eq, Prog.lower_op]
  refine CanReturn.drift_left hd₁' (hrun₂.bind ?_)
  rw [Prog.lower_bind]
  refine hrun₃.bind (CanReturn.drift_left hd₄' ?_)
  rw [Prog.lower_op]
  exact hrun₅.bind (CanReturn.drift_left hd₆' .pure)

/-- An operation of the driver, if the chip does nothing for a delay. -/
lemma board_of_hal (hdelay : ∀ {w us w'}, M'.step w (.loc (.delay us)) () w' → w' = w) {o : Op}
    {r : o.Res} {t : List HalEvent} (hu : SpiReady true u) (h : Returns M' R' (hal o) u.bus t r w) :
    ∃ v, SpiReady true v ∧ v.bus = w ∧
      CanReturn (onBoard M' R') (boardRely M' R') ((hal o).lower board) u r v := by
  cases o with
  | spi i =>
    change Returns _ _ i.hal _ _ _ _ at h
    change ∃ v, _ ∧ _ ∧ CanReturn _ _ (i.hal.lower board) _ _ _
    rw [hal_eq] at h
    obtain ⟨rs, w₁, t₁, t₂, hrs, h₁, -⟩ := returns_bind_iff.1 h
    obtain ⟨v₁, hv₁, rfl, hrun⟩ := board_of_exchange hu hrs
    obtain ⟨-, rfl, hd⟩ := returns_pure_iff.1 h₁
    obtain ⟨v₂, hd', hv₂, hbus⟩ := hv₁.exists_drift M' hd
    refine ⟨v₂, hv₂, hbus, ?_⟩
    rw [hal_eq, Prog.lower_bind]
    exact hrun.bind (CanReturn.drift_left hd' .pure)
  | loc l =>
    have hop : (hal (.loc l)).lower board = (board (.loc l)).bind .pure := rfl
    rw [hop]
    obtain ⟨w₁, r', w₂, t₁, hd₁, hstep, -, h₁⟩ := returns_op_iff.1 h
    obtain ⟨v₁, hd₁', hv₁, rfl⟩ := hu.exists_drift M' hd₁
    obtain ⟨-, rfl, hd₂⟩ := returns_pure_iff.1 h₁
    by_cases hl : ∃ us, l = .delay us
    · obtain ⟨us, rfl⟩ := hl
      obtain rfl := hdelay hstep
      obtain ⟨v₂, hv₂, hbus, hrun⟩ := canReturn_delay (B := chipOnBus M' R') us hv₁
      rw [← hbus] at hd₂
      obtain ⟨v₃, hd₃, hv₃, rfl⟩ := hv₂.exists_drift M' hd₂
      exact ⟨v₃, hv₃, rfl,
        CanReturn.drift_left hd₁' (hrun.bind (CanReturn.drift_left hd₃ .pure))⟩
    · have hloc : board (.loc l) = .perform (BoardOp.loc l) := by
        cases l with
        | delay us => exact absurd ⟨us, rfl⟩ hl
        | _ => rfl
      have hv₂ : SpiReady true { v₁ with bus := w₂ } := ⟨hv₁.idle, hv₁.bytes, hv₁.on, hv₁.cs⟩
      obtain ⟨v₃, hd₃, hv₃, rfl⟩ := hv₂.exists_drift M' hd₂
      rw [hloc]
      refine ⟨v₃, hv₃, rfl, CanReturn.drift_left hd₁' ?_⟩
      exact CanReturn.op ⟨w₂, hstep, rfl⟩ (CanReturn.drift_left hd₃ .pure)

/-! ### The layers -/

/-- The chip does nothing for a delay: it is not asked. -/
def DelayFree (M' : Machine HalOp HalOp.Res W) : Prop :=
  ∀ w us w', M'.step w (.loc (.delay us)) () w' ↔ w' = w

lemma carries_board (hdelay : DelayFree M') :
    Carries (M'.complete R' hal) R' ((onBoard M' R').complete (boardRely M' R') fun o =>
      (hal o).lower board) (boardRely M' R') Board.bus (SpiReady true) fun _ => True where
  env hu hR := hu.rely hR
  op := by
    rintro u o r u' - hu ⟨t, h⟩
    obtain ⟨hu', hrun⟩ := hal_of_board (fun h => (hdelay _ _ _).2 h) hu h
    exact ⟨hu', u.bus, u'.bus, .refl, hrun, .refl⟩

lemma lifts_board (hdelay : DelayFree M') :
    Lifts (M'.complete R' hal) R' ((onBoard M' R').complete (boardRely M' R') fun o =>
      (hal o).lower board) (boardRely M' R') Board.bus (SpiReady true) fun _ => True where
  env hu hR := hu.exists_drift _ (.single hR)
  op := by
    rintro u o r w - hu ⟨t, h⟩
    obtain ⟨v, hv, hbus, hrun⟩ := board_of_hal (fun h => (hdelay _ _ _).1 h) hu h
    exact ⟨v, hrun, hv, hbus⟩

lemma onBoard_eq (d : DriverFunction) :
    d.onBoard = d.program.lower fun o => (hal o).lower board := Prog.lower_lower _ _ _

/-- A call on the board is a call on the bus. -/
lemma call_of_board (hdelay : DelayFree M') {d : DriverFunction} {r : DriverResult}
    {t : List (Event BoardOp BoardOp.Res)} (hu : SpiReady true u)
    (h : Returns (onBoard M' R') (boardRely M' R') d.onBoard u t r u') :
    SpiReady true u' ∧ ∃ s, Returns M' R' d.onBus u.bus s r u'.bus := by
  rw [onBoard_eq] at h
  obtain ⟨s, hs⟩ := returns_lower_iff.1 ⟨t, h⟩
  obtain ⟨hu', hs'⟩ :=
    (carries_board hdelay).returns (Prog.all_of_forall (fun _ => trivial) _) hu hs
  exact ⟨hu', returns_lower_iff.2 ⟨s, hs'⟩⟩

/-- A call on the bus can be made on the board. -/
lemma board_of_call (hdelay : DelayFree M') {d : DriverFunction} {r : DriverResult}
    {s : List HalEvent} (hu : SpiReady true u) (h : Returns M' R' d.onBus u.bus s r w) :
    ∃ t v, Returns (onBoard M' R') (boardRely M' R') d.onBoard u t r v ∧ SpiReady true v ∧
      v.bus = w := by
  obtain ⟨s', hs⟩ := returns_lower_iff.1 ⟨s, h⟩
  obtain ⟨v, hs', hv, hbus⟩ :=
    (lifts_board hdelay).returns (Prog.all_of_forall (fun _ => trivial) _) hu hs
  obtain ⟨t, ht⟩ := returns_lower_iff.2 ⟨s', hs'⟩
  rw [onBoard_eq]
  exact ⟨t, v, ht, hv, hbus⟩

/-! ### The board with the chip -/

lemma canReturn_writeReg (u : Board W) (reg : Spi2Reg) (x : Word32) :
    CanReturn (onBoard M' R') (boardRely M' R') (writeReg reg x) u ()
      { u with spi2 := u.spi2.write x reg } :=
  CanReturn.op (r := ()) rfl .pure

lemma canReturn_readReg (u : Board W) (reg : Spi2Reg) :
    CanReturn (onBoard M' R') (boardRely M' R') (readReg reg) u (u.spi2.read reg).1
      { u with spi2 := (u.spi2.read reg).2 } :=
  CanReturn.op ⟨rfl, rfl⟩ .pure

variable (M' R') in
/-- The setup of `main` on a board whose chip select is high already. -/
lemma exists_mainSpiSetup (u : Board W) (hcs : u.cs = true) :
    ∃ v, v.bus = u.bus ∧ CanReturn (onBoard M' R') (boardRely M' R') mainSpiSetup u () v := by
  have hne : (⟨10000000#32, 0x100#32, 0#32, 0#32⟩ : SpiTransferSetup).clockFrequency ≠ 0#32 := by
    decide
  have hfit : ¬ spi2Brg (spi2Clock 0#32) 10000000#32 > 511#32 := by decide
  have hinit : ∃ x : Spi2, CanReturn (onBoard M' R') (boardRely M' R') spi2Initialize u ()
      { u with spi2 := x } :=
    ⟨_, (canReturn_writeReg _ _ _).bind ((canReturn_writeReg _ _ _).bind
      ((canReturn_writeReg _ _ _).bind ((canReturn_writeReg _ _ _).bind
      ((canReturn_readReg _ _).bind ((canReturn_writeReg _ _ _).bind
      ((canReturn_writeReg _ _ _).bind ((canReturn_writeReg _ _ _).bind
      ((canReturn_writeReg _ _ _).bind ((canReturn_writeReg _ _ _).bind
      ((canReturn_writeReg _ _ _).bind (canReturn_writeReg _ _ _)))))))))))⟩
  obtain ⟨x, hx⟩ := hinit
  have hsetup : ∃ y : Spi2, CanReturn (onBoard M' R') (boardRely M' R')
      (spi2TransferSetup (some ⟨10000000#32, 0x100#32, 0#32, 0#32⟩) 0#32) { u with spi2 := x } true
      { u with spi2 := y } := by
    rw [transferSetup_eq hne, if_neg hfit]
    exact ⟨_, CanReturn.op (r := ()) rfl (CanReturn.op ⟨rfl, rfl⟩
      (CanReturn.op (r := ()) rfl .pure))⟩
  obtain ⟨y, hy⟩ := hsetup
  have hset : CanReturn (onBoard M' R') (boardRely M' R') (gpioPinSet GPIO_PIN_RF12)
      { u with spi2 := y } () (({ u with spi2 := y } : Board W).withLat GPIO_PIN_RF12.port
        (u.lat GPIO_PIN_RF12.port ||| GPIO_PIN_RF12.mask) u.bus) := by
    refine CanReturn.op ⟨u.bus, ?_, rfl⟩ .pure
    have hcs' : ({ u with spi2 := y } : Board W).cs = true := hcs
    rw [hcs', ← Board.withLat_bus u.bus, cs_set]
    rfl
  exact ⟨({ u with spi2 := y } : Board W).withLat _ _ _, rfl, hx.bind (hy.bind hset)⟩

end Layers

/-! ### The chip of the board -/

lemma delayFree_serial : DelayFree serial := by
  intro s us s'
  obtain ⟨w, xs⟩ := s
  obtain ⟨w', xs'⟩ := s'
  simp only [serial, World.performLocal, Prod.mk.injEq, true_and, Serial.mk.injEq]
  exact ⟨fun h => ⟨h.1.symm, h.2⟩, fun h => ⟨h.1.symm, h.2⟩⟩

/-- A board whose SPI master is off, with the chip. -/
def switchedOn (w : World) : Board Serial where
  spi2 := ⟨0#32, 0#32, 0#32, 0#32, none, none, 0#32, false, false⟩
  lat _ := GPIO_PIN_RF12.mask
  memory _ := 0#8
  ticks := 0#32
  bus := ⟨w, none⟩

/-- An initialisation and a receive call on the bus, for a frame that arrived. -/
lemma exists_bus_reception : ∃ (h : List (Call HalOp HalOp.Res Serial DriverFunction DriverResult))
    (v : World), Session serial (serialRely sparing.rely) DriverFunction.onBus ⟨powered, none⟩ h
      ⟨v, none⟩ ∧ DriverResult.receive .encReceiveSucceeded ∈ h.map Call.answer := by
  obtain ⟨g, v, hrun, hrec, -⟩ := exists_reception
  obtain ⟨g', hs, hanswers⟩ := exists_calls hrun
  obtain ⟨h, hbus, hh⟩ := exists_serial hs
  refine ⟨h, v, hbus, ?_⟩
  obtain ⟨c, hc, hans⟩ := List.countP_pos_iff.1 (hrec ▸ Nat.one_pos : 0 < received g)
  rw [map_answer_of_implements hh, hanswers]
  refine List.mem_cons_of_mem _ (List.mem_map.2 ⟨c, hc, ?_⟩)
  rw [of_decide_eq_true hans]

/-! ### The two drivers -/

section Drivers

variable {W : Type} {M' : Machine HalOp HalOp.Res W} {R' : W → W → Prop}

/-- **The driver on the board refines the driver on the bus and on the registers.** After the
setup of `main`, whatever the board did before, the calls of the driver on the board are calls on
the bus, with the same results, and the SPI master is at rest after them with the chip select
high.  On a chip that serves frames as instructions they are calls of the driver on that chip's
registers. -/
theorem board_refines_bus (hdelay : DelayFree M') {u₀ u v : Board W}
    {t : List (Event BoardOp BoardOp.Res)}
    {h : List (Call BoardOp BoardOp.Res (Board W) DriverFunction DriverResult)}
    (hsetup : Returns (onBoard M' R') (boardRely M' R') mainSpiSetup u₀ t () u)
    (hs : Session (onBoard M' R') (boardRely M' R') DriverFunction.onBoard u h v) :
    SpiReady true v ∧ (∃ h', Session M' R' DriverFunction.onBus u.bus h' v.bus ∧
      List.Forall₂ (Implements Board.bus fun _ _ => True) h h') ∧
    ∀ {V : Type} (M : Machine Op Op.Res V) (R : V → V → Prop) (π : W → V), Serves M R M' R' π →
      ∃ h', Session M R DriverFunction.program (π u.bus) h' (π v.bus) ∧
        h'.map Call.answer = h.map Call.answer := by
  have hu : SpiReady true u := (triple_mainSpiSetup.returns trivial hsetup).1
  obtain ⟨hv, h', hs', hh⟩ := Session.carry (T := fun _ _ => True) (fun hu hR => hu.rely hR)
    (fun hu h => (call_of_board hdelay hu h).imp_right fun ⟨s, hs⟩ => ⟨s, hs, trivial⟩) hs hu
  refine ⟨hv, ⟨h', hs', hh⟩, fun M R π hserves => ?_⟩
  obtain ⟨h'', hs'', hdec⟩ := hserves.decodes hs'
  exact ⟨h'', hs'', (map_answer_of_implements hdec.calls).trans (map_answer_of_implements hh)⟩

/-- On the board with the chip, a frame is received. -/
theorem board_refines_bus_received :
    ∃ (u v : Board Serial)
      (h : List (Call BoardOp BoardOp.Res (Board Serial) DriverFunction DriverResult)),
      Session (onBoard serial (serialRely sparing.rely))
        (boardRely serial (serialRely sparing.rely)) DriverFunction.onBoard u h v ∧
      SpiReady true v ∧
      DriverResult.receive .encReceiveSucceeded ∈ h.map Call.answer ∧
      ∃ h', Session machine sparing.rely DriverFunction.program u.bus.world h' v.bus.world ∧
        h'.map Call.answer = h.map Call.answer := by
  obtain ⟨h, w, hs, hmem⟩ := exists_bus_reception
  obtain ⟨u, hbus, t, hsetup⟩ := exists_mainSpiSetup serial (serialRely sparing.rely)
    (switchedOn powered) (by decide)
  have hu : SpiReady true u := (triple_mainSpiSetup.returns trivial hsetup).1
  have hs' : Session serial (serialRely sparing.rely) DriverFunction.onBus u.bus h ⟨w, none⟩ := by
    rw [hbus]
    exact hs
  obtain ⟨h', v, hs'', -, -, hh⟩ := Session.lift (q := DriverFunction.onBoard)
    (fun hu hR => hu.exists_drift _ (.single hR))
    (fun hu h => board_of_call delayFree_serial hu h) hs' hu
  obtain ⟨hv, -, hregisters⟩ := board_refines_bus delayFree_serial hsetup hs''
  refine ⟨u, v, h', hs'', hv, ?_, hregisters machine _ _ (serves_serial _)⟩
  rwa [← map_answer_of_implements hh]

/-- **Every session of the driver can take place on the board.** After the setup of `main`, for
any calls on the bus there are calls on the board with the same results that leave the chip in the
same state. -/
theorem board_realises_bus (hdelay : DelayFree M') {u₀ u : Board W} {w : W}
    {t : List (Event BoardOp BoardOp.Res)}
    {h : List (Call HalOp HalOp.Res W DriverFunction DriverResult)}
    (hsetup : Returns (onBoard M' R') (boardRely M' R') mainSpiSetup u₀ t () u)
    (hs : Session M' R' DriverFunction.onBus u.bus h w) :
    ∃ h' v, Session (onBoard M' R') (boardRely M' R') DriverFunction.onBoard u h' v ∧
      SpiReady true v ∧ v.bus = w ∧ List.Forall₂ (Implements Board.bus fun _ _ => True) h' h :=
  Session.lift (fun hu hR => hu.exists_drift _ (.single hR))
    (fun hu h => board_of_call hdelay hu h) hs (triple_mainSpiSetup.returns trivial hsetup).1

/-- The frame is received on the board, and leaves the chip as on the bus. -/
theorem board_realises_bus_received :
    ∃ (u v : Board Serial) (w : World)
      (h : List (Call HalOp HalOp.Res Serial DriverFunction DriverResult))
      (h' : List (Call BoardOp BoardOp.Res (Board Serial) DriverFunction DriverResult)),
      DriverResult.receive .encReceiveSucceeded ∈ h.map Call.answer ∧
      Session (onBoard serial (serialRely sparing.rely))
        (boardRely serial (serialRely sparing.rely)) DriverFunction.onBoard u h' v ∧
      v.bus = ⟨w, none⟩ ∧
      List.Forall₂ (Implements Board.bus fun _ _ => True) h' h := by
  obtain ⟨h, w, hs, hmem⟩ := exists_bus_reception
  obtain ⟨u, hbus, t, hsetup⟩ := exists_mainSpiSetup serial (serialRely sparing.rely)
    (switchedOn powered) (by decide)
  have hs' : Session serial (serialRely sparing.rely) DriverFunction.onBus u.bus h ⟨w, none⟩ := by
    rw [hbus]
    exact hs
  obtain ⟨h', v, hs'', -, hv, hh⟩ := board_realises_bus delayFree_serial hsetup hs'
  exact ⟨u, v, w, h, h', hmem, hs'', hv, hh⟩

end Drivers

end Enc624j600
