/-
# The driver on the bus refines the driver

Whatever comes back on the bus, every call that returns has sent complete instructions, one in
each chip-select frame, and they are those that the driver function names: read back from the
bus, the call is a call of the driver over transactions, with the same result.  If moreover the
chip serves its frames as instructions, the two drivers leave the same chip and the same state
of the driver.
-/
import Enc624j600.Init.Outcome
import Enc624j600.Lib.Lowering
import Enc624j600.Receive.Operations
import Enc624j600.Spi.Frames
import Enc624j600.Transmit.Operations

namespace Enc624j600

open Interaction

/-! ### One frame -/

/-- Send the bytes and collect those that come back. -/
def transfers (bytes : List Byte) : Hal (List Byte) :=
  match bytes with
  | [] => return []
  | b :: bytes => do
    let r ← Spi.spiTransfer b
    let rs ← transfers bytes
    return r :: rs

/-- Send the bytes as a frame. -/
def exchange (bytes : List Byte) : Hal (List Byte) := do
  Spi.csAssert
  let rs ← transfers bytes
  Spi.csDeassert
  return rs

lemma transfers_cons (b : Byte) (bytes : List Byte) : transfers (b :: bytes) =
    .op (.spiTransfer b) fun r => (transfers bytes).bind fun rs => .pure (r :: rs) := rfl

lemma exchange_eq (bytes : List Byte) : exchange bytes = .op .csAssert fun _ =>
    (transfers bytes).bind fun rs => .op .csDeassert fun _ => .pure rs := rfl

lemma receiveBytes_eq (n : ℕ) : Spi.receiveBytes n = transfers (List.replicate n 0xAA#8) := by
  induction n with
  | zero => rfl
  | succ n ih =>
    rw [List.replicate_succ, Spi.receiveBytes, transfers, ih]

lemma sendBytes_eq (bytes : List Byte) :
    Spi.sendBytes bytes = (transfers bytes).bind fun _ => .pure () := by
  induction bytes with
  | nil => rfl
  | cons b bytes ih =>
    simp only [Spi.sendBytes, transfers, ih, Prog.monad_bind, Prog.bind_assoc, Prog.monad_pure,
      Prog.pure_bind]

/-- The functions of the driver send their instruction as a frame. -/
lemma hal_eq (i : Instr) :
    i.hal = (exchange (encode i)).bind fun bytes => .pure (answer i bytes) := by
  cases i with
  | readWindow reg n =>
    simp only [Instr.hal, Spi.readFromWindowReg, receiveBytes_eq, exchange, encode, transfers,
      answer, Prog.monad_bind, Prog.monad_pure, Prog.bind_assoc, Prog.pure_bind, List.tail_cons]
  | writeWindow reg bytes =>
    simp only [Instr.hal, Spi.writeToWindowReg, sendBytes_eq, exchange, encode, transfers,
      answer, Prog.monad_bind, Prog.monad_pure, Prog.bind_assoc, Prog.pure_bind]
    rfl
  | _ => rfl

section Frame

variable {W' : Type} {M' : Machine HalOp HalOp.Res W'} {R' : W' → W' → Prop} {u u' : W'}
  {bytes rs : List Byte} {t : List HalEvent}

lemma returns_transfers (h : Returns M' R' (transfers bytes) u t rs u') :
    rs.length = bytes.length ∧ t = (bytes.zip rs).map transferEvent := by
  induction bytes generalizing u u' t rs with
  | nil =>
    obtain ⟨rfl, rfl, -⟩ := returns_pure_iff.1 h
    exact ⟨rfl, rfl⟩
  | cons b bytes ih =>
    rw [transfers_cons] at h
    obtain ⟨u₁, r, u₂, t', -, -, rfl, h'⟩ := returns_op_iff.1 h
    obtain ⟨rs', u₃, t₁, t₂, hrs, hp, rfl⟩ := returns_bind_iff.1 h'
    obtain ⟨rfl, rfl, -⟩ := returns_pure_iff.1 hp
    obtain ⟨hlen, rfl⟩ := ih hrs
    exact ⟨by simp [hlen], by simp [transferEvent]⟩

lemma returns_exchange (h : Returns M' R' (exchange bytes) u t rs u') :
    rs.length = bytes.length ∧ t = frameEvents (bytes.zip rs) := by
  rw [exchange_eq] at h
  obtain ⟨u₁, _, u₂, t', -, -, rfl, h₁⟩ := returns_op_iff.1 h
  obtain ⟨rs', u₃, t₁, t₂, hrs, h₂, rfl⟩ := returns_bind_iff.1 h₁
  obtain ⟨u₄, _, u₅, t₃, -, -, rfl, hp⟩ := returns_op_iff.1 h₂
  obtain ⟨rfl, rfl, -⟩ := returns_pure_iff.1 hp
  obtain ⟨hlen, rfl⟩ := returns_transfers hrs
  exact ⟨hlen, rfl⟩

lemma returns_hal {i : Instr} {r : i.Res} (h : Returns M' R' i.hal u t r u') :
    ∃ rs, Returns M' R' (exchange (encode i)) u t rs u' ∧ r = answer i rs := by
  rw [hal_eq] at h
  obtain ⟨rs, u₁, t₁, t₂, hrs, hp, rfl⟩ := returns_bind_iff.1 h
  obtain ⟨rfl, rfl, hd⟩ := returns_pure_iff.1 hp
  exact ⟨rs, by simpa using hrs.drift_right hd, rfl⟩

end Frame

/-! ### What the driver sends -/

/-- The instruction has an effect on the register that it names. -/
def Instr.Effective : Instr → Prop
  | .setBits a _ => ¬ IsMacOrMii a
  | .clearBits a _ => ¬ IsMacOrMii a
  | _ => True

/-- The operations that the driver may perform on the bus. -/
def IsBusOp : Op → Prop
  | .spi i => i.Listed ∧ i.Effective
  | .loc _ => True

lemma isBusOp_of_config {o : Op} (h : IsConfigOp o) : IsBusOp o := by
  have hreg : ∀ a ∈ configRegisters, IsSfrAddr a := by decide
  cases o with
  | spi i =>
    cases i with
    | readSfr a =>
      rcases h with h | rfl | rfl | rfl
      · exact ⟨hreg a h, trivial⟩
      · exact ⟨by change IsSfrAddr _; decide, trivial⟩
      · exact ⟨by change IsSfrAddr _; decide, trivial⟩
      · exact ⟨by change IsSfrAddr _; decide, trivial⟩
    | writeSfr a v => exact ⟨hreg a h, trivial⟩
    | setBits a mask =>
      rcases h with rfl | rfl
      · exact ⟨by change IsSfrAddr _; decide, by change ¬ IsMacOrMii _; decide⟩
      · exact ⟨by change IsSfrAddr _; decide, by change ¬ IsMacOrMii _; decide⟩
    | clearBits a mask =>
      rcases h with rfl | rfl
      · exact ⟨by change IsSfrAddr _; decide, by change ¬ IsMacOrMii _; decide⟩
      · exact ⟨by change IsSfrAddr _; decide, by change ¬ IsMacOrMii _; decide⟩
    | single opcode => exact absurd h id
    | _ => exact ⟨trivial, trivial⟩
  | loc l => trivial

lemma isBusOp_of_init {o : Op} (h : IsInitOp o) : IsBusOp o := by
  rcases h with (h | ⟨v, rfl | rfl⟩) | (h | rfl | rfl) | rfl
  · exact isBusOp_of_config h
  · exact ⟨by change IsSfrAddr _; decide, trivial⟩
  · exact ⟨by change IsSfrAddr _; decide, trivial⟩
  · exact isBusOp_of_config h
  · exact ⟨rfl, trivial⟩
  · exact ⟨rfl, trivial⟩
  · exact ⟨rfl, trivial⟩

lemma isBusOp_of_receive {o : Op} (h : IsReceiveOp o) : IsBusOp o := by
  cases o with
  | spi i =>
    cases i with
    | single opcode =>
      obtain rfl : opcode = SETPKTDEC := h
      exact ⟨rfl, trivial⟩
    | readSfr a =>
      obtain rfl : a = ESTAT := h
      exact ⟨by change IsSfrAddr _; decide, trivial⟩
    | writeSfr a v =>
      obtain rfl : a = ERXTAIL := h
      exact ⟨by change IsSfrAddr _; decide, trivial⟩
    | setBits a mask => exact absurd h id
    | clearBits a mask => exact absurd h id
    | _ => exact ⟨trivial, trivial⟩
  | loc l => trivial

lemma isBusOp_transmit (destinationMac lengthType data : Ptr) (length : Word) :
    (enc624j600Transmit destinationMac lengthType data length).All IsBusOp := by
  refine transmit_all_of ?_ (fun _ _ _ => ?_) ?_
  · rw [flowControlActive_eq]
    refine ⟨trivial, fun mode => ⟨⟨?_, trivial⟩, fun _ => trivial⟩⟩
    change IsSfrAddr (flowControlSfr mode)
    cases mode <;> decide
  · refine ⟨⟨trivial, trivial⟩, fun _ => ⟨⟨trivial, trivial⟩, fun _ => ⟨⟨trivial, trivial⟩,
      fun _ => ⟨⟨trivial, trivial⟩, fun _ => ⟨⟨?_, trivial⟩, fun _ => ⟨⟨?_, trivial⟩,
        fun _ => trivial⟩⟩⟩⟩⟩⟩
    · change IsSfrAddr ETXST
      decide
    · change IsSfrAddr ETXLEN
      decide
  · refine ⟨⟨rfl, trivial⟩, fun _ => ⟨⟨⟨?_, trivial⟩, fun _ => trivial⟩, ?_⟩⟩
    · change IsSfrAddr ECON1
      decide
    · change (transmissionResult length).All IsBusOp
      rw [transmissionResult_eq]
      refine ⟨trivial, fun mode => ⟨⟨?_, trivial⟩, fun _ => trivial⟩⟩
      change IsSfrAddr (resultSfr mode)
      cases mode <;> decide

lemma isBusOp_program (d : DriverFunction) : d.program.All IsBusOp := by
  cases d with
  | init config =>
    exact Prog.All.bind ((init_all config).mono fun _ => isBusOp_of_init) fun _ => trivial
  | transmit destinationMac lengthType data length =>
    exact Prog.All.bind (isBusOp_transmit _ _ _ _) fun _ => trivial
  | receive destinationMac sourceMac lengthType buffer receivedBytes =>
    exact Prog.All.bind ((receive_all _ _ _ _ _).mono fun _ => isBusOp_of_receive) fun _ => trivial

/-! ### What the bus shows -/

/-- What is on the bus for an operation of the driver. -/
inductive Framed : Event Op Op.Res → List HalEvent → Prop where
  | frame {xs : List Exchange} {i : Instr} {r : i.Res} (h : decode xs = some ⟨i, r⟩) :
      Framed ⟨.spi i, r⟩ (frameEvents xs)
  | loc (l : Local) (r : l.Res) : Framed ⟨.loc l, r⟩ [⟨.loc l, r⟩]

/-- The operation is one of the bus. -/
def HalOp.isBus : HalOp → Bool
  | .loc _ => false
  | _ => true

/-- The events on the bus. -/
def onBus (t : List HalEvent) : List HalEvent := t.filter fun e => e.1.isBus

/-- The transactions among the operations of the driver. -/
def transactions (s : List (Event Op Op.Res)) : List Transaction :=
  s.filterMap fun e =>
    match e with
    | ⟨.spi i, r⟩ => some ⟨i, r⟩
    | ⟨.loc _, _⟩ => none

@[simp] lemma onBus_append (s t : List HalEvent) : onBus (s ++ t) = onBus s ++ onBus t :=
  List.filter_append ..

lemma onBus_frameEvents (xs : List Exchange) : onBus (frameEvents xs) = frameEvents xs := by
  refine List.filter_eq_self.2 fun e he => ?_
  simp only [frameEvents, List.mem_cons, List.mem_append, List.mem_map, List.not_mem_nil,
    or_false] at he
  rcases he with rfl | ⟨x, -, rfl⟩ | rfl
  · rfl
  · rfl
  · rfl

/-- What is on the bus is a stream of frames, and they decode to the transactions. -/
lemma exists_frames {s : List (Event Op Op.Res)} {t : List HalEvent} (h : Splits Framed s t) :
    ∃ frames, onBus t = stream frames ∧ frames.map decode = (transactions s).map some := by
  obtain ⟨pieces, hp, rfl⟩ := h
  induction hp with
  | nil => exact ⟨[], rfl, rfl⟩
  | @cons e piece s pieces he _ ih =>
    obtain ⟨frames, hstream, hdecode⟩ := ih
    rw [List.flatten_cons, onBus_append, hstream]
    cases he with
    | @frame xs i r hxs =>
      refine ⟨xs :: frames, ?_, ?_⟩
      · rw [onBus_frameEvents, stream_cons]
      · rw [List.map_cons, hxs, hdecode]
        rfl
    | loc l r => exact ⟨frames, rfl, hdecode⟩

/-! ### Chips on the bus -/

/-- The chip `M'` serves every frame as `M` serves the instruction, and the driver's own
operations are those of `M`; `π` forgets the bus. -/
structure Serves {W W' : Type} (M : Machine Op Op.Res W) (R : W → W → Prop)
    (M' : Machine HalOp HalOp.Res W') (R' : W' → W' → Prop) (π : W' → W) : Prop where
  env : ∀ {u u'}, R' u u' → Drift R (π u) (π u')
  frame : ∀ {bytes u t rs u' i r}, Returns M' R' (exchange bytes) u t rs u' →
    decode (bytes.zip rs) = some ⟨i, r⟩ →
      ∃ w w', Drift R (π u) w ∧ M.step w (.spi i) r w' ∧ Drift R w' (π u')
  loc : ∀ {u l r u'}, M'.step u (.loc l) r u' → M.step (π u) (.loc l) r (π u')

section Simulation

variable {W W' : Type} {M : Machine Op Op.Res W} {R : W → W → Prop}
  {M' : Machine HalOp HalOp.Res W'} {R' : W' → W' → Prop} {π : W' → W}

lemma Serves.drift (hserves : Serves M R M' R' π) {u u' : W'} (hd : Drift R' u u') :
    Drift R (π u) (π u') := by
  induction hd with
  | refl => exact .refl
  | tail _ hR ih => exact ih.trans (hserves.env hR)

/-- The operations on the bus are the operations of the driver. -/
lemma Serves.simulates (hserves : Serves M R M' R' π) :
    Simulates M R M' R' hal π IsBusOp Framed where
  env := hserves.env
  op := by
    intro o u t r u' ho h
    cases o with
    | spi i =>
      obtain ⟨rs, hrs, rfl⟩ := returns_hal h
      obtain ⟨hlen, rfl⟩ := returns_exchange hrs
      have hdecode := decode_encode ho.1 hlen
      exact ⟨hserves.frame hrs hdecode, .frame hdecode⟩
    | loc l =>
      obtain ⟨u₁, r', u₂, t', hd, hs, rfl, hp⟩ := returns_op_iff.1 h
      obtain ⟨rfl, rfl, hd'⟩ := returns_pure_iff.1 hp
      exact ⟨⟨π u₁, π u₂, hserves.drift hd, hserves.loc hs, hserves.drift hd'⟩, .loc l r⟩

/-- A chip that may answer anything. -/
def anyChip : Machine Op Op.Res Unit where
  step _ _ _ _ := True

lemma serves_anyChip (M' : Machine HalOp HalOp.Res W') (R' : W' → W' → Prop) :
    Serves anyChip (fun _ _ => False) M' R' fun _ => () where
  env _ := .refl
  frame _ _ := ⟨(), (), .refl, trivial, .refl⟩
  loc _ := trivial

/-! ### The refinement -/

/-- The calls `h` on the bus are the calls `h'` of the driver over transactions. -/
structure Decodes (π : W' → W) (h : List (Call HalOp HalOp.Res W' DriverFunction DriverResult))
    (h' : List (Call Op Op.Res W DriverFunction DriverResult)) : Prop where
  /-- The same calls, with the same results and states, each with its own part of the bus. -/
  calls : List.Forall₂ (Implements π (Splits Framed)) h h'
  /-- The frames decode to the transactions, in their order. -/
  frames : ∀ frames, onBus (traces h) = stream frames →
    frames.map decode = (transactions (traces h')).map some
  /-- No bit-field instruction names a MAC or MII register. -/
  effective : ∀ x ∈ transactions (traces h'), x.1.Effective

lemma effective_of_trace {s : List (Event Op Op.Res)} (hs : ∀ e ∈ s, IsBusOp e.1) :
    ∀ x ∈ transactions s, x.1.Effective := by
  intro x hx
  obtain ⟨⟨o, r⟩, he, hex⟩ := List.mem_filterMap.1 hx
  cases o with
  | spi i =>
    obtain rfl : (⟨i, r⟩ : Transaction) = x := by simpa using hex
    exact (hs _ he).2
  | loc l => simp at hex

lemma Serves.decodes (hserves : Serves M R M' R' π) {u v : W'}
    {h : List (Call HalOp HalOp.Res W' DriverFunction DriverResult)}
    (hs : Session M' R' DriverFunction.onBus u h v) :
    ∃ h', Session M R DriverFunction.program (π u) h' (π v) ∧ Decodes π h h' := by
  obtain ⟨h', hs', hh⟩ := Session.transfer (T := Splits Framed) (fun hR => hserves.env hR)
    (fun hr => hserves.simulates.returns (isBusOp_program _) hr) hs
  refine ⟨h', hs', hh, ?_, effective_of_trace ?_⟩
  · intro frames hframes
    obtain ⟨frames', hstream, hdecode⟩ := exists_frames (splits_traces hh)
    rw [stream_injective (hframes.symm.trans hstream), hdecode]
  · intro e he
    obtain ⟨t, ht, het⟩ := List.mem_flatten.1 he
    obtain ⟨c, hc, rfl⟩ := List.mem_map.1 ht
    exact (Reach.events (isBusOp_program c.program) (hs'.returns hc)).1 e het

/-- **The driver on the bus refines the driver over transactions.** For every behaviour of the
other side of the bus, the bytes of any calls that return fall into non-empty frames in exactly
one way, each frame is a complete instruction, and the instructions are those that the driver
functions name, with the same results.  On a chip that serves frames as instructions, the calls
are calls of the driver on that chip's registers, with the same states. -/
theorem spi_refinement {u v : W'}
    {h : List (Call HalOp HalOp.Res W' DriverFunction DriverResult)}
    (hs : Session M' R' DriverFunction.onBus u h v) :
    (∃! frames : List (List Exchange),
      (∀ xs ∈ frames, xs ≠ []) ∧ onBus (traces h) = stream frames) ∧
    (∃ h', Session anyChip (fun _ _ => False) DriverFunction.program () h' () ∧
      Decodes (fun _ => ()) h h') ∧
    ∀ {W : Type} (M : Machine Op Op.Res W) (R : W → W → Prop) (π : W' → W),
      Serves M R M' R' π →
        ∃ h', Session M R DriverFunction.program (π u) h' (π v) ∧ Decodes π h h' := by
  obtain ⟨h', hs', hdec⟩ := (serves_anyChip M' R').decodes hs
  refine ⟨?_, ⟨h', hs', hdec⟩, fun M R π hserves => hserves.decodes hs⟩
  obtain ⟨frames, hstream, hdecode⟩ := exists_frames (splits_traces hdec.calls)
  refine ⟨frames, ⟨?_, hstream⟩, fun frames' hf => stream_injective (hf.2.symm.trans hstream)⟩
  rintro xs hxs rfl
  have hmem : decode [] ∈ frames.map decode := List.mem_map_of_mem hxs
  rw [hdecode] at hmem
  simp [decode] at hmem

end Simulation

end Enc624j600
