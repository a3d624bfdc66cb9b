/-
# The chip on the bus

The chip of `Chip/State.lean` behind its serial interface.  While it is selected it answers
each byte from the bytes it got so far; when it is deselected it carries out the instruction.
What the chip does on its own happens while it is not selected.  It serves frames as
instructions, and every run of the driver over transactions is a run of the driver on the bus.
-/
import Enc624j600.Receive.Fifo
import Enc624j600.Spi.Refinement

namespace Enc624j600

open Cyclic Interaction

/-- A world with the bus: the bytes exchanged since the chip was selected. -/
structure Serial where
  world : World
  selected : Option (List Exchange)

/-- One of the two bytes of a word, the least significant one first. -/
def byteOfWord (value : Word) : ℕ → Byte
  | 0 => lsb value
  | _ => msb value

/-- The byte that a window shows `k` bytes after the first one. -/
def Chip.windowByte (c : Chip) (reg : WindowReg) (k : ℕ) : Byte :=
  (c.exec (.readWindow reg (k + 1))).1.getD k 0#8

/-- The byte that the chip sends after it got the bytes `sent` of a frame. -/
def Chip.respond (c : Chip) : List Byte → Byte
  | [] => 0#8
  | opcode :: sent =>
    match opcodeOf opcode, sent with
    | some (.readPointer p), _ => byteOfWord (c.exec (.readPointer p)).1 sent.length
    | some .readSfr, a :: sent => byteOfWord (c.exec (.readSfr a)).1 sent.length
    | some (.readWindow reg), _ => c.windowByte reg sent.length
    | _, _ => 0#8

/-- The chip on the bus.  Bytes are exchanged with a selected chip only, and a frame that is
not an instruction has no effect. -/
def serial : Machine HalOp HalOp.Res Serial where
  step s o r s' :=
    match o, r with
    | .csAssert, _ => s.selected = none ∧ s' = ⟨s.world, some []⟩
    | .spiTransfer b, r => ∃ xs, s.selected = some xs ∧
        r = s.world.chip.respond (xs.map Prod.fst) ∧ s' = ⟨s.world, some (xs ++ [(b, r)])⟩
    | .csDeassert, _ => ∃ xs, s.selected = some xs ∧
        s' = ⟨match decode xs with
          | some x => { s.world with chip := (s.world.chip.exec x.1).2 }
          | none => s.world, none⟩
    | .loc l, r => s.world.performLocal l = (r, s'.world) ∧ s'.selected = s.selected

/-- The chip acts on its own while it is not selected. -/
def serialRely (R : World → World → Prop) (s s' : Serial) : Prop :=
  s.selected = none ∧ s'.selected = none ∧ R s.world s'.world

/-- What the chip sends back for a number of bytes. -/
def Chip.responses (c : Chip) (sent : List Byte) : List Byte → List Byte
  | [] => []
  | b :: bytes => c.respond sent :: c.responses (sent ++ [b]) bytes

namespace Chip

variable (c : Chip)

@[simp] lemma length_responses (sent bytes : List Byte) :
    (c.responses sent bytes).length = bytes.length := by
  induction bytes generalizing sent with
  | nil => rfl
  | cons b bytes ih => simp [responses, ih]

lemma getElem_responses (sent bytes : List Byte) (k : ℕ) (hk : k < bytes.length) :
    (c.responses sent bytes)[k]? = some (c.respond (sent ++ bytes.take k)) := by
  induction bytes generalizing sent k with
  | nil => simp at hk
  | cons b bytes ih =>
    cases k with
    | zero => simp [responses]
    | succ k => simp [responses, ih (sent ++ [b]) k (by simpa using hk)]

/-- The bytes of a window do not depend on how many of them are read. -/
lemma getElem_readWindow (reg : WindowReg) {k n : ℕ} (hk : k < n) :
    (c.exec (.readWindow reg n)).1[k]? = some (c.windowByte reg k) := by
  simp only [windowByte, exec, List.getD_eq_getElem?_getD]
  split
  · simp [noiseAnswer, hk]
  · simp only [perform, readWindow]
    rw [getElem_readFrom hk, getElem_readFrom (Nat.lt_succ_self k), Option.getD_some]

lemma responses_window {reg : WindowReg} {b : Byte} (ho : opcodeOf b = some (.readWindow reg))
    (bytes : List Byte) :
    c.responses [b] bytes = (c.exec (.readWindow reg bytes.length)).1 := by
  have hlen : (c.exec (.readWindow reg bytes.length)).1.length = bytes.length := by
    simp only [exec]
    split
    · simp [noiseAnswer]
    · simp [perform, readWindow]
  refine List.ext_getElem? fun k => ?_
  by_cases hk : k < bytes.length
  · have hk' : (bytes.take k).length = k := by
      rw [List.length_take]
      omega
    rw [getElem_responses c [b] bytes k hk, getElem_readWindow c reg hk]
    rw [List.singleton_append, ← hk']
    simp only [respond, ho, hk']
  · rw [List.getElem?_eq_none (by simpa using hk), List.getElem?_eq_none (by simpa [hlen] using hk)]

/-- The bytes that come back are the answer to the instruction. -/
lemma answer_of_responses {bytes : List Byte} {x : Transaction}
    (h : decode (bytes.zip (c.responses [] bytes)) = some x) : x.2 = (c.exec x.1).1 := by
  obtain _ | ⟨b, bytes⟩ := bytes
  · simp [responses, decode] at h
  simp only [responses, List.nil_append, List.zip_cons_cons, decode] at h
  obtain ⟨o, ho, h⟩ := Option.bind_eq_some_iff.1 h
  cases o with
  | readPointer p =>
    -- two bytes follow the opcode
    rcases bytes with _ | ⟨x₁, _ | ⟨x₂, _ | ⟨x₃, bytes⟩⟩⟩
    · simp [responses, decodeRest] at h
    · simp [responses, decodeRest] at h
    · simp only [responses, decodeRest, respond, ho, List.zip_cons_cons, List.zip_nil_right,
        Option.some.injEq, List.cons_append, List.nil_append] at h
      subst h
      simp [byteOfWord]
    · simp [responses, decodeRest] at h
  | readSfr =>
    -- an address and two bytes follow the opcode
    rcases bytes with _ | ⟨x₁, _ | ⟨x₂, _ | ⟨x₃, _ | ⟨x₄, bytes⟩⟩⟩⟩
    · simp [responses, decodeRest] at h
    · simp [responses, decodeRest] at h
    · simp [responses, decodeRest] at h
    · simp only [responses, decodeRest, respond, ho, List.zip_cons_cons, List.zip_nil_right,
        List.cons_append, List.nil_append, Option.ite_none_right_eq_some, Option.some.injEq] at h
      obtain ⟨-, rfl⟩ := h
      simp [byteOfWord]
    · simp [responses, decodeRest] at h
  | readWindow reg =>
    have hback : (bytes.zip (c.responses [b] bytes)).map Prod.snd = c.responses [b] bytes :=
      List.map_snd_zip (by simp)
    have hlen : (bytes.zip (c.responses [b] bytes)).length = bytes.length := by simp
    rw [decodeRest, hback, hlen, responses_window c ho] at h
    obtain rfl := Option.some.inj h
    rfl
  | writeWindow reg =>
    obtain rfl := Option.some.inj h
    rfl
  | single =>
    generalize bytes.zip (c.responses [b] bytes) = ys at h
    rcases ys with _ | ⟨y, ys⟩
    · obtain rfl := Option.some.inj h
      rfl
    · simp [decodeRest] at h
  | writePointer p =>
    generalize bytes.zip (c.responses [b] bytes) = ys at h
    rcases ys with _ | ⟨y₁, _ | ⟨y₂, _ | ⟨y₃, ys⟩⟩⟩
    · simp [decodeRest] at h
    · simp [decodeRest] at h
    · obtain rfl := Option.some.inj h
      rfl
    · simp [decodeRest] at h
  | _ =>
    generalize bytes.zip (c.responses [b] bytes) = ys at h
    rcases ys with _ | ⟨y₁, _ | ⟨y₂, _ | ⟨y₃, _ | ⟨y₄, ys⟩⟩⟩⟩
    · simp [decodeRest] at h
    · simp [decodeRest] at h
    · simp [decodeRest] at h
    · simp only [decodeRest, Option.ite_none_right_eq_some, Option.some.injEq] at h
      obtain ⟨-, rfl⟩ := h
      rfl
    · simp [decodeRest] at h

end Chip

/-! ### Frames on the bus -/

section Frames

variable {R : World → World → Prop} {w w' : World} {u : Serial} {xs : List Exchange}
  {bytes rs : List Byte} {t : List HalEvent}

/-- A selected chip does nothing on its own. -/
lemma drift_selected (h : Drift (serialRely R) ⟨w, some xs⟩ u) : u = ⟨w, some xs⟩ := by
  rcases Relation.ReflTransGen.cases_head h with h | ⟨u', h, -⟩
  · exact h.symm
  · simp [serialRely] at h

lemma drift_world {s s' : Serial} (h : Drift (serialRely R) s s') : Drift R s.world s'.world := by
  induction h with
  | refl => exact .refl
  | tail _ hR ih => exact ih.tail hR.2.2

/-- Bytes are answered one after the other. -/
lemma returns_transfers_serial
    (h : Returns serial (serialRely R) (transfers bytes) ⟨w, some xs⟩ t rs u) :
    rs = w.chip.responses (xs.map Prod.fst) bytes ∧ u = ⟨w, some (xs ++ bytes.zip rs)⟩ := by
  induction bytes generalizing xs t rs u with
  | nil =>
    obtain ⟨-, rfl, hd⟩ := returns_pure_iff.1 h
    exact ⟨rfl, by simpa using drift_selected hd⟩
  | cons b bytes ih =>
    obtain ⟨u₁, r, u₂, t', hd, hs, -, h'⟩ := returns_op_iff.1 h
    obtain rfl := drift_selected hd
    obtain ⟨_, ⟨⟩, rfl, rfl⟩ := hs
    obtain ⟨rs', u₃, t₁, t₂, hrs, hp, -⟩ := (returns_bind_iff (p := transfers bytes)).1 h'
    obtain ⟨hrs', rfl⟩ := ih hrs
    obtain ⟨-, rfl, hd'⟩ := returns_pure_iff.1 hp
    refine ⟨by simp [Chip.responses, hrs'], ?_⟩
    rw [drift_selected hd']
    simp

lemma exists_transfers_serial (R : World → World → Prop) (w : World) (xs : List Exchange)
    (bytes : List Byte) : ∃ t, Returns serial (serialRely R) (transfers bytes) ⟨w, some xs⟩ t
      (w.chip.responses (xs.map Prod.fst) bytes)
      ⟨w, some (xs ++ bytes.zip (w.chip.responses (xs.map Prod.fst) bytes))⟩ := by
  induction bytes generalizing xs with
  | nil => exact ⟨[], by rw [List.zip_nil_left, List.append_nil]; exact Reach.refl⟩
  | cons b bytes ih =>
    obtain ⟨t, ht⟩ := ih (xs ++ [(b, w.chip.respond (xs.map Prod.fst))])
    have hstep : serial.step ⟨w, some xs⟩ (.spiTransfer b) (w.chip.respond (xs.map Prod.fst))
        ⟨w, some (xs ++ [(b, w.chip.respond (xs.map Prod.fst))])⟩ := ⟨xs, rfl, rfl, rfl⟩
    have hrest := ht.bind (f := fun rs => .pure (w.chip.respond (xs.map Prod.fst) :: rs)) .refl
    rw [transfers_cons]
    refine ⟨_, Returns.op (t := t ++ []) hstep ?_⟩
    simpa [Chip.responses] using hrest

/-- A frame is answered and carried out as its instruction. -/
lemma returns_exchange_serial {s : Serial} {i : Instr} {r : i.Res}
    (h : Returns serial (serialRely R) (exchange bytes) s t rs u)
    (hdecode : decode (bytes.zip rs) = some ⟨i, r⟩) :
    ∃ w w', Drift R s.world w ∧ machine.step w (.spi i) r w' ∧ Drift R w' u.world := by
  rw [exchange_eq] at h
  obtain ⟨u₁, _, u₂, t', hd, ⟨-, rfl⟩, -, h₁⟩ := returns_op_iff.1 h
  obtain ⟨rs', u₃, t₁, t₂, hrs, h₂, -⟩ := returns_bind_iff.1 h₁
  obtain ⟨hback, rfl⟩ := returns_transfers_serial hrs
  obtain ⟨u₄, _, u₅, t₃, hd', hs, -, hp⟩ := returns_op_iff.1 h₂
  obtain rfl := drift_selected hd'
  obtain ⟨-, rfl, hd''⟩ := returns_pure_iff.1 hp
  obtain ⟨_, ⟨⟩, rfl⟩ := hs
  rw [List.map_nil] at hback
  rw [List.nil_append, hdecode] at hd''
  refine ⟨u₁.world, _, drift_world hd, ?_, drift_world hd''⟩
  have hr : r = (u₁.world.chip.exec i).1 :=
    Chip.answer_of_responses (x := ⟨i, r⟩) _ (hback ▸ hdecode)
  rw [hr]
  rfl

/-- A frame is answered. -/
lemma exists_exchange_serial {i : Instr} (hi : i.Listed) (R : World → World → Prop) (w : World) :
    ∃ t, Returns serial (serialRely R) i.hal ⟨w, none⟩ t (w.perform (.spi i)).1
      ⟨(w.perform (.spi i)).2, none⟩ := by
  obtain ⟨t, ht⟩ := exists_transfers_serial R w [] (encode i)
  simp only [List.map_nil, List.nil_append] at ht
  have hlen : (w.chip.responses [] (encode i)).length = (encode i).length := by simp
  have hdecode := decode_encode hi hlen
  have hassert : serial.step ⟨w, none⟩ .csAssert () ⟨w, some []⟩ := ⟨rfl, rfl⟩
  have hdeassert : serial.step
      ⟨w, some ((encode i).zip (w.chip.responses [] (encode i)))⟩ .csDeassert ()
      ⟨(w.perform (.spi i)).2, none⟩ := ⟨_, rfl, by rw [hdecode]; rfl⟩
  have hans : answer i (w.chip.responses [] (encode i)) = (w.perform (.spi i)).1 :=
    Chip.answer_of_responses _ hdecode
  have hpure : Returns serial (serialRely R)
      (.pure (answer i (w.chip.responses [] (encode i)))) ⟨(w.perform (.spi i)).2, none⟩ []
      (w.perform (.spi i)).1 ⟨(w.perform (.spi i)).2, none⟩ := by
    rw [hans]
    exact Reach.refl
  rw [hal_eq, exchange_eq]
  exact ⟨_, Returns.bind (Returns.op hassert (ht.bind (Returns.op hdeassert .refl))) hpure⟩

end Frames

/-- The chip on the bus serves frames as instructions. -/
theorem serves_serial (R : World → World → Prop) :
    Serves machine R serial (serialRely R) Serial.world where
  env h := .single h.2.2
  frame := returns_exchange_serial
  loc h := h.1

/-- Every operation of the driver has a run on the bus. -/
theorem realises_serial (R : World → World → Prop) :
    Realises machine R serial (serialRely R) hal (fun w => ⟨w, none⟩) IsBusOp where
  env h := .single ⟨rfl, rfl, h⟩
  op := by
    intro o w r w' ho hs
    obtain ⟨rfl, rfl⟩ := machine_step_iff.1 hs
    cases o with
    | spi i => exact exists_exchange_serial ho.1 R w
    | loc l =>
      have hs : serial.step ⟨w, none⟩ (.loc l) (w.performLocal l).1 ⟨(w.performLocal l).2, none⟩ :=
        ⟨rfl, rfl⟩
      exact ⟨_, Returns.op hs .refl⟩

/-! ### A run on the bus -/

/-- The calls of the driver, on the bus. -/
lemma exists_serial {R : World → World → Prop} {w v : World}
    {h : List (Call Op Op.Res World DriverFunction DriverResult)}
    (hs : Session machine R DriverFunction.program w h v) :
    ∃ h', Session serial (serialRely R) DriverFunction.onBus ⟨w, none⟩ h' ⟨v, none⟩ ∧
      List.Forall₂ (Implements (fun w => (⟨w, none⟩ : Serial)) fun _ _ => True) h h' :=
  Session.transfer (fun hR => .single ⟨rfl, rfl, hR⟩)
    (fun hr => ((realises_serial R).returns (isBusOp_program _) hr).imp
      fun _ ht => ⟨ht, trivial⟩) hs

/-- An initialisation and receive calls, as calls of the driver. -/
lemma exists_calls {E : Surroundings} {config : Config} {w₀ v : World}
    {h : List (DriverCall Unit ReceiveResult)}
    (hrun : Running E config (fun _ : Unit => receiveCall) w₀ h v) :
    ∃ h', Session machine E.rely DriverFunction.program w₀ h' v ∧
      h'.map Call.answer = DriverResult.initialised :: h.map fun c => .receive c.answer := by
  obtain ⟨-, t, w, hi, hs⟩ := hrun
  have hinit : Returns machine E.rely (DriverFunction.init config).program w₀ (t ++ [])
      DriverResult.initialised w := hi.bind .refl
  have hstart := Session.start.call
    (c := ⟨DriverFunction.init config, w₀, t ++ [], DriverResult.initialised, w⟩) hinit
  induction hs with
  | start => exact ⟨_, hstart, rfl⟩
  | env _ hR ih =>
    obtain ⟨h', hs', hh⟩ := ih
    exact ⟨h', hs'.env hR, hh⟩
  | @call h c _ hr ih =>
    obtain ⟨h', hs', hh⟩ := ih
    have hreceive : Returns machine E.rely
        (DriverFunction.receive .object .object .object .object .object).program c.before
        (c.trace ++ []) (.receive c.answer) c.after := hr.bind .refl
    have hcall := hs'.call
      (c := ⟨.receive .object .object .object .object .object, c.before, c.trace ++ [],
        .receive c.answer, c.after⟩) hreceive
    exact ⟨_, hcall, by simp [hh]⟩

/-- An initialisation on the bus, and a receive call for a frame that arrived. -/
theorem spi_refinement_received :
    ∃ (h : List (Call HalOp HalOp.Res Serial DriverFunction DriverResult)) (v : World),
      DriverResult.initialised ∈ h.map Call.answer ∧
      DriverResult.receive .encReceiveSucceeded ∈ h.map Call.answer ∧
      (∃! frames : List (List Exchange),
        (∀ xs ∈ frames, xs ≠ []) ∧ onBus (traces h) = stream frames) ∧
      ∃ h', Session machine sparing.rely DriverFunction.program powered h' v ∧
        Decodes Serial.world h h' := by
  obtain ⟨g, v, hrun, hrec, -⟩ := exists_reception
  obtain ⟨g', hs, hanswers⟩ := exists_calls hrun
  obtain ⟨h, hbus, hh⟩ := exists_serial hs
  obtain ⟨hframes, -, hregisters⟩ := spi_refinement hbus
  have hmap := map_answer_of_implements hh
  refine ⟨h, v, ?_, ?_, hframes, hregisters machine _ _ (serves_serial _)⟩
  · rw [hmap, hanswers]
    exact List.mem_cons_self ..
  · obtain ⟨c, hc, hans⟩ := List.countP_pos_iff.1 (hrec ▸ Nat.one_pos : 0 < received g)
    rw [hmap, hanswers]
    refine List.mem_cons_of_mem _ (List.mem_map.2 ⟨c, hc, ?_⟩)
    rw [of_decide_eq_true hans]

end Enc624j600
