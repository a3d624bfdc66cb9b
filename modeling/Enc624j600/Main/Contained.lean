/-
# The array of the task

`my_second_task` has the driver store the data of a frame in `data`, an array of 100 bytes, and
then prints as many bytes of it as the driver says that it received.  A frame with more than 100
bytes of data makes both go past the end of the array.
-/
import Enc624j600.Main.Task
import Enc624j600.Receive.Buffer

namespace Enc624j600

open Interaction

/-! ### What a turn accesses -/

/-- What an operation of the driver stores for its caller. -/
def storeOf : Op → Option Stored
  | .loc (.store param bs) => some (.bytes param bs)
  | .loc (.storeReceivedBytes v) => some (.receivedBytes v)
  | _ => none

lemma storeOf_eq_bytes {o : Op} {param : OutParam} {bs : List Byte}
    (h : storeOf o = some (.bytes param bs)) : o = .loc (.store param bs) := by
  cases o with
  | spi i => simp [storeOf] at h
  | loc l => cases l <;> simp_all [storeOf]

lemma step_stored {w w' : World} {o : Op} {r : o.Res} (hs : machine.step w o r w') :
    w'.stored = w.stored ++ (storeOf o).toList := by
  obtain ⟨-, rfl⟩ := machine_step_iff.1 hs
  cases o with
  | spi i => simp [World.perform, storeOf]
  | loc l => cases l <;> simp [World.perform, World.performLocal, storeOf]

/-- What a run of the driver stores is what its operations store. -/
lemma reach_stored {E : Surroundings} {α : Type} {p q : Driver α} {w v : World}
    {t : List (Event Op Op.Res)} (h : Reach machine E.rely p w t q v) :
    v.stored = w.stored ++ t.filterMap fun e => storeOf e.1 := by
  induction h with
  | refl => simp
  | tail _ hs ih =>
    cases hs with
    | env h => rw [(rely_driver h).2.2, ih, List.append_nil]
    | @op o k w w' r h =>
      rw [step_stored h, ih, List.filterMap_append, List.append_assoc]
      rfl
    | unroll => simpa using ih

/-- The indices at which an operation accesses an array. -/
def TaskOp.indices (param : OutParam) : TaskOp → List ℕ
  | .driver (.loc (.store p bs)) => if p = param then List.range bs.length else []
  | .readByte p i => if p = param then [i] else []
  | _ => []

/-- The operations access `data` within its size, and the type field is stored as two bytes. -/
structure Contained (t : List (Event TaskOp TaskOp.Res)) : Prop where
  data : ∀ e ∈ t, ∀ i ∈ e.1.indices .buffer, i < dataSize
  typeField : ∀ e ∈ t, ∀ bs, e.1 = .driver (.loc (.store .lengthType bs)) → bs.length = 2

/-- The turn found a frame. -/
def Found (t : List (Event TaskOp TaskOp.Res)) : Prop :=
  ∀ e ∈ t, e.1 ≠ .printf "Nothing!\r\n" []

instance (t : List (Event TaskOp TaskOp.Res)) : Decidable (Found t) :=
  inferInstanceAs (Decidable (∀ e ∈ t, _ ≠ _))

section Access

variable {E : Surroundings} {t : List (Event TaskOp TaskOp.Res)}
  {d : DriverCall Unit ReceiveResult} {f : Frame}

lemma TurnOf.found_iff (h : TurnOf t d) : Found t ↔ d.answer = .encReceiveSucceeded := by
  obtain ⟨rest, rfl, hyes, hno⟩ := h.trace
  constructor
  · intro hf
    by_contra hne
    refine hf ⟨.printf "Nothing!\r\n" [], ()⟩ ?_ rfl
    rw [hno hne]
    simp
  · rintro hs e he heq
    rcases List.mem_cons.1 he with rfl | he
    · exact absurd heq (by simp)
    · rcases List.mem_append.1 he with he | he
      · obtain ⟨x, -, rfl⟩ := List.mem_map.1 he
        exact absurd heq (by simp)
      · have hp := hyes hs e he
        rw [heq] at hp
        exact hp rfl

lemma contained_append {s : List (Event TaskOp TaskOp.Res)} :
    Contained (t ++ s) ↔ Contained t ∧ Contained s := by
  constructor
  · intro h
    exact ⟨⟨fun e he => h.data e (List.mem_append_left _ he),
        fun e he => h.typeField e (List.mem_append_left _ he)⟩,
      fun e he => h.data e (List.mem_append_right _ he),
      fun e he => h.typeField e (List.mem_append_right _ he)⟩
  · rintro ⟨ht, hs⟩
    exact ⟨fun e he => (List.mem_append.1 he).elim (ht.data e) (hs.data e),
      fun e he => (List.mem_append.1 he).elim (ht.typeField e) (hs.typeField e)⟩

lemma contained_of_own
    (h : ∀ e ∈ t, e.1.IsOwn ∧ ∀ i ∈ e.1.indices .buffer, i < dataSize) : Contained t := by
  refine ⟨fun e he => (h e he).2, fun e he bs heq => ?_⟩
  have hown := (h e he).1
  rw [heq] at hown
  exact absurd hown id

/-- The reads for the print. -/
lemma contained_of_print {n : ℕ} (hn : n ≤ dataSize) (h : ∀ e ∈ t, IsPrint n e.1) :
    Contained t := by
  refine contained_of_own fun e he => ⟨(h e he).isOwn, fun j hj => ?_⟩
  have hp := h e he
  obtain ⟨o, r⟩ := e
  cases o with
  | readByte param i =>
    simp only [TaskOp.indices] at hj
    split at hj
    · rename_i hparam
      rw [List.mem_singleton.1 hj]
      exact (hp hparam).trans_le hn
    · simp at hj
  | driver o => exact absurd hp id
  | _ => simp [TaskOp.indices] at hj

/-- The stores of the driver. -/
lemma contained_of_driver {s : List (Event Op Op.Res)}
    (h : ∀ e ∈ s, ∀ bs, (e.1 = .loc (.store .buffer bs) → bs.length ≤ dataSize) ∧
      (e.1 = .loc (.store .lengthType bs) → bs.length = 2)) :
    Contained (s.map driverEvent) := by
  refine ⟨fun e he i hi => ?_, fun e he bs heq => ?_⟩
  · obtain ⟨⟨o, r⟩, hx, rfl⟩ := List.mem_map.1 he
    cases o with
    | spi i => simp [TaskOp.indices] at hi
    | loc l =>
      cases l with
      | store param bs =>
        simp only [TaskOp.indices] at hi
        split at hi
        · rename_i hparam
          subst hparam
          exact (List.mem_range.1 hi).trans_le ((h _ hx bs).1 rfl)
        · simp at hi
      | _ => simp [TaskOp.indices] at hi
  · obtain ⟨x, hx, rfl⟩ := List.mem_map.1 he
    exact (h x hx bs).2 (TaskOp.driver.inj heq)

lemma contained_traces {h : List Turn} (hc : ∀ c ∈ h, Contained c.trace) :
    Contained (traces h) := by
  refine ⟨fun e he => ?_, fun e he => ?_⟩
  · obtain ⟨_, ht, he⟩ := List.mem_flatten.1 he
    obtain ⟨c, hmem, rfl⟩ := List.mem_map.1 ht
    exact (hc c hmem).data e he
  · obtain ⟨_, ht, he⟩ := List.mem_flatten.1 he
    obtain ⟨c, hmem, rfl⟩ := List.mem_map.1 ht
    exact (hc c hmem).typeField e he

/-- The operation is one of the driver that stores nothing. -/
def IsStoreless (o : TaskOp) : Prop :=
  ∃ o', o = .driver o' ∧ storeOf o' = none

lemma contained_of_storeless (h : ∀ e ∈ t, IsStoreless e.1) : Contained t := by
  refine ⟨fun e he i hi => ?_, fun e he bs heq => ?_⟩
  · obtain ⟨o, ho, hnone⟩ := h e he
    rw [ho] at hi
    cases o with
    | spi i => simp [TaskOp.indices] at hi
    | loc l =>
      cases l with
      | store param bs => exact absurd hnone (by simp [storeOf])
      | _ => simp [TaskOp.indices] at hi
  · obtain ⟨o, ho, hnone⟩ := h e he
    obtain rfl : o = .loc (.store .lengthType bs) := TaskOp.driver.inj (ho.symm.trans heq)
    exact absurd hnone (by simp [storeOf])

/-- A turn is contained if the stores of its receive call and its print are. -/
lemma TurnOf.contained (h : TurnOf t d)
    (hstore : ∀ e ∈ d.trace, ∀ bs, (e.1 = .loc (.store .buffer bs) → bs.length ≤ dataSize) ∧
      (e.1 = .loc (.store .lengthType bs) → bs.length = 2))
    (hread : d.answer = .encReceiveSucceeded → d.after.dataLength.toNat ≤ dataSize) :
    Contained t := by
  obtain ⟨rest, rfl, hyes, hno⟩ := h.trace
  have htoggle : Contained [⟨.togglePin, ()⟩] :=
    contained_of_own (by simp [TaskOp.IsOwn, TaskOp.indices])
  have hrest : Contained rest := by
    by_cases hs : d.answer = .encReceiveSucceeded
    · exact contained_of_print (hread hs) (hyes hs)
    · rw [hno hs]
      exact contained_of_own (by simp [TaskOp.IsOwn, TaskOp.indices])
  exact contained_append.2 ⟨htoggle, contained_append.2 ⟨contained_of_driver hstore, hrest⟩⟩

/-- The driver stores the data of the frame that it hands over. -/
lemma TurnOf.exists_store (h : TurnOf t d)
    (hr : Returns machine E.rely receiveCall d.before d.trace d.answer d.after)
    (hf : HandsOver f d) : ∃ e ∈ t, e.1 = .driver (.loc (.store .buffer f.payload)) := by
  obtain ⟨n, -, -, hst⟩ := hf
  have hstores := reach_stored hr
  rw [hst] at hstores
  have hmem : Stored.bytes .buffer f.payload ∈ d.trace.filterMap fun e => storeOf e.1 := by
    rw [← List.append_cancel_left hstores]
    simp
  obtain ⟨e, he, hs⟩ := List.mem_filterMap.1 hmem
  obtain ⟨rest, rfl, -, -⟩ := h.trace
  refine ⟨driverEvent e, List.mem_cons_of_mem _ (List.mem_append_left _
    (List.mem_map_of_mem he)), ?_⟩
  rw [← storeOf_eq_bytes hs]

/-- Whether a turn that hands over a frame stays inside of `data`. -/
lemma TurnOf.contained_iff (h : TurnOf t d)
    (hr : Returns machine E.rely receiveCall d.before d.trace d.answer d.after)
    (hf : HandsOver f d) : Contained t ↔ f.length ≤ 118 := by
  obtain ⟨e, hmem, ho⟩ := h.exists_store hr hf
  obtain ⟨n, hn, hp, hst⟩ := hf
  have hstores := reach_stored hr
  rw [hst] at hstores
  have hstores := List.append_cancel_left hstores
  have hlen : d.after.dataLength = n := by
    rw [World.dataLength, hst, List.reverse_append]
    rfl
  constructor
  · intro hc
    -- a longer frame is stored at the index 100, too
    by_contra hlong
    have hlt := hc.data e hmem dataSize (by
      rw [ho, TaskOp.indices, if_pos rfl, List.mem_range]
      change 100 < f.payload.length
      omega)
    exact absurd hlt (Nat.lt_irrefl _)
  · intro hle
    refine h.contained ?_ ?_
    -- the stores of the call are the four of the delivery
    · intro e he bs
      have hmem : ∀ param, e.1 = .loc (.store param bs) → Stored.bytes param bs ∈
          ([.receivedBytes n, .bytes .destinationMac f.destination, .bytes .sourceMac f.source,
            .bytes .lengthType f.lengthType, .bytes .buffer f.payload] : List Stored) := by
        intro param ho
        rw [hstores]
        exact List.mem_filterMap.2 ⟨e, he, by rw [ho]; rfl⟩
      refine ⟨fun ho => ?_, fun ho => ?_⟩
      · obtain rfl : bs = f.payload := by simpa using hmem _ ho
        change f.payload.length ≤ 100
        omega
      · obtain rfl : bs = f.lengthType := by simpa using hmem _ ho
        exact f.length_lengthType
    · intro _
      rw [hlen]
      change n.toNat ≤ 100
      omega

/-- A turn that finds nothing stores nothing. -/
lemma TurnOf.contained_of_nothing (h : TurnOf t d)
    (hr : Returns machine E.rely receiveCall d.before d.trace d.answer d.after)
    (hans : d.answer ≠ .encReceiveSucceeded) (hst : d.after.stored = d.before.stored) :
    Contained t := by
  have hstores := reach_stored hr
  rw [hst] at hstores
  have hnil := List.self_eq_append_right.1 hstores
  refine h.contained ?_ fun hs => absurd hs hans
  intro e he bs
  have hnone : storeOf e.1 = none := List.filterMap_eq_nil_iff.1 hnil e he
  refine ⟨fun ho => ?_, fun ho => ?_⟩
  · rw [ho] at hnone
    exact absurd hnone (by simp [storeOf])
  · rw [ho] at hnone
    exact absurd hnone (by simp [storeOf])

end Access

/-! ### Runs of the task -/

/-- The task initialised the driver, starting from the world `w₀` in which no system reset is
under way, and then took the turns `h`. -/
def TaskRunning (E : Surroundings) (config : Config) (w₀ : World) (h : List Turn) (v : World) :
    Prop :=
  w₀.chip.resetPending = false ∧ ∃ t w,
    Returns taskMachine E.rely (call (enc624j600Init config)) w₀ t () w ∧
      Session taskMachine E.rely (fun _ : Unit => mySecondTaskTurn) w h v

/-- The turns that found a frame. -/
def found (h : List Turn) : List Turn := h.filter fun c => Found c.trace

/-- The turn made the receive call. -/
structure Makes (E : Surroundings) (c : Turn) (d : DriverCall Unit ReceiveResult) : Prop
    extends TurnOf c.trace d where
  returns : Returns machine E.rely receiveCall d.before d.trace d.answer d.after

section Runs

variable {E : Surroundings} {config : Config} {w₀ v u : World} {h : List Turn}

lemma IsConfigOp.storeless {o : Op} (ho : IsConfigOp o) : storeOf o = none := by
  cases o with
  | spi i => rfl
  | loc l =>
    cases l with
    | store param bs => exact absurd ho id
    | storeReceivedBytes v => exact absurd ho id
    | _ => rfl

lemma IsInitOp.storeless {o : Op} (ho : IsInitOp o) : storeOf o = none := by
  rcases ho with (h | ⟨v, rfl | rfl⟩) | (h | rfl | rfl) | rfl
  · exact h.storeless
  · rfl
  · rfl
  · exact h.storeless
  · rfl
  · rfl
  · rfl

lemma call_init_all : (call (enc624j600Init config)).All IsStoreless :=
  Prog.All.lower _ (init_all config) fun o ho => ⟨⟨o, rfl, ho.storeless⟩, fun _ => trivial⟩

/-- A run of the task is a run of the receive calls that it makes. -/
lemma TaskRunning.running (hrun : TaskRunning E config w₀ h v) :
    ∃ h' : List (DriverCall Unit ReceiveResult),
      Running E config (fun _ : Unit => receiveCall) w₀ h' v ∧ List.Forall₂ (Makes E) h h' := by
  obtain ⟨hp, t, w, hi, hs⟩ := hrun
  obtain ⟨s, hi', -⟩ := returns_call hi
  induction hs with
  | start => exact ⟨[], ⟨hp, s, w, hi', .start⟩, .nil⟩
  | env _ hR ih =>
    obtain ⟨h', hrun, hh⟩ := ih
    exact ⟨h', hrun.env hR, hh⟩
  | @call h c _ hr ih =>
    obtain ⟨h', ⟨-, t', w', hi'', hs'⟩, hh⟩ := ih
    obtain ⟨d, hd, hdr, hd', hT, -⟩ := exists_turnOf hr
    exact ⟨h' ++ [d], ⟨hp, t', w', hi'', ((hs'.drift hd).call hdr).drift hd'⟩,
      List.rel_append hh (.cons ⟨hT, hdr⟩ .nil)⟩

lemma TaskRunning.call {c : Turn} (hrun : TaskRunning E config w₀ h c.before)
    (hc : Returns taskMachine E.rely mySecondTaskTurn c.before c.trace c.answer c.after) :
    TaskRunning E config w₀ (h ++ [c]) c.after := by
  obtain ⟨hp, t, w, hi, hs⟩ := hrun
  exact ⟨hp, t, w, hi, hs.call hc⟩

/-- A run of `my_second_task` is still in the initialisation, or it has taken some turns and is
inside a further one; it never leaves the loop. -/
lemma reach_mySecondTask {t : List (Event TaskOp TaskOp.Res)} {q : Task Unit}
    (hr : Reach taskMachine E.rely (mySecondTask config) w₀ t q v) :
    (∃ q', Reach taskMachine E.rely (call (enc624j600Init config)) w₀ t q' v) ∨
      ∃ w h q' t₁ t₂, Returns taskMachine E.rely (call (enc624j600Init config)) w₀ t₁ () w ∧
        Inside taskMachine E.rely (fun _ : Unit => mySecondTaskTurn) w h () t₂ q' v ∧
          t = t₁ ++ (traces h ++ t₂) := by
  rcases Reach.of_bind hr with ⟨q', -, hi⟩ | ⟨_, w, t₁, t', hi, hloop, rfl⟩
  · exact Or.inl ⟨q', hi⟩
  · obtain ⟨h, u, t₂, hs, -, rfl, hat⟩ := Reach.of_loop_session hloop
    cases hat with
    | front => exact Or.inr ⟨w, h, _, t₁, [], hi, ⟨_, hs, .refl⟩, rfl⟩
    | turn hturn => exact Or.inr ⟨w, h, _, t₁, t₂, hi, ⟨_, hs, hturn⟩, rfl⟩
    | past hturn _ =>
      -- no turn answers `true`
      obtain ⟨-, -, -, -, -, ha⟩ := exists_turnOf hturn
      exact absurd ha (by simp)

lemma forall₂_found {h' : List (DriverCall Unit ReceiveResult)}
    (hh : List.Forall₂ (Makes E) h h') : List.Forall₂ (Makes E) (found h) (successes h') :=
  List.rel_filter (fun c d hc => by simpa using hc.found_iff) hh

/-- The turns that found a frame hand over the frames in their order. -/
lemma forall₂_makes (hE : ∀ c e, E c e → sparing c e) (hrun : TaskRunning E config w₀ h v) :
    List.Forall₂ (fun f (c : Turn) => ∃ d, HandsOver f d ∧ Makes E c d)
      (v.chip.deposited.take (found h).length) (found h) := by
  obtain ⟨h', hrun', hh⟩ := hrun.running
  have hfound := forall₂_found hh
  have hlen : (found h).length = received h' := by
    rw [hfound.length_eq, received, List.countP_eq_length_filter, successes]
  rw [hlen]
  refine (forall₂_join (delivered_of_running hE hrun').frames hfound).imp ?_
  rintro f c ⟨d, -, hf, hc⟩
  exact ⟨d, hf, hc⟩

/-- The turns that found a frame, and the others. -/
lemma contained_of_taskRunning (hE : ∀ c e, E c e → sparing c e)
    (hrun : TaskRunning E config w₀ h v) :
    List.Forall₂ (fun f (c : Turn) => Contained c.trace ↔ f.length ≤ 118)
      (v.chip.deposited.take (found h).length) (found h) ∧
        ∀ c ∈ h, ¬ Found c.trace → Contained c.trace := by
  refine ⟨(forall₂_makes hE hrun).imp ?_, ?_⟩
  · rintro f c ⟨d, hf, hc⟩
    exact hc.contained_iff hc.returns hf
  · intro c hc hno
    obtain ⟨h', hrun', hh⟩ := hrun.running
    have hd := delivered_of_running hE hrun'
    obtain ⟨d, hmem, hm⟩ := exists_of_forall₂ hh hc
    have hne : d.answer ≠ .encReceiveSucceeded := fun hs => hno (hm.found_iff.2 hs)
    have ha := hd.answered d hmem
    exact hm.contained_of_nothing hm.returns hne (ha.nothing (ha.result.resolve_right hne))

/-- While no frame is longer, the turns stay inside. -/
lemma contained_of_short (hE : ∀ c e, E c e → sparing c e) (hrun : TaskRunning E config w₀ h v)
    (hshort : ∀ f ∈ v.chip.deposited, f.length ≤ 118) : Contained (traces h) := by
  obtain ⟨hfound, hnone⟩ := contained_of_taskRunning hE hrun
  refine contained_traces fun c hc => ?_
  by_cases hf : Found c.trace
  · have hmem : c ∈ found h := List.mem_filter.2 ⟨hc, by simpa using hf⟩
    obtain ⟨f, hft, hiff⟩ := exists_of_forall₂ hfound.flip hmem
    exact hiff.2 (hshort f (List.mem_of_mem_take hft))
  · exact hnone c hc hf

/-! ### Unfinished turns -/

/-- The operations that a turn may perform. -/
def IsTurnOp : TaskOp → Prop
  | .driver o => IsReceiveOp o
  | _ => True

lemma IsPrint.isTurnOp {n : ℕ} {o : TaskOp} (h : IsPrint n o) : IsTurnOp o := by
  cases o with
  | driver o => exact absurd h id
  | _ => trivial

lemma printResult_all (result : ReceiveResult) : (printResult result).All IsTurnOp := by
  unfold printResult
  split
  · refine Prog.All.bind (printHeader_all.mono fun _ => IsPrint.isTurnOp (n := 0)) fun _ => ?_
    refine ⟨trivial, fun n => Prog.All.bind (p := printData n) ?_ fun _ => ?_⟩
    · exact (printData_all n).mono fun _ => IsPrint.isTurnOp
    · exact ⟨trivial, fun _ => trivial⟩
  · exact ⟨trivial, fun _ => trivial⟩

lemma mySecondTaskTurn_all : mySecondTaskTurn.All IsTurnOp := by
  refine ⟨trivial, fun _ => ?_⟩
  have hcall : (call receiveCall).All IsTurnOp :=
    Prog.All.lower _ receiveCall_all fun o ho => ⟨ho, fun _ => trivial⟩
  refine Prog.All.bind (p := call receiveCall) hcall fun result => ?_
  exact Prog.All.bind (printResult_all result) fun _ => ⟨trivial, fun _ => trivial⟩

lemma printHeader_loopFree : printHeader.LoopFree := by
  unfold printHeader
  simp only [Prog.monad_bind]
  refine Prog.LoopFree.bind (fun _ => trivial) fun _ => (printAddress_loopFree _).bind fun _ => ?_
  refine Prog.LoopFree.bind (fun _ => trivial) fun _ => (printAddress_loopFree _).bind fun _ => ?_
  exact Prog.LoopFree.bind (fun _ => trivial) fun _ _ => trivial

lemma printResult_loopFree (result : ReceiveResult) : (printResult result).LoopFree := by
  have hdata : ∀ n, (printData n).LoopFree := fun n => forUpTo_loopFree fun i _ _ => trivial
  unfold printResult printFrame
  simp only [Prog.monad_bind]
  split
  · refine printHeader_loopFree.bind fun _ => Prog.LoopFree.bind (fun _ => trivial) fun n => ?_
    exact (hdata n).bind fun _ _ => trivial
  · exact fun _ => trivial

lemma mySecondTaskTurn_loopFree : mySecondTaskTurn.LoopFree := by
  have hcall : (call receiveCall).LoopFree := receiveCall_loopFree.lower _ fun _ _ => trivial
  exact fun _ => hcall.bind fun _ => (printResult_loopFree _).bind fun _ _ => trivial

lemma turn_step {w w' : World} {o : TaskOp} {r : o.Res} (ho : IsTurnOp o) (ha : w.chip.Awake)
    (hs : taskMachine.step w o r w') :
    w'.chip.Awake ∧ w'.chip.deposited = w.chip.deposited := by
  cases o with
  | driver o =>
    have he := receiveEffect ho ha.por hs
    exact ⟨⟨he.por.trans ha.por, he.resetPending.trans ha.resetPending⟩, he.deposited⟩
  | _ =>
    rw [TaskOp.IsOwn.step (by trivial) hs]
    exact ⟨ha, rfl⟩

/-- A turn leaves the frames that the chip stored alone. -/
lemma turn_alone {q q' : Task Bool} {t : List (Event TaskOp TaskOp.Res)} (hq : q.All IsTurnOp)
    (hv : v.chip.Awake) (hr : Reach taskMachine still.rely q v t q' u) :
    u.chip.Awake ∧ u.chip.deposited = v.chip.deposited := by
  refine (hr.invariant (F := fun u => u.chip.Awake ∧ u.chip.deposited = v.chip.deposited) hq ?_
    (fun w w' _ h => absurd h (not_rely_still w w')) ⟨hv, rfl⟩).1
  rintro w o r w' ho ⟨ha, hd⟩ hs
  obtain ⟨ha', hd'⟩ := turn_step ho ha hs
  exact ⟨ha', hd'.trans hd⟩

/-- Every turn can come to its end without a further event of the chip. -/
lemma exists_turn {q : Task Bool} (hq : q.LoopFree) (u : World) :
    ∃ t a x, Returns taskMachine still.rely q u t a x :=
  exists_returns_of_loopFree taskMachine_total _ hq u

/-- A turn that is under way can be finished without a further frame. -/
lemma TaskRunning.exists_finished (hE : ∀ c e, E c e → sparing c e)
    (hrun : TaskRunning E config w₀ h v) {t : List (Event TaskOp TaskOp.Res)} {q : Task Bool}
    (hr : Reach taskMachine E.rely mySecondTaskTurn v t q u) :
    ∃ (c : Turn) (t' : List (Event TaskOp TaskOp.Res)), c.trace = t ++ t' ∧
      TaskRunning E config w₀ (h ++ [c]) c.after ∧
      c.after.chip.deposited = u.chip.deposited := by
  obtain ⟨h', hrun', -⟩ := hrun.running
  obtain ⟨s, hs⟩ := (delivered_of_running hE hrun').ready
  obtain ⟨hu, hq⟩ := hr.invariant (F := fun u : World => u.chip.Awake) mySecondTaskTurn_all
    (fun _ _ _ _ ho ha hs => (turn_step ho ha hs).1) stable_awake hs.awake
  obtain ⟨t', a, x, hx⟩ := exists_turn (hr.loopFree mySecondTaskTurn_loopFree) u
  exact ⟨⟨(), v, t ++ t', a, x⟩, t', rfl,
    hrun.call (Reach.trans hr (hx.mono fun w w' h => absurd h (not_rely_still w w'))),
    (turn_alone hq hu hx).2⟩

/-- While no frame is longer, the operations of an unfinished turn stay inside, too. -/
lemma contained_of_inside (hE : ∀ c e, E c e → sparing c e) (hrun : TaskRunning E config w₀ h v)
    {t : List (Event TaskOp TaskOp.Res)} {q : Task Bool}
    (hr : Reach taskMachine E.rely mySecondTaskTurn v t q u)
    (hshort : ∀ f ∈ u.chip.deposited, f.length ≤ 118) :
    Contained (traces h ++ t) := by
  obtain ⟨c, t', htrace, hall, hd⟩ := hrun.exists_finished hE hr
  have hcontained := contained_of_short hE hall (hd ▸ hshort)
  rw [traces_append, traces_singleton, htrace, ← List.append_assoc] at hcontained
  exact (contained_append.1 hcontained).1

/-- While no frame is longer, a run of `my_second_task` stays inside as a whole. -/
lemma contained_mySecondTask (hp : w₀.chip.resetPending = false)
    {t : List (Event TaskOp TaskOp.Res)} {q : Task Unit}
    (hr : Reach taskMachine sparing.rely (mySecondTask config) w₀ t q v)
    (hshort : ∀ f ∈ v.chip.deposited, f.length ≤ 118) : Contained t := by
  rcases reach_mySecondTask hr with ⟨q', hi⟩ | ⟨w, h, q', t₁, t₂, hi, ⟨u, hs, hturn⟩, rfl⟩
  · exact contained_of_storeless (Reach.events call_init_all hi).1
  · refine contained_append.2 ⟨contained_of_storeless (Reach.events call_init_all hi).1, ?_⟩
    exact contained_of_inside (fun _ _ h => h) ⟨hp, t₁, w, hi, hs⟩ hturn hshort

/-- After the initialisation a frame arrives, and the task finds it. -/
lemma exists_found (hE : ∀ c e, E c e → sparing c e) {d : DuplexMode}
    (hrun : Running E config (fun _ : Unit => receiveCall) powered [] v)
    (hb : Booted config d v) {f : Frame} {b : List Byte} (hf : E v.chip (.deposit f b))
    (hb' : b.length = 4) : ∃ c : Turn, TaskRunning E config powered [c] c.after ∧
      Found c.trace ∧ c.after.chip.deposited = [f] := by
  obtain ⟨u, hR, ⟨s, hu⟩, hd, -⟩ :=
    exists_arrival hE hrun hb.receiving (by simp [hb.deposited]) hf hb'
  rw [hb.deposited, List.nil_append] at hd
  obtain ⟨t, a, x, hx⟩ := exists_turn mySecondTaskTurn_loopFree u
  have hT := protection_sparing (E := still) fun _ _ h => h.elim
  -- the receive call of the turn finds the frame
  obtain ⟨c, hdrift, hc, -, hturn, -⟩ := exists_turnOf hx
  have hpend := (stable_ready_frame hT (f := f)).drift ⟨hu, by simp [hd, received]⟩ hdrift
  obtain ⟨hans, -⟩ := (triple_receiveCall_pending hT).returns hpend hc
  obtain ⟨hp, r, w, hi, hs⟩ := hrun
  obtain ⟨r', hi'⟩ := realises_call.returns (Prog.all_of_forall (fun _ => trivial) _) hi
  have hstart : Session taskMachine E.rely (fun _ : Unit => mySecondTaskTurn) w [] u :=
    Session.start.drift (hs.drift_of_nil.tail hR)
  exact ⟨⟨(), u, t, a, x⟩, ⟨hp, r', w, hi', hstart.call (c := ⟨(), u, t, a, x⟩)
    (hx.mono fun w w' h => absurd h (not_rely_still w w'))⟩, hturn.found_iff.2 hans,
    (turn_alone mySecondTaskTurn_all hu.awake hx).2.trans hd⟩

end Runs

end Enc624j600
