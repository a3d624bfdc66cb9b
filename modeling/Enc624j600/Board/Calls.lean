/-
# Calls of the SPI master

What the other side of the bus sees of a sequence of calls of `SPI2_WriteRead` is the words of
these calls, one after the other, whatever the timing of the peripheral.  A call can be finished
under every timing if and only if it sends at most one element more than it receives.
-/
import Enc624j600.Board.Overrun

namespace Enc624j600

open Interaction

variable {W : Type} {B : Bus W} {s s' : Board W} {m : ℕ → Byte}

/-- A request to the SPI master. -/
structure SpiRequest where
  pTransmitData : Ptr
  txSize : ℕ
  pReceiveData : OutPtr
  rxSize : ℕ

namespace SpiRequest

variable (q : SpiRequest) (con : Word32)

/-- The call. -/
def call : OnBoard Bool := spi2WriteRead q.pTransmitData q.txSize q.pReceiveData q.rxSize

/-- There is something to send, or to receive. -/
def HasData : Prop :=
  (q.txSize > 0 ∧ q.pTransmitData.isSome) ∨ (q.rxSize > 0 ∧ q.pReceiveData ≠ .null)

instance : Decidable q.HasData := inferInstanceAs (Decidable (_ ∨ _))

/-- The size of the transmit buffer, if there is one. -/
def txBytes : ℕ := if q.pTransmitData.isSome then q.txSize else 0

/-- The size of the receive buffer, if there is one. -/
def rxBytes : ℕ := if q.pReceiveData = .null then 0 else q.rxSize

/-- The elements that are sent and received, in the mode that `con` selects. -/
def txElements : ℕ := q.txBytes / sizeOf con

/-- The elements that are received, in the mode that `con` selects. -/
def rxElements : ℕ := q.rxBytes / sizeOf con

/-- The words that go out: the elements of the transmit buffer, and the dummies after them. -/
def words : List Word32 :=
  wordsSent con (q.pTransmitData.getD fun _ => 0#8) (q.txElements con)
    ((if q.rxBytes > q.txBytes then q.rxBytes - q.txBytes else 0) / sizeOf con)

variable {q con}

lemma call_eq : q.call = if q.HasData then
    (transferElements (q.pTransmitData.getD fun _ => 0#8) q.txBytes q.rxBytes).bind
      fun _ => .pure true
    else .pure false := rfl

lemma bytes_of_not_hasData (h : ¬ q.HasData) : q.txBytes = 0 ∧ q.rxBytes = 0 := by
  simp only [HasData, not_or, not_and] at h
  obtain ⟨htx, hrx⟩ := h
  constructor
  · rw [txBytes]
    split
    · rename_i hsome
      exact Nat.eq_zero_of_not_pos fun hpos => htx hpos hsome
    · rfl
  · rw [rxBytes]
    split
    · rfl
    · rename_i hne
      exact Nat.eq_zero_of_not_pos fun hpos => hrx hpos hne

lemma words_of_not_hasData (h : ¬ q.HasData) : q.words con = [] := by
  obtain ⟨htx, hrx⟩ := bytes_of_not_hasData h
  simp [words, wordsSent, txElements, htx, hrx]

end SpiRequest

/-! ### One call -/

/-- The setting of a call from the state `s`. -/
def Board.setting (s : Board W) (lead : ℕ) : Transfer W := ⟨s.bus, s.spi2.con, s.cs, lead⟩

/-- How many words a request may have ahead. -/
def SpiRequest.lead (q : SpiRequest) (con : Word32) : ℕ :=
  if q.txElements con ≤ q.rxElements con + 1 then 1 else 2

lemma SpiRequest.lead_pos (q : SpiRequest) (con : Word32) : 0 < q.lead con := by
  rw [SpiRequest.lead]
  split <;> decide

lemma SpiRequest.lead_two {q : SpiRequest} {con : Word32}
    (h : q.rxElements con + 1 < q.txElements con) : 2 ≤ q.lead con := by
  rw [SpiRequest.lead, if_neg (by omega)]

lemma resting_of_still (hstill : s.spi2.Still) (lead : ℕ) :
    Resting B (s.setting lead) s.memory s :=
  ⟨rfl, rfl, rfl, hstill, .start⟩

lemma triple_call (q : SpiRequest) :
    Triple (boardMachine B) (Board.Rely B) (TransferGuarantee (s.setting (q.lead s.spi2.con)))
      (Resting B (s.setting (q.lead s.spi2.con)) s.memory) q.call
      fun x s' => x = decide q.HasData ∧
        if q.HasData then Transferred B (s.setting 1) (q.words s.spi2.con)
          (q.rxElements s.spi2.con) s.memory s'
        else Resting B (s.setting 1) s.memory s' := by
  rw [SpiRequest.call_eq]
  split
  · rename_i hdata
    refine Triple.bind (triple_transferElements (q.lead_pos _) SpiRequest.lead_two) fun _ => ?_
    refine Triple.pure stable_transferred fun s' hs => ⟨by simp [hdata], ?_⟩
    exact ⟨hs.con, hs.cs, hs.idle, hs.exchanged⟩
  · rename_i hdata
    refine Triple.pure stable_resting fun s' hs => ⟨by simp [hdata], ?_⟩
    exact ⟨hs.con, hs.cs, hs.memory, hs.still, hs.bus⟩

/-! ### On a loopback -/

/-- Every word comes back as it was sent. -/
def loopback : Bus Unit where
  exchange _ x y _ := y = x
  select _ _ := True
  deselect _ _ := True
  loc _ _ _ _ := True
  rely _ _ := False

lemma loopback_answers (w : Unit) : loopback.Answers w := fun _ _ _ x => ⟨x, (), rfl⟩

lemma exchanged_loopback {w v : Unit} {xs : List (Word32 × Word32)}
    (h : loopback.Exchanged w xs v) : xs.map Prod.snd = xs.map Prod.fst := by
  induction h with
  | start => rfl
  | env _ _ ih => exact ih
  | step _ hx ih =>
    obtain rfl := hx
    simp [ih]

/-- A board whose SPI master was switched on. -/
def onLoopback : Board Unit where
  spi2 := ⟨SPI2CON_ON ||| SPI2CON_MSTEN ||| SPI2CON_CKE, 3#32, 0#32, 0#32, none, none, 0#32, false,
    false⟩
  lat _ := 0#32
  memory _ := 0#8
  ticks := 0#32
  bus := ()

/-- Send `n` bytes, and receive one. -/
def sendThenReceive (n : ℕ) : SpiRequest := ⟨some fun i => BitVec.ofNat 8 (i + 5), n, .object, 1⟩

/-! ### Sequences of calls -/

lemma Bus.Exchanged.trans {w v u : W} {xs ys : List (Word32 × Word32)}
    (h : B.Exchanged w xs v) (h' : B.Exchanged v ys u) : B.Exchanged w (xs ++ ys) u := by
  induction h' with
  | start => simpa using h
  | env _ hR ih => exact ih.env hR
  | step _ hx ih =>
    rw [← List.append_assoc]
    exact ih.step hx

/-- What a call did, if its request has data or not. -/
structure Served (B : Bus W) (c : Call BoardOp BoardOp.Res (Board W) SpiRequest Bool) : Prop where
  answer : c.answer = decide c.program.HasData
  transferred : c.program.HasData → Transferred B (c.before.setting 1)
    (c.program.words c.before.spi2.con) (c.program.rxElements c.before.spi2.con) c.before.memory
    c.after
  untouched : ¬ c.program.HasData → c.trace = [] ∧ c.after.memory = c.before.memory

/-- What holds after the calls `h`. -/
structure AfterCalls (B : Bus W) (s : Board W)
    (h : List (Call BoardOp BoardOp.Res (Board W) SpiRequest Bool)) (s' : Board W) : Prop where
  con : s'.spi2.con = s.spi2.con
  cs : s'.cs = s.cs
  still : s'.spi2.Still
  exchanged : ∃ xs : List (Word32 × Word32), B.Exchanged s.bus xs s'.bus ∧
    xs.map Prod.fst = (h.map fun c => c.program.words s.spi2.con).flatten
  served : ∀ c ∈ h, Served B c

lemma stable_afterCalls {h : List (Call BoardOp BoardOp.Res (Board W) SpiRequest Bool)} :
    Stable (Board.Rely B) (AfterCalls B s h) := by
  intro u u' hu hR
  obtain ⟨xs, hx, hwords⟩ := hu.exchanged
  have hstill := stable_still _ _ hu.still hR
  cases hR with
  | load _ _ htxb => simp [hu.still.1] at htxb
  | finish hsr => simp [hu.still.2] at hsr
  | tick => exact ⟨hu.con, hu.cs, hstill, ⟨xs, hx, hwords⟩, hu.served⟩
  | bus hw => exact ⟨hu.con, hu.cs, hstill, ⟨xs, hx.env hw, hwords⟩, hu.served⟩
  | lat hp => exact ⟨hu.con, (Board.cs_update hp).trans hu.cs, hstill, ⟨xs, hx, hwords⟩, hu.served⟩

lemma AfterCalls.call {h : List (Call BoardOp BoardOp.Res (Board W) SpiRequest Bool)}
    {c : Call BoardOp BoardOp.Res (Board W) SpiRequest Bool} (hu : AfterCalls B s h c.before)
    (hr : Returns (boardMachine B) (Board.Rely B) c.program.call c.before c.trace c.answer
      c.after) :
    AfterCalls B s (h ++ [c]) c.after := by
  obtain ⟨xs, hx, hwords⟩ := hu.exchanged
  obtain ⟨hanswer, hafter⟩ := (triple_call c.program).returns (resting_of_still hu.still _) hr
  have hmem : ∀ {d}, Served B c → d ∈ h ++ [c] → Served B d := by
    intro d hc hd
    rcases List.mem_append.1 hd with hd | hd
    · exact hu.served d hd
    · rwa [List.mem_singleton.1 hd]
  by_cases hdata : c.program.HasData
  · rw [if_pos hdata] at hafter
    obtain ⟨ys, hy, hwords', -⟩ := hafter.exchanged
    have hc : Served B c := ⟨hanswer, fun _ => hafter, fun h => absurd hdata h⟩
    refine ⟨hafter.con.trans hu.con, hafter.cs.trans hu.cs, hafter.idle.still,
      ⟨xs ++ ys, hx.trans hy, ?_⟩, fun d hd => hmem hc hd⟩
    rw [List.map_append, hwords, hwords', hu.con, List.map_append, List.flatten_append]
    simp
  · rw [if_neg hdata] at hafter
    have htrace : c.trace = [] := by
      rw [SpiRequest.call_eq, if_neg hdata] at hr
      exact (returns_pure_iff.1 hr).1
    have hc : Served B c := ⟨hanswer, fun h => absurd h hdata, fun _ => ⟨htrace, hafter.memory⟩⟩
    refine ⟨hafter.con.trans hu.con, hafter.cs.trans hu.cs, hafter.still,
      ⟨xs ++ [], hx.trans hafter.bus, ?_⟩, fun d hd => hmem hc hd⟩
    rw [List.append_nil, hwords, List.map_append, List.flatten_append]
    simp [SpiRequest.words_of_not_hasData hdata]

/-- **The calls of the SPI master exchange their words, one after the other.** A call answers
`true` exactly if its request has data; it then stores what came back as far as there is room,
and leaves nothing in the module; otherwise it does nothing.  The other side of the bus sees the
words of the calls in their order, and no other words, under every timing. -/
theorem spi2_calls_exchange {h : List (Call BoardOp BoardOp.Res (Board W) SpiRequest Bool)}
    (hstill : s.spi2.Still)
    (hs : Session (boardMachine B) (Board.Rely B) SpiRequest.call s h s') : AfterCalls B s h s' :=
  hs.invariant (J := AfterCalls B s) ⟨rfl, rfl, hstill, ⟨[], .start, rfl⟩, by simp⟩
    (fun _ => stable_afterCalls) fun _ _ hu hr => hu.call hr

theorem spi2_calls_exchange_loopback :
    ∃ c, Session (boardMachine loopback) (Board.Rely loopback) SpiRequest.call onLoopback [c]
        c.after ∧
      c.answer = true ∧ c.after.memory 0 = 5#8 := by
  have hrest := resting_of_still (B := loopback) (s := onLoopback) ⟨rfl, rfl⟩ 1
  have hsize : 2 / sizeOf (onLoopback.setting 1).con ≤
      1 / sizeOf (onLoopback.setting 1).con + 1 := by
    decide
  obtain ⟨t, u, v, hr⟩ := (completes_transferElements (fun i => BitVec.ofNat 8 (i + 5))
    (loopback_answers _) (by decide) rfl hsize).start hrest
  have hret : Returns (boardMachine loopback) (Board.Rely loopback) (sendThenReceive 2).call
      onLoopback (t ++ []) true v := hr.bind .refl
  have hs : Session (boardMachine loopback) (Board.Rely loopback) SpiRequest.call onLoopback
      [⟨sendThenReceive 2, onLoopback, t ++ [], true, v⟩] v :=
    Session.call (c := ⟨sendThenReceive 2, onLoopback, t ++ [], true, v⟩) .start hret
  refine ⟨_, hs, rfl, ?_⟩
  have hserved := (spi2_calls_exchange (s := onLoopback) ⟨rfl, rfl⟩ hs).served _
    (List.mem_singleton.2 rfl)
  have hdata : (sendThenReceive 2).HasData := by decide
  obtain ⟨xs, hx, hwords, hmem⟩ := (hserved.transferred hdata).exchanged
  have hsent : (sendThenReceive 2).words onLoopback.spi2.con = [5#32, 6#32] := by decide
  have hback : xs.map Prod.snd = [5#32, 6#32] := by
    rw [exchanged_loopback hx, hwords]
    exact hsent
  have hgot : (xs.map fun x => truncate onLoopback.spi2.con x.2) =
      [5#32, 6#32].map (truncate onLoopback.spi2.con) := by
    rw [← hback, List.map_map]
    rfl
  have hbyte : putBytes onLoopback.memory 0 (storedBytes onLoopback.spi2.con
      ([5#32, 6#32].map (truncate onLoopback.spi2.con))
      ((sendThenReceive 2).rxElements onLoopback.spi2.con)) 0 = 5#8 := by decide
  rw [← hgot] at hbyte
  exact (congrFun hmem 0).trans hbyte

/-! ### Finishing a call -/

/-- A lost word stays lost until the next call. -/
lemma rov_of_reach {α : Type} {p q : OnBoard α} {t : List (Event BoardOp BoardOp.Res)}
    (hp : p.All KeepsOverrun) (h : Reach (boardMachine B) (Board.Rely B) p s t q s')
    (hrov : s.spi2.rov = true) : s'.spi2.rov = true := by
  refine (h.invariant (F := fun s => s.spi2.rov = true) hp ?_ ?_ hrov).1
  · intro u o r u' ho hu hs
    cases o with
    | readReg reg =>
      obtain ⟨-, rfl⟩ := hs
      cases reg <;> exact hu
    | writeReg reg v =>
      obtain rfl := hs
      cases reg with
      | SPI2STATCLR => exact absurd rfl (ho v)
      | SPI2CON | SPI2CONSET =>
        simp only [Spi2.write, Spi2.setCon]
        split <;> exact hu
      | _ => exact hu
    | put => exact hs ▸ hu
    | latSet | latClr | latInv =>
      obtain ⟨w, -, rfl⟩ := hs
      exact hu
    | get | tickCount =>
      obtain ⟨-, rfl⟩ := hs
      exact hu
    | loc l =>
      obtain ⟨w, -, rfl⟩ := hs
      exact hu
  · intro u u' hu hR
    cases hR with
    | finish =>
      simp only [Spi2.finish, hu, Bool.or_true, if_true]
    | _ => exact hu

/-- **Which calls can always be finished.** If the other side answers every word, a call can be
run to its end from every state it gets into, under every timing, if and only if it sends at most
one element more than it receives.  Any other call can lose a word and then waits for it. -/
theorem spi2_call_completes_iff (hB : B.Answers s.bus) (hon : IsOn s.spi2.con)
    (hstill : s.spi2.Still) (q : SpiRequest) :
    Completes (boardMachine B) (Board.Rely B) (· = s) q.call ↔
      q.txElements s.spi2.con ≤ q.rxElements s.spi2.con + 1 := by
  have hrest := resting_of_still (B := B) hstill 1
  constructor
  · intro hcan
    by_contra hlt
    have hlt : q.rxBytes / sizeOf s.spi2.con + 1 < q.txBytes / sizeOf s.spi2.con :=
      Nat.lt_of_not_le hlt
    have hdata : q.HasData := by
      by_contra hdata
      rw [(SpiRequest.bytes_of_not_hasData hdata).1] at hlt
      simp at hlt
    obtain ⟨t, p, v, hr, hp, hrov⟩ := exists_overrun_transfer
      (q.pTransmitData.getD fun _ => 0#8) (a := s.setting 1) hB hon rfl hlt hrest
    -- the call cannot end any more, since it would leave no overrun
    have hcall : Reach (boardMachine B) (Board.Rely B) q.call s t (p.bind fun _ => .pure true)
        v := by
      rw [SpiRequest.call_eq, if_pos hdata]
      exact Reach.bind _ hr
    obtain ⟨t', x, v', hret⟩ := hcan s rfl t _ v hcall
    have hpost := ((triple_call q).returns (resting_of_still hstill _) (hcall.trans hret)).2
    rw [if_pos hdata] at hpost
    have hall : (p.bind fun _ => .pure true : OnBoard Bool).All KeepsOverrun :=
      hp.bind fun _ => trivial
    have hkept := rov_of_reach hall hret hrov
    simp [hpost.idle.rov] at hkept
  · intro hle
    rw [SpiRequest.call_eq]
    split
    · refine (Completes.bind (completes_transferElements _ (a := s.setting 1) (m := s.memory) hB hon
        rfl hle) (triple_transferElements (a := s.setting 1) Nat.one_pos fun h => ?_) fun _ =>
          .pure _).pre fun u hu => hu ▸ hrest
      exact absurd hle (Nat.not_le_of_lt h)
    · exact .pure _

theorem spi2_call_completes_iff_loopback :
    (Completes (boardMachine loopback) (Board.Rely loopback) (· = onLoopback)
      (sendThenReceive 2).call) ∧
      ¬ Completes (boardMachine loopback) (Board.Rely loopback) (· = onLoopback)
        (sendThenReceive 3).call := by
  have hon : IsOn onLoopback.spi2.con := by decide
  exact ⟨(spi2_call_completes_iff (loopback_answers _) hon ⟨rfl, rfl⟩ _).2 (by decide),
    fun h =>
      absurd ((spi2_call_completes_iff (loopback_answers _) hon ⟨rfl, rfl⟩ _).1 h) (by decide)⟩

end Enc624j600
