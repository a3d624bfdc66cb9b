/-
# Runs of transmit calls

A session of transmit calls with arbitrary arguments after the initialisation.  Between two calls
no transmission is under way, and some view agrees with the chip.
-/
import Enc624j600.Transmit.Outcome
import Enc624j600.Transmit.Spec

namespace Enc624j600

open Cyclic Interaction

/-- The arguments of a transmit call. -/
structure Request where
  destinationMac : Ptr
  lengthType : Ptr
  data : Ptr
  length : Word

/-- The call with these arguments. -/
def transmitRequest (r : Request) : Driver TransmitResult :=
  enc624j600Transmit r.destinationMac r.lengthType r.data r.length

namespace Request

/-- The call is refused because of the flow control only. -/
structure Valid (r : Request) : Prop where
  destinationMac : r.destinationMac ≠ none
  lengthType : r.lengthType ≠ none
  data : r.data ≠ none
  eight_le : 8 ≤ r.length.toNat
  le_mtu : r.length.toNat ≤ 1500

/-- The bytes that the call loads. -/
def bytes (r : Request) : List Byte :=
  frameBytes (r.destinationMac.getD fun _ => 0#8) (r.lengthType.getD fun _ => 0#8)
    (r.data.getD fun _ => 0#8) r.length

variable {r : Request}

lemma Valid.eq (h : r.Valid) : transmitRequest r =
    enc624j600Transmit (some (r.destinationMac.getD fun _ => 0#8))
      (some (r.lengthType.getD fun _ => 0#8)) (some (r.data.getD fun _ => 0#8)) r.length := by
  obtain ⟨d, hd⟩ := Option.ne_none_iff_exists'.1 h.destinationMac
  obtain ⟨l, hl⟩ := Option.ne_none_iff_exists'.1 h.lengthType
  obtain ⟨p, hp⟩ := Option.ne_none_iff_exists'.1 h.data
  rw [transmitRequest, hd, hl, hp]
  rfl

/-- An invalid call stops at once. -/
lemma eq_pure_of_not_valid (h : ¬ r.Valid) : ∃ a, transmitRequest r = .pure a ∧
    a ≠ .encTransmitSucceeded ∧ a ≠ .encFlowControlActive := by
  obtain ⟨d, l, p, n⟩ := r
  unfold transmitRequest enc624j600Transmit
  split
  · split
    · exact ⟨_, rfl, by decide, by decide⟩
    · split
      · exact ⟨_, rfl, by decide, by decide⟩
      · rename_i h7 h1500
        refine absurd ⟨by simp_all, by simp_all, by simp_all, ?_, ?_⟩ h
        · rw [BitVec.le_def] at h7
          exact Nat.lt_of_not_le h7
        · rw [gt_iff_lt, BitVec.lt_def] at h1500
          exact Nat.le_of_not_lt h1500
  · exact ⟨_, rfl, by decide, by decide⟩

end Request

/-- How a call ends, and the view it leaves. -/
inductive RequestResult (fc : Prop) (Ends : TxView → TxOutcome → Prop) (τ : TxView)
    (d : DuplexMode) (r : Request) : TransmitResult → TxView → Prop where
  | invalid {a : TransmitResult} : ¬ r.Valid → a ≠ .encTransmitSucceeded →
      a ≠ .encFlowControlActive → RequestResult fc Ends τ d r a τ
  | valid {a : TransmitResult} {τ' : TxView} : r.Valid →
      TxResult fc Ends τ d r.bytes r.length a τ' → RequestResult fc Ends τ d r a τ'

section Runs

variable {fc : Prop} {Ends : TxView → TxOutcome → Prop} {τ : TxView} {d : DuplexMode}
  {r : Request} {E : Surroundings} {config : Config} {w₀ v w : World}

/-- **A transmit call.** -/
theorem triple_request : Triple machine (TxEnv fc Ends) (Sends r.bytes) (TxIdle fc τ d)
    (transmitRequest r) fun a w => ∃ τ', RequestResult fc Ends τ d r a τ' ∧ TxIdle fc τ' d w := by
  by_cases hr : r.Valid
  · rw [hr.eq]
    refine (triple_transmit hr.eight_le hr.le_mtu).post ?_
    rintro a w ⟨τ', hτ', h⟩
    exact ⟨τ', .valid hr hτ', h⟩
  · obtain ⟨a, ha, hs, hf⟩ := Request.eq_pure_of_not_valid hr
    rw [ha]
    exact Triple.pure stable_txIdle fun w h => ⟨τ, .invalid hr hs hf, h⟩

/-- The view that the chip shows. -/
def Chip.txView (c : Chip) : TxView :=
  ⟨c.sfr, c.pointer, c.sram, c.sfr ETXSTAT, c.sfr ETXWIRE, c.sfr ECON1 &&& FCOP, c.wire⟩

/-- The initialised chip is ready to send. -/
lemma Initialised.txIdle {n : ℕ} {g : Shadow} {estat : Word}
    (h : Initialised n ((g.beforeEnable config).duplex estat) w) :
    TxIdle fc w.chip.txView w.duplexMode w := by
  have hc := h.collecting
  have hp : w.chip.pointer .EGPWRPT = 0#16 := by
    rw [h.agrees.pointer]
    rfl
  refine ⟨⟨hc.awake, hc.erxst, hc.has_head, ?_, fun _ _ _ => rfl, fun _ _ => rfl, fun _ _ => rfl,
    rfl, rfl, fun _ => rfl, rfl⟩, hc.not_transmitting, rfl⟩
  change gpRegion.Has (w.chip.pointer .EGPWRPT).toNat
  rw [hp]
  exact Region.has_base

/-- What a transmit call relies on, in arbitrary surroundings. -/
lemma txEnv_anything {w w' : World} (hR : E.rely w w') :
    TxEnv False (fun _ _ => True) w w' :=
  txEnv_of_rely (fun _ _ _ h => h) (fun _ _ _ _ _ _ => trivial) hR

lemma exists_txIdle (hi : ∃ t, Returns machine E.rely (enc624j600Init config) w₀ t () w)
    (hp : w₀.chip.resetPending = false) : TxIdle fc w.chip.txView w.duplexMode w := by
  obtain ⟨t, ht⟩ := hi
  obtain ⟨g, estat, -, hw⟩ := triple_init.returns (unasked_self hp) ht
  exact hw.txIdle

/-- A call of `p i` is under way, which has performed `t` and has `q` left. -/
def RunningInside {ι α : Type} (E : Surroundings) (config : Config) (p : ι → Driver α)
    (w₀ : World) (h : List (DriverCall ι α)) (i : ι) (t : List (Event Op Op.Res)) (q : Driver α)
    (v : World) : Prop :=
  ∃ u, Running E config p w₀ h u ∧ Reach machine E.rely (p i) u t q v

/-- Between two calls no transmission is under way. -/
lemma Running.txIdle {h : List (DriverCall Request TransmitResult)}
    (hr : Running E config transmitRequest w₀ h v) :
    ∃ τ, TxIdle False τ v.duplexMode v := by
  refine hr.invariant (J := fun _ v => ∃ τ, TxIdle False τ v.duplexMode v) ?_ ?_ ?_
  · intro t w hp hi
    exact ⟨_, exists_txIdle ⟨t, hi⟩ hp⟩
  · rintro - w w' ⟨τ, hτ⟩ hR
    have h' := txEnv_anything hR
    rw [h'.duplexMode]
    exact ⟨τ, stable_txIdle w w' hτ h'⟩
  · rintro - c ⟨τ, hτ⟩ hc
    obtain ⟨τ', -, h'⟩ := (triple_request.rely fun _ _ => txEnv_anything).returns hτ hc
    rw [h'.duplexMode]
    exact ⟨τ', h'⟩

/-! ### Calls that start a transmission -/

/-- `TXRTS` was set. -/
def Starts (t : List (Event Op Op.Res)) : Prop := ∃ e ∈ t, e.1 = startOp

variable {t : List (Event Op Op.Res)} {a : TransmitResult}

/-- A call with valid arguments, the flow control apart, sets `TXRTS`. -/
lemma Request.Valid.outcome (hr : r.Valid)
    (hc : Returns machine E.rely (transmitRequest r) w t a v) :
    (a = .encFlowControlActive ∧ ¬ Starts t) ∨
      (a ≠ .encFlowControlActive ∧ Starts t ∧ (w.chip.Awake → ¬ w.chip.Transmitting →
        ∃ t₁ t₂, SetsTxrts E.rely (transmitRequest r) w t₁ t₂ a v)) := by
  have h8 := hr.eight_le
  have h1500 := hr.le_mtu
  rw [hr.eq] at hc ⊢
  cases transmit_outcome hc with
  | nullPointer hnull => simp at hnull
  | tooSmall h7 => omega
  | exceedMtu h => omega
  | flowControl =>
    refine Or.inl ⟨rfl, ?_⟩
    rintro ⟨e, he, ho⟩
    simp only [List.mem_cons, List.not_mem_nil, or_false] at he
    rcases he with rfl | rfl
    · cases ho
    · cases ho
  | sent _ _ _ _ hset =>
    exact Or.inr ⟨verdict_ne_flowControl, ⟨⟨startOp, ()⟩, by simp, rfl⟩,
      fun ha hn => ⟨_, _, hset ha hn⟩⟩

/-- In half duplex, it is refused when the last transmission left `DEFER` set. -/
lemma TxIdle.starts_iff (hτ : TxIdle False τ .halfDuplex w) (hr : r.Valid)
    (hc : Returns machine E.rely (transmitRequest r) w t a v) :
    Starts t ↔ w.chip.sfr ETXSTAT &&& DEFER = 0#16 := by
  obtain ⟨τ', hres, -⟩ := (triple_request.rely fun _ _ => txEnv_anything).returns hτ hc
  rw [hτ.agrees.etxstat]
  cases hres with
  | invalid hn => exact absurd hr hn
  | valid _ hres =>
    cases hres with
    | refused hactive =>
      have hact : τ.etxstat &&& DEFER ≠ 0#16 := hactive (Or.inr rfl)
      rcases hr.outcome hc with ⟨-, hs⟩ | ⟨ha, -⟩
      · exact ⟨fun h => absurd h hs, fun h => absurd h hact⟩
      · exact absurd rfl ha
    | sent hactive =>
      have hact : τ.etxstat &&& DEFER = 0#16 := not_not.1 (hactive (Or.inr rfl))
      rcases hr.outcome hc with ⟨ha, -⟩ | ⟨-, hs, -⟩
      · exact absurd ha verdict_ne_flowControl
      · exact ⟨fun _ => hact, fun _ => hs⟩

end Runs

/-! ### Runs in which no frame is deferred -/

/-- Surroundings in which the chip boots, and transmissions end without `DEFER` and as `P` says. -/
def undeferred (P : Chip → TxOutcome → Prop) : Surroundings := fun c e =>
  e.IsBoot ∨ ∃ o, e = .transmitted o ∧ o.etxstat &&& DEFER = 0#16 ∧ P c o

section Undeferred

variable {P : Chip → TxOutcome → Prop} {config : Config} {w w' w₀ v : World} {r : Request}
  {h : List (DriverCall Request TransmitResult)}

lemma txEnv_undeferred (hR : (undeferred P).rely w w') :
    TxEnv False (fun _ o => o.etxstat &&& DEFER = 0#16) w w' := by
  refine txEnv_of_rely (fun _ _ _ h => h) ?_ hR
  rintro c τ o - - (hboot | ⟨o', ho, hstat, -⟩)
  · exact absurd hboot id
  · cases ho
    exact hstat

/-- One more call is made, and sets `TXRTS`. -/
lemma exists_started (hP : ∀ c, ∃ o : TxOutcome, o.etxstat &&& DEFER = 0#16 ∧ P c o)
    (hrun : Running (undeferred P) config transmitRequest w₀ h v)
    (hd : v.duplexMode = .halfDuplex) (hstat : v.chip.sfr ETXSTAT &&& DEFER = 0#16)
    (hr : r.Valid) : ∃ c : DriverCall Request TransmitResult,
      Running (undeferred P) config transmitRequest w₀ (h ++ [c]) c.after ∧ c.program = r ∧
        c.before = v ∧ Starts c.trace ∧ c.after.duplexMode = .halfDuplex ∧
          c.after.chip.sfr ETXSTAT &&& DEFER = 0#16 := by
  obtain ⟨τ, hτ⟩ := hrun.txIdle
  rw [hd] at hτ
  obtain ⟨t, a, u, hc⟩ := exists_transmit (E := undeferred P)
    (fun c _ => (hP c).imp fun o ho => Or.inr ⟨o, rfl, ho⟩) r.destinationMac r.lengthType r.data
    r.length hτ.agrees.awake
  obtain ⟨τ', hres, hτ'⟩ := (triple_request.rely fun _ _ => txEnv_undeferred).returns hτ hc
  refine ⟨⟨r, v, t, a, u⟩, hrun.call (c := ⟨r, v, t, a, u⟩) hc, rfl, rfl,
    (hτ.starts_iff hr hc).2 hstat, hτ'.duplexMode, ?_⟩
  change u.chip.sfr ETXSTAT &&& DEFER = 0#16
  rw [hτ'.agrees.etxstat]
  cases hres with
  | invalid hn => exact absurd hr hn
  | valid _ hres =>
    cases hres with
    | refused hactive =>
      have hact : τ.etxstat &&& DEFER ≠ 0#16 := hactive (Or.inr rfl)
      rw [← hτ.agrees.etxstat] at hact
      exact absurd hstat hact
    | sent _ ho => exact ho

/-- Every list of valid calls can be made. -/
lemma exists_all_started (hP : ∀ c, ∃ o : TxOutcome, o.etxstat &&& DEFER = 0#16 ∧ P c o)
    (hrun : Running (undeferred P) config transmitRequest w₀ h v)
    (hd : v.duplexMode = .halfDuplex) (hstat : v.chip.sfr ETXSTAT &&& DEFER = 0#16)
    {rs : List Request} (hrs : ∀ r ∈ rs, r.Valid) :
    ∃ k u, Running (undeferred P) config transmitRequest w₀ (h ++ k) u ∧
      u.duplexMode = .halfDuplex ∧ k.map (·.program) = rs ∧
        ∀ c ∈ k, Starts c.trace ∧ c.before.chip.sfr ETXSTAT &&& DEFER = 0#16 := by
  induction rs generalizing h v with
  | nil => exact ⟨[], v, by rwa [List.append_nil], hd, rfl, by simp⟩
  | cons r rs ih =>
    obtain ⟨hr, hrs⟩ := List.forall_mem_cons.1 hrs
    obtain ⟨c, hc, hprog, hbefore, hstart, hd', hstat'⟩ := exists_started hP hrun hd hstat hr
    obtain ⟨k, u, hu, hdu, hmap, hall⟩ := ih hc hd' hstat' hrs
    refine ⟨c :: k, u, by rwa [List.append_cons], hdu, by rw [List.map_cons, hmap, hprog], ?_⟩
    exact List.forall_mem_cons.2 ⟨⟨hstart, hbefore ▸ hstat⟩, hall⟩

/-- The initialisation leaves `DEFER` clear. -/
lemma Booted.not_deferred {d : DuplexMode} (hb : Booted config d v) :
    v.chip.sfr ETXSTAT &&& DEFER = 0#16 := by
  obtain ⟨g, estat, hi⟩ := hb.initialised
  rw [hi.collecting.etxstat, BitVec.zero_and]

end Undeferred

/-- The shortest frame that the driver sends. -/
def eightBytes : Request := ⟨some fun _ => 0#8, some fun _ => 0#8, some fun _ => 0#8, 8#16⟩

lemma eightBytes_valid : eightBytes.Valid :=
  ⟨by simp [eightBytes], by simp [eightBytes], by simp [eightBytes], by decide, by decide⟩

end Enc624j600
