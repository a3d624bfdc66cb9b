/-
# The status of an earlier frame

In half duplex a call takes `DEFER` in `ETXSTAT` for a peer's flow control.  `ETXSTAT` shows how
the last transmission ended, and nothing but the end of another transmission changes it: after a
frame that was sent with `DEFER` set, no call starts a transmission any more.
-/
import Enc624j600.Transmit.Run

namespace Enc624j600

open Interaction

section Runs

variable {E : Surroundings} {config : Config} {w₀ w v : World} {τ : TxView}
  {h : List (DriverCall Request TransmitResult)}

/-- What is known about the calls of a half-duplex run. -/
structure Judged (c : DriverCall Request TransmitResult) : Prop where
  not_transmitting : ¬ c.before.chip.Transmitting
  starts_iff : c.program.Valid → (Starts c.trace ↔ c.before.chip.sfr ETXSTAT &&& DEFER = 0#16)

lemma Running.judged (hr : Running E config transmitRequest w₀ h v)
    (hd : v.duplexMode = .halfDuplex) : ∀ c ∈ h, Judged c := by
  refine (hr.invariant (J := fun h v => (∃ τ, TxIdle False τ v.duplexMode v) ∧
    (v.duplexMode = .halfDuplex → ∀ c ∈ h, Judged c)) ?_ ?_ ?_).2 hd
  · intro t w hp hi
    exact ⟨⟨_, exists_txIdle ⟨t, hi⟩ hp⟩, fun _ c hc => absurd hc (by simp)⟩
  · rintro h w w' ⟨⟨τ, hτ⟩, hj⟩ hR
    have h' := txEnv_anything hR
    rw [h'.duplexMode]
    exact ⟨⟨τ, stable_txIdle w w' hτ h'⟩, hj⟩
  · rintro h c ⟨⟨τ, hτ⟩, hj⟩ hc
    obtain ⟨τ', -, h'⟩ := (triple_request.rely fun _ _ => txEnv_anything).returns hτ hc
    rw [h'.duplexMode]
    refine ⟨⟨τ', h'⟩, fun hd c' hc' => ?_⟩
    rcases List.mem_append.1 hc' with hc' | hc'
    · exact hj hd c' hc'
    · rw [List.mem_singleton.1 hc']
      rw [hd] at hτ
      exact ⟨hτ.not_transmitting, fun hv => hτ.starts_iff hv hc⟩

/-- **When half-duplex transmission is not blocked.** In a run of transmit calls in half duplex
every call is made with `TXRTS` clear, and all the calls with valid arguments set it if and only
if each of them is made with `DEFER` clear in `ETXSTAT`. -/
theorem deferred_transmission (hr : Running E config transmitRequest w₀ h v)
    (hd : v.duplexMode = .halfDuplex) :
    (∀ c ∈ h, ¬ c.before.chip.Transmitting) ∧
      ((∀ c ∈ h, c.program.Valid → Starts c.trace) ↔
        ∀ c ∈ h, c.program.Valid → c.before.chip.sfr ETXSTAT &&& DEFER = 0#16) := by
  have hj := hr.judged hd
  refine ⟨fun c hc => (hj c hc).not_transmitting, fun hs c hc hv => ?_, fun hs c hc hv => ?_⟩
  · exact ((hj c hc).starts_iff hv).1 (hs c hc hv)
  · exact ((hj c hc).starts_iff hv).2 (hs c hc hv)

/-- Three calls, none of them after a deferred transmission. -/
theorem deferred_transmission_clear : ∃ h v,
    Running (undeferred fun _ _ => True) plainConfig transmitRequest powered h v ∧
      h.map (·.program) = List.replicate 3 eightBytes ∧ ∀ c ∈ h, Starts c.trace := by
  obtain ⟨w, hrun, hb⟩ := exists_running (E := undeferred fun _ _ => True) (fun _ _ => Or.inl)
    transmitRequest
  have hvalid : ∀ r ∈ List.replicate 3 eightBytes, r.Valid := by
    intro r hr
    rw [List.eq_of_mem_replicate hr]
    exact eightBytes_valid
  obtain ⟨h, v, hv, hd, hmap, hall⟩ := exists_all_started
    (fun _ => ⟨⟨0#16, 0#16, 0#16, none⟩, BitVec.zero_and, trivial⟩) hrun hb.duplexMode
    hb.not_deferred hvalid
  refine ⟨h, v, hv, hmap, fun c hc => ?_⟩
  have hprog : c.program.Valid := hvalid _ (hmap ▸ List.mem_map_of_mem hc)
  exact (deferred_transmission hv hd).2.2 (fun d hd _ => (hall d hd).2) c hc hprog

/-- The state that a deferred transmission leaves. -/
structure Blocked (w : World) : Prop where
  idle : ∃ τ, TxIdle False τ .halfDuplex w
  defer : w.chip.sfr ETXSTAT &&& DEFER ≠ 0#16

lemma stable_blocked : Stable E.rely Blocked := by
  intro w w' h hR
  obtain ⟨τ, hτ⟩ := h.idle
  have hd := h.defer
  have hτ' := stable_txIdle w w' hτ (txEnv_anything hR)
  exact ⟨⟨τ, hτ'⟩, by rwa [hτ'.agrees.etxstat, ← hτ.agrees.etxstat]⟩

/-- A valid call in such a state is refused, and changes nothing. -/
lemma Blocked.refused {r : Request} {t : List (Event Op Op.Res)} {a : TransmitResult}
    (h : Blocked w) (hr : r.Valid) (hc : Returns machine E.rely (transmitRequest r) w t a v) :
    a = .encFlowControlActive ∧ ¬ Starts t := by
  obtain ⟨τ, hτ⟩ := h.idle
  have hn : ¬ Starts t := fun hs => h.defer ((hτ.starts_iff hr hc).1 hs)
  rcases hr.outcome hc with ho | ⟨-, hs, -⟩
  · exact ho
  · exact absurd hs hn

lemma Blocked.call {r : Request} {t : List (Event Op Op.Res)} {a : TransmitResult}
    (h : Blocked w) (hc : Returns machine E.rely (transmitRequest r) w t a v) : Blocked v := by
  obtain ⟨τ, hτ⟩ := h.idle
  have hd := h.defer
  obtain ⟨τ', hres, hτ'⟩ := (triple_request.rely fun _ _ => txEnv_anything).returns hτ hc
  have heq : τ' = τ := by
    cases hres with
    | invalid => rfl
    | valid _ hres =>
      cases hres with
      | refused => rfl
      | sent hn =>
        rw [hτ.agrees.etxstat] at hd
        exact absurd hd (hn (Or.inr rfl))
  subst heq
  exact ⟨⟨_, hτ'⟩, by rwa [hτ'.agrees.etxstat, ← hτ.agrees.etxstat]⟩

/-- **A deferred transmission blocks all later ones.** -/
theorem blocked_forever (hb : Blocked w) (hs : Session machine E.rely transmitRequest w h v) :
    Blocked v ∧ ∀ c ∈ h, ¬ c.before.chip.Transmitting ∧
      (c.program.Valid → c.answer = .encFlowControlActive ∧ ¬ Starts c.trace) := by
  refine hs.invariant (J := fun h v => Blocked v ∧ ∀ c ∈ h, ¬ c.before.chip.Transmitting ∧
    (c.program.Valid → c.answer = .encFlowControlActive ∧ ¬ Starts c.trace)) ⟨hb, by simp⟩ ?_ ?_
  · exact fun h w w' hw hR => ⟨stable_blocked w w' hw.1 hR, hw.2⟩
  · rintro h c ⟨hb, hc⟩ hret
    refine ⟨hb.call hret, fun c' hc' => ?_⟩
    rcases List.mem_append.1 hc' with hc' | hc'
    · exact hc c' hc'
    · rw [List.mem_singleton.1 hc']
      obtain ⟨τ, hτ⟩ := hb.idle
      exact ⟨hτ.not_transmitting, fun hv => hb.refused hv hret⟩

end Runs

/-! ### A run that is blocked -/

/-- A frame that was sent although the medium was busy at first. -/
def deferred : TxOutcome := ⟨DEFER, 64#16, 0#16, some (List.replicate 64 0#8)⟩

/-- Surroundings in which the chip boots and every transmission is deferred. -/
def deferring : Surroundings := fun _ e => e.IsBoot ∨ e = .transmitted deferred

lemma txEnv_deferring {w w' : World} (hR : deferring.rely w w') :
    TxEnv False (fun _ o => o = deferred) w w' := by
  refine txEnv_of_rely (fun _ _ _ h => h) ?_ hR
  rintro c τ o - - (h | h)
  · exact absurd h id
  · simpa using h

/-- The first frame is sent, and leaves `DEFER` set. -/
lemma exists_deferred : ∃ c v, Running deferring plainConfig transmitRequest powered [c] v ∧
    v.duplexMode = .halfDuplex ∧ c.program = eightBytes ∧ c.answer = .encTransmitSucceeded ∧
      Blocked v := by
  obtain ⟨w, hrun, hb⟩ := exists_running (E := deferring) (fun _ _ => Or.inl) transmitRequest
  obtain ⟨g, estat, hi⟩ := hb.initialised
  have hτ : TxIdle False w.chip.txView .halfDuplex w := hb.duplexMode ▸ hi.txIdle
  have hstat : w.chip.sfr ETXSTAT = 0#16 := hi.collecting.etxstat
  obtain ⟨t, a, v, hc⟩ := exists_transmit (E := deferring) (fun _ _ => ⟨deferred, Or.inr rfl⟩)
    eightBytes.destinationMac eightBytes.lengthType eightBytes.data eightBytes.length
    hτ.agrees.awake
  have hcall := hrun.call (c := ⟨eightBytes, w, t, a, v⟩) hc
  obtain ⟨τ', hres, hτ'⟩ := (triple_request.rely fun _ _ => txEnv_deferring).returns hτ hc
  have hsent : a = .encTransmitSucceeded ∧ τ'.etxstat = DEFER := by
    cases hres with
    | invalid hn => exact absurd eightBytes_valid hn
    | valid _ hres =>
      cases hres with
      | refused hactive =>
        have hact : w.chip.sfr ETXSTAT &&& DEFER ≠ 0#16 := hactive (Or.inr rfl)
        exact absurd (by simp [hstat]) hact
      | sent _ ho =>
        subst ho
        have hv : verdict 8#16 .halfDuplex DEFER = .encTransmitSucceeded := by decide
        exact ⟨hv, rfl⟩
  refine ⟨_, v, hcall, hτ'.duplexMode, rfl, hsent.1, ⟨τ', hτ'⟩, ?_⟩
  rw [hτ'.agrees.etxstat, hsent.2]
  decide

/-- Calls can be made without end. -/
lemma exists_session {w : World} (hw : w.chip.Awake) (n : ℕ) :
    ∃ h v, Session machine deferring.rely transmitRequest w h v ∧ v.chip.Awake ∧
      h.length = n ∧ ∀ c ∈ h, c.program = eightBytes := by
  induction n with
  | zero => exact ⟨[], w, .start, hw, rfl, by simp⟩
  | succ n ih =>
    obtain ⟨h, v, hs, hv, hn, hp⟩ := ih
    obtain ⟨t, a, u, hc⟩ := exists_transmit (E := deferring) (fun _ _ => ⟨deferred, Or.inr rfl⟩)
      eightBytes.destinationMac eightBytes.lengthType eightBytes.data eightBytes.length hv
    refine ⟨_, u, hs.call (c := ⟨eightBytes, v, t, a, u⟩) hc,
      transmitOp_awake stable_awake (transmit_all _ _ _ _) hv hc, by simp [hn], ?_⟩
    intro c hc
    rcases List.mem_append.1 hc with hc | hc
    · exact hp c hc
    · rw [List.mem_singleton.1 hc]

/-- One deferred frame, and every later call is refused, however many there are. -/
theorem deferred_transmission_blocks : ∃ c v,
    Running deferring plainConfig transmitRequest powered [c] v ∧ v.duplexMode = .halfDuplex ∧
      c.program.Valid ∧ c.answer = .encTransmitSucceeded ∧
      ∀ n, ∃ h u, Session machine deferring.rely transmitRequest v h u ∧ h.length = n ∧
        ∀ d ∈ h, d.program.Valid ∧ ¬ d.before.chip.Transmitting ∧
          d.answer = .encFlowControlActive ∧ ¬ Starts d.trace := by
  obtain ⟨c, v, hrun, hd, hc, ha, hb⟩ := exists_deferred
  refine ⟨c, v, hrun, hd, hc ▸ eightBytes_valid, ha, fun n => ?_⟩
  obtain ⟨τ, hτ⟩ := hb.idle
  obtain ⟨h, u, hs, -, hn, hp⟩ := exists_session hτ.agrees.awake n
  refine ⟨h, u, hs, hn, fun d hdm => ?_⟩
  have hv : d.program.Valid := hp d hdm ▸ eightBytes_valid
  obtain ⟨hnt, href⟩ := (blocked_forever hb hs).2 d hdm
  exact ⟨hv, hnt, href hv⟩

end Enc624j600
