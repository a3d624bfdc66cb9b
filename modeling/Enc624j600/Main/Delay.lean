/-
# The busy wait

`enc624j600_hal_delay` takes its argument for milliseconds, although the driver asks for
microseconds.  The wait is never too short, and it is longer than one tick more than what was
asked for in all but a few cases.
-/
import Mathlib.Order.Bounds.Basic
import Enc624j600.Lib.RelyGuarantee
import Enc624j600.Source.Main
import Enc624j600.Source.Words

namespace Enc624j600

open Interaction

/-- The tick counter, `t` microseconds after the start of the scheduler. -/
def tickCountAt (t : ℕ) : TickType := BitVec.ofNat 32 (t / 1000)

/-- The clock: the state is the time in microseconds. -/
def clock : Machine ClockOp ClockOp.Res ℕ where
  step t o r t' :=
    match o with
    | .tickCount => r = tickCountAt t ∧ t' = t

/-- Time passes. -/
def timePasses (t t' : ℕ) : Prop := t ≤ t'

/-- The first instant from `entry` on at which the condition of the loop is false. -/
def IsExit (us : Byte) (entry exit : ℕ) : Prop :=
  IsLeast {t | entry ≤ t ∧ ¬ delayGoesOn us (tickCountAt entry) (tickCountAt t)} exit

variable {us : Byte} {entry t : ℕ}

/-- A tick is a millisecond. -/
lemma toNat_pdMsToTicks (us : Byte) : (pdMsToTicks (us.setWidth 64)).toNat = us.toNat := by
  have hus := us.isLt
  simp only [pdMsToTicks, BitVec.toNat_setWidth, BitVec.toNat_udiv, BitVec.toNat_mul,
    BitVec.toNat_ofNat, Nat.reducePow, Nat.reduceMod]
  rw [Nat.mod_eq_of_lt (a := us.toNat) (by omega), Nat.mod_eq_of_lt (a := us.toNat * 1000)
    (by omega), Nat.mul_div_cancel _ (by decide), Nat.mod_eq_of_lt (by omega)]

/-- Ticks are counted across the wrap-around of the counter. -/
lemma toNat_elapsed (h : entry ≤ t) : (tickCountAt t - tickCountAt entry).toNat =
    (t / 1000 - entry / 1000) % 2 ^ 32 := by
  have hle : entry / 1000 ≤ t / 1000 := Nat.div_le_div_right h
  simp only [tickCountAt, BitVec.toNat_sub, BitVec.toNat_ofNat]
  omega

lemma delayGoesOn_iff (h : entry ≤ t) : delayGoesOn us (tickCountAt entry) (tickCountAt t) ↔
    (t / 1000 - entry / 1000) % 2 ^ 32 < us.toNat := by
  rw [delayGoesOn, BitVec.lt_def, toNat_pdMsToTicks, toNat_elapsed h]

/-- The wait ends with the last of `us` further ticks. -/
lemma isExit (us : Byte) (entry : ℕ) :
    IsExit us entry (if us = 0#8 then entry else 1000 * (entry / 1000 + us.toNat)) := by
  have hus := us.isLt
  by_cases h0 : us = 0#8
  · subst h0
    rw [if_pos rfl]
    refine ⟨⟨le_rfl, ?_⟩, fun t ht => ht.1⟩
    rw [delayGoesOn_iff le_rfl]
    exact Nat.not_lt_zero _
  · rw [if_neg h0]
    have hpos : us.toNat ≠ 0 := fun h => h0 (BitVec.eq_of_toNat_eq h)
    have hle : entry ≤ 1000 * (entry / 1000 + us.toNat) := by omega
    refine ⟨⟨hle, ?_⟩, ?_⟩
    · rw [delayGoesOn_iff hle, Nat.mul_div_cancel_left _ (by decide), Nat.add_sub_cancel_left]
      omega
    · rintro t ⟨ht, hend⟩
      rw [delayGoesOn_iff ht] at hend
      -- earlier, fewer ticks have passed, and no wrap-around makes them more
      by_contra hlt
      omega

/-- The wait is never too short. -/
lemma IsExit.le {exit : ℕ} (h : IsExit us entry exit) : entry + us.toNat ≤ exit := by
  obtain rfl := h.unique (isExit us entry)
  split
  · rename_i h0
    rw [h0]
    exact le_rfl
  · rename_i h0
    have hpos : us.toNat ≠ 0 := fun h => h0 (BitVec.eq_of_toNat_eq h)
    omega

/-- An instant at which the condition of the loop was found to be false. -/
def Expired (us : Byte) (entry t : ℕ) : Prop :=
  ∃ u ≤ t, entry ≤ u ∧ ¬ delayGoesOn us (tickCountAt entry) (tickCountAt u)

/-- One turn of the loop, and all of them. -/
lemma triple_delayLoop (us : Byte) (entry : ℕ) :
    Triple clock timePasses noGuarantee (entry ≤ ·) (Prog.untilTrue do
      let now ← Prog.perform .tickCount
      return !decide (delayGoesOn us (tickCountAt entry) now)) fun _ => Expired us entry := by
  have hle : ∀ u, Stable timePasses (u ≤ ·) := fun u t t' h hR => le_trans h hR
  have hexp : Stable timePasses (Expired us entry) := by
    rintro t t' ⟨u, hu, h⟩ hR
    exact ⟨u, hu.trans hR, h⟩
  refine Triple.loop (T := fun x t => entry ≤ t ∧ (x = true → Expired us entry t)) (hle entry)
    ?_ (fun t h => h.1) ?_
  · refine Triple.op (T := fun now t => ∃ u, now = tickCountAt u ∧ entry ≤ u ∧ u ≤ t)
      (hle entry) ?_ fun now => ?_
    · rintro t now t' h ⟨hnow, rfl⟩
      exact ⟨trivial, t', hnow, h, le_rfl⟩
    · refine Triple.of_exists fun u => Triple.of_and fun hnow => ?_
      subst hnow
      refine Triple.pure ((stable_const _).and (hle u)) ?_
      rintro t ⟨hu, ht⟩
      refine ⟨hu.trans ht, fun hx => ⟨u, ht, hu, ?_⟩⟩
      simpa using hx
  · have hend : Triple clock timePasses noGuarantee (Expired us entry) (.pure ())
        fun _ : Unit => Expired us entry := Triple.pure hexp fun _ h => h
    exact hend.pre fun t h => h.2 rfl

/-- A run of the wait does not end before that instant. -/
lemma returns_halDelay {t₀ t₁ : ℕ} {s : List (Event ClockOp ClockOp.Res)}
    (h : Returns clock timePasses (enc624j600HalDelay us) t₀ s () t₁) :
    ∃ entry exit, t₀ ≤ entry ∧ IsExit us entry exit ∧ exit ≤ t₁ := by
  obtain ⟨u, ticks, u', s', hd, ⟨rfl, rfl⟩, -, hloop⟩ := returns_op_iff.1 h
  have hle : Stable timePasses (t₀ ≤ ·) := fun t t' h hR => le_trans h hR
  obtain ⟨v, hv, hu, hend⟩ := (triple_delayLoop us u').returns le_rfl hloop
  exact ⟨u', _, hle.drift le_rfl hd, isExit us u', ((isExit us u').2 ⟨hu, hend⟩).trans hv⟩

/-- A later wait does not end earlier. -/
lemma IsExit.mono {entry' exit exit' : ℕ} (h : IsExit us entry exit) (h' : IsExit us entry' exit')
    (hle : entry ≤ entry') : exit ≤ exit' := by
  obtain rfl := h.unique (isExit us entry)
  obtain rfl := h'.unique (isExit us entry')
  split
  · exact hle
  · have hdiv : entry / 1000 ≤ entry' / 1000 := Nat.div_le_div_right hle
    omega

/-- A run of the wait can end at that instant: it reads the tick counter at once, and then again
when the condition of the loop is false. -/
lemma IsExit.exists_returns {exit : ℕ} (h : IsExit us entry exit) :
    ∃ s, Returns clock timePasses (enc624j600HalDelay us) entry s () exit := by
  have hpasses : Drift timePasses entry exit := .single h.1.1
  have hturn : Returns clock timePasses (.op .tickCount fun now =>
      .pure (!decide (delayGoesOn us (tickCountAt entry) now))) exit
        [⟨.tickCount, tickCountAt exit⟩] true exit := by
    refine Returns.op ⟨rfl, rfl⟩ ?_
    rw [decide_eq_false h.1.2]
    exact .refl
  have hloop : Returns clock timePasses (Prog.untilTrue do
      let now ← Prog.perform .tickCount
      return !decide (delayGoesOn us (tickCountAt entry) now)) exit
        ([⟨.tickCount, tickCountAt exit⟩] ++ []) () exit := Returns.loop hturn .refl
  exact ⟨_, Returns.op ⟨rfl, rfl⟩ (hloop.drift_left hpasses)⟩

/-- The first instant at which the condition of the loop is false is the first one at which the
wait can return. -/
lemma IsExit.isLeast_returns {exit : ℕ} (h : IsExit us entry exit) :
    IsLeast {t | ∃ s, Returns clock timePasses (enc624j600HalDelay us) entry s () t} exit := by
  refine ⟨h.exists_returns, ?_⟩
  rintro t ⟨s, hr⟩
  obtain ⟨entry', exit', hle, h', ht⟩ := returns_halDelay hr
  exact (h.mono h' hle).trans ht

/-- **When the wait honours its contract.** The first instant at which the condition of the loop is
false exists for every argument and every time of entry, and is the first one at which the wait can
return.  It lies within one tick period after the time asked for if and only if at most one
microsecond was asked for, or two at the very end of a tick. -/
theorem delay_contract (us : Byte) (entry : ℕ) : ∃ exit, IsExit us entry exit ∧
    IsLeast {t | ∃ s, Returns clock timePasses (enc624j600HalDelay us) entry s () t} exit ∧
    ((entry + us.toNat ≤ exit ∧ exit ≤ entry + us.toNat + 1000) ↔
      us.toNat ≤ 1 ∨ us.toNat = 2 ∧ 998 ≤ entry % 1000) := by
  refine ⟨_, isExit us entry, (isExit us entry).isLeast_returns, ?_⟩
  have hle := (isExit us entry).le
  by_cases h0 : us = 0#8
  · simp [h0]
  · have hpos : us.toNat ≠ 0 := fun h => h0 (BitVec.eq_of_toNat_eq h)
    rw [if_neg h0] at hle ⊢
    omega

/-- The wait of 30 microseconds, as in `read_phy_sfr`, takes 30 milliseconds. -/
theorem delay_too_long : IsExit 30#8 0 30000 ∧ ¬ 30000 ≤ 0 + (30#8).toNat + 1000 :=
  ⟨isExit 30#8 0, by decide⟩

end Enc624j600
