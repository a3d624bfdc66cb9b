/-
# Sessions

A session is a number of programs run one after the other by the same party, while the
surroundings may act at any time.  Its history holds every finished call with the states
before and after it.  `Inside` is a session in the middle of a further call.
-/
import Enc624j600.Lib.RelyGuarantee

namespace Interaction

variable {Op : Type} {Res : Op → Type} {W : Type} {α ι : Type}

/-- A call that has returned. -/
structure Call (Op : Type) (Res : Op → Type) (W ι α : Type) where
  program : ι
  before : W
  trace : List (Event Op Res)
  answer : α
  after : W

/-- The calls `h`, one after the other, lead from `w` to `v`. -/
inductive Session (M : Machine Op Res W) (R : W → W → Prop) (p : ι → Prog Op Res α) (w : W) :
    List (Call Op Res W ι α) → W → Prop where
  | start : Session M R p w [] w
  | env {h : List (Call Op Res W ι α)} {v v' : W} : Session M R p w h v → R v v' →
      Session M R p w h v'
  | call {h : List (Call Op Res W ι α)} {c : Call Op Res W ι α} : Session M R p w h c.before →
      Returns M R (p c.program) c.before c.trace c.answer c.after →
      Session M R p w (h ++ [c]) c.after

/-- After the calls `h`, a call of `p i` is under way: it has performed `t` and has `q` left. -/
def Inside (M : Machine Op Res W) (R : W → W → Prop) (p : ι → Prog Op Res α) (w : W)
    (h : List (Call Op Res W ι α)) (i : ι) (t : List (Event Op Res)) (q : Prog Op Res α)
    (v : W) : Prop :=
  ∃ u, Session M R p w h u ∧ Reach M R (p i) u t q v

variable {M : Machine Op Res W} {R : W → W → Prop} {p : ι → Prog Op Res α} {w v : W}
  {h : List (Call Op Res W ι α)}

namespace Session

lemma drift (hs : Session M R p w h v) {v' : W} (hd : Drift R v v') : Session M R p w h v' := by
  induction hd with
  | refl => exact hs
  | tail _ hR ih => exact ih.env hR

lemma mono {R' : W → W → Prop} (hR : ∀ u u', R u u' → R' u u') (hs : Session M R p w h v) :
    Session M R' p w h v := by
  induction hs with
  | start => exact .start
  | env _ h ih => exact ih.env (hR _ _ h)
  | call _ hr ih => exact ih.call (hr.mono hR)

/-- Before the first call only the surroundings act. -/
lemma drift_of_nil (hs : Session M R p w [] v) : Drift R w v := by
  generalize hh : ([] : List (Call Op Res W ι α)) = h at hs
  induction hs with
  | start => exact .refl
  | env _ hR ih => exact (ih hh).tail hR
  | call _ _ _ => exact absurd hh (by simp)

/-- Every call of the history is a run of its program. -/
lemma returns (hs : Session M R p w h v) {c : Call Op Res W ι α} (hc : c ∈ h) :
    Returns M R (p c.program) c.before c.trace c.answer c.after := by
  induction hs with
  | start => simp at hc
  | env _ _ ih => exact ih hc
  | call _ hr ih =>
    rcases List.mem_append.1 hc with hc | hc
    · exact ih hc
    · rw [List.mem_singleton.1 hc]
      exact hr

/-- What every call keeps, the surroundings keeping it as well. -/
lemma invariant {J : List (Call Op Res W ι α) → W → Prop} (hs : Session M R p w h v)
    (h0 : J [] w) (hst : ∀ h, Stable R (J h))
    (hc : ∀ h c, J h c.before → Returns M R (p c.program) c.before c.trace c.answer c.after →
      J (h ++ [c]) c.after) : J h v := by
  induction hs with
  | start => exact h0
  | env _ hR ih => exact hst _ _ _ ih hR
  | call _ hr ih => exact hc _ _ ih hr

end Session

/-- What holds in every state of a run, its surroundings included: `J` may speak of the
operations performed so far, and each operation keeps it by the guarantee. -/
lemma Triple.always {G : Guarantee Op Res W} {P : W → Prop} {p q : Prog Op Res α}
    {Q : α → W → Prop} {J : List (Event Op Res) → W → Prop} {t : List (Event Op Res)}
    (ht : Triple M R G P p Q) (hw : P w) (h0 : J [] w) (hst : ∀ t, Stable R (J t))
    (hop : ∀ t u o r u', J t u → M.step u o r u' → G u o r u' → J (t ++ [⟨o, r⟩]) u')
    (hr : Reach M R p w t q v) : J t v := by
  induction hr with
  | refl => exact h0
  | tail hr hs ih =>
    cases hs with
    | env h => simpa using hst _ _ _ ih h
    | op h => exact hop _ _ _ _ _ ih h ((ht w hw _ _ _ hr).2 _ _ _ _ rfl h)
    | unroll => simpa using ih

end Interaction
