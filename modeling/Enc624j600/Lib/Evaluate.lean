/-
# Evaluating a run

A program is run to its end by a function, on a machine whose operations have one outcome and
in surroundings that act in a fixed way before every operation.  The function is given a bound
on the number of steps; when it answers, the run that it computed is a run of the program.
-/
import Enc624j600.Lib.Steps
import Mathlib.Data.Nat.Notation

namespace Interaction

variable {Op : Type} {Res : Op → Type} {W : Type} {α : Type}

/-- Run `p` from `w`: before every operation the surroundings do what `act` says. -/
def Prog.evaluate (perform : W → (o : Op) → Res o × W) (act : W → W) :
    ℕ → {α : Type} → Prog Op Res α → W → Option (α × W)
  | 0, _, _, _ => none
  | _ + 1, _, .pure a, w => some (a, w)
  | n + 1, _, .op o k, w =>
    let (r, w') := perform (act w) o
    (k r).evaluate perform act n w'
  | n + 1, _, .loop b k, w =>
    match b.evaluate perform act n w with
    | none => none
    | some (true, w') => k.evaluate perform act n w'
    | some (false, w') => (Prog.loop b k).evaluate perform act n w'

variable {M : Machine Op Res W} {R : W → W → Prop} {perform : W → (o : Op) → Res o × W}
  {act : W → W}

/-- What was evaluated is a run. -/
lemma Prog.evaluate_sound (hM : ∀ w o, M.step w o (perform w o).1 (perform w o).2)
    (hR : ∀ w, Drift R w (act w)) {n : ℕ} {p : Prog Op Res α} {w v : W} {a : α}
    (h : p.evaluate perform act n w = some (a, v)) : ∃ t, Returns M R p w t a v := by
  induction n generalizing α p w v a with
  | zero => simp [Prog.evaluate] at h
  | succ n ih =>
    cases p with
    | pure b =>
      obtain ⟨rfl, rfl⟩ : b = a ∧ w = v := by simpa [Prog.evaluate] using h
      exact ⟨[], Reach.refl⟩
    | op o k =>
      obtain ⟨t, ht⟩ := ih (h : (k _).evaluate perform act n _ = _)
      exact ⟨_, Returns.drift_left (hR w) (ht.op (hM _ _))⟩
    | loop b k =>
      -- the fuel goes down with every turn, so `ih` applies to the rest of the loop
      rw [Prog.evaluate] at h
      cases hb : b.evaluate perform act n w with
      | none => simp [hb] at h
      | some r =>
        obtain ⟨x, w'⟩ := r
        obtain ⟨t, ht⟩ := ih hb
        cases x with
        | true =>
          obtain ⟨t', ht'⟩ := ih (p := k) (w := w') (v := v) (a := a) (by simpa [hb] using h)
          exact ⟨_, ht.loop ht'⟩
        | false =>
          obtain ⟨t', ht'⟩ := ih (p := .loop b k) (w := w') (v := v) (a := a)
            (by simpa [hb] using h)
          exact ⟨_, ht.loop ht'⟩

end Interaction
