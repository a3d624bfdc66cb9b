/-
# The nearest value of a falling sequence

A clock divider offers a falling sequence of rates.  Of two neighbours with the wanted rate
between them, the nearer one is the nearest rate of all.
-/
import Mathlib.Data.Nat.Dist
import Mathlib.Order.Monotone.Basic

namespace Nearest

variable {r : ℕ → ℕ} {f k : ℕ}

/-- No value of `r` is nearer to `f` than the one at `k`. -/
def IsNearest (r : ℕ → ℕ) (f k : ℕ) : Prop := ∀ j, Nat.dist (r k) f ≤ Nat.dist (r j) f

/-- A value on the far side of the neighbour above is further away. -/
lemma dist_above (hr : Antitone r) (hk : f ≤ r k) {j : ℕ} (hj : j ≤ k) :
    Nat.dist (r k) f ≤ Nat.dist (r j) f := by
  have hle := hr hj
  rw [Nat.dist_eq_sub_of_le_right hk, Nat.dist_eq_sub_of_le_right (hk.trans hle)]
  exact Nat.sub_le_sub_right hle f

lemma dist_below (hr : Antitone r) (hk : r k ≤ f) {j : ℕ} (hj : k ≤ j) :
    Nat.dist (r k) f ≤ Nat.dist (r j) f := by
  have hle := hr hj
  rw [Nat.dist_eq_sub_of_le hk, Nat.dist_eq_sub_of_le (hle.trans hk)]
  exact Nat.sub_le_sub_left hle f

/-- The nearer one of two neighbours is the nearest value. -/
theorem isNearest_of_neighbours (hr : Antitone r) (hk : f ≤ r k) (hk' : r (k + 1) ≤ f) :
    IsNearest r f (if r k - f > f - r (k + 1) then k + 1 else k) := by
  have habove : Nat.dist (r k) f = r k - f := Nat.dist_eq_sub_of_le_right hk
  have hbelow : Nat.dist (r (k + 1)) f = f - r (k + 1) := Nat.dist_eq_sub_of_le hk'
  intro j
  split
  · rename_i hgt
    rcases Nat.lt_or_ge k j with hj | hj
    · exact dist_below hr hk' hj
    · have := dist_above hr hk hj
      omega
  · rename_i hgt
    rcases Nat.lt_or_ge k j with hj | hj
    · have := dist_below hr hk' hj
      omega
    · exact dist_above hr hk hj

end Nearest
