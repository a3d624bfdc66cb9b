/-
# Cyclic regions of a byte memory

A memory is a function from addresses to cells.  A device reads and writes it through a
pointer that advances after every access; `readFrom` and `writeTo` are such runs of accesses
for an arbitrary successor function of the pointer.  In a cyclic region the successor of the
last address is the first one: `Region.next`.  The addresses passed from `a` on are then
`r.loc a 0, r.loc a 1, …`, they are pairwise distinct for a whole lap, and what was written
over at most one lap is read back.
-/
import Mathlib.Logic.Function.Basic
import Mathlib.Logic.Function.Iterate
import Mathlib.Data.List.Basic
import Mathlib.Data.Nat.ModEq
import Mathlib.Tactic.Ring

namespace Cyclic

variable {β : Type}

/-! ### Runs of accesses through an advancing pointer -/

/-- Read `n` cells, starting at `a`. -/
def readFrom (next : ℕ → ℕ) (m : ℕ → β) : ℕ → ℕ → List β
  | _, 0 => []
  | a, n + 1 => m a :: readFrom next m (next a) n

/-- Write a list of cells, starting at `a`. -/
def writeTo (next : ℕ → ℕ) : (ℕ → β) → ℕ → List β → ℕ → β
  | m, _, [] => m
  | m, a, b :: bs => writeTo next (Function.update m a b) (next a) bs

section Runs

variable {next : ℕ → ℕ} {m m' : ℕ → β}

@[simp] lemma readFrom_zero (a : ℕ) : readFrom next m a 0 = [] := rfl

lemma readFrom_succ (a n : ℕ) :
    readFrom next m a (n + 1) = m a :: readFrom next m (next a) n := rfl

@[simp] lemma length_readFrom (a n : ℕ) : (readFrom next m a n).length = n := by
  induction n generalizing a with
  | zero => rfl
  | succ n ih => simp [readFrom_succ, ih]

lemma readFrom_add (a k n : ℕ) :
    readFrom next m a (k + n) = readFrom next m a k ++ readFrom next m (next^[k] a) n := by
  induction k generalizing a with
  | zero => simp
  | succ k ih =>
    rw [show k + 1 + n = (k + n) + 1 by ring, readFrom_succ, readFrom_succ, ih,
      Function.iterate_succ_apply, List.cons_append]

lemma getElem_readFrom {a k n : ℕ} (hk : k < n) :
    (readFrom next m a n)[k]? = some (m (next^[k] a)) := by
  induction n generalizing a k with
  | zero => omega
  | succ n ih =>
    cases k with
    | zero => rfl
    | succ k => simpa [readFrom_succ] using ih (by omega)

lemma readFrom_congr {a n : ℕ} (h : ∀ k < n, m (next^[k] a) = m' (next^[k] a)) :
    readFrom next m a n = readFrom next m' a n := by
  induction n generalizing a with
  | zero => rfl
  | succ n ih =>
    rw [readFrom_succ, readFrom_succ, ih fun k hk => by simpa using h (k + 1) (by omega)]
    exact congrArg₂ _ (h 0 (by omega)) rfl

@[simp] lemma writeTo_nil (a : ℕ) : writeTo next m a [] = m := rfl

lemma writeTo_cons (a : ℕ) (b : β) (bs : List β) :
    writeTo next m a (b :: bs) = writeTo next (Function.update m a b) (next a) bs := rfl

lemma writeTo_append (a : ℕ) (bs cs : List β) :
    writeTo next m a (bs ++ cs) =
      writeTo next (writeTo next m a bs) (next^[bs.length] a) cs := by
  induction bs generalizing m a with
  | nil => rfl
  | cons b bs ih =>
    rw [List.cons_append, writeTo_cons, writeTo_cons, ih, List.length_cons,
      Function.iterate_succ_apply]

/-- An address that the pointer does not pass is left alone. -/
lemma writeTo_apply_of_ne {a x : ℕ} {bs : List β} (h : ∀ k < bs.length, next^[k] a ≠ x) :
    writeTo next m a bs x = m x := by
  induction bs generalizing m a with
  | nil => rfl
  | cons b bs ih =>
    have hx : a ≠ x := h 0 (by simp)
    rw [writeTo_cons, ih fun k hk => by simpa using h (k + 1) (by simpa using hk),
      Function.update_of_ne hx.symm]

/-- What an address holds after a write depends only on what it held before. -/
lemma writeTo_apply_congr {a x : ℕ} {bs : List β} (h : m x = m' x) :
    writeTo next m a bs x = writeTo next m' a bs x := by
  induction bs generalizing m m' a with
  | nil => exact h
  | cons b bs ih =>
    refine ih ?_
    rw [Function.update_apply, Function.update_apply, h]

/-- A run of accesses that meets no address twice reads back what it wrote. -/
lemma readFrom_writeTo {a : ℕ} {bs : List β}
    (h : ∀ i < bs.length, ∀ j < bs.length, next^[i] a = next^[j] a → i = j) :
    readFrom next (writeTo next m a bs) a bs.length = bs := by
  induction bs generalizing m a with
  | nil => rfl
  | cons b bs ih =>
    rw [List.length_cons, readFrom_succ, writeTo_cons, ih]
    · congr 1
      rw [writeTo_apply_of_ne, Function.update_self]
      intro k hk he
      have := h (k + 1) (by simpa using hk) 0 (by simp) (by simpa using he)
      omega
    · intro i hi j hj he
      have := h (i + 1) (by simpa using hi) (j + 1) (by simpa using hj) (by simpa using he)
      omega

end Runs

/-! ### Cyclic regions -/

/-- The addresses `base, …, base + size - 1`, in cyclic order. -/
structure Region where
  base : ℕ
  size : ℕ
  size_pos : 0 < size

namespace Region

variable (r : Region)

/-- The region contains the address. -/
def Has (a : ℕ) : Prop := r.base ≤ a ∧ a < r.base + r.size

/-- The address after `a`. -/
def next (a : ℕ) : ℕ := if a + 1 = r.base + r.size then r.base else a + 1

/-- The `k`-th address after `a`. -/
def loc (a k : ℕ) : ℕ := r.base + (a - r.base + k) % r.size

variable {r} {a b i j k : ℕ}

lemma has_base : r.Has r.base := ⟨le_rfl, Nat.lt_add_of_pos_right r.size_pos⟩

lemma has_loc : r.Has (r.loc a k) :=
  ⟨Nat.le_add_right _ _, Nat.add_lt_add_left (Nat.mod_lt _ r.size_pos) _⟩

lemma has_next (h : r.Has a) : r.Has (r.next a) := by
  obtain ⟨h1, h2⟩ := h
  have := r.size_pos
  unfold next Has
  split <;> omega

lemma loc_zero (h : r.Has a) : r.loc a 0 = a := by
  obtain ⟨h1, h2⟩ := h
  rw [loc, Nat.add_zero, Nat.mod_eq_of_lt (by omega)]
  omega

lemma loc_loc (a j k : ℕ) : r.loc (r.loc a j) k = r.loc a (j + k) := by
  simp only [loc, Nat.add_sub_cancel_left, Nat.mod_add_mod, Nat.add_assoc]

lemma loc_of_lt (ha : r.base ≤ a) (h : a + k < r.base + r.size) : r.loc a k = a + k := by
  rw [loc, Nat.mod_eq_of_lt (by omega)]
  omega

lemma loc_of_ge (ha : r.base ≤ a) (h : r.base + r.size ≤ a + k)
    (h' : a + k < r.base + 2 * r.size) : r.loc a k = a + k - r.size := by
  rw [loc, Nat.mod_eq_sub_mod (by omega), Nat.mod_eq_of_lt (by omega)]
  omega

lemma loc_one (h : r.Has a) : r.loc a 1 = r.next a := by
  obtain ⟨h1, h2⟩ := h
  unfold next
  split
  · rw [loc_of_ge h1 (by omega) (by omega)]
    omega
  · rw [loc_of_lt h1 (by omega)]

lemma iterate_next (h : r.Has a) (k : ℕ) : r.next^[k] a = r.loc a k := by
  induction k generalizing a with
  | zero => exact (loc_zero h).symm
  | succ k ih =>
    rw [Function.iterate_succ_apply, ih (has_next h), ← loc_one h, loc_loc, Nat.add_comm]

/-- Less than a lap leads to distinct addresses. -/
lemma loc_inj (hi : i < r.size) (hj : j < r.size) (h : r.loc a i = r.loc a j) : i = j := by
  have hm : (a - r.base + i) % r.size = (a - r.base + j) % r.size := by
    simpa [loc] using h
  have hij : i % r.size = j % r.size := Nat.ModEq.add_left_cancel' (a - r.base) hm
  rwa [Nat.mod_eq_of_lt hi, Nat.mod_eq_of_lt hj] at hij

/-! ### Reading and writing in a region -/

variable {m m' : ℕ → β} {bs : List β} {n : ℕ}

lemma readFrom_congr (ha : r.Has a) (h : ∀ k < n, m (r.loc a k) = m' (r.loc a k)) :
    readFrom r.next m a n = readFrom r.next m' a n :=
  Cyclic.readFrom_congr fun k hk => by rw [iterate_next ha]; exact h k hk

lemma readFrom_add (ha : r.Has a) (k n : ℕ) :
    readFrom r.next m a (k + n) = readFrom r.next m a k ++ readFrom r.next m (r.loc a k) n := by
  rw [Cyclic.readFrom_add, iterate_next ha]

/-- A piece of a run that was read. -/
lemma readFrom_loc {N j : ℕ} (ha : r.Has a) (h : readFrom r.next m a N = bs) (hj : j + n ≤ N) :
    readFrom r.next m (r.loc a j) n = (bs.drop j).take n := by
  obtain ⟨d, rfl⟩ := Nat.exists_eq_add_of_le hj
  rw [Nat.add_assoc, readFrom_add ha, readFrom_add has_loc] at h
  rw [← h, List.drop_left' (length_readFrom _ _), List.take_left' (length_readFrom _ _)]

lemma writeTo_append (ha : r.Has a) (bs cs : List β) :
    writeTo r.next m a (bs ++ cs) =
      writeTo r.next (writeTo r.next m a bs) (r.loc a bs.length) cs := by
  rw [Cyclic.writeTo_append, iterate_next ha]

lemma writeTo_apply_of_ne (ha : r.Has a) {x : ℕ} (h : ∀ k < bs.length, r.loc a k ≠ x) :
    writeTo r.next m a bs x = m x :=
  Cyclic.writeTo_apply_of_ne fun k hk => by rw [iterate_next ha]; exact h k hk

/-- A write leaves the memory outside the region alone. -/
lemma writeTo_apply_of_not_has (ha : r.Has a) {x : ℕ} (hx : ¬ r.Has x) :
    writeTo r.next m a bs x = m x :=
  writeTo_apply_of_ne ha fun _ _ he => hx (he ▸ has_loc)

lemma readFrom_writeTo (ha : r.Has a) (bs : List β) (hn : bs.length ≤ r.size) :
    readFrom r.next (writeTo r.next m a bs) a bs.length = bs := by
  refine Cyclic.readFrom_writeTo ?_
  intro i hi j hj he
  rw [iterate_next ha, iterate_next ha] at he
  exact loc_inj (by omega) (by omega) he

/-- Reading at most one lap gives the same cells as long as the region is unchanged. -/
lemma readFrom_congr_region (ha : r.Has a) (h : ∀ x, r.Has x → m x = m' x) :
    readFrom r.next m a n = readFrom r.next m' a n :=
  readFrom_congr ha fun _ _ => h _ has_loc

end Region

end Cyclic
