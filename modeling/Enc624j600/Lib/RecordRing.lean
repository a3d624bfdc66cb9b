/-
# A queue of records in a cyclic region

A device stores records of varying size one after the other in a cyclic region; the reader
releases them in the same order.  `SlotFormat` says how many cells a record takes and which
cells represent it, the address of the following slot being known.  `Layout F r m a xs h`
says that the records `xs` fill the cells from `a` up to `h`.

This is the abstraction relation of a first-in first-out queue: a record appended at `h` is
appended to `xs`, dropping the slot at `a` drops the head of `xs`, and writes ahead of `h`
that stay within the free cells change nothing.
-/
import Enc624j600.Lib.Cyclic
import Mathlib.Algebra.BigOperators.Group.List.Basic

namespace Cyclic

/-- How records of type `ρ` are represented by cells. -/
structure SlotFormat (β ρ : Type) where
  /-- The number of cells of a slot. -/
  size : ρ → ℕ
  /-- The cells of a slot that holds the record, when the following slot starts at the
  given address. -/
  Fits : ℕ → ρ → List β → Prop

variable {β ρ : Type} (F : SlotFormat β ρ) (r : Region)

/-- The number of cells that a list of records takes. -/
def SlotFormat.total (xs : List ρ) : ℕ := (xs.map F.size).sum

@[simp] lemma SlotFormat.total_nil : F.total [] = 0 := rfl

@[simp] lemma SlotFormat.total_cons (x : ρ) (xs : List ρ) :
    F.total (x :: xs) = F.size x + F.total xs := by
  simp [SlotFormat.total]

@[simp] lemma SlotFormat.total_append (xs ys : List ρ) :
    F.total (xs ++ ys) = F.total xs + F.total ys := by
  simp [SlotFormat.total]

/-- The slot at `a` holds the record `x`. -/
def Slot (m : ℕ → β) (a : ℕ) (x : ρ) : Prop :=
  F.Fits (r.loc a (F.size x)) x (readFrom r.next m a (F.size x))

/-- The records `xs` fill the cells from `a` up to `h`. -/
def Layout (m : ℕ → β) : ℕ → List ρ → ℕ → Prop
  | a, [], h => a = h
  | a, x :: xs, h => Slot F r m a x ∧ Layout m (r.loc a (F.size x)) xs h

variable {F r} {m m' : ℕ → β} {a h : ℕ} {x : ρ} {xs ys : List ρ}

@[simp] lemma layout_nil_iff : Layout F r m a [] h ↔ a = h := Iff.rfl

@[simp] lemma layout_cons_iff :
    Layout F r m a (x :: xs) h ↔ Slot F r m a x ∧ Layout F r m (r.loc a (F.size x)) xs h :=
  Iff.rfl

lemma layout_append_iff :
    Layout F r m a (xs ++ ys) h ↔ ∃ b, Layout F r m a xs b ∧ Layout F r m b ys h := by
  induction xs generalizing a with
  | nil => simp
  | cons x xs ih => simp only [List.cons_append, layout_cons_iff, ih, and_assoc, exists_and_left]

lemma Slot.congr (ha : r.Has a) (hm : ∀ k < F.size x, m (r.loc a k) = m' (r.loc a k))
    (hs : Slot F r m a x) : Slot F r m' a x := by
  rw [Slot, ← Region.readFrom_congr ha hm]
  exact hs

namespace Layout

lemma head_eq (ha : r.Has a) (hl : Layout F r m a xs h) : h = r.loc a (F.total xs) := by
  induction xs generalizing a with
  | nil =>
    rw [layout_nil_iff] at hl
    rw [SlotFormat.total_nil, Region.loc_zero ha, hl]
  | cons x xs ih =>
    rw [ih Region.has_loc hl.2, Region.loc_loc, SlotFormat.total_cons]

lemma has_head (ha : r.Has a) (hl : Layout F r m a xs h) : r.Has h := by
  rw [hl.head_eq ha]
  exact Region.has_loc

lemma congr (ha : r.Has a) (hm : ∀ k < F.total xs, m (r.loc a k) = m' (r.loc a k))
    (hl : Layout F r m a xs h) : Layout F r m' a xs h := by
  induction xs generalizing a with
  | nil => exact hl
  | cons x xs ih =>
    rw [SlotFormat.total_cons] at hm
    refine ⟨hl.1.congr ha fun k hk => hm k (by omega), ih Region.has_loc ?_ hl.2⟩
    intro k hk
    simpa only [Region.loc_loc] using hm (F.size x + k) (by omega)

lemma congr_region (ha : r.Has a) (hm : ∀ y, r.Has y → m y = m' y)
    (hl : Layout F r m a xs h) : Layout F r m' a xs h :=
  hl.congr ha fun _ _ => hm _ Region.has_loc

/-- A write that starts at the head and stays within the free cells. -/
lemma write (ha : r.Has a) (hl : Layout F r m a xs h) (bs : List β)
    (hfree : F.total xs + bs.length ≤ r.size) :
    Layout F r (writeTo r.next m h bs) a xs h := by
  refine hl.congr ha ?_
  intro k hk
  rw [Region.writeTo_apply_of_ne (hl.has_head ha)]
  intro j hj he
  rw [hl.head_eq ha, Region.loc_loc] at he
  have := Region.loc_inj (by omega) (by omega) he
  omega

lemma snoc (hl : Layout F r m a xs h) (hs : Slot F r m h x) :
    Layout F r m a (xs ++ [x]) (r.loc h (F.size x)) :=
  layout_append_iff.2 ⟨h, hl, hs, rfl⟩

end Layout

/-- Addresses that differ from an aligned one by aligned offsets are aligned. -/
lemma Region.dvd_loc {d k : ℕ} (hb : d ∣ r.base) (hn : d ∣ r.size) (ha : d ∣ a) (hk : d ∣ k) :
    d ∣ r.loc a k := by
  have : d ∣ a - r.base + k := Nat.dvd_add (Nat.dvd_sub ha hb) hk
  exact Nat.dvd_add hb ((Nat.dvd_mod_iff hn).2 this)

lemma SlotFormat.dvd_total {d : ℕ} (hd : ∀ x, d ∣ F.size x) : d ∣ F.total xs := by
  induction xs with
  | nil => simp
  | cons x xs ih => simpa using Nat.dvd_add (hd x) ih

end Cyclic
