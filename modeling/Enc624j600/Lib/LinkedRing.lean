/-
# Doubly linked rings

Nodes that are linked in both directions, and the rings they form: a ring runs from a marker
through a list of nodes back to the marker.  A node is inserted between two neighbours and removed
from between them; the nodes that are not neighbours of the change keep their links.
-/
import Mathlib.Data.List.Chain
import Mathlib.Order.Lattice

namespace LinkedRing

variable {α : Type*} {next previous next' previous' : α → α} {e x : α} {xs ys : List α}

/-- The nodes `a` and `b` point at each other. -/
def Joined (next previous : α → α) (a b : α) : Prop :=
  next a = b ∧ previous b = a

/-- The ring that runs from the marker `e` through the nodes `xs` and back. -/
def Ring (next previous : α → α) (e : α) (xs : List α) : Prop :=
  List.IsChain (Joined next previous) (e :: (xs ++ [e]))

/-- The node in front of the place behind the nodes `xs`. -/
def lastOf (e : α) (xs : List α) : α := xs.getLast?.getD e

/-- The node behind the place in front of the nodes `ys`. -/
def firstOf (e : α) (ys : List α) : α := ys.head?.getD e

@[simp] lemma lastOf_nil (e : α) : lastOf e [] = e := rfl

@[simp] lemma lastOf_cons (e x : α) (xs : List α) : lastOf e (x :: xs) = lastOf x xs := by
  simp [lastOf, List.getLast?_cons]

@[simp] lemma lastOf_concat (e x : α) (xs : List α) : lastOf e (xs ++ [x]) = x := by
  simp [lastOf]

@[simp] lemma firstOf_nil (e : α) : firstOf e [] = e := rfl

@[simp] lemma firstOf_cons (e y : α) (ys : List α) : firstOf e (y :: ys) = y := rfl

lemma lastOf_mem (e : α) (xs : List α) : lastOf e xs ∈ e :: xs := by
  rcases List.eq_nil_or_concat xs with rfl | ⟨zs, z, rfl⟩
  · simp
  · simp

lemma firstOf_mem (e : α) (ys : List α) : firstOf e ys ∈ e :: ys := by
  cases ys with
  | nil => simp
  | cons y ys => simp

lemma head?_append_marker (e : α) (ys : List α) : (ys ++ [e]).head? = some (firstOf e ys) := by
  cases ys with
  | nil => rfl
  | cons y ys => rfl

lemma getLast?_marker_cons (e : α) (xs : List α) : (e :: xs).getLast? = some (lastOf e xs) := by
  simp [List.getLast?_cons, lastOf]

/-! ### Chains of links -/

/-- A chain depends on the links forward of all its nodes but the last and on the links back of
all but the first. -/
lemma chain_congr {l : List α} (h : List.IsChain (Joined next previous) l)
    (hn : ∀ a ∈ l.dropLast, next' a = next a) (hp : ∀ b ∈ l.tail, previous' b = previous b) :
    List.IsChain (Joined next' previous') l := by
  induction h with
  | nil => exact .nil
  | singleton a => exact .singleton a
  | @cons_cons a b l hab hl ih =>
    refine .cons_cons ?_ (ih ?_ ?_)
    · refine ⟨?_, ?_⟩
      · rw [hn a (by simp)]
        exact hab.1
      · rw [hp b (by simp)]
        exact hab.2
    · intro z hz
      exact hn z (by simp [hz])
    · intro z hz
      exact hp z (by simp_all)

/-- A ring, cut open at one place. -/
lemma ring_append_iff :
    Ring next previous e (xs ++ ys) ↔
      List.IsChain (Joined next previous) (e :: xs) ∧
        List.IsChain (Joined next previous) (ys ++ [e]) ∧
        Joined next previous (lastOf e xs) (firstOf e ys) := by
  have hcut : e :: ((xs ++ ys) ++ [e]) = (e :: xs) ++ (ys ++ [e]) := by simp
  rw [Ring, hcut, List.isChain_append, head?_append_marker, getLast?_marker_cons]
  simp

lemma ring_nil_iff : Ring next previous e [] ↔ next e = e ∧ previous e = e := by
  simp [Ring, Joined]

lemma Ring.joined (h : Ring next previous e (xs ++ ys)) :
    Joined next previous (lastOf e xs) (firstOf e ys) :=
  (ring_append_iff.mp h).2.2

lemma Ring.next_marker (h : Ring next previous e xs) : next e = firstOf e xs := by
  have h' : Ring next previous e ([] ++ xs) := h
  exact h'.joined.1

lemma Ring.previous_marker (h : Ring next previous e xs) : previous e = lastOf e xs := by
  have h' : Ring next previous e (xs ++ []) := by rwa [List.append_nil]
  exact h'.joined.2

/-- A node of a ring and its neighbours. -/
lemma Ring.joined_node (h : Ring next previous e (xs ++ x :: ys)) :
    previous x = lastOf e xs ∧ next x = firstOf e ys := by
  have h' : Ring next previous e ((xs ++ [x]) ++ ys) := by simpa using h
  have hj := h'.joined.1
  rw [lastOf_concat] at hj
  exact ⟨h.joined.2, hj⟩

/-- The links forward stay on the ring. -/
lemma Ring.next_mem (h : Ring next previous e xs) {a : α} (ha : a ∈ e :: xs) :
    next a ∈ e :: xs := by
  rcases List.mem_cons.mp ha with rfl | hmem
  · rw [h.next_marker]
    exact firstOf_mem a xs
  · obtain ⟨ys, zs, rfl⟩ := List.append_of_mem hmem
    rw [h.joined_node.2]
    have hfirst := firstOf_mem e zs
    simp only [List.mem_cons, List.mem_append] at hfirst ⊢
    tauto

/-! ### Changes of a ring -/

/-- A ring does not see changes of other nodes. -/
lemma Ring.congr (h : Ring next previous e xs) (hn : ∀ a ∈ e :: xs, next' a = next a)
    (hp : ∀ a ∈ e :: xs, previous' a = previous a) : Ring next' previous' e xs := by
  refine chain_congr h ?_ ?_
  · intro a ha
    have hcut : (e :: (xs ++ [e])).dropLast = e :: xs := by
      rw [← List.cons_append, List.dropLast_concat]
    rw [hcut] at ha
    exact hn a ha
  · intro a ha
    exact hp a (by simp_all [or_comm])

private lemma mem_dropLast_ne_last {l : List α} {a : α} (hl : (e :: l).Nodup)
    (ha : a ∈ (e :: l).dropLast) : a ∈ e :: l ∧ a ≠ lastOf e l := by
  refine ⟨List.dropLast_subset _ ha, ?_⟩
  rintro rfl
  have hsplit : (e :: l).dropLast ++ [lastOf e l] = e :: l :=
    List.dropLast_append_getLast? _ (getLast?_marker_cons e l)
  rw [← hsplit, List.nodup_append] at hl
  exact hl.2.2 _ ha _ (by simp) rfl

/-- The links inside the part in front of a place do not change when only the link forward of its
last node does. -/
private lemma chain_front (h : List.IsChain (Joined next previous) (e :: xs))
    (hnodup : (e :: (xs ++ ys)).Nodup)
    (hn : ∀ z ∈ e :: (xs ++ ys), z ≠ lastOf e xs → next' z = next z)
    (hp : ∀ z ∈ e :: (xs ++ ys), z ≠ firstOf e ys → previous' z = previous z) :
    List.IsChain (Joined next' previous') (e :: xs) := by
  have hxs : (e :: xs).Nodup := hnodup.sublist (by simp)
  refine chain_congr h ?_ ?_
  · intro a ha
    obtain ⟨hmem, hne⟩ := mem_dropLast_ne_last hxs ha
    exact hn a (by simp_all; tauto) hne
  · intro b hb
    have hb' : b ∈ xs := by simpa using hb
    refine hp b (by simp [hb']) ?_
    rintro rfl
    rcases List.mem_cons.mp (firstOf_mem e ys) with he | hys
    · simp_all
    · simp only [List.nodup_cons, List.nodup_append] at hnodup
      exact hnodup.2.2.2 _ hb' _ hys rfl

/-- The links inside the part behind a place do not change when only the link back of its first
node does. -/
private lemma chain_back (h : List.IsChain (Joined next previous) (ys ++ [e]))
    (hnodup : (e :: (xs ++ ys)).Nodup)
    (hn : ∀ z ∈ e :: (xs ++ ys), z ≠ lastOf e xs → next' z = next z)
    (hp : ∀ z ∈ e :: (xs ++ ys), z ≠ firstOf e ys → previous' z = previous z) :
    List.IsChain (Joined next' previous') (ys ++ [e]) := by
  simp only [List.nodup_cons, List.nodup_append, List.mem_append, not_or] at hnodup
  refine chain_congr h ?_ ?_
  · intro a ha
    have ha' : a ∈ ys := by simpa using ha
    refine hn a (by simp [ha']) ?_
    rintro rfl
    rcases List.mem_cons.mp (lastOf_mem e xs) with he | hxs
    · rw [he] at ha'
      exact hnodup.1.2 ha'
    · exact hnodup.2.2.2 _ hxs _ ha' rfl
  · intro b hb
    cases ys with
    | nil => simp at hb
    | cons y ys =>
      have hb' : b ∈ ys ∨ b = e := by simpa using hb
      refine hp b (by simp; tauto) ?_
      rintro rfl
      rcases hb' with hmem | he
      · simp_all
      · simp_all

/-- A node is inserted between two neighbours. -/
theorem Ring.insert (h : Ring next previous e (xs ++ ys)) (hnodup : (e :: (xs ++ ys)).Nodup)
    (hfront : Joined next' previous' (lastOf e xs) x)
    (hback : Joined next' previous' x (firstOf e ys))
    (hn : ∀ z ∈ e :: (xs ++ ys), z ≠ lastOf e xs → next' z = next z)
    (hp : ∀ z ∈ e :: (xs ++ ys), z ≠ firstOf e ys → previous' z = previous z) :
    Ring next' previous' e (xs ++ x :: ys) := by
  obtain ⟨h₁, h₂, -⟩ := ring_append_iff.mp h
  rw [ring_append_iff]
  refine ⟨chain_front h₁ hnodup hn hp, ?_, by simpa using hfront⟩
  rw [List.cons_append, List.isChain_cons, head?_append_marker]
  refine ⟨?_, chain_back h₂ hnodup hn hp⟩
  intro y hy
  obtain rfl : firstOf e ys = y := by simpa using hy
  exact hback

/-- A node is removed from between its neighbours. -/
theorem Ring.remove (h : Ring next previous e (xs ++ x :: ys))
    (hnodup : (e :: (xs ++ x :: ys)).Nodup)
    (hjoined : Joined next' previous' (lastOf e xs) (firstOf e ys))
    (hn : ∀ z ∈ e :: (xs ++ ys), z ≠ lastOf e xs → next' z = next z)
    (hp : ∀ z ∈ e :: (xs ++ ys), z ≠ firstOf e ys → previous' z = previous z) :
    Ring next' previous' e (xs ++ ys) := by
  have hnodup' : (e :: (xs ++ ys)).Nodup := hnodup.sublist (by simp)
  obtain ⟨h₁, h₂, -⟩ := ring_append_iff.mp h
  rw [List.cons_append, List.isChain_cons] at h₂
  rw [ring_append_iff]
  exact ⟨chain_front h₁ hnodup' hn hp, chain_back h₂.2 hnodup' hn hp, hjoined⟩

/-! ### Walking along a ring -/

/-- Walk on while the node ahead satisfies a predicate; `none` when the fuel runs out. -/
def walk (next : α → α) (p : α → Bool) : ℕ → α → Option α
  | 0, _ => none
  | fuel + 1, a => if p (next a) then walk next p fuel (next a) else some a

/-- The walk stops behind the leading nodes that satisfy the predicate, at the latest in front of
the marker. -/
lemma walk_chain {p : α → Bool} (he : p e = false) {fuel : ℕ} {a : α}
    (h : List.IsChain (Joined next previous) (a :: (xs ++ [e]))) (hfuel : xs.length < fuel) :
    walk next p fuel a = some (lastOf a (xs.takeWhile p)) := by
  induction xs generalizing a fuel with
  | nil =>
    obtain ⟨fuel, rfl⟩ : ∃ n, fuel = n + 1 := ⟨fuel - 1, by simp at hfuel; omega⟩
    have hnext : next a = e := by simpa [Joined] using (List.isChain_cons_cons.mp h).1.1
    simp [walk, hnext, he]
  | cons x xs ih =>
    obtain ⟨fuel, rfl⟩ : ∃ n, fuel = n + 1 := ⟨fuel - 1, by simp at hfuel; omega⟩
    rw [List.cons_append, List.isChain_cons_cons] at h
    have hnext : next a = x := h.1.1
    rw [walk, hnext]
    by_cases hx : p x = true
    · rw [if_pos hx, ih h.2 (by simp at hfuel; omega), List.takeWhile_cons_of_pos hx, lastOf_cons]
    · rw [if_neg hx, List.takeWhile_cons_of_neg hx]
      rfl

lemma Ring.walk {p : α → Bool} (h : Ring next previous e xs) (he : p e = false) {fuel : ℕ}
    (hfuel : xs.length < fuel) :
    LinkedRing.walk next p fuel e = some (lastOf e (xs.takeWhile p)) :=
  walk_chain he h hfuel

/-! ### Insertion into a list -/

/-- Insert a node behind the leading nodes that satisfy a predicate. -/
def insertWhile (p : α → Bool) (x : α) (xs : List α) : List α :=
  xs.takeWhile p ++ x :: xs.dropWhile p

lemma insertWhile_perm (p : α → Bool) (x : α) (xs : List α) :
    List.Perm (insertWhile p x xs) (x :: xs) := by
  have h : List.Perm (xs.takeWhile p ++ x :: xs.dropWhile p)
      (x :: (xs.takeWhile p ++ xs.dropWhile p)) := List.perm_middle
  rwa [List.takeWhile_append_dropWhile] at h

@[simp] lemma mem_insertWhile {p : α → Bool} {y : α} :
    y ∈ insertWhile p x xs ↔ y = x ∨ y ∈ xs := by
  rw [(insertWhile_perm p x xs).mem_iff, List.mem_cons]

/-- An insertion by value keeps a list sorted, and puts the node behind those of the same value. -/
lemma sorted_insertWhile {β : Type*} [LinearOrder β] {value : α → β} {p : α → Bool}
    (hp : ∀ a, p a = true ↔ value a ≤ value x) (h : xs.Pairwise fun a b => value a ≤ value b) :
    (insertWhile p x xs).Pairwise fun a b => value a ≤ value b := by
  induction xs with
  | nil => simp [insertWhile]
  | cons y ys ih =>
    rw [List.pairwise_cons] at h
    by_cases hy : p y = true
    · have hstep : insertWhile p x (y :: ys) = y :: insertWhile p x ys := by
        simp [insertWhile, hy]
      rw [hstep, List.pairwise_cons]
      refine ⟨?_, ih h.2⟩
      intro z hz
      rcases mem_insertWhile.mp hz with rfl | hz
      · exact (hp y).mp hy
      · exact h.1 z hz
    · have hstep : insertWhile p x (y :: ys) = x :: y :: ys := by
        simp [insertWhile, hy]
      have hxy : value x ≤ value y := le_of_not_ge (mt (hp y).mpr hy)
      rw [hstep, List.pairwise_cons, List.pairwise_cons]
      refine ⟨?_, h⟩
      intro z hz
      rcases List.mem_cons.mp hz with rfl | hz
      · exact hxy
      · exact hxy.trans (h.1 z hz)

end LinkedRing
