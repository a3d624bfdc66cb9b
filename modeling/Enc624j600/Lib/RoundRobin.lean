/-
# Round robin

A circle of members that take turns.  It is cut open at a marker and has a hand that points at the
member whose turn it is, or at the marker: the members up to the hand have had their turn since the
hand last passed the marker, the others have not.  New members come in just in front of the hand,
so that it gets to them last; when the member at the hand leaves, the hand moves back by one.
-/
import Mathlib.Data.List.TakeWhile
import Enc624j600.Lib.LinkedRing

namespace RoundRobin

open LinkedRing

variable {α : Type*}

/-- The members from the marker to the hand, and those behind the hand. -/
structure Round (α : Type*) where
  visited : List α
  waiting : List α

namespace Round

variable {r : Round α} {x y : α} {n : ℕ}

/-- The members, in the order from the marker. -/
def items (r : Round α) : List α := r.visited ++ r.waiting

/-- The member at the hand. -/
def current (r : Round α) : Option α := r.visited.getLast?

/-- The hand goes on to the next member. -/
def advance : Round α → Round α
  | ⟨us, v :: vs⟩ => ⟨us ++ [v], vs⟩
  | ⟨[], []⟩ => ⟨[], []⟩
  | ⟨u :: us, []⟩ => ⟨[u], us⟩

/-- A member comes in in front of the hand. -/
def insertEnd (x : α) (r : Round α) : Round α :=
  match r.visited.getLast? with
  | none => ⟨[], r.waiting ++ [x]⟩
  | some u => ⟨r.visited.dropLast ++ [x, u], r.waiting⟩

/-- A member comes in behind the leading members that satisfy a predicate. -/
def insertWhile (p : α → Bool) (x : α) (r : Round α) : Round α :=
  if r.visited.all p then ⟨r.visited, LinkedRing.insertWhile p x r.waiting⟩
  else ⟨LinkedRing.insertWhile p x r.visited, r.waiting⟩

variable [DecidableEq α]

/-- A member leaves. -/
def erase (x : α) (r : Round α) : Round α := ⟨r.visited.erase x, r.waiting.erase x⟩

/-! ### The members -/

omit [DecidableEq α] in
@[simp] lemma items_advance (r : Round α) : r.advance.items = r.items := by
  rcases r with ⟨us, _ | ⟨v, vs⟩⟩
  · rcases us with _ | ⟨u, us⟩
    · rfl
    · simp [advance, items]
  · simp [advance, items]

omit [DecidableEq α] in
lemma insertEnd_nil (x : α) (vs : List α) :
    insertEnd x ⟨[], vs⟩ = ⟨[], vs ++ [x]⟩ := rfl

omit [DecidableEq α] in
lemma insertEnd_concat (x u : α) (us vs : List α) :
    insertEnd x ⟨us ++ [u], vs⟩ = ⟨us ++ [x, u], vs⟩ := by
  simp [insertEnd]

omit [DecidableEq α] in
/-- The place in front of the hand, found by a walk from the marker. -/
lemma items_insertEnd {p : α → Bool} (hp : ∀ y, p y = true ↔ r.current ≠ some y)
    (hnodup : r.items.Nodup) (x : α) :
    (r.insertEnd x).items = LinkedRing.insertWhile p x r.items := by
  rcases r with ⟨us, vs⟩
  rcases List.eq_nil_or_concat' us with rfl | ⟨us, u, rfl⟩
  · have hall : ∀ y ∈ vs, p y = true := fun y _ => (hp y).mpr (by simp [current])
    have htake : vs.takeWhile p = vs := List.takeWhile_eq_self_iff.mpr hall
    have hdrop : vs.dropWhile p = [] := List.dropWhile_eq_nil_iff.mpr hall
    simp [insertEnd_nil, items, LinkedRing.insertWhile, htake, hdrop]
  · have hall : ∀ y ∈ us, p y = true := by
      intro y hy
      rw [hp]
      intro he
      obtain rfl : u = y := by simpa [current] using he
      rw [items, List.nodup_append, List.nodup_append] at hnodup
      exact hnodup.1.2.2 u hy u List.mem_cons_self rfl
    have hu : ¬ p u = true := by simp [hp, current]
    rw [insertEnd_concat]
    simp only [items, List.append_assoc, List.cons_append, List.nil_append,
      LinkedRing.insertWhile]
    rw [List.takeWhile_append_of_pos hall, List.dropWhile_append_of_pos hall,
      List.takeWhile_cons_of_neg hu, List.dropWhile_cons_of_neg hu, List.append_nil]

omit [DecidableEq α] in
@[simp] lemma mem_insertEnd : y ∈ (r.insertEnd x).items ↔ y = x ∨ y ∈ r.items := by
  rcases r with ⟨us, vs⟩
  rcases List.eq_nil_or_concat' us with rfl | ⟨us, u, rfl⟩
  · simp [insertEnd_nil, items, or_comm]
  · simp only [insertEnd_concat, items, List.mem_append, List.mem_cons, List.not_mem_nil, or_false]
    tauto

omit [DecidableEq α] in
lemma items_insertWhile (p : α → Bool) (x : α) (r : Round α) :
    (r.insertWhile p x).items = LinkedRing.insertWhile p x r.items := by
  rcases r with ⟨us, vs⟩
  simp only [insertWhile, items]
  split_ifs with hall
  · have hall' : ∀ y ∈ us, p y = true := by simpa using hall
    simp only [LinkedRing.insertWhile]
    rw [List.takeWhile_append_of_pos hall', List.dropWhile_append_of_pos hall',
      List.append_assoc]
  · obtain ⟨y, hy, hpy⟩ : ∃ y ∈ us, ¬ p y = true := by simpa using hall
    have hdrop : us.dropWhile p ≠ [] := by
      intro he
      exact hpy (List.dropWhile_eq_nil_iff.mp he y hy)
    have htake : (us.takeWhile p).length ≠ us.length := by
      intro he
      have hcut := congrArg List.length (List.takeWhile_append_dropWhile (p := p) (l := us))
      rw [List.length_append, he] at hcut
      exact hdrop (List.length_eq_zero_iff.mp (by omega))
    rw [LinkedRing.insertWhile, LinkedRing.insertWhile, List.takeWhile_append, if_neg htake,
      List.dropWhile_append, if_neg (by simpa using hdrop)]
    simp

omit [DecidableEq α] in
lemma current_insertWhile (p : α → Bool) (x : α) (r : Round α) :
    (r.insertWhile p x).current = r.current := by
  rcases r with ⟨us, vs⟩
  rw [insertWhile]
  split_ifs with hall
  · rfl
  · obtain ⟨y, hy, hpy⟩ : ∃ y ∈ us, ¬ p y = true := by simpa using hall
    have hdrop : us.dropWhile p ≠ [] := by
      intro he
      exact hpy (List.dropWhile_eq_nil_iff.mp he y hy)
    obtain ⟨z, zs, hz⟩ := List.exists_cons_of_ne_nil hdrop
    have hus : us = us.takeWhile p ++ z :: zs := by
      rw [← hz, List.takeWhile_append_dropWhile]
    rw [current, current, LinkedRing.insertWhile, hz]
    conv_rhs => rw [hus]
    simp [List.getLast?_append, List.getLast?_cons]

lemma items_erase (hnodup : r.items.Nodup) (x : α) : (r.erase x).items = r.items.erase x := by
  rcases r with ⟨us, vs⟩
  rw [items, List.nodup_append] at hnodup
  simp only [erase, items, List.erase_append]
  split_ifs with hx
  · have hvs : x ∉ vs := fun hv => hnodup.2.2 x hx x hv rfl
    rw [List.erase_of_not_mem hvs]
  · rw [List.erase_of_not_mem hx]

/-- When another member leaves, the hand stays where it is. -/
lemma current_erase (h : r.current ≠ some x) : (r.erase x).current = r.current := by
  rcases r with ⟨us, vs⟩
  rcases List.eq_nil_or_concat' us with rfl | ⟨us, u, rfl⟩
  · rfl
  · have hu : ¬ (u == x) = true := by simpa [current] using h
    simp only [erase, current, List.erase_append]
    split_ifs
    · simp
    · rw [List.erase_cons_tail hu]
      simp

/-! ### How often a member is passed over -/

/-- How often the hand can go on without getting to a member: when the hand is in front of it, the
members in between; otherwise those between the hand and the marker, and then up to `n` others. -/
def passes (n : ℕ) (r : Round α) (x : α) : ℕ :=
  if x ∈ r.visited then r.waiting.length + n else r.waiting.idxOf x

lemma passes_le (hx : x ∈ r.items) (hlen : r.items.length ≤ n + 1) : r.passes n x ≤ 2 * n := by
  rw [items, List.length_append] at hlen
  rw [passes]
  split_ifs with hmem
  · have hpos := List.length_pos_of_mem hmem
    omega
  · have hwaiting : x ∈ r.waiting := (List.mem_append.mp hx).resolve_left hmem
    have hlt := List.idxOf_lt_length_of_mem hwaiting
    omega

lemma passes_insertEnd (hx : x ∈ r.items) (hne : y ≠ x) :
    (r.insertEnd y).passes n x = r.passes n x := by
  rcases r with ⟨us, vs⟩
  rcases List.eq_nil_or_concat' us with rfl | ⟨us, u, rfl⟩
  · have hvs : x ∈ vs := by simpa [items] using hx
    simp [insertEnd_nil, passes, List.idxOf_append_of_mem hvs]
  · have hmem : x ∈ us ++ [y, u] ↔ x ∈ us ++ [u] := by simp [hne.symm]
    simp only [insertEnd_concat, passes, hmem]

lemma idxOf_erase_le {xs : List α} (hne : y ≠ x) : (xs.erase y).idxOf x ≤ xs.idxOf x := by
  induction xs with
  | nil => exact le_rfl
  | cons z zs ih =>
    by_cases hz : z = y
    · subst hz
      rw [List.erase_cons_head, List.idxOf_cons_ne _ hne]
      exact Nat.le_succ _
    · rw [List.erase_cons_tail (by simpa using hz)]
      by_cases hx : z = x
      · rw [List.idxOf_cons_eq _ hx, List.idxOf_cons_eq _ hx]
      · rw [List.idxOf_cons_ne _ hx, List.idxOf_cons_ne _ hx]
        exact Nat.succ_le_succ ih

lemma passes_erase (hne : y ≠ x) : (r.erase y).passes n x ≤ r.passes n x := by
  have hmem : x ∈ r.visited.erase y ↔ x ∈ r.visited := List.mem_erase_of_ne hne.symm
  simp only [passes, erase, hmem]
  split_ifs with hx
  · exact Nat.add_le_add_right (List.length_erase_le) n
  · exact idxOf_erase_le hne

/-- A turn goes to the member or brings its own nearer. -/
lemma passes_advance (hx : x ∈ r.items)
    (hlen : r.items.length ≤ n + 1) :
    r.advance.current = some x ∨ r.advance.passes n x < r.passes n x := by
  rcases r with ⟨us, _ | ⟨v, vs⟩⟩
  · rcases us with _ | ⟨u, us⟩
    · exact absurd hx (by simp [items])
    · -- the hand passes the marker
      by_cases hu : u = x
      · left
        simp [advance, current, hu]
      · right
        have hus : x ∈ us := by
          simp only [items, List.append_nil, List.mem_cons] at hx
          exact hx.resolve_left fun he => hu he.symm
        have hlt := List.idxOf_lt_length_of_mem hus
        simp only [items, List.append_nil, List.length_cons] at hlen
        have hx' : ¬ (x = u ∨ x ∈ []) := by
          rintro (he | he)
          · exact hu he.symm
          · cases he
        simp only [advance, passes, List.mem_cons, hx', if_false, hus, or_true, if_true,
          List.length_nil]
        omega
  · by_cases hv : v = x
    · left
      simp [advance, current, hv]
    · right
      by_cases hus : x ∈ us
      · simp [advance, passes, hus]
      · simp [advance, passes, hus, Ne.symm hv, List.idxOf_cons_ne _ hv]

end Round

end RoundRobin
