/-
# The turns of the items

The index of a list goes round: `listGET_OWNER_OF_NEXT_ENTRY` moves it on, and `vListInsertEnd`
inserts in front of it.  Each list of the memory is a round, with the index as its hand.
-/
import Enc624j600.Lib.RoundRobin
import Enc624j600.Kernel.Lists

namespace Enc624j600.Rtos.ListMem

open LinkedRing RoundRobin

variable {L I : Type} {m m' : ListMem L I} {c : L → List I} {R : L → Round I} {l l' : L} {x y : I}
variable {n j k : ℕ}

/-- The lists of the memory are the rounds `R`. -/
structure Rounds (m : ListMem L I) (R : L → Round I) : Prop where
  holds : m.Holds fun l => (R l).items
  index : ∀ l, m.pxIndex l = lastOf (.listEnd l) (nodes (R l).visited)

lemma lastOf_nodes_eq_item {us : List I} :
    lastOf (.listEnd l) (nodes us) = ListItem.item (L := L) x ↔ us.getLast? = some x := by
  rcases List.eq_nil_or_concat' us with rfl | ⟨us, u, rfl⟩
  · simp
  · simp

lemma lastOf_nodes_congr {us vs : List I} (h : us.getLast? = vs.getLast?) :
    lastOf (ListItem.listEnd l) (nodes us) = lastOf (.listEnd l) (nodes vs) := by
  simp only [lastOf, nodes, List.getLast?_map, h]

lemma Rounds.index_eq_item (h : m.Rounds R) :
    m.pxIndex l = .item x ↔ (R l).current = some x := by
  rw [h.index, lastOf_nodes_eq_item]
  rfl

/-- Every memory of lists is one of rounds. -/
lemma Holds.exists_rounds (h : m.Holds c) : ∃ R, m.Rounds R ∧ ∀ l, (R l).items = c l := by
  have hround : ∀ l, ∃ r : Round I, r.items = c l ∧
      m.pxIndex l = lastOf (.listEnd l) (nodes r.visited) := by
    intro l
    rcases List.mem_cons.mp (h.contains l).index with he | hmem
    · exact ⟨⟨[], c l⟩, rfl, he⟩
    · obtain ⟨y, hy, he⟩ := List.mem_map.mp hmem
      obtain ⟨us, vs, hc⟩ := List.append_of_mem hy
      refine ⟨⟨us ++ [y], vs⟩, by simp [Round.items, hc], ?_⟩
      rw [← he, eq_comm, lastOf_nodes_eq_item, List.getLast?_concat]
  choose R hitems hindex using hround
  refine ⟨R, ⟨?_, hindex⟩, hitems⟩
  rwa [show (fun l => (R l).items) = c from funext hitems]

variable [DecidableEq L] [DecidableEq I]

omit [DecidableEq I] in
lemma items_update (R : L → Round I) (l : L) (r : Round I) :
    (fun l' => (Function.update R l r l').items) =
      Function.update (fun l' => (R l').items) l r.items := by
  funext l'
  by_cases hl : l' = l
  · subst hl
    simp
  · simp [hl]

/-! ### The functions -/

lemma Rounds.vListInsertEnd (h : m.Rounds R) (hx : m.pxContainer x = none) (l : L) :
    (m.vListInsertEnd l x).Rounds (Function.update R l ((R l).insertEnd x)) := by
  have hp : ∀ y, m.beforeIndex l y = true ↔ (R l).current ≠ some y := by
    intro y
    rw [beforeIndex, decide_eq_true_iff, ne_comm, ne_eq, h.index_eq_item]
  refine ⟨?_, ?_⟩
  · rw [items_update, Round.items_insertEnd hp (h.holds.nodup l)]
    exact holds_vListInsertEnd h.holds hx l
  · intro l'
    show m.pxIndex l' = _
    rw [h.index]
    by_cases hl : l' = l
    · subst hl
      rw [Function.update_self]
      apply lastOf_nodes_congr
      rw [Round.insertEnd]
      split
      · assumption
      · simp_all
    · rw [Function.update_of_ne hl]

lemma Rounds.vListInsert (h : m.Rounds R) (hx : m.pxContainer x = none) (l : L) :
    ∃ m', m.vListInsert l x = some m' ∧
      m'.Rounds (Function.update R l ((R l).insertWhile (m.notBehind x) x)) ∧
      Moved m m' x (some l) := by
  obtain ⟨m', hm', hlinked⟩ := linked_vListInsert (h.holds.contains l) (h.holds.not_mem hx l)
  refine ⟨m', hm', ⟨?_, ?_⟩, hlinked.value, hlinked.container⟩
  · rw [items_update, Round.items_insertWhile]
    exact hlinked.holds h.holds (List.takeWhile_append_dropWhile).symm hx
  · intro l'
    rw [hlinked.index, h.index]
    by_cases hl : l' = l
    · subst hl
      rw [Function.update_self]
      exact lastOf_nodes_congr (Round.current_insertWhile _ _ _).symm
    · rw [Function.update_of_ne hl]

lemma Rounds.uxListRemove (h : m.Rounds R) (hx : x ∈ (R l).items) :
    ∃ m', m.uxListRemove x = some (m', ((R l).erase x).items.length) ∧
      m'.Rounds (Function.update R l ((R l).erase x)) ∧ Moved m m' x none := by
  obtain ⟨xs, ys, -, hc, herase⟩ := List.exists_erase_eq hx
  have hcontains := hc ▸ h.holds.contains l
  have hm := unlinked_removeFrom hcontains
  have hitems : ((R l).erase x).items = xs ++ ys :=
    (Round.items_erase (h.holds.nodup l) x).trans herase
  refine ⟨m.removeFrom l x, ?_, ⟨?_, ?_⟩, hm.value, hm.container⟩
  · rw [ListMem.uxListRemove, (h.holds.container l x).mpr hx, hitems,
      ← (hm.contains hcontains).count]
    rfl
  · rw [items_update, hitems]
    exact hm.holds h.holds hc
  · intro l'
    rw [hm.index]
    by_cases hl : l' = l
    · subst hl
      rw [Function.update_self, Function.update_self]
      split_ifs with hindex
      · -- the hand moves back to the item in front
        rw [h.index_eq_item] at hindex
        obtain ⟨us, hus⟩ := List.getLast?_eq_some_iff.mp hindex
        have hnodup := h.holds.nodup l'
        have hsplit : us ++ x :: (R l').waiting = xs ++ x :: ys := by
          rw [← hc, Round.items, hus]
          simp
        rw [Round.items, hus, List.nodup_append, List.nodup_append] at hnodup
        have hnot : x ∉ us := fun hmem => hnodup.1.2.2 x hmem x List.mem_cons_self rfl
        have hnot' : x ∉ (R l').waiting :=
          fun hmem => hnodup.2.2 x (List.mem_append_right us List.mem_cons_self) x hmem rfl
        obtain ⟨rfl, -⟩ := (List.append_cons_inj_of_notMem hnot hnot').mp hsplit
        rw [Round.erase, hus, List.erase_append_right _ hnot]
        simp
      · rw [h.index]
        rw [h.index_eq_item] at hindex
        exact lastOf_nodes_congr (Round.current_erase hindex).symm
    · rw [Function.update_of_ne hl, Function.update_of_ne hl, h.index]

lemma Rounds.listAdvanceIndex (h : m.Rounds R) (hne : (R l).items ≠ []) :
    (m.listAdvanceIndex l).Rounds (Function.update R l (R l).advance) := by
  have hself : ∀ a, (m.setIndex l a).pxIndex l = a := fun a => Function.update_self ..
  have hother : ∀ l', l' ≠ l → (m.listAdvanceIndex l).pxIndex l' = m.pxIndex l' := by
    intro l' hl
    simp only [ListMem.listAdvanceIndex]
    split_ifs
    · exact (Function.update_of_ne hl _ _).trans (Function.update_of_ne hl _ _)
    · exact Function.update_of_ne hl _ _
  refine ⟨?_, ?_⟩
  · rw [items_update, Round.items_advance, Function.update_eq_self]
    exact (holds_listAdvanceIndex h.holds hne).1
  · intro l'
    by_cases hl : l' = l
    · subst hl
      rw [Function.update_self]
      have hring := h.holds.ring l'
      have hindex := h.index l'
      cases hr : R l' with
      | mk us vs =>
        rw [hr] at hring hindex hne
        simp only [Round.items, nodes, List.map_append] at hring
        have hnext := hring.joined.1
        cases vs with
        | cons v vs =>
          have hv : m.pxNext (m.pxIndex l') = .item v := by
            rw [hindex]
            exact hnext
          simp [ListMem.listAdvanceIndex, hself, hv, Round.advance, nodes]
        | nil =>
          cases us with
          | nil => exact absurd rfl hne
          | cons u us =>
            have he : m.pxNext (m.pxIndex l') = .listEnd l' := by
              rw [hindex]
              exact hnext
            have hfirst : m.pxNext (.listEnd l') = .item u := by
              rw [hring.next_marker]
              rfl
            simp only [ListMem.listAdvanceIndex, hself, he, if_true]
            show (ListMem.setIndex _ _ _).pxIndex l' = _
            simp [setIndex, setIndex, Round.advance, hfirst]
    · rw [Function.update_of_ne hl, hother l' hl, h.index]

lemma Rounds.setItemValue (h : m.Rounds R) (x : I) (v : TickType) :
    (m.setItemValue (.item x) v).Rounds R :=
  ⟨holds_setItemValue h.holds x v, h.index⟩

/-! ### Waiting for the turn -/

/-- The item `x` of the list `l` is passed over at most `j` times before its turn, when at most `n`
other items are ever in the list with it. -/
def Waits (m : ListMem L I) (l : L) (x : I) (n j : ℕ) : Prop :=
  ∃ R, m.Rounds R ∧ x ∈ (R l).items ∧ (R l).passes n x ≤ j

namespace Waits

omit [DecidableEq L] in
lemma container (h : m.Waits l x n j) : m.pxContainer x = some l := by
  obtain ⟨R, hR, hx, -⟩ := h
  exact (hR.holds.container l x).mpr hx

/-- An item that comes in does not come in in front. -/
lemma vListInsertEnd (h : m.Waits l x n j) (hy : m.pxContainer y = none) (l' : L) :
    (m.vListInsertEnd l' y).Waits l x n j := by
  have hne : y ≠ x := by
    rintro rfl
    exact absurd (hy.symm.trans h.container) (by simp)
  obtain ⟨R, hR, hx, hj⟩ := h
  refine ⟨_, hR.vListInsertEnd hy l', ?_⟩
  by_cases hl : l = l'
  · subst hl
    rw [Function.update_self, Round.passes_insertEnd hx hne]
    exact ⟨Round.mem_insertEnd.mpr (.inr hx), hj⟩
  · rw [Function.update_of_ne hl]
    exact ⟨hx, hj⟩

/-- An item that leaves does not hold up the others. -/
lemma uxListRemove (h : m.Waits l x n j) (hm : m.uxListRemove y = some (m', k)) (hne : y ≠ x) :
    m'.Waits l x n j := by
  obtain ⟨R, hR, hx, hj⟩ := h
  obtain ⟨l', hl', -⟩ := Option.bind_eq_some_iff.mp hm
  obtain ⟨m'', hm'', hR', -⟩ := hR.uxListRemove ((hR.holds.container l' y).mp hl')
  obtain rfl : m'' = m' := congrArg Prod.fst (Option.some.inj (hm''.symm.trans hm))
  refine ⟨_, hR', ?_⟩
  by_cases hl : l = l'
  · subst hl
    rw [Function.update_self, Round.items_erase (hR.holds.nodup l)]
    exact ⟨(List.mem_erase_of_ne hne.symm).mpr hx, (Round.passes_erase hne).trans hj⟩
  · rw [Function.update_of_ne hl]
    exact ⟨hx, hj⟩

lemma vListInsert (h : m.Waits l x n j) (hy : m.pxContainer y = none)
    (hm : m.vListInsert l' y = some m') (hl : l ≠ l') : m'.Waits l x n j := by
  obtain ⟨R, hR, hx, hj⟩ := h
  obtain ⟨m'', hm'', hR', -⟩ := hR.vListInsert hy l'
  obtain rfl : m'' = m' := Option.some.inj (hm''.symm.trans hm)
  refine ⟨_, hR', ?_⟩
  rw [Function.update_of_ne hl]
  exact ⟨hx, hj⟩

lemma setItemValue (h : m.Waits l x n j) (y : I) (v : TickType) :
    (m.setItemValue (.item y) v).Waits l x n j := by
  obtain ⟨R, hR, hx, hj⟩ := h
  exact ⟨R, hR.setItemValue y v, hx, hj⟩

/-- The index moves on in the list of the item: to it, or past another. -/
lemma listAdvanceIndex (h : m.Waits l x n j) (hlen : m.uxNumberOfItems l ≤ n + 1) :
    (m.listAdvanceIndex l).pxIndex l = .item x ∨
      ∃ i, i < j ∧ (m.listAdvanceIndex l).Waits l x n i := by
  obtain ⟨R, hR, hx, hj⟩ := h
  have hR' := hR.listAdvanceIndex (List.ne_nil_of_mem hx)
  rw [(hR.holds.contains l).count] at hlen
  rcases Round.passes_advance hx hlen with hcurrent | hlt
  · left
    rw [hR'.index_eq_item, Function.update_self, hcurrent]
  · right
    refine ⟨_, hlt.trans_le hj, _, hR', ?_⟩
    rw [Function.update_self, Round.items_advance]
    exact ⟨hx, le_rfl⟩

/-- The index of another list moves on. -/
lemma listAdvanceIndex_of_ne (h : m.Waits l x n j) (hl : l ≠ l')
    (hne : m.uxNumberOfItems l' > 0) : (m.listAdvanceIndex l').Waits l x n j := by
  obtain ⟨R, hR, hx, hj⟩ := h
  rw [(hR.holds.contains l').count] at hne
  refine ⟨_, hR.listAdvanceIndex (List.length_pos_iff.mp hne), ?_⟩
  rw [Function.update_of_ne hl]
  exact ⟨hx, hj⟩

end Waits

omit [DecidableEq L] in
lemma Holds.waits (h : m.Holds c) (hx : x ∈ c l) (hlen : (c l).length ≤ n + 1) :
    m.Waits l x n (2 * n) := by
  obtain ⟨R, hR, hitems⟩ := h.exists_rounds
  rw [← hitems] at hx hlen
  exact ⟨R, hR, hx, Round.passes_le hx hlen⟩

end Enc624j600.Rtos.ListMem
