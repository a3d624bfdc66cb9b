/-
# What the lists hold

Each list of the memory is a ring through its items, and each item is in at most one list, the one
that it names as its container.  Every function of `list.c` keeps this and does to the lists of
items what its name says.
-/
import Mathlib.Data.List.Nodup
import Mathlib.Data.List.TakeWhile
import Enc624j600.Source.Lists

namespace Enc624j600.Rtos

open LinkedRing

lemma le_portMaxDelay (v : TickType) : v ≤ portMaxDelay := by
  have hlt := v.isLt
  rw [BitVec.le_def]
  simp
  omega

lemma portMaxDelay_le_iff {v : TickType} : portMaxDelay ≤ v ↔ v = portMaxDelay := by
  constructor
  · intro hle
    exact BitVec.le_antisymm (le_portMaxDelay v) hle
  · rintro rfl
    exact le_portMaxDelay _

namespace ListMem

variable {L I : Type}
variable {m m' : ListMem L I} {c : L → List I} {l l' : L} {x y : I} {xs ys : List I}

/-- The items of a list as nodes of its ring. -/
abbrev nodes (xs : List I) : List (ListItem L I) := xs.map .item

/-- A list of the memory that consists of the items `xs`, in this order. -/
structure Contains (m : ListMem L I) (l : L) (xs : List I) : Prop where
  ring : LinkedRing.Ring m.pxNext m.pxPrevious (.listEnd l) (nodes xs)
  nodup : xs.Nodup
  index : m.pxIndex l ∈ .listEnd l :: nodes xs
  count : m.uxNumberOfItems l = xs.length
  endValue : m.xItemValue (.listEnd l) = portMaxDelay

/-- The lists of the memory consist of the items that `c` gives them. -/
structure Holds (m : ListMem L I) (c : L → List I) : Prop where
  contains : ∀ l, m.Contains l (c l)
  container : ∀ l x, m.pxContainer x = some l ↔ x ∈ c l

namespace Holds

lemma disjoint (h : m.Holds c) (hl : x ∈ c l) (hl' : x ∈ c l') : l = l' := by
  have h₁ := (h.container l x).mpr hl
  rw [(h.container l' x).mpr hl'] at h₁
  exact (Option.some.inj h₁).symm

lemma not_mem (h : m.Holds c) (hx : m.pxContainer x = none) (l : L) : x ∉ c l := by
  intro hmem
  rw [(h.container l x).mpr hmem] at hx
  exact absurd hx (by simp)

lemma nodup (h : m.Holds c) (l : L) : (c l).Nodup := (h.contains l).nodup

lemma ring (h : m.Holds c) (l : L) :
    LinkedRing.Ring m.pxNext m.pxPrevious (.listEnd l) (nodes (c l)) := (h.contains l).ring

lemma isEmpty_iff (h : m.Holds c) (l : L) : m.listIsEmpty l = true ↔ c l = [] := by
  rw [listIsEmpty, (h.contains l).count]
  simp

lemma headEntry (h : m.Holds c) (l : L) :
    m.listHeadEntry l = firstOf (.listEnd l) (nodes (c l)) :=
  (h.ring l).next_marker

end Holds

lemma nodup_nodes {xs : List I} (h : xs.Nodup) :
    (ListItem.listEnd l :: nodes xs).Nodup := by
  rw [List.nodup_cons]
  refine ⟨by simp, List.Nodup.map ?_ h⟩
  intro a b hab
  simpa using hab

lemma Holds.eq_of_mem_nodes {a : ListItem L I} (h : m.Holds c)
    (ha : a ∈ .listEnd l :: nodes (c l)) (ha' : a ∈ .listEnd l' :: nodes (c l')) : l = l' := by
  simp only [nodes, List.mem_cons, List.mem_map] at ha ha'
  rcases ha with rfl | ⟨x, hx, rfl⟩
  · simpa using ha'
  · exact h.disjoint hx (by simpa using ha')

/-- A list does not see changes of the nodes of other lists. -/
lemma Contains.congr (h : m.Contains l xs)
    (hnext : ∀ a ∈ .listEnd l :: nodes xs, m'.pxNext a = m.pxNext a)
    (hprevious : ∀ a ∈ .listEnd l :: nodes xs, m'.pxPrevious a = m.pxPrevious a)
    (hindex : m'.pxIndex l = m.pxIndex l)
    (hvalue : m'.xItemValue (.listEnd l) = m.xItemValue (.listEnd l))
    (hcount : m'.uxNumberOfItems l = m.uxNumberOfItems l) : m'.Contains l xs where
  ring := h.ring.congr hnext hprevious
  nodup := h.nodup
  index := by rw [hindex]; exact h.index
  count := by rw [hcount]; exact h.count
  endValue := by rw [hvalue]; exact h.endValue

/-- The links at one place of a list. -/
lemma Contains.cut (p : I → Bool) (h : m.Contains l xs) :
    Joined m.pxNext m.pxPrevious (lastOf (.listEnd l) (nodes (xs.takeWhile p)))
      (firstOf (.listEnd l) (nodes (xs.dropWhile p))) := by
  have hring := h.ring
  rw [← List.takeWhile_append_dropWhile (p := p) (l := xs), nodes, List.map_append] at hring
  exact hring.joined

/-- The items that `vListInsert` inserts behind: those whose value is not greater. -/
def notBehind (m : ListMem L I) (x y : I) : Bool :=
  decide (m.xItemValue (.item y) ≤ m.xItemValue (.item x))

lemma insertionPoint_eq (h : m.Contains l xs) (x : I) :
    m.insertionPoint l (m.xItemValue (.item x)) =
      some (lastOf (.listEnd l) (nodes (xs.takeWhile (m.notBehind x)))) := by
  rw [insertionPoint]
  by_cases hv : m.xItemValue (.item x) = portMaxDelay
  · have hall : xs.takeWhile (m.notBehind x) = xs := by
      rw [List.takeWhile_eq_self_iff]
      intro y _
      rw [notBehind, hv, decide_eq_true_iff]
      exact le_portMaxDelay _
    rw [if_pos hv, hall, h.ring.previous_marker]
  · have hend : decide (m.xItemValue (.listEnd l) ≤ m.xItemValue (.item x)) = false := by
      rwa [h.endValue, decide_eq_false_iff_not, portMaxDelay_le_iff]
    rw [if_neg hv, h.ring.walk hend (by simp [h.count]), nodes, List.takeWhile_map]
    rfl

variable [DecidableEq L] [DecidableEq I]

/-- What an insertion or a removal of the item `x` does to the fields of the items. -/
structure Moved (m m' : ListMem L I) (x : I) (l : Option L) : Prop where
  value : m'.xItemValue = m.xItemValue
  container : m'.pxContainer = Function.update m.pxContainer x l

/-! ### Insertion -/

/-- What an insertion of the item `x` behind the items `xs` of a list writes. -/
structure Linked (m m' : ListMem L I) (l : L) (x : I) (xs ys : List I) : Prop where
  next : m'.pxNext = Function.update
    (Function.update m.pxNext (.item x) (firstOf (.listEnd l) (nodes ys)))
    (lastOf (.listEnd l) (nodes xs)) (.item x)
  previous : m'.pxPrevious = Function.update
    (Function.update m.pxPrevious (.item x) (lastOf (.listEnd l) (nodes xs)))
    (firstOf (.listEnd l) (nodes ys)) (.item x)
  index : m'.pxIndex = m.pxIndex
  value : m'.xItemValue = m.xItemValue
  container : m'.pxContainer = Function.update m.pxContainer x (some l)
  count : m'.uxNumberOfItems = Function.update m.uxNumberOfItems l (m.uxNumberOfItems l + 1)

lemma Linked.contains (hm : Linked m m' l x xs ys) (h : m.Contains l (xs ++ ys))
    (hx : x ∉ xs ++ ys) : m'.Contains l (xs ++ x :: ys) := by
  have hnodes : nodes (xs ++ ys) = nodes (L := L) xs ++ nodes ys := List.map_append
  have hlast := lastOf_mem (ListItem.listEnd l) (nodes xs)
  have hfirst := firstOf_mem (ListItem.listEnd l) (nodes ys)
  have hxlast : lastOf (.listEnd l) (nodes xs) ≠ ListItem.item x := by
    intro he
    rw [he] at hlast
    simp_all
  have hxfirst : firstOf (.listEnd l) (nodes ys) ≠ ListItem.item x := by
    intro he
    rw [he] at hfirst
    simp_all
  refine ⟨?_, ?_, ?_, ?_, ?_⟩
  · have hring := h.ring
    rw [hnodes] at hring
    have hnodup := nodup_nodes (l := l) h.nodup
    rw [hnodes] at hnodup
    have hgoal : nodes (xs ++ x :: ys) = nodes (L := L) xs ++ .item x :: nodes ys := by simp
    rw [hgoal]
    refine hring.insert hnodup ?_ ?_ ?_ ?_
    · refine ⟨?_, ?_⟩
      · rw [hm.next, Function.update_self]
      · rw [hm.previous, Function.update_of_ne hxfirst.symm, Function.update_self]
    · refine ⟨?_, ?_⟩
      · rw [hm.next, Function.update_of_ne hxlast.symm, Function.update_self]
      · rw [hm.previous, Function.update_self]
    · intro z hz hne
      have hzx : z ≠ .item x := by
        rintro rfl
        simp_all
      rw [hm.next, Function.update_of_ne hne, Function.update_of_ne hzx]
    · intro z hz hne
      have hzx : z ≠ .item x := by
        rintro rfl
        simp_all
      rw [hm.previous, Function.update_of_ne hne, Function.update_of_ne hzx]
  · exact (List.perm_middle.nodup_iff).mpr (List.nodup_cons.mpr ⟨hx, h.nodup⟩)
  · have hindex := h.index
    rw [hm.index]
    simp only [nodes, List.mem_cons, List.mem_map, List.mem_append] at hindex ⊢
    rcases hindex with he | ⟨y, hy, he⟩
    · exact .inl he
    · exact .inr ⟨y, by tauto, he⟩
  · rw [hm.count, Function.update_self, h.count]
    simp
    omega
  · rw [hm.value]
    exact h.endValue

/-- An insertion into one list leaves the others as they are. -/
lemma Linked.holds (hm : Linked m m' l x xs ys) (h : m.Holds c) (hc : c l = xs ++ ys)
    (hx : m.pxContainer x = none) : m'.Holds (Function.update c l (xs ++ x :: ys)) := by
  have hxs : ∀ l', x ∉ c l' := h.not_mem hx
  refine ⟨?_, ?_⟩
  · intro l'
    by_cases hl : l' = l
    · subst hl
      rw [Function.update_self]
      exact hm.contains (hc ▸ h.contains l') (hc ▸ hxs l')
    · rw [Function.update_of_ne hl]
      have hother : ∀ a ∈ ListItem.listEnd l' :: nodes (c l'),
          a ∉ .listEnd l :: nodes (c l) ∧ a ≠ .item x := by
        intro a ha
        refine ⟨fun ha' => hl (h.eq_of_mem_nodes ha ha'), ?_⟩
        rintro rfl
        exact hxs l' (by simpa using ha)
      have hnodes : nodes (c l) = nodes (L := L) xs ++ nodes ys := by
        rw [hc]
        exact List.map_append
      have hlast : lastOf (.listEnd l) (nodes xs) ∈ ListItem.listEnd l :: nodes (c l) := by
        rw [hnodes]
        exact List.cons_subset_cons _ (List.subset_append_left _ _) (lastOf_mem _ _)
      have hfirst : firstOf (.listEnd l) (nodes ys) ∈ ListItem.listEnd l :: nodes (c l) := by
        rw [hnodes]
        exact List.cons_subset_cons _ (List.subset_append_right _ _) (firstOf_mem _ _)
      refine (h.contains l').congr ?_ ?_ ?_ ?_ ?_
      · intro a ha
        obtain ⟨hne, hax⟩ := hother a ha
        rw [hm.next, Function.update_of_ne, Function.update_of_ne hax]
        exact fun he => hne (he ▸ hlast)
      · intro a ha
        obtain ⟨hne, hax⟩ := hother a ha
        rw [hm.previous, Function.update_of_ne, Function.update_of_ne hax]
        exact fun he => hne (he ▸ hfirst)
      · rw [hm.index]
      · rw [hm.value]
      · rw [hm.count, Function.update_of_ne hl]
  · intro l' y
    rw [hm.container]
    by_cases hy : y = x
    · subst hy
      rw [Function.update_self]
      by_cases hl : l' = l
      · subst hl
        simp
      · rw [Function.update_of_ne hl]
        constructor
        · intro he
          exact absurd (Option.some.inj he).symm hl
        · intro hmem
          exact absurd hmem (hxs l')
    · rw [Function.update_of_ne hy, h.container]
      by_cases hl : l' = l
      · subst hl
        rw [Function.update_self, hc]
        simp [hy]
      · rw [Function.update_of_ne hl]

/-- The item is in front of the index: those that `vListInsertEnd` inserts behind. -/
def beforeIndex (m : ListMem L I) (l : L) (x : I) : Bool :=
  decide (ListItem.item x ≠ m.pxIndex l)

private lemma firstOf_dropWhile {k : ListItem L I} (hk : k ∈ .listEnd l :: nodes xs) :
    firstOf (.listEnd l) (nodes (xs.dropWhile fun x => decide (ListItem.item x ≠ k))) = k := by
  induction xs with
  | nil => simp_all
  | cons y ys ih =>
    by_cases hy : ListItem.item y = k
    · rw [List.dropWhile_cons_of_neg (by simpa using hy)]
      exact hy
    · rw [List.dropWhile_cons_of_pos (by simpa using hy)]
      refine ih ?_
      simp only [nodes, List.map_cons, List.mem_cons] at hk ⊢
      rcases hk with he | he | he
      · exact .inl he
      · exact absurd he.symm hy
      · exact .inr he

lemma linked_vListInsertEnd (h : m.Contains l xs) (hx : x ∉ xs) :
    Linked m (m.vListInsertEnd l x) l x (xs.takeWhile (m.beforeIndex l))
      (xs.dropWhile (m.beforeIndex l)) := by
  have hfirst : firstOf (.listEnd l) (nodes (xs.dropWhile (m.beforeIndex l))) = m.pxIndex l :=
    firstOf_dropWhile h.index
  have hlast := (h.cut (m.beforeIndex l)).2
  rw [hfirst] at hlast
  have hxindex : m.pxIndex l ≠ .item x := by
    intro he
    have hindex := h.index
    rw [he] at hindex
    simp_all
  refine ⟨?_, ?_, rfl, rfl, rfl, rfl⟩
  · show Function.update _ (Function.update m.pxPrevious (.item x) _ (m.pxIndex l)) _ = _
    rw [Function.update_of_ne hxindex, hlast, hfirst]
    rfl
  · show Function.update (Function.update m.pxPrevious (.item x) _) (m.pxIndex l) _ = _
    rw [hfirst, ← hlast]
    rfl

theorem holds_vListInsertEnd (h : m.Holds c) (hx : m.pxContainer x = none) (l : L) :
    (m.vListInsertEnd l x).Holds
      (Function.update c l (insertWhile (m.beforeIndex l) x (c l))) :=
  (linked_vListInsertEnd (h.contains l) (h.not_mem hx l)).holds h
    (List.takeWhile_append_dropWhile).symm hx

lemma linked_vListInsert (h : m.Contains l xs) (hx : x ∉ xs) :
    ∃ m', m.vListInsert l x = some m' ∧
      Linked m m' l x (xs.takeWhile (m.notBehind x)) (xs.dropWhile (m.notBehind x)) := by
  have hcut := h.cut (m.notBehind x)
  have hxfirst : firstOf (.listEnd l) (nodes (xs.dropWhile (m.notBehind x))) ≠ .item x := by
    intro he
    have hmem := firstOf_mem (ListItem.listEnd l) (nodes (xs.dropWhile (m.notBehind x)))
    rw [he] at hmem
    have hmem' : x ∈ xs.dropWhile (m.notBehind x) := by simpa using hmem
    exact hx (List.dropWhile_subset _ hmem')
  refine ⟨m.insertBehind l x (lastOf (.listEnd l) (nodes (xs.takeWhile (m.notBehind x)))),
    ?_, ?_, ?_, rfl, rfl, rfl, rfl⟩
  · rw [vListInsert, insertionPoint_eq h]
    rfl
  · show Function.update (Function.update m.pxNext _ (m.pxNext _)) _ _ = _
    rw [hcut.1]
  · show Function.update (Function.update m.pxPrevious
      (Function.update m.pxNext _ (m.pxNext _) _) _) _ _ = _
    rw [Function.update_self, hcut.1, Function.update_comm hxfirst]

theorem holds_vListInsert (h : m.Holds c) (hx : m.pxContainer x = none) (l : L) :
    ∃ m', m.vListInsert l x = some m' ∧
      m'.Holds (Function.update c l (insertWhile (m.notBehind x) x (c l))) ∧
      Moved m m' x (some l) := by
  obtain ⟨m', hm', hlinked⟩ := linked_vListInsert (h.contains l) (h.not_mem hx l)
  exact ⟨m', hm', hlinked.holds h (List.takeWhile_append_dropWhile).symm hx, hlinked.value,
    hlinked.container⟩

/-! ### Removal -/

/-- What the removal of the item `x` from between the items `xs` and `ys` of a list writes. -/
structure Unlinked (m m' : ListMem L I) (l : L) (x : I) (xs ys : List I) : Prop where
  next : m'.pxNext = Function.update m.pxNext (lastOf (.listEnd l) (nodes xs))
    (firstOf (.listEnd l) (nodes ys))
  previous : m'.pxPrevious = Function.update m.pxPrevious (firstOf (.listEnd l) (nodes ys))
    (lastOf (.listEnd l) (nodes xs))
  index : m'.pxIndex = Function.update m.pxIndex l
    (if m.pxIndex l = .item x then lastOf (.listEnd l) (nodes xs) else m.pxIndex l)
  value : m'.xItemValue = m.xItemValue
  container : m'.pxContainer = Function.update m.pxContainer x none
  count : m'.uxNumberOfItems = Function.update m.uxNumberOfItems l (m.uxNumberOfItems l - 1)

lemma Unlinked.contains (hm : Unlinked m m' l x xs ys) (h : m.Contains l (xs ++ x :: ys)) :
    m'.Contains l (xs ++ ys) := by
  have hnodes : nodes (xs ++ ys) = nodes (L := L) xs ++ nodes ys := List.map_append
  have hnodesx : nodes (xs ++ x :: ys) = nodes (L := L) xs ++ .item x :: nodes ys := by simp
  refine ⟨?_, ?_, ?_, ?_, ?_⟩
  · have hring := h.ring
    have hnodup := nodup_nodes (l := l) h.nodup
    rw [hnodesx] at hring hnodup
    rw [hnodes]
    refine hring.remove hnodup ?_ ?_ ?_
    · refine ⟨?_, ?_⟩
      · rw [hm.next, Function.update_self]
      · rw [hm.previous, Function.update_self]
    · intro z _ hne
      rw [hm.next, Function.update_of_ne hne]
    · intro z _ hne
      rw [hm.previous, Function.update_of_ne hne]
  · exact h.nodup.sublist (by simp)
  · rw [hm.index, Function.update_self, hnodes]
    split_ifs with hindex
    · exact List.cons_subset_cons _ (List.subset_append_left _ _) (lastOf_mem _ _)
    · have hmem := h.index
      rw [hnodesx] at hmem
      simp only [List.mem_cons, List.mem_append] at hmem ⊢
      tauto
  · rw [hm.count, Function.update_self, h.count]
    simp
  · rw [hm.value]
    exact h.endValue

/-- A removal from one list leaves the others as they are. -/
lemma Unlinked.holds (hm : Unlinked m m' l x xs ys) (h : m.Holds c) (hc : c l = xs ++ x :: ys) :
    m'.Holds (Function.update c l (xs ++ ys)) := by
  have hxl : x ∈ c l := by simp [hc]
  have hnodes : nodes (c l) = nodes (L := L) xs ++ .item x :: nodes ys := by simp [hc]
  have hlast : lastOf (.listEnd l) (nodes xs) ∈ ListItem.listEnd l :: nodes (c l) := by
    rw [hnodes]
    exact List.cons_subset_cons _ (List.subset_append_left _ _) (lastOf_mem _ _)
  have hfirst : firstOf (.listEnd l) (nodes ys) ∈ ListItem.listEnd l :: nodes (c l) := by
    have hmem := firstOf_mem (ListItem.listEnd l) (nodes ys)
    rw [hnodes]
    simp only [List.mem_cons, List.mem_append] at hmem ⊢
    tauto
  refine ⟨?_, ?_⟩
  · intro l'
    by_cases hl : l' = l
    · subst hl
      rw [Function.update_self]
      exact hm.contains (hc ▸ h.contains l')
    · rw [Function.update_of_ne hl]
      refine (h.contains l').congr ?_ ?_ ?_ ?_ ?_
      · intro a ha
        rw [hm.next, Function.update_of_ne]
        rintro rfl
        exact hl (h.eq_of_mem_nodes ha hlast)
      · intro a ha
        rw [hm.previous, Function.update_of_ne]
        rintro rfl
        exact hl (h.eq_of_mem_nodes ha hfirst)
      · rw [hm.index, Function.update_of_ne hl]
      · rw [hm.value]
      · rw [hm.count, Function.update_of_ne hl]
  · have hnodup := h.nodup l
    rw [hc, List.perm_middle.nodup_iff, List.nodup_cons] at hnodup
    intro l' y
    rw [hm.container]
    by_cases hy : y = x
    · subst hy
      rw [Function.update_self]
      by_cases hl : l' = l
      · subst hl
        simpa using hnodup.1
      · rw [Function.update_of_ne hl]
        have hmem : y ∉ c l' := fun hmem => hl (h.disjoint hmem hxl)
        simpa using hmem
    · rw [Function.update_of_ne hy, h.container]
      by_cases hl : l' = l
      · subst hl
        rw [Function.update_self, hc]
        simp [hy]
      · rw [Function.update_of_ne hl]

lemma unlinked_removeFrom (h : m.Contains l (xs ++ x :: ys)) :
    Unlinked m (m.removeFrom l x) l x xs ys := by
  have hring := h.ring
  have hnodes : nodes (xs ++ x :: ys) = nodes (L := L) xs ++ .item x :: nodes ys := by simp
  rw [hnodes] at hring
  obtain ⟨hprev, hnext⟩ := hring.joined_node
  have hback : Function.update m.pxPrevious (firstOf (.listEnd l) (nodes ys))
      (lastOf (.listEnd l) (nodes xs)) (.item x) = lastOf (.listEnd l) (nodes xs) := by
    rw [← hprev]
    exact Function.update_apply .. |>.trans (ite_self _)
  by_cases hindex : m.pxIndex l = .item x
  · refine ⟨?_, ?_, ?_, ?_, ?_, ?_⟩ <;>
      simp [removeFrom, setNext, setPrevious, setIndex, setContainer, setNumberOfItems, hindex,
        hprev, hnext, hback]
  · refine ⟨?_, ?_, ?_, ?_, ?_, ?_⟩ <;>
      simp [removeFrom, setNext, setPrevious, setContainer, setNumberOfItems, hindex, hprev,
        hnext, hback]

theorem holds_uxListRemove (h : m.Holds c) (hx : x ∈ c l) :
    ∃ m', m.uxListRemove x = some (m', ((c l).erase x).length) ∧
      m'.Holds (Function.update c l ((c l).erase x)) ∧ Moved m m' x none := by
  obtain ⟨xs, ys, -, hc, herase⟩ := List.exists_erase_eq hx
  have hcontains := hc ▸ h.contains l
  have hm := unlinked_removeFrom hcontains
  refine ⟨m.removeFrom l x, ?_, ?_, hm.value, hm.container⟩
  · rw [uxListRemove, (h.container l x).mpr hx, herase, ← (hm.contains hcontains).count]
    rfl
  · rw [herase]
    exact hm.holds h hc

/-! ### Index, values and initialisation -/

theorem holds_listAdvanceIndex (h : m.Holds c) (hne : c l ≠ []) :
    (m.listAdvanceIndex l).Holds c ∧ (m.listAdvanceIndex l).xItemValue = m.xItemValue ∧
      ∃ x ∈ c l, (m.listAdvanceIndex l).pxIndex l = .item x := by
  have hmem := (h.ring l).next_mem (h.contains l).index
  have hind : ∀ a, (m.setIndex l a).pxIndex l = a := fun a => Function.update_self ..
  have hset : ∀ x ∈ c l, (m.setIndex l (.item x)).Holds c := by
    intro x hx
    refine ⟨fun l' => ?_, h.container⟩
    by_cases hl : l' = l
    · subst hl
      refine ⟨h.ring l', h.nodup l', ?_, (h.contains l').count, (h.contains l').endValue⟩
      rw [hind]
      simp [hx]
    · exact (h.contains l').congr (fun _ _ => rfl) (fun _ _ => rfl)
        (Function.update_of_ne hl _ _) rfl rfl
  have htwice : ∀ a b, (m.setIndex l a).setIndex l b = m.setIndex l b := by
    intro a b
    simp [setIndex]
  rcases List.mem_cons.mp hmem with he | hnode
  · obtain ⟨x, xs, hc⟩ := List.exists_cons_of_ne_nil hne
    have hx : x ∈ c l := by simp [hc]
    have hfirst : m.pxNext (.listEnd l) = .item x := by
      rw [(h.ring l).next_marker, hc]
      rfl
    have hm : m.listAdvanceIndex l = m.setIndex l (.item x) := by
      simp only [listAdvanceIndex, hind, he, if_true, htwice]
      rw [← hfirst]
      rfl
    rw [hm]
    exact ⟨hset x hx, rfl, x, hx, hind _⟩
  · obtain ⟨x, hx, he⟩ := List.mem_map.mp hnode
    have hm : m.listAdvanceIndex l = m.setIndex l (.item x) := by
      simp [listAdvanceIndex, hind, ← he]
    rw [hm]
    exact ⟨hset x hx, rfl, x, hx, hind _⟩

lemma pxContainer_listAdvanceIndex (m : ListMem L I) (l : L) :
    (m.listAdvanceIndex l).pxContainer = m.pxContainer := by
  simp only [listAdvanceIndex]
  split_ifs
  · rfl
  · rfl

lemma holds_setItemValue (h : m.Holds c) (x : I) (v : TickType) :
    (m.setItemValue (.item x) v).Holds c := by
  refine ⟨fun l => ?_, h.container⟩
  have hne : ListItem.listEnd l ≠ .item x := by simp
  have hvalue : (m.setItemValue (.item x) v).xItemValue (.listEnd l) =
      m.xItemValue (.listEnd l) := Function.update_of_ne hne v m.xItemValue
  exact (h.contains l).congr (fun _ _ => rfl) (fun _ _ => rfl) rfl hvalue rfl

lemma contains_vListInitialise (m : ListMem L I) (l : L) :
    (m.vListInitialise l).Contains l [] where
  ring := ring_nil_iff.mpr ⟨Function.update_self .., Function.update_self ..⟩
  nodup := List.nodup_nil
  index := by
    rw [show (m.vListInitialise l).pxIndex l = .listEnd l from Function.update_self ..]
    simp
  count := Function.update_self ..
  endValue := Function.update_self ..

lemma Contains.vListInitialise (h : m.Contains l' []) (l : L) :
    (m.vListInitialise l).Contains l' [] := by
  by_cases hl : l' = l
  · subst hl
    exact contains_vListInitialise m l'
  · have hne : ListItem.listEnd (I := I) l' ≠ .listEnd l := by simpa using hl
    refine h.congr ?_ ?_ ?_ ?_ ?_
    · intro a ha
      obtain rfl : a = .listEnd l' := by simpa using ha
      exact Function.update_of_ne hne _ _
    · intro a ha
      obtain rfl : a = .listEnd l' := by simpa using ha
      exact Function.update_of_ne hne _ _
    · exact Function.update_of_ne hl _ _
    · exact Function.update_of_ne hne _ _
    · exact Function.update_of_ne hl _ _

end ListMem

end Enc624j600.Rtos
