/-
# Calls of the list functions

Lists and items as `list.c` promises them: each list is a round of items, and the functions change
the rounds and answer as their names say.  Whatever calls are made, as long as each keeps the
contract of its function, the memory follows.
-/
import Enc624j600.Kernel.Start

namespace Enc624j600.Rtos

open RoundRobin

variable {L I : Type} [DecidableEq L] [DecidableEq I]

/-- A call of a function or a macro on the lists. -/
inductive ListCall (L I : Type) where
  | vListInsertEnd (pxList : L) (x : I)
  /-- `listSET_LIST_ITEM_VALUE` and `vListInsert`. -/
  | vListInsert (pxList : L) (x : I) (v : TickType)
  | uxListRemove (x : I)
  | listGetOwnerOfNextEntry (pxList : L)

/-- What the call answers. -/
inductive ListAnswer (I : Type) where
  | done
  | length (n : ℕ)
  | owner (x : I)

namespace ListMem

/-- What a call leaves in the memory, and its answer. -/
def exec (m : ListMem L I) : ListCall L I → Option (ListMem L I × ListAnswer I)
  | .vListInsertEnd l x => some (m.vListInsertEnd l x, .done)
  | .vListInsert l x v => do
    let m ← (m.setItemValue (.item x) v).vListInsert l x
    return (m, .done)
  | .uxListRemove x => do
    let (m, n) ← m.uxListRemove x
    return (m, .length n)
  | .listGetOwnerOfNextEntry l => do
    let m := m.listAdvanceIndex l
    let x ← (m.pxIndex l).item?
    return (m, .owner x)

/-- A sequence of calls. -/
def execAll (m : ListMem L I) : List (ListCall L I) → Option (ListMem L I × List (ListAnswer I))
  | [] => some (m, [])
  | call :: calls => do
    let (m, r) ← m.exec call
    let (m, rs) ← m.execAll calls
    return (m, r :: rs)

end ListMem

/-! ### The lists as rounds -/

/-- The lists as rounds, and the values of the items. -/
structure RoundLists (L I : Type) where
  rounds : L → Round I
  value : I → TickType

namespace RoundLists

/-- Replace one list. -/
def setRound (a : RoundLists L I) (l : L) (r : Round I) : RoundLists L I :=
  { a with rounds := Function.update a.rounds l r }

/-- The calls within their contracts: an item that is inserted is in no list, one that is removed
is in some list, and the list whose next entry is taken is not empty. -/
inductive Step (a : RoundLists L I) : ListCall L I → ListAnswer I → RoundLists L I → Prop
  | vListInsertEnd {l : L} {x : I} (hx : ∀ l', x ∉ (a.rounds l').items) :
      Step a (.vListInsertEnd l x) .done (a.setRound l ((a.rounds l).insertEnd x))
  /-- Behind the items whose value is not greater. -/
  | vListInsert {l : L} {x : I} {v : TickType} (hx : ∀ l', x ∉ (a.rounds l').items) :
      Step a (.vListInsert l x v) .done
        ⟨Function.update a.rounds l ((a.rounds l).insertWhile
          (fun y => decide (Function.update a.value x v y ≤ v)) x), Function.update a.value x v⟩
  | uxListRemove {l : L} {x : I} (hx : x ∈ (a.rounds l).items) :
      Step a (.uxListRemove x) (.length ((a.rounds l).erase x).items.length)
        (a.setRound l ((a.rounds l).erase x))
  | listGetOwnerOfNextEntry {l : L} {x : I} (hx : (a.rounds l).advance.current = some x) :
      Step a (.listGetOwnerOfNextEntry l) (.owner x) (a.setRound l (a.rounds l).advance)

/-- A legal sequence of calls, with its answers. -/
inductive Steps : RoundLists L I → List (ListCall L I) → List (ListAnswer I) → RoundLists L I → Prop
  | nil {a : RoundLists L I} : Steps a [] [] a
  | cons {a a' b : RoundLists L I} {call : ListCall L I} {r : ListAnswer I}
      {calls : List (ListCall L I)} {rs : List (ListAnswer I)} (h : a.Step call r a')
      (hs : Steps a' calls rs b) : Steps a (call :: calls) (r :: rs) b

/-- No items in any list. -/
def empty (value : I → TickType) : RoundLists L I := ⟨fun _ => ⟨[], []⟩, value⟩

end RoundLists

namespace ListMem

variable {m : ListMem L I} {a a' b : RoundLists L I} {call : ListCall L I} {r : ListAnswer I}
variable {calls : List (ListCall L I)} {rs : List (ListAnswer I)} {ls : List L} {xs : List I}

/-- The memory holds the rounds and the values. -/
structure Represents (m : ListMem L I) (a : RoundLists L I) : Prop where
  rounds : m.Rounds a.rounds
  value : ∀ x, m.xItemValue (.item x) = a.value x

omit [DecidableEq L] [DecidableEq I] in
lemma Represents.container_eq_none {x : I} (h : m.Represents a)
    (hx : ∀ l, x ∉ (a.rounds l).items) : m.pxContainer x = none := by
  rw [Option.eq_none_iff_forall_not_mem]
  intro l hl
  exact hx l ((h.rounds.holds.container l x).mp hl)

/-- A call within its contract goes through, and the memory follows. -/
lemma Represents.exec (h : m.Represents a) (hstep : a.Step call r a') :
    ∃ m', m.exec call = some (m', r) ∧ m'.Represents a' := by
  cases hstep with
  | vListInsertEnd hx =>
    exact ⟨_, rfl, h.rounds.vListInsertEnd (h.container_eq_none hx) _, h.value⟩
  | @vListInsert l x v hx =>
    have hvalue : ∀ y, (m.setItemValue (.item x) v).xItemValue (.item y) =
        Function.update a.value x v y := by
      intro y
      by_cases hy : y = x
      · subst hy
        rw [Function.update_self]
        exact Function.update_self ..
      · rw [Function.update_of_ne hy, ← h.value]
        exact Function.update_of_ne (by simpa using hy) _ _
    have hbehind : (m.setItemValue (.item x) v).notBehind x =
        fun y => decide (Function.update a.value x v y ≤ v) := by
      funext y
      rw [notBehind, hvalue, hvalue, Function.update_self]
    obtain ⟨m', hm', hrounds, hmoved⟩ :=
      (h.rounds.setItemValue x v).vListInsert (h.container_eq_none hx) l
    refine ⟨m', ?_, ?_, ?_⟩
    · simp [ListMem.exec, hm']
    · rwa [hbehind] at hrounds
    · intro y
      rw [hmoved.value, hvalue]
  | @uxListRemove l x hx =>
    obtain ⟨m', hm', hrounds, hmoved⟩ := h.rounds.uxListRemove hx
    refine ⟨m', ?_, hrounds, ?_⟩
    · simp [ListMem.exec, hm']
    · intro y
      rw [hmoved.value]
      exact h.value y
  | @listGetOwnerOfNextEntry l x hx =>
    have hne : (a.rounds l).items ≠ [] := by
      intro he
      rw [← Round.items_advance] at he
      have hmem : x ∈ (a.rounds l).advance.visited := List.mem_of_getLast? hx
      rw [Round.items, List.append_eq_nil_iff] at he
      rw [he.1] at hmem
      cases hmem
    have hrounds := h.rounds.listAdvanceIndex hne
    have hindex : (m.listAdvanceIndex l).pxIndex l = .item x := by
      rw [hrounds.index_eq_item, Function.update_self, hx]
    refine ⟨m.listAdvanceIndex l, ?_, hrounds, ?_⟩
    · simp [ListMem.exec, hindex, ListItem.item?]
    · intro y
      rw [(holds_listAdvanceIndex h.rounds.holds hne).2.1]
      exact h.value y

lemma Represents.execAll (h : m.Represents a) (hsteps : a.Steps calls rs b) :
    ∃ m', m.execAll calls = some (m', rs) ∧ m'.Represents b := by
  induction hsteps generalizing m with
  | nil => exact ⟨m, rfl, h⟩
  | cons hstep _ ih =>
    obtain ⟨m₁, hm₁, h₁⟩ := h.exec hstep
    obtain ⟨m', hm', h'⟩ := ih h₁
    exact ⟨m', by simp [ListMem.execAll, hm₁, hm'], h'⟩

/-! ### The initialisation -/

lemma xItemValue_foldl_vListInitialise (ls : List L) (m : ListMem L I) (x : I) :
    (ls.foldl vListInitialise m).xItemValue (.item x) = m.xItemValue (.item x) := by
  induction ls generalizing m with
  | nil => rfl
  | cons l ls ih =>
    have hne : ListItem.item x ≠ .listEnd l := by simp
    exact (ih _).trans (Function.update_of_ne hne portMaxDelay m.xItemValue)

omit [DecidableEq L] in
lemma foldl_vListInitialiseItem (xs : List I) (m : ListMem L I) :
    xs.foldl vListInitialiseItem m =
      { m with pxContainer := (xs.foldl vListInitialiseItem m).pxContainer } := by
  induction xs generalizing m with
  | nil => rfl
  | cons x xs ih => exact ih _

omit [DecidableEq L] in
lemma pxContainer_foldl_vListInitialiseItem (xs : List I) (m : ListMem L I) {x : I}
    (h : x ∈ xs ∨ m.pxContainer x = none) :
    (xs.foldl vListInitialiseItem m).pxContainer x = none := by
  induction xs generalizing m with
  | nil => simpa using h
  | cons y ys ih =>
    refine ih _ ?_
    by_cases hy : x = y
    · subst hy
      exact .inr (Function.update_self ..)
    · rcases h with hmem | hnone
      · exact .inl ((List.mem_cons.mp hmem).resolve_left hy)
      · exact .inr ((Function.update_of_ne hy _ _).trans hnone)

/-- The memory behind the initialisation of all lists and items. -/
lemma represents_initialised (m : ListMem L I) (hls : ∀ l, l ∈ ls) (hxs : ∀ x, x ∈ xs) :
    (xs.foldl vListInitialiseItem (ls.foldl vListInitialise m)).Represents
      (.empty fun x => m.xItemValue (.item x)) := by
  have hcontains : ∀ l, (ls.foldl vListInitialise m).Contains l [] :=
    fun l => contains_foldl_vListInitialise ls m (.inl (hls l))
  have hnone : ∀ x, (xs.foldl vListInitialiseItem (ls.foldl vListInitialise m)).pxContainer x =
      none := fun x => pxContainer_foldl_vListInitialiseItem xs _ (.inl (hxs x))
  rw [foldl_vListInitialiseItem]
  refine ⟨⟨⟨?_, ?_⟩, ?_⟩, ?_⟩
  · intro l
    exact (hcontains l).congr (fun _ _ => rfl) (fun _ _ => rfl) rfl rfl rfl
  · intro l x
    rw [hnone]
    simp [RoundLists.empty, Round.items]
  · intro l
    exact List.mem_singleton.mp (hcontains l).index
  · intro x
    exact xItemValue_foldl_vListInitialise ls m x

/-- Behind the initialisation, the functions of `list.c` do what they do to rounds, whatever calls
are made within their contracts. -/
theorem lists_refine_rounds (m : ListMem L I) (hls : ∀ l, l ∈ ls) (hxs : ∀ x, x ∈ xs)
    (hsteps : (RoundLists.empty fun x => m.xItemValue (.item x)).Steps calls rs a) :
    ∃ m', (xs.foldl vListInitialiseItem (ls.foldl vListInitialise m)).execAll calls =
        some (m', rs) ∧ m'.Represents a :=
  (represents_initialised m hls hxs).execAll hsteps

theorem lists_refine_rounds_three : ∃ m' a,
    (([.myFirstTask, .mySecondTask, .prvIdleTask] : List MainTask).foldl vListInitialiseItem
      ([()].foldl vListInitialise
        ⟨id, id, fun _ => 0, fun _ => none, .listEnd, fun _ => 0⟩)).execAll
      [.vListInsert () .myFirstTask 5, .vListInsert () .mySecondTask 3,
        .listGetOwnerOfNextEntry (), .vListInsertEnd () .prvIdleTask,
        .listGetOwnerOfNextEntry (), .listGetOwnerOfNextEntry (), .uxListRemove .prvIdleTask] =
      some (m', [.done, .done, .owner .mySecondTask, .done, .owner .myFirstTask,
        .owner .prvIdleTask, .length 2]) ∧ m'.Represents a := by
  have hsteps : ∃ a, (RoundLists.empty fun _ : MainTask => 0).Steps
      [.vListInsert () .myFirstTask 5, .vListInsert () .mySecondTask 3,
        .listGetOwnerOfNextEntry (), .vListInsertEnd () .prvIdleTask,
        .listGetOwnerOfNextEntry (), .listGetOwnerOfNextEntry (), .uxListRemove .prvIdleTask]
      [.done, .done, .owner .mySecondTask, .done, .owner .myFirstTask, .owner .prvIdleTask,
        .length 2] a := by
    refine ⟨_, .cons (.vListInsert ?_) (.cons (.vListInsert ?_)
      (.cons (.listGetOwnerOfNextEntry ?_) (.cons (.vListInsertEnd ?_)
        (.cons (.listGetOwnerOfNextEntry ?_) (.cons (.listGetOwnerOfNextEntry ?_)
          (.cons (.uxListRemove (l := ()) ?_) .nil))))))⟩
    · rintro ⟨⟩
      decide
    · rintro ⟨⟩
      decide
    · rfl
    · rintro ⟨⟩
      decide
    · rfl
    · rfl
    · decide
  have hls : ∀ l : Unit, l ∈ [()] := by simp
  have hxs : ∀ x : MainTask, x ∈ [.myFirstTask, .mySecondTask, .prvIdleTask] := by
    rintro (_ | _ | _) <;> simp
  obtain ⟨a, hsteps⟩ := hsteps
  obtain ⟨m', hm', hrep⟩ := lists_refine_rounds
    ⟨id, id, fun _ => 0, fun _ => none, .listEnd, fun _ => 0⟩ hls hxs hsteps
  exact ⟨m', a, hm', hrep⟩

end ListMem

end Enc624j600.Rtos
