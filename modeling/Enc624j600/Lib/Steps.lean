/-
# Running interaction programs

A machine says which answers an operation may get and how it changes the machine's state.
A program runs in small steps: it performs its next operation, or it starts another turn of
a loop, or something other than the program changes the state.  The last kind of step is a
relation `R` on states, the *rely* of the run, so that a run is always seen together with
everything its surroundings may do between two operations.

A run from `p, w` is recorded with the list of the operations performed and their answers.
-/
import Enc624j600.Lib.Prog
import Mathlib.Logic.Relation

namespace Interaction

/-- A machine: the answers that an operation may get in a state, and the state after it. -/
structure Machine (Op : Type) (Res : Op → Type) (W : Type) where
  step : W → (o : Op) → Res o → W → Prop

/-- An operation that was performed, with its answer. -/
abbrev Event (Op : Type) (Res : Op → Type) : Type := Σ o : Op, Res o

variable {Op : Type} {Res : Op → Type} {W : Type} {α β : Type}

/-- One step of a program, or of its surroundings. -/
inductive Step (M : Machine Op Res W) (R : W → W → Prop) {α : Type} :
    Prog Op Res α → W → List (Event Op Res) → Prog Op Res α → W → Prop where
  | env {p : Prog Op Res α} {w w' : W} : R w w' → Step M R p w [] p w'
  | op {o : Op} {k : Res o → Prog Op Res α} {w w' : W} {r : Res o} : M.step w o r w' →
      Step M R (.op o k) w [⟨o, r⟩] (k r) w'
  | unroll {b : Prog Op Res Bool} {k : Prog Op Res α} {w : W} :
      Step M R (.loop b k) w [] (b.bind (Prog.again b k)) w

/-- The programs and states that a run can reach, with the operations performed so far. -/
inductive Reach (M : Machine Op Res W) (R : W → W → Prop) {α : Type} (p : Prog Op Res α)
    (w : W) : List (Event Op Res) → Prog Op Res α → W → Prop where
  | refl : Reach M R p w [] p w
  | tail {t t' : List (Event Op Res)} {q q' : Prog Op Res α} {v v' : W} :
      Reach M R p w t q v → Step M R q v t' q' v' → Reach M R p w (t ++ t') q' v'

/-- The run of `p` from `w` that performs `t` stops with the value `a` in the state `v`. -/
def Returns (M : Machine Op Res W) (R : W → W → Prop) (p : Prog Op Res α) (w : W)
    (t : List (Event Op Res)) (a : α) (v : W) : Prop :=
  Reach M R p w t (.pure a) v

/-- The states that the surroundings can lead to on their own. -/
abbrev Drift (R : W → W → Prop) : W → W → Prop := Relation.ReflTransGen R

variable {M : Machine Op Res W} {R : W → W → Prop}

namespace Reach

variable {p q q' : Prog Op Res α} {w v v' : W} {t t' : List (Event Op Res)}

lemma single (h : Step M R p w t q v) : Reach M R p w t q v := by
  simpa using Reach.refl.tail h

lemma trans (h : Reach M R p w t q v) (h' : Reach M R q v t' q' v') :
    Reach M R p w (t ++ t') q' v' := by
  induction h' with
  | refl => simpa using h
  | tail _ hs ih => simpa using ih.tail hs

lemma drift (h : Drift R w v) : Reach M R p w [] p v := by
  induction h with
  | refl => exact .refl
  | tail _ hR ih => simpa using ih.tail (.env hR)

lemma mono {R' : W → W → Prop} (hR : ∀ u u', R u u' → R' u u')
    (h : Reach M R p w t q v) : Reach M R' p w t q v := by
  induction h with
  | refl => exact .refl
  | tail _ hs ih =>
    refine ih.tail ?_
    cases hs with
    | env h => exact .env (hR _ _ h)
    | op h => exact .op h
    | unroll => exact .unroll

/-- A property of states that the operations in `S` and the surroundings keep holds along
every run of a program that performs only operations in `S`. -/
lemma invariant {S : Op → Prop} {F : W → Prop} (hp : p.All S)
    (hop : ∀ u o r u', S o → F u → M.step u o r u' → F u') (hR : ∀ u u', F u → R u u' → F u')
    (hw : F w) (h : Reach M R p w t q v) : F v ∧ q.All S := by
  induction h with
  | refl => exact ⟨hw, hp⟩
  | tail _ hs ih =>
    obtain ⟨hF, hS⟩ := ih
    cases hs with
    | env h => exact ⟨hR _ _ hF h, hS⟩
    | op h => exact ⟨hop _ _ _ _ hS.1 hF h, hS.2 _⟩
    | unroll => exact ⟨hF, Prog.All.bind hS.1 (Prog.All.again hS.1 hS.2)⟩

/-- Every operation performed by a run is one that the program may perform. -/
lemma events {S : Op → Prop} (hp : p.All S) (h : Reach M R p w t q v) :
    (∀ e ∈ t, S e.1) ∧ q.All S := by
  induction h with
  | refl => exact ⟨by simp, hp⟩
  | tail _ hs ih =>
    obtain ⟨hE, hS⟩ := ih
    cases hs with
    | env h => exact ⟨by simpa using hE, hS⟩
    | op h =>
      refine ⟨?_, hS.2 _⟩
      intro e he
      rcases List.mem_append.1 he with he | he
      · exact hE e he
      · rw [List.mem_singleton.1 he]
        exact hS.1
    | unroll => exact ⟨by simpa using hE, Prog.All.bind hS.1 (Prog.All.again hS.1 hS.2)⟩

/-- A run stays without loops. -/
lemma loopFree (hp : p.LoopFree) (h : Reach M R p w t q v) : q.LoopFree := by
  induction h with
  | refl => exact hp
  | tail _ hs ih =>
    cases hs with
    | env h => exact ih
    | op h => exact ih _
    | unroll => exact absurd ih id

/-- A run stays with the same loops, if their body contains none. -/
lemma loopsOf {body : Prog Op Res Bool} (hb : body.LoopFree) (hp : p.LoopsOf body)
    (h : Reach M R p w t q v) : q.LoopsOf body := by
  induction h with
  | refl => exact hp
  | tail _ hs ih =>
    cases hs with
    | env h => exact ih
    | op h => exact ih _
    | unroll =>
      obtain ⟨rfl, hk⟩ := ih
      refine hb.loopsOf.bind fun x => ?_
      cases x with
      | true => exact hk
      | false => exact ⟨rfl, hk⟩

/-! ### Runs from the first step on -/

lemma of_pure {a : α} (h : Reach M R (.pure a) w t q v) : t = [] ∧ q = .pure a ∧ Drift R w v := by
  induction h with
  | refl => exact ⟨rfl, rfl, .refl⟩
  | tail _ hs ih =>
    obtain ⟨rfl, rfl, hd⟩ := ih
    cases hs with
    | env h => exact ⟨rfl, rfl, hd.tail h⟩

lemma of_op {o : Op} {k : Res o → Prog Op Res α} (h : Reach M R (.op o k) w t q v) :
    (t = [] ∧ q = .op o k ∧ Drift R w v) ∨
      ∃ w₁ r w₂ t', Drift R w w₁ ∧ M.step w₁ o r w₂ ∧ t = ⟨o, r⟩ :: t' ∧
        Reach M R (k r) w₂ t' q v := by
  induction h with
  | refl => exact Or.inl ⟨rfl, rfl, .refl⟩
  | tail _ hs ih =>
    rcases ih with ⟨rfl, rfl, hd⟩ | ⟨w₁, r, w₂, t', hd, hstep, rfl, hr⟩
    · cases hs with
      | env h => exact Or.inl ⟨rfl, rfl, hd.tail h⟩
      | op h => exact Or.inr ⟨_, _, _, [], hd, h, rfl, .refl⟩
    · exact Or.inr ⟨w₁, r, w₂, _, hd, hstep, rfl, hr.tail hs⟩

lemma of_loop {b : Prog Op Res Bool} {k : Prog Op Res α} (h : Reach M R (.loop b k) w t q v) :
    (t = [] ∧ q = .loop b k ∧ Drift R w v) ∨
      ∃ w₁, Drift R w w₁ ∧ Reach M R (b.bind (Prog.again b k)) w₁ t q v := by
  induction h with
  | refl => exact Or.inl ⟨rfl, rfl, .refl⟩
  | tail _ hs ih =>
    rcases ih with ⟨rfl, rfl, hd⟩ | ⟨w₁, hd, hr⟩
    · cases hs with
      | env h => exact Or.inl ⟨rfl, rfl, hd.tail h⟩
      | unroll => exact Or.inr ⟨_, hd, .refl⟩
    · exact Or.inr ⟨w₁, hd, hr.tail hs⟩

/-- A run of a sequential composition is still in its first part, or has left it. -/
lemma of_bind {p : Prog Op Res α} {f : α → Prog Op Res β} {q : Prog Op Res β}
    (h : Reach M R (p.bind f) w t q v) :
    (∃ p', q = p'.bind f ∧ Reach M R p w t p' v) ∨
      ∃ a w₁ t₁ t₂, Returns M R p w t₁ a w₁ ∧ Reach M R (f a) w₁ t₂ q v ∧ t = t₁ ++ t₂ := by
  induction h with
  | refl => exact Or.inl ⟨p, rfl, .refl⟩
  | @tail t t' q q' v v' _ hs ih =>
    rcases ih with ⟨p', rfl, hp'⟩ | ⟨a, w₁, t₁, t₂, ha, hf, rfl⟩
    · cases p' with
      | pure a => exact Or.inr ⟨a, v, t, t', hp', .single hs, rfl⟩
      | op o k =>
        cases hs with
        | env h => exact Or.inl ⟨_, rfl, hp'.tail (.env h)⟩
        | op h => exact Or.inl ⟨_, rfl, hp'.tail (.op h)⟩
      | loop b k =>
        cases hs with
        | env h => exact Or.inl ⟨_, rfl, hp'.tail (.env h)⟩
        | unroll =>
          refine Or.inl ⟨b.bind (Prog.again b k), ?_, hp'.tail .unroll⟩
          simp only [Prog.bind_assoc, Prog.again_bind]
    · exact Or.inr ⟨a, w₁, t₁, t₂ ++ t', ha, hf.tail hs, by simp⟩

lemma bind {p p' : Prog Op Res α} (f : α → Prog Op Res β) (h : Reach M R p w t p' v) :
    Reach M R (p.bind f) w t (p'.bind f) v := by
  induction h with
  | refl => exact .refl
  | tail _ hs ih =>
    refine ih.tail ?_
    cases hs with
    | env h => exact .env h
    | op h => exact .op h
    | @unroll b k w =>
      have he : (b.bind (Prog.again b k)).bind f = b.bind (Prog.again b (k.bind f)) := by
        simp only [Prog.bind_assoc, Prog.again_bind]
      rw [he]
      exact .unroll

end Reach

/-! ### Complete runs -/

namespace Returns

variable {w v : W} {t : List (Event Op Res)} {a : α} {c : β}

lemma mono {R' : W → W → Prop} {p : Prog Op Res α} (hR : ∀ u u', R u u' → R' u u')
    (h : Returns M R p w t a v) : Returns M R' p w t a v :=
  Reach.mono hR h

lemma drift_right {p : Prog Op Res α} {v' : W} (h : Returns M R p w t a v) (hd : Drift R v v') :
    Returns M R p w t a v' := by
  simpa [Returns] using Reach.trans h (Reach.drift hd)

lemma drift_left {p : Prog Op Res α} {w' : W} (hd : Drift R w w') (h : Returns M R p w' t a v) :
    Returns M R p w t a v := by
  simpa [Returns] using Reach.trans (Reach.drift hd) h

lemma bind {p : Prog Op Res α} {f : α → Prog Op Res β} {u : W} {t' : List (Event Op Res)}
    (h : Returns M R p w t a u) (h' : Returns M R (f a) u t' c v) :
    Returns M R (p.bind f) w (t ++ t') c v :=
  Reach.trans (Reach.bind f h) h'

lemma op {o : Op} {k : Res o → Prog Op Res α} {r : Res o} {u : W} (h : M.step w o r u)
    (h' : Returns M R (k r) u t a v) : Returns M R (.op o k) w (⟨o, r⟩ :: t) a v :=
  Reach.trans (Reach.single (.op h)) h'

lemma loop {b : Prog Op Res Bool} {k : Prog Op Res α} {x : Bool} {u : W}
    {t' : List (Event Op Res)} (h : Returns M R b w t x u)
    (h' : Returns M R (Prog.again b k x) u t' a v) : Returns M R (.loop b k) w (t ++ t') a v := by
  simpa [Returns] using Reach.trans (Reach.single .unroll) (h.bind h')

lemma pure_drift (a : α) (hd : Drift R w v) : Returns M R (.pure a) w [] a v :=
  Reach.drift hd

end Returns

variable {w v : W} {t : List (Event Op Res)} {a : α} {c : β}

@[simp] lemma returns_pure_iff {b : α} :
    Returns M R (.pure b) w t a v ↔ t = [] ∧ a = b ∧ Drift R w v := by
  constructor
  · intro h
    obtain ⟨rfl, hq, hd⟩ := Reach.of_pure h
    exact ⟨rfl, by simpa using hq, hd⟩
  · rintro ⟨rfl, rfl, hd⟩
    exact Reach.drift hd

lemma returns_op_iff {o : Op} {k : Res o → Prog Op Res α} :
    Returns M R (.op o k) w t a v ↔ ∃ w₁ r w₂ t', Drift R w w₁ ∧ M.step w₁ o r w₂ ∧
      t = ⟨o, r⟩ :: t' ∧ Returns M R (k r) w₂ t' a v := by
  constructor
  · intro h
    rcases Reach.of_op h with ⟨-, hq, -⟩ | h
    · exact absurd hq (by simp)
    · exact h
  · rintro ⟨w₁, r, w₂, t', hd, hs, rfl, h⟩
    exact (h.op hs).drift_left hd

lemma returns_bind_iff {p : Prog Op Res α} {f : α → Prog Op Res β} :
    Returns M R (p.bind f) w t c v ↔ ∃ a w₁ t₁ t₂, Returns M R p w t₁ a w₁ ∧
      Returns M R (f a) w₁ t₂ c v ∧ t = t₁ ++ t₂ := by
  constructor
  · intro h
    rcases Reach.of_bind h with ⟨p', hq, hp⟩ | h
    · cases p' with
      | pure a =>
        have hq' : f a = .pure c := hq.symm
        exact ⟨a, v, t, [], hp, by rw [hq']; exact Reach.refl, by simp⟩
      | op o k => exact absurd hq (by simp)
      | loop b k => exact absurd hq (by simp)
    · exact h
  · rintro ⟨a, w₁, t₁, t₂, hp, hf, rfl⟩
    exact hp.bind hf

lemma returns_loop_iff {b : Prog Op Res Bool} {k : Prog Op Res α} :
    Returns M R (.loop b k) w t a v ↔ ∃ x w₁ t₁ t₂, Returns M R b w t₁ x w₁ ∧
      Returns M R (Prog.again b k x) w₁ t₂ a v ∧ t = t₁ ++ t₂ := by
  constructor
  · intro h
    rcases Reach.of_loop h with ⟨-, hq, -⟩ | ⟨w₁, hd, h⟩
    · exact absurd hq (by simp)
    · exact returns_bind_iff.1 (Returns.drift_left hd h)
  · rintro ⟨x, w₁, t₁, t₂, hb, hk, rfl⟩
    exact hb.loop hk

/-- A program without loops can be run to its end on a machine that answers every
operation. -/
lemma exists_returns_of_loopFree (hM : ∀ w o, ∃ r w', M.step w o r w') (p : Prog Op Res α)
    (hp : p.LoopFree) (w : W) : ∃ t a v, Returns M R p w t a v := by
  induction p generalizing w with
  | pure a => exact ⟨[], a, w, Reach.refl⟩
  | op o k ih =>
    obtain ⟨r, w', hs⟩ := hM w o
    obtain ⟨t, a, v, h⟩ := ih r (hp r) w'
    exact ⟨_, a, v, h.op hs⟩
  | loop b k => exact absurd hp id

/-- A program whose loops repeat `body` can be run to its end on such a machine, if in every
state satisfying `F` a turn of `body` can answer `true`. -/
lemma exists_returns_of_loopsOf {S : Op → Prop} {F : W → Prop} {body : Prog Op Res Bool}
    (hM : ∀ w o, ∃ r w', M.step w o r w')
    (hop : ∀ u o r u', S o → F u → M.step u o r u' → F u') (hR : ∀ u u', F u → R u u' → F u')
    (hb : ∀ u, F u → ∃ t u', Returns M R body u t true u') (p : Prog Op Res α) (hS : p.All S)
    (hp : p.LoopsOf body) (w : W) (hw : F w) : ∃ t a v, Returns M R p w t a v := by
  induction p generalizing w with
  | pure a => exact ⟨[], a, w, Reach.refl⟩
  | op o k ih =>
    obtain ⟨r, w', hs⟩ := hM w o
    obtain ⟨t, a, v, h⟩ := ih r (hS.2 r) (hp r) w' (hop _ _ _ _ hS.1 hw hs)
    exact ⟨_, a, v, h.op hs⟩
  | loop b k _ ih =>
    obtain ⟨rfl, hk⟩ := hp
    obtain ⟨t₁, w', h₁⟩ := hb w hw
    obtain ⟨t₂, a, v, h₂⟩ := ih hS.2 hk w' (Reach.invariant hS.1 hop hR hw h₁).1
    exact ⟨_, a, v, h₁.loop h₂⟩

/-! ### The turns of a loop -/

/-- A complete run of a loop whose body performs something in every turn: turns that answer
`false`, one that answers `true`, and what follows the loop. -/
lemma returns_loop_turns {b : Prog Op Res Bool} {k : Prog Op Res α}
    (hne : ∀ u s x u', Returns M R b u s x u' → s ≠ [])
    (h : Returns M R (.loop b k) w t a v) :
    ∃ (turns : List (List (Event Op Res))) (last rest : List (Event Op Res)) (u : W),
      (∀ s ∈ turns, ∃ u u', Returns M R b u s false u') ∧
      (∃ u u', Returns M R b u last true u') ∧ t = turns.flatten ++ (last ++ rest) ∧
      Returns M R k u rest a v := by
  -- by induction on the number of events
  obtain ⟨n, hn⟩ : ∃ n, t.length = n := ⟨_, rfl⟩
  induction n using Nat.strongRecOn generalizing w t with
  | ind n ih =>
    obtain ⟨x, w₁, t₁, t₂, hb, hk, rfl⟩ := returns_loop_iff.1 h
    cases x with
    | true => exact ⟨[], t₁, t₂, w₁, by simp, ⟨w, w₁, hb⟩, rfl, hk⟩
    | false =>
      have hlt : t₂.length < n := by
        have := List.length_pos_iff.2 (hne _ _ _ _ hb)
        rw [← hn, List.length_append]
        omega
      obtain ⟨turns, last, rest, u, hturns, hlast, rfl, hu⟩ := ih t₂.length hlt hk rfl
      refine ⟨t₁ :: turns, last, rest, u, ?_, hlast, by simp, hu⟩
      rintro s (_ | ⟨_, hs⟩)
      · exact ⟨w, w₁, hb⟩
      · exact hturns s hs

/-- The events of a loop that repeats the operation `o` until the check `c` accepts its
answer. -/
def Polls (o : Op) (c : Res o → Bool) (t : List (Event Op Res)) : Prop :=
  ∃ (busy : List (Res o)) (last : Res o), (∀ r ∈ busy, c r = false) ∧ c last = true ∧
    t = busy.map (fun r => ⟨o, r⟩) ++ [⟨o, last⟩]

lemma Polls.cons {o : Op} {c : Res o → Bool} {r : Res o} (hr : c r = false)
    (h : Polls o c t) : Polls o c (⟨o, r⟩ :: t) := by
  obtain ⟨busy, last, hb, hl, rfl⟩ := h
  refine ⟨r :: busy, last, ?_, hl, rfl⟩
  rintro r' (_ | ⟨_, hr'⟩)
  · exact hr
  · exact hb r' hr'

lemma Polls.op {o : Op} {c : Res o → Bool} (h : Polls o c t) : ∀ e ∈ t, e.1 = o := by
  obtain ⟨busy, last, -, -, rfl⟩ := h
  intro e he
  rcases List.mem_append.1 he with he | he
  · obtain ⟨r, -, rfl⟩ := List.mem_map.1 he
    rfl
  · rw [List.mem_singleton.1 he]

/-- A polling loop goes on when an answer is accepted, and not before. -/
lemma returns_poll {o : Op} {c : Res o → Bool} {k : Prog Op Res α}
    (h : Returns M R (.loop (.op o fun r => .pure (c r)) k) w t a v) :
    ∃ t₁ t₂ u, Polls o c t₁ ∧ t = t₁ ++ t₂ ∧ Returns M R k u t₂ a v := by
  have hbody : ∀ u s x u', Returns M R (.op o fun r => .pure (c r)) u s x u' →
      ∃ r, s = [⟨o, r⟩] ∧ c r = x := by
    intro u s x u' hb
    obtain ⟨_, r, _, _, -, -, rfl, hp⟩ := returns_op_iff.1 hb
    obtain ⟨rfl, rfl, -⟩ := returns_pure_iff.1 hp
    exact ⟨r, rfl, rfl⟩
  have hne : ∀ u s x u', Returns M R (.op o fun r => .pure (c r)) u s x u' → s ≠ [] := by
    intro u s x u' hb
    obtain ⟨r, rfl, -⟩ := hbody u s x u' hb
    simp
  obtain ⟨turns, last, rest, u, hturns, ⟨_, _, hlast⟩, rfl, hk⟩ := returns_loop_turns hne h
  obtain ⟨r, rfl, hr⟩ := hbody _ _ _ _ hlast
  refine ⟨turns.flatten ++ [⟨o, r⟩], rest, u, ?_, by simp, hk⟩
  -- one poll for each turn
  clear h
  induction turns with
  | nil => exact ⟨[], r, by simp, hr, rfl⟩
  | cons s turns ih =>
    obtain ⟨_, _, hs⟩ := hturns s (by simp)
    obtain ⟨r', rfl, hr'⟩ := hbody _ _ _ _ hs
    exact (ih fun s hs => hturns s (by simp [hs])).cons hr'

end Interaction
