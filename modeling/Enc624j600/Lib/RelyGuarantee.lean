/-
# Rely–guarantee triples for interaction programs

`Triple M R G P p Q` says of every run of `p` on the machine `M` that starts in a state
satisfying `P`, however its surroundings interfere by steps in `R`: every operation it
performs satisfies the guarantee `G`, and if it stops with `a`, the state then satisfies
`Q a`.  It speaks of unfinished runs as well, through `G`.

The rules follow the form of programs.  An assertion in front of an operation has to be
stable, that is, `R` must keep it.  The last section composes two programs that run
interleaved, each of them being part of the surroundings of the other.
-/
import Enc624j600.Lib.Steps

namespace Interaction

variable {Op : Type} {Res : Op → Type} {W : Type} {α β : Type}

/-- What a program promises about each of its own operations. -/
abbrev Guarantee (Op : Type) (Res : Op → Type) (W : Type) : Type :=
  W → (o : Op) → Res o → W → Prop

/-- The surroundings keep the assertion. -/
def Stable (R : W → W → Prop) (P : W → Prop) : Prop := ∀ w w', P w → R w w' → P w'

lemma Stable.drift {R : W → W → Prop} {P : W → Prop} (h : Stable R P) {w w' : W} (hP : P w)
    (hd : Drift R w w') : P w' := by
  induction hd with
  | refl => exact hP
  | tail _ hR ih => exact h _ _ ih hR

lemma Stable.and {R : W → W → Prop} {P Q : W → Prop} (hP : Stable R P) (hQ : Stable R Q) :
    Stable R fun w => P w ∧ Q w :=
  fun w w' h hR => ⟨hP w w' h.1 hR, hQ w w' h.2 hR⟩

lemma Stable.exists {ι : Sort*} {R : W → W → Prop} {P : ι → W → Prop}
    (h : ∀ i, Stable R (P i)) : Stable R fun w => ∃ i, P i w :=
  fun w w' ⟨i, hi⟩ hR => ⟨i, h i w w' hi hR⟩

lemma stable_const {R : W → W → Prop} (φ : Prop) : Stable R fun _ => φ :=
  fun _ _ h _ => h

/-- The rely–guarantee triple. -/
def Triple (M : Machine Op Res W) (R : W → W → Prop) (G : Guarantee Op Res W) (P : W → Prop)
    (p : Prog Op Res α) (Q : α → W → Prop) : Prop :=
  ∀ w, P w → ∀ t q v, Reach M R p w t q v →
    (∀ a, q = .pure a → Q a v) ∧
      ∀ o k r v', q = .op o k → M.step v o r v' → G v o r v'

/-- The guarantee that promises nothing. -/
def noGuarantee : Guarantee Op Res W := fun _ _ _ _ => True

variable {M : Machine Op Res W} {R : W → W → Prop} {G : Guarantee Op Res W}

namespace Triple

variable {P : W → Prop} {p : Prog Op Res α} {Q : α → W → Prop}

lemma returns (h : Triple M R G P p Q) {w v : W} {t : List (Event Op Res)} {a : α} (hw : P w)
    (hr : Returns M R p w t a v) : Q a v :=
  (h w hw t _ v hr).1 a rfl

lemma pre {P' : W → Prop} (h : Triple M R G P p Q) (hP : ∀ w, P' w → P w) :
    Triple M R G P' p Q :=
  fun w hw => h w (hP w hw)

lemma post {Q' : α → W → Prop} (h : Triple M R G P p Q) (hQ : ∀ a w, Q a w → Q' a w) :
    Triple M R G P p Q' := by
  intro w hw t q v hr
  obtain ⟨h1, h2⟩ := h w hw t q v hr
  exact ⟨fun a ha => hQ a v (h1 a ha), h2⟩

lemma guarantee {G' : Guarantee Op Res W} (h : Triple M R G P p Q)
    (hG : ∀ w o r w', G w o r w' → G' w o r w') : Triple M R G' P p Q := by
  intro w hw t q v hr
  obtain ⟨h1, h2⟩ := h w hw t q v hr
  exact ⟨h1, fun o k r v' hq hs => hG _ _ _ _ (h2 o k r v' hq hs)⟩

lemma rely {R' : W → W → Prop} (h : Triple M R G P p Q) (hR : ∀ w w', R' w w' → R w w') :
    Triple M R' G P p Q :=
  fun w hw t q v hr => h w hw t q v (hr.mono hR)

lemma of_exists {ι : Sort*} {P : ι → W → Prop} (h : ∀ i, Triple M R G (P i) p Q) :
    Triple M R G (fun w => ∃ i, P i w) p Q :=
  fun w ⟨i, hi⟩ => h i w hi

lemma of_and {φ : Prop} (h : φ → Triple M R G P p Q) :
    Triple M R G (fun w => φ ∧ P w) p Q :=
  fun w ⟨hφ, hP⟩ => h hφ w hP

/-- A fact that every state in front of the program gives. -/
lemma of_fact {φ : Prop} (hφ : ∀ w, P w → φ) (h : φ → Triple M R G P p Q) :
    Triple M R G P p Q :=
  fun w hw => h (hφ w hw) w hw

lemma both {P' : W → Prop} {Q' : α → W → Prop} {G' : Guarantee Op Res W}
    (h : Triple M R G P p Q) (h' : Triple M R G' P' p Q') :
    Triple M R (fun w o r w' => G w o r w' ∧ G' w o r w') (fun w => P w ∧ P' w) p
      fun a w => Q a w ∧ Q' a w := by
  intro w hw t q v hr
  obtain ⟨h1, h2⟩ := h w hw.1 t q v hr
  obtain ⟨h1', h2'⟩ := h' w hw.2 t q v hr
  exact ⟨fun a ha => ⟨h1 a ha, h1' a ha⟩,
    fun o k r v' hq hs => ⟨h2 o k r v' hq hs, h2' o k r v' hq hs⟩⟩

lemma pure {a : α} (hst : Stable R P) (hQ : ∀ w, P w → Q a w) :
    Triple M R G P (.pure a) Q := by
  intro w hw t q v hr
  obtain ⟨-, rfl, hd⟩ := hr.of_pure
  refine ⟨?_, fun o k r v' hq => absurd hq (by simp)⟩
  intro b hb
  obtain rfl : a = b := by simpa using hb
  exact hQ v (hst.drift hw hd)

lemma op {o : Op} {k : Res o → Prog Op Res α} {T : Res o → W → Prop} (hst : Stable R P)
    (hop : ∀ w r w', P w → M.step w o r w' → G w o r w' ∧ T r w')
    (hk : ∀ r, Triple M R G (T r) (k r) Q) : Triple M R G P (.op o k) Q := by
  intro w hw t q v hr
  rcases hr.of_op with ⟨-, rfl, hd⟩ | ⟨w₁, r, w₂, t', hd, hs, rfl, hk'⟩
  · refine ⟨fun a ha => absurd ha (by simp), ?_⟩
    rintro o' k' r v' hq hs
    cases hq
    exact (hop v r v' (hst.drift hw hd) hs).1
  · exact hk r w₂ (hop w₁ r w₂ (hst.drift hw hd) hs).2 t' q v hk'

lemma bind {p : Prog Op Res α} {f : α → Prog Op Res β} {T : α → W → Prop} {Q : β → W → Prop}
    (hp : Triple M R G P p T) (hf : ∀ a, Triple M R G (T a) (f a) Q) :
    Triple M R G P (p.bind f) Q := by
  intro w hw t q v hr
  rcases hr.of_bind with ⟨p', rfl, hp'⟩ | ⟨a, w₁, t₁, t₂, ha, hf', rfl⟩
  · cases p' with
    | pure a => exact hf a v (hp.returns hw hp') [] _ v .refl
    | op o k =>
      refine ⟨fun a ha => absurd ha (by simp), ?_⟩
      rintro o' k' r v' hq hs
      cases hq
      exact (hp w hw t _ v hp').2 o k r v' rfl hs
    | loop b k =>
      exact ⟨fun a ha => absurd ha (by simp), fun o k' r v' hq => absurd hq (by simp)⟩
  · exact hf a w₁ (hp.returns hw ha) t₂ q v hf'

/-- The programs that a loop can be in: in front of a turn, inside a turn, or past it. -/
private lemma loop_reach {b : Prog Op Res Bool} {k : Prog Op Res α} {J : W → Prop}
    {T : Bool → W → Prop} (hst : Stable R J) (hb : Triple M R G J b T)
    (hT : ∀ w, T false w → J w) {w v : W} {t : List (Event Op Res)} {q : Prog Op Res α}
    (hw : J w) (hr : Reach M R (.loop b k) w t q v) :
    (q = .loop b k ∧ J v) ∨
      (∃ u t' b', J u ∧ Reach M R b u t' b' v ∧ q = b'.bind (Prog.again b k)) ∨
      ∃ u t', T true u ∧ Reach M R k u t' q v := by
  induction hr with
  | refl => exact Or.inl ⟨rfl, hw⟩
  | @tail t t' q q' v v' _ hs ih =>
    rcases ih with ⟨rfl, hJ⟩ | ⟨u, s, b', hu, hbr, rfl⟩ | ⟨u, s, hu, hkr⟩
    · cases hs with
      | env h => exact Or.inl ⟨rfl, hst _ _ hJ h⟩
      | unroll => exact Or.inr (Or.inl ⟨v, [], b, hJ, .refl, rfl⟩)
    · cases b' with
      | op o k' =>
        cases hs with
        | env h => exact Or.inr (Or.inl ⟨u, s, _, hu, by simpa using hbr.tail (.env h), rfl⟩)
        | op h => exact Or.inr (Or.inl ⟨u, _, _, hu, hbr.tail (.op h), rfl⟩)
      | loop b'' k'' =>
        cases hs with
        | env h => exact Or.inr (Or.inl ⟨u, s, _, hu, by simpa using hbr.tail (.env h), rfl⟩)
        | unroll =>
          refine Or.inr (Or.inl ⟨u, _, _, hu, hbr.tail .unroll, ?_⟩)
          simp only [Prog.bind_assoc, Prog.again_bind]
      | pure x =>
        -- the turn is over: its answer says where the run goes on
        have hx : T x v := hb.returns hu hbr
        cases x with
        | true => exact Or.inr (Or.inr ⟨v, _, hx, .single hs⟩)
        | false =>
          have hJ : J v := hT v hx
          have hs' : Step M R (.loop b k) v t' q' v' := hs
          cases hs' with
          | env h => exact Or.inl ⟨rfl, hst _ _ hJ h⟩
          | unroll => exact Or.inr (Or.inl ⟨v, [], b, hJ, .refl, rfl⟩)
    · exact Or.inr (Or.inr ⟨u, _, hu, hkr.tail hs⟩)

/-- The rule for loops, with the loop invariant `J`. -/
lemma loop {b : Prog Op Res Bool} {k : Prog Op Res α} {J : W → Prop} {T : Bool → W → Prop}
    (hst : Stable R J) (hb : Triple M R G J b T) (hT : ∀ w, T false w → J w)
    (hk : Triple M R G (T true) k Q) : Triple M R G J (.loop b k) Q := by
  intro w hw t q v hr
  rcases loop_reach hst hb hT hw hr with ⟨rfl, -⟩ | ⟨u, t', b', hu, hbr, rfl⟩ | ⟨u, t', hu, hkr⟩
  · exact ⟨fun a ha => absurd ha (by simp), fun o k' r v' hq => absurd hq (by simp)⟩
  · cases b' with
    | op o k' =>
      refine ⟨fun a ha => absurd ha (by simp), ?_⟩
      rintro o' k'' r v' hq hs
      cases hq
      exact (hb u hu t' _ v hbr).2 o k' r v' rfl hs
    | loop b'' k'' =>
      exact ⟨fun a ha => absurd ha (by simp), fun o k' r v' hq => absurd hq (by simp)⟩
    | pure x =>
      have hx : T x v := hb.returns hu hbr
      cases x with
      | true => exact hk v hx [] _ v .refl
      | false =>
        exact ⟨fun a ha => absurd (show Prog.loop b k = .pure a from ha) (by simp),
          fun o k' r v' hq => absurd (show Prog.loop b k = .op o k' from hq) (by simp)⟩
  · exact hk u hu t' q v hkr

/-- A program whose operations all meet the guarantee in states satisfying `F`, when `F` is
kept by those operations and by the surroundings. -/
lemma of_all {S : Op → Prop} {F : W → Prop} (hp : p.All S)
    (hop : ∀ w o r w', S o → F w → M.step w o r w' → G w o r w' ∧ F w') (hR : Stable R F) :
    Triple M R G F p fun _ w => F w := by
  intro w hw t q v hr
  obtain ⟨hF, hS⟩ := hr.invariant hp (fun u o r u' hS hF hs => (hop u o r u' hS hF hs).2) hR hw
  refine ⟨fun _ _ => hF, ?_⟩
  rintro o k r v' rfl hs
  exact (hop v o r v' hS.1 hF hs).1

end Triple

/-! ### Two programs running interleaved -/

/-- The states that two programs can reach when their operations are interleaved. -/
inductive Interleave (M : Machine Op Res W) (R : W → W → Prop) (p : Prog Op Res α)
    (q : Prog Op Res β) (w : W) : Prog Op Res α → Prog Op Res β → W → Prop where
  | refl : Interleave M R p q w p q w
  | left {p' p'' : Prog Op Res α} {q' : Prog Op Res β} {v v' : W} {t : List (Event Op Res)} :
      Interleave M R p q w p' q' v → Step M R p' v t p'' v' → Interleave M R p q w p'' q' v'
  | right {p' : Prog Op Res α} {q' q'' : Prog Op Res β} {v v' : W} {t : List (Event Op Res)} :
      Interleave M R p q w p' q' v → Step M R q' v t q'' v' → Interleave M R p q w p' q'' v'

/-- Each of two interleaved programs runs as if it were alone, the other one being part of
its surroundings, provided that each guarantees what the other one relies on. -/
lemma Interleave.reach {p p' : Prog Op Res α} {q q' : Prog Op Res β} {w v : W}
    {R₁ R₂ : W → W → Prop} {G₁ G₂ : Guarantee Op Res W} {P₁ P₂ : W → Prop}
    {Q₁ : α → W → Prop} {Q₂ : β → W → Prop}
    (hp : Triple M R₁ G₁ P₁ p Q₁) (hq : Triple M R₂ G₂ P₂ q Q₂)
    (h₁ : ∀ u u', R u u' → R₁ u u') (h₂ : ∀ u u', R u u' → R₂ u u')
    (h₁₂ : ∀ u o r u', G₁ u o r u' → R₂ u u') (h₂₁ : ∀ u o r u', G₂ u o r u' → R₁ u u')
    (hw₁ : P₁ w) (hw₂ : P₂ w) (h : Interleave M R p q w p' q' v) :
    (∃ t, Reach M R₁ p w t p' v) ∧ ∃ t, Reach M R₂ q w t q' v := by
  induction h with
  | refl => exact ⟨⟨[], .refl⟩, ⟨[], .refl⟩⟩
  | left _ hs ih =>
    -- a step of the left program is one of the surroundings for the right one
    obtain ⟨⟨t₁, hr₁⟩, ⟨t₂, hr₂⟩⟩ := ih
    cases hs with
    | env h => exact ⟨⟨_, hr₁.tail (.env (h₁ _ _ h))⟩, ⟨_, hr₂.tail (.env (h₂ _ _ h))⟩⟩
    | op h =>
      have hG := (hp w hw₁ _ _ _ hr₁).2 _ _ _ _ rfl h
      exact ⟨⟨_, hr₁.tail (.op h)⟩, ⟨_, hr₂.tail (.env (h₁₂ _ _ _ _ hG))⟩⟩
    | unroll => exact ⟨⟨_, hr₁.tail .unroll⟩, ⟨_, hr₂⟩⟩
  | right _ hs ih =>
    obtain ⟨⟨t₁, hr₁⟩, ⟨t₂, hr₂⟩⟩ := ih
    cases hs with
    | env h => exact ⟨⟨_, hr₁.tail (.env (h₁ _ _ h))⟩, ⟨_, hr₂.tail (.env (h₂ _ _ h))⟩⟩
    | op h =>
      have hG := (hq w hw₂ _ _ _ hr₂).2 _ _ _ _ rfl h
      exact ⟨⟨_, hr₁.tail (.env (h₂₁ _ _ _ _ hG))⟩, ⟨_, hr₂.tail (.op h)⟩⟩
    | unroll => exact ⟨⟨_, hr₁⟩, ⟨_, hr₂.tail .unroll⟩⟩

/-- The rule for parallel composition. -/
theorem Interleave.returns {p : Prog Op Res α} {q : Prog Op Res β} {w v : W} {a : α} {b : β}
    {R₁ R₂ : W → W → Prop} {G₁ G₂ : Guarantee Op Res W} {P₁ P₂ : W → Prop}
    {Q₁ : α → W → Prop} {Q₂ : β → W → Prop}
    (hp : Triple M R₁ G₁ P₁ p Q₁) (hq : Triple M R₂ G₂ P₂ q Q₂)
    (h₁ : ∀ u u', R u u' → R₁ u u') (h₂ : ∀ u u', R u u' → R₂ u u')
    (h₁₂ : ∀ u o r u', G₁ u o r u' → R₂ u u') (h₂₁ : ∀ u o r u', G₂ u o r u' → R₁ u u')
    (hw₁ : P₁ w) (hw₂ : P₂ w) (h : Interleave M R p q w (.pure a) (.pure b) v) :
    Q₁ a v ∧ Q₂ b v := by
  obtain ⟨⟨t₁, hr₁⟩, ⟨t₂, hr₂⟩⟩ := h.reach hp hq h₁ h₂ h₁₂ h₂₁ hw₁ hw₂
  exact ⟨hp.returns hw₁ hr₁, hq.returns hw₂ hr₂⟩

end Interaction
