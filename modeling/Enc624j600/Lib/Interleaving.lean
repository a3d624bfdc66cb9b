/-
# Programs side by side

Two programs that run one after the other are a special interleaving of the two.  What an
interleaved program computes does not depend on the other one if its operations cannot tell
apart the states that the other one leads to: a *view* relates the states that look alike to the
program, and a program without loops has one outcome for all states that look alike.
-/
import Enc624j600.Lib.RelyGuarantee

namespace Interaction

variable {Op : Type} {Res : Op → Type} {W : Type} {α β : Type} {M : Machine Op Res W}
  {R : W → W → Prop}

/-! ### Interleavings -/

namespace Interleave

variable {p p' p'' : Prog Op Res α} {q q' q'' : Prog Op Res β} {w u v : W} {a : α} {b : β}
  {t : List (Event Op Res)}

lemma trans (h : Interleave M R p q w p' q' u) (h' : Interleave M R p' q' u p'' q'' v) :
    Interleave M R p q w p'' q'' v := by
  induction h' with
  | refl => exact h
  | left _ hs ih => exact ih.left hs
  | right _ hs ih => exact ih.right hs

/-- The first program runs on. -/
lemma run_left (h : Interleave M R p q w p' q' u) (hr : Reach M R p' u t p'' v) :
    Interleave M R p q w p'' q' v := by
  induction hr with
  | refl => exact h
  | tail _ hs ih => exact ih.left hs

lemma run_right (h : Interleave M R p q w p' q' u) (hr : Reach M R q' u t q'' v) :
    Interleave M R p q w p' q'' v := by
  induction hr with
  | refl => exact h
  | tail _ hs ih => exact ih.right hs

/-- A program that has stopped stays so. -/
lemma of_pure_right (h : Interleave M R p (.pure b) w p' q' v) : q' = .pure b := by
  induction h with
  | refl => rfl
  | left _ _ ih => exact ih
  | right _ hs ih =>
    subst ih
    cases hs with
    | env _ => rfl

/-- The first program runs, and then the second one. -/
lemma of_left_right {c : α × β}
    (h : Returns M R (p.bind fun a => q.bind fun b => .pure (a, b)) w t c v) :
    Interleave M R p q w (.pure c.1) (.pure c.2) v := by
  obtain ⟨a, u, t₁, t₂, hp, h', rfl⟩ := returns_bind_iff.1 h
  obtain ⟨b, u', t₃, t₄, hq, hpure, rfl⟩ := returns_bind_iff.1 h'
  obtain ⟨rfl, rfl, hd⟩ := returns_pure_iff.1 hpure
  exact (Interleave.refl.run_left hp).run_right (hq.drift_right hd)

/-- The second program runs, and then the first one. -/
lemma of_right_left {c : α × β}
    (h : Returns M R (q.bind fun b => p.bind fun a => .pure (a, b)) w t c v) :
    Interleave M R p q w (.pure c.1) (.pure c.2) v := by
  obtain ⟨b, u, t₁, t₂, hq, h', rfl⟩ := returns_bind_iff.1 h
  obtain ⟨a, u', t₃, t₄, hp, hpure, rfl⟩ := returns_bind_iff.1 h'
  obtain ⟨rfl, rfl, hd⟩ := returns_pure_iff.1 hpure
  exact (Interleave.refl.run_right hq).run_left (hp.drift_right hd)

end Interleave

/-! ### Views -/

/-- The operations in `S` are answered alike in states that look alike, and lead to states that
look alike. -/
def Consistent (M : Machine Op Res W) (S : Op → Prop) (V : W → W → Prop) : Prop :=
  ∀ u u' o r r' x x', S o → V u u' → M.step u o r x → M.step u' o r' x' → r = r' ∧ V x x'

/-- The steps in `R` do not change how a state looks. -/
def Respects (R V : W → W → Prop) : Prop := ∀ u x, V u u → R u x → V u x

/-- A relation between states that look alike; a state that is not related to itself has no
look. -/
structure IsView (V : W → W → Prop) : Prop where
  symm : ∀ {u v}, V u v → V v u
  trans : ∀ {u v w}, V u v → V v w → V u w

variable {V : W → W → Prop}

lemma IsView.left (hV : IsView V) {u v : W} (h : V u v) : V u u := hV.trans h (hV.symm h)

lemma IsView.right (hV : IsView V) {u v : W} (h : V u v) : V v v := hV.trans (hV.symm h) h

lemma Respects.drift (hR : Respects R V) (hV : IsView V) {u x : W} (hu : V u u)
    (hd : Drift R u x) : V u x := by
  induction hd with
  | refl => exact hu
  | tail _ hs ih => exact hV.trans ih (hR _ _ (hV.right ih) hs)

lemma Respects.drift₂ (hR : Respects R V) (hV : IsView V) {u u' x x' : W} (hu : V u u')
    (hd : Drift R u x) (hd' : Drift R u' x') : V x x' := by
  have h₁ := hR.drift hV (hV.left hu) hd
  have h₂ := hR.drift hV (hV.right hu) hd'
  exact hV.trans (hV.symm h₁) (hV.trans hu h₂)

/-- The first operation of two runs from states that look alike is performed in such states. -/
lemma Respects.returns_op (hR : Respects R V) (hV : IsView V) {o : Op}
    {k k' : Res o → Prog Op Res α} {u u' x x' : W} {t t' : List (Event Op Res)} {a a' : α}
    (hu : V u u') (h : Returns M R (.op o k) u t a x) (h' : Returns M R (.op o k') u' t' a' x') :
    ∃ v r w s v' r' w' s', V u v ∧ V v v' ∧ M.step v o r w ∧ M.step v' o r' w' ∧
      t = ⟨o, r⟩ :: s ∧ t' = ⟨o, r'⟩ :: s' ∧ Returns M R (k r) w s a x ∧
        Returns M R (k' r') w' s' a' x' := by
  obtain ⟨v, r, w, s, hd, hs, rfl, hk⟩ := returns_op_iff.1 h
  obtain ⟨v', r', w', s', hd', hs', rfl, hk'⟩ := returns_op_iff.1 h'
  exact ⟨v, r, w, s, v', r', w', s', hR.drift hV (hV.left hu) hd, hR.drift₂ hV hu hd hd', hs, hs',
    rfl, rfl, hk, hk'⟩

/-- A program without loops has one outcome for all states that look alike. -/
lemma Consistent.returns_unique {S : Op → Prop} (hV : IsView V) (hM : Consistent M S V)
    (hR : Respects R V) {p : Prog Op Res α} (hp : p.All S) (hfree : p.LoopFree) {u u' x x' : W}
    {t t' : List (Event Op Res)} {a a' : α} (hu : V u u') (h : Returns M R p u t a x)
    (h' : Returns M R p u' t' a' x') : t = t' ∧ a = a' ∧ V x x' := by
  induction p generalizing u u' t t' with
  | pure b =>
    obtain ⟨rfl, rfl, hd⟩ := returns_pure_iff.1 h
    obtain ⟨rfl, rfl, hd'⟩ := returns_pure_iff.1 h'
    exact ⟨rfl, rfl, hR.drift₂ hV hu hd hd'⟩
  | op o k ih =>
    obtain ⟨v, r, w, s, v', r', w', s', -, hv, hs, hs', rfl, rfl, hk, hk'⟩ :=
      hR.returns_op hV hu h h'
    obtain ⟨rfl, hw⟩ := hM _ _ _ _ _ _ _ hp.1 hv hs hs'
    obtain ⟨rfl, rfl, hx⟩ := ih r (hp.2 r) (hfree r) hw hk hk'
    exact ⟨rfl, rfl, hx⟩
  | loop b k => exact absurd hfree id

/-! ### Several calls -/

/-- The programs `p i`, one after the other, with their answers. -/
def Prog.each {ι : Type} (p : ι → Prog Op Res α) : List ι → Prog Op Res (List α)
  | [] => .pure []
  | i :: is => (p i).bind fun a => (each p is).bind fun as => .pure (a :: as)

/-- What every program keeps, all of them keep. -/
lemma Triple.each {ι : Type} {G : Guarantee Op Res W} {J : W → Prop} {p : ι → Prog Op Res α}
    (hst : Stable R J) (hp : ∀ i, Triple M R G J (p i) fun _ => J) (is : List ι) :
    Triple M R G J (Prog.each p is) fun _ => J := by
  induction is with
  | nil => exact Triple.pure hst fun _ h => h
  | cons i is ih =>
    exact Triple.bind (hp i) fun _ => Triple.bind ih fun _ => Triple.pure hst fun _ h => h

end Interaction
