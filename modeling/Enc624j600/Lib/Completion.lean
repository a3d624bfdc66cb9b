/-
# Programs that can always be finished

`Completes M R P p` says that a run of `p` from a state satisfying `P` can be finished, whatever
has happened so far: from every program and state that it reaches there is a way to its end.
A polling loop completes when its surroundings are always able to let the poll succeed; that
they will do so is not claimed.

The rules follow the form of programs.  A loop needs an invariant in which a turn can answer
`true`, and what a turn leaves is known from a triple.
-/
import Enc624j600.Lib.Lowering

namespace Interaction

variable {Op : Type} {Res : Op → Type} {W : Type} {α β : Type}

/-- Some run of `p` from `w` returns `a` and leaves `v`. -/
def CanReturn (M : Machine Op Res W) (R : W → W → Prop) (p : Prog Op Res α) (w : W) (a : α)
    (v : W) : Prop :=
  ∃ t, Returns M R p w t a v

/-- From everything that `p` reaches, it can be run to its end. -/
def Completes (M : Machine Op Res W) (R : W → W → Prop) (P : W → Prop) (p : Prog Op Res α) :
    Prop :=
  ∀ w, P w → ∀ t q v, Reach M R p w t q v → ∃ t' a v', Returns M R q v t' a v'

variable {M : Machine Op Res W} {R : W → W → Prop} {G : Guarantee Op Res W} {P : W → Prop}

namespace CanReturn

variable {w u v : W} {a : α} {c : β}

lemma pure : CanReturn M R (.pure a) w a w := ⟨[], .refl⟩

lemma op {o : Op} {k : Res o → Prog Op Res α} {r : Res o} (h : M.step w o r u)
    (h' : CanReturn M R (k r) u a v) : CanReturn M R (.op o k) w a v :=
  h'.imp' _ fun _ ht => Returns.op h ht

lemma bind {p : Prog Op Res α} {f : α → Prog Op Res β} (h : CanReturn M R p w a u)
    (h' : CanReturn M R (f a) u c v) : CanReturn M R (p.bind f) w c v := by
  obtain ⟨t, ht⟩ := h
  exact h'.imp' _ fun _ ht' => ht.bind ht'

lemma loop {b : Prog Op Res Bool} {k : Prog Op Res α} {x : Bool} (h : CanReturn M R b w x u)
    (h' : CanReturn M R (Prog.again b k x) u a v) : CanReturn M R (.loop b k) w a v := by
  obtain ⟨t, ht⟩ := h
  exact h'.imp' _ fun _ ht' => ht.loop ht'

lemma drift_left {p : Prog Op Res α} (hd : Drift R w u) (h : CanReturn M R p u a v) :
    CanReturn M R p w a v :=
  h.imp fun _ ht => ht.drift_left hd

end CanReturn

namespace Completes

lemma start {p : Prog Op Res α} (h : Completes M R P p) {w : W} (hw : P w) :
    ∃ t a v, Returns M R p w t a v :=
  h w hw [] p w .refl

lemma pre {P' : W → Prop} {p : Prog Op Res α} (h : Completes M R P p) (hP : ∀ w, P' w → P w) :
    Completes M R P' p :=
  fun w hw => h w (hP w hw)

lemma of_exists {κ : Sort*} {P : κ → W → Prop} {p : Prog Op Res α}
    (h : ∀ i, Completes M R (P i) p) : Completes M R (fun w => ∃ i, P i w) p :=
  fun w ⟨i, hi⟩ => h i w hi

lemma pure (a : α) : Completes M R P (.pure a) := by
  intro w _ t q v hr
  obtain ⟨-, rfl, -⟩ := hr.of_pure
  exact ⟨[], a, v, .refl⟩

lemma op {o : Op} {k : Res o → Prog Op Res α} {T : Res o → W → Prop} (hst : Stable R P)
    (hcan : ∀ w, P w → ∃ r w', M.step w o r w') (hT : ∀ w r w', P w → M.step w o r w' → T r w')
    (hk : ∀ r, Completes M R (T r) (k r)) : Completes M R P (.op o k) := by
  intro w hw t q v hr
  rcases hr.of_op with ⟨-, rfl, hd⟩ | ⟨w₁, r, w₂, t', hd, hs, rfl, hk'⟩
  · have hv : P v := hst.drift hw hd
    obtain ⟨r, v', hs⟩ := hcan v hv
    obtain ⟨t', a, v'', h⟩ := (hk r).start (hT v r v' hv hs)
    exact ⟨_, a, v'', h.op hs⟩
  · exact hk r w₂ (hT w₁ r w₂ (hst.drift hw hd) hs) t' q v hk'

lemma bind {p : Prog Op Res α} {f : α → Prog Op Res β} {T : α → W → Prop}
    (hp : Completes M R P p) (ht : Triple M R G P p T) (hf : ∀ a, Completes M R (T a) (f a)) :
    Completes M R P (p.bind f) := by
  intro w hw t q v hr
  rcases hr.of_bind with ⟨p', rfl, hp'⟩ | ⟨a, w₁, t₁, t₂, ha, hf', rfl⟩
  · obtain ⟨t', a, v', ha⟩ := hp w hw t p' v hp'
    have hall : Returns M R p w (t ++ t') a v' := hp'.trans ha
    obtain ⟨t'', b, v'', hb⟩ := (hf a).start (ht.returns hw hall)
    exact ⟨_, b, v'', ha.bind hb⟩
  · exact hf a w₁ (ht.returns hw ha) t₂ q v hf'

/-- The loop rule, when the loop can be finished from every state in front of a turn. -/
lemma loop_of_front {b : Prog Op Res Bool} {k : Prog Op Res α} {J : W → Prop}
    {T : Bool → W → Prop} (hst : Stable R J) (hb : Triple M R G J b T) (hT : ∀ w, T false w → J w)
    (hcan : Completes M R J b) (hfront : ∀ w, J w → ∃ t a v, Returns M R (.loop b k) w t a v)
    (hk : Completes M R (T true) k) : Completes M R J (.loop b k) := by
  intro w hw t q v hr
  obtain ⟨hs, u, t', hses, hfalse, rfl, hat⟩ := hr.of_loop_session
  -- the turns that are over left the invariant
  have hu : J u := by
    refine (hses.invariant (J := fun hs w => (∀ c ∈ hs, c.answer = false) → J w) (fun _ => hw)
      (fun hs w w' hJ hR h => hst w w' (hJ h) hR) ?_) hfalse
    intro hs c hJ hret h
    have hc : c.answer = false := h c (by simp)
    rw [hc] at hret
    exact hT _ (hb.returns (hJ fun d hd => h d (by simp [hd])) hret)
  cases hat with
  | front => exact hfront _ hu
  | turn hb' =>
    obtain ⟨t₂, x, v', hx⟩ := hcan u hu _ _ _ hb'
    have hTx : T x v' := hb.returns hu (hb'.trans hx)
    obtain ⟨t₃, a, v'', h⟩ : ∃ t a v'', Returns M R (Prog.again b k x) v' t a v'' := by
      cases x with
      | true => exact hk.start hTx
      | false => exact hfront v' (hT v' hTx)
    exact ⟨_, a, v'', hx.bind h⟩
  | past hx hk' => exact hk _ (hb.returns hu hx) _ _ _ hk'

/-- The loop rule, when a turn can answer `true` under the invariant `J`. -/
lemma loop {b : Prog Op Res Bool} {k : Prog Op Res α} {J : W → Prop} {T : Bool → W → Prop}
    (hst : Stable R J) (hb : Triple M R G J b T) (hT : ∀ w, T false w → J w)
    (hcan : Completes M R J b) (hexit : ∀ w, J w → ∃ t w', Returns M R b w t true w')
    (hk : Completes M R (T true) k) : Completes M R J (.loop b k) := by
  refine loop_of_front hst hb hT hcan (fun w hw => ?_) hk
  obtain ⟨t, w', hx⟩ := hexit w hw
  obtain ⟨t', a, v, h⟩ := hk.start (hb.returns hw hx)
  exact ⟨_, a, v, hx.loop h⟩

end Completes

end Interaction
