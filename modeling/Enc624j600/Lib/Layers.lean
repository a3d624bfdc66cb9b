/-
# Layers of machines

A lowered program runs on a machine below.  Seen from above, each operation is a complete run of
the program in its place: `Machine.complete` is the machine whose steps are these runs, and the
runs of a program on it are the runs of the lowered program.

Between two machines with the same operations, runs are carried over step by step.  The lower
machine may need an invariant for its steps to be steps above, such as a device being at rest
between two operations; it is assumed in front of every operation and shown again after it.
-/
import Enc624j600.Lib.Lowering

namespace Interaction

variable {Op Op' : Type} {Res : Op → Type} {Res' : Op' → Type} {W W' : Type} {α β ι : Type}

/-! ### Lowering twice -/

lemma Prog.lower_bind (f : ∀ o, Prog Op' Res' (Res o)) (p : Prog Op Res α)
    (g : α → Prog Op Res β) : (p.bind g).lower f = (p.lower f).bind fun a => (g a).lower f := by
  induction p with
  | pure a => rfl
  | op o k ih => simp only [Prog.op_bind, Prog.lower_op, ih, Prog.bind_assoc]
  | loop b k _ ih => simp only [Prog.loop_bind, Prog.lower_loop, ih]

lemma Prog.lower_lower {Op'' : Type} {Res'' : Op'' → Type} (f : ∀ o, Prog Op' Res' (Res o))
    (g : ∀ o, Prog Op'' Res'' (Res' o)) (p : Prog Op Res α) :
    (p.lower f).lower g = p.lower fun o => (f o).lower g := by
  induction p with
  | pure a => rfl
  | op o k ih => simp only [Prog.lower_op, Prog.lower_bind, ih]
  | loop b k ihb ihk => simp only [Prog.lower_loop, ihb, ihk]

/-! ### The machine of complete runs -/

section Complete

variable (M' : Machine Op' Res' W') (R' : W' → W' → Prop) (f : ∀ o, Prog Op' Res' (Res o))

/-- The machine that performs `o` as a complete run of `f o`. -/
def Machine.complete : Machine Op Res W' where
  step u o r u' := ∃ t, Returns M' R' (f o) u t r u'

variable {M' R' f}

/-- The runs of a lowered program, seen from above. -/
theorem returns_lower_iff {p : Prog Op Res α} {u v : W'} {a : α} :
    (∃ t, Returns M' R' (p.lower f) u t a v) ↔
      ∃ s, Returns (M'.complete R' f) R' p u s a v := by
  have hall : p.All fun _ => True := Prog.all_of_forall (fun _ => trivial) p
  constructor
  · rintro ⟨t, h⟩
    have sim : Simulates (M'.complete R' f) R' M' R' f id (fun _ => True) fun _ _ => True :=
      { env := fun h => .single h
        op := fun {_ u t _ u'} _ h => ⟨⟨u, u', .refl, ⟨t, h⟩, .refl⟩, trivial⟩ }
    obtain ⟨s, hs, -⟩ := sim.returns hall h
    exact ⟨s, hs⟩
  · rintro ⟨s, h⟩
    have real : Realises (M'.complete R' f) R' M' R' f id fun _ => True :=
      { env := fun h => .single h
        op := fun _ h => h }
    exact real.returns hall h

end Complete

/-! ### Carrying runs over -/

section Carry

variable {M : Machine Op Res W} {R : W → W → Prop} {M' : Machine Op Res W'} {R' : W' → W' → Prop}
  {π : W' → W} {I : W' → Prop} {S : Op → Prop}

variable (M R M' R' π I S) in
/-- Under the invariant `I`, the machine `M'` does what `M` does, for the operations in `S`. -/
structure Carries : Prop where
  env : ∀ {u u'}, I u → R' u u' → I u' ∧ Drift R (π u) (π u')
  op : ∀ {u o r u'}, S o → I u → M'.step u o r u' →
    I u' ∧ ∃ w w', Drift R (π u) w ∧ M.step w o r w' ∧ Drift R w' (π u')

/-- The steps of `M'` are steps of `M`, so its runs are. -/
lemma Carries.reach (hc : Carries M R M' R' π I S) {p q : Prog Op Res α} (hp : p.All S)
    {u v : W'} {t : List (Event Op Res)} (hu : I u) (h : Reach M' R' p u t q v) :
    I v ∧ q.All S ∧ Reach M R p (π u) t q (π v) := by
  induction h with
  | refl => exact ⟨hu, hp, .refl⟩
  | tail _ hs ih =>
    obtain ⟨hI, hS, hr⟩ := ih
    cases hs with
    | env h =>
      obtain ⟨hI', hd⟩ := hc.env hI h
      exact ⟨hI', hS, hr.trans (.drift hd)⟩
    | op h =>
      obtain ⟨hI', w, w', hd, hstep, hd'⟩ := hc.op hS.1 hI h
      refine ⟨hI', hS.2 _, ?_⟩
      simpa using hr.trans ((Reach.drift hd).trans ((Reach.single (.op hstep)).trans (.drift hd')))
    | unroll => exact ⟨hI, Prog.All.bind hS.1 (Prog.All.again hS.1 hS.2), hr.tail .unroll⟩

lemma Carries.returns (hc : Carries M R M' R' π I S) {p : Prog Op Res α} (hp : p.All S)
    {u v : W'} {t : List (Event Op Res)} {a : α} (hu : I u) (h : Returns M' R' p u t a v) :
    I v ∧ Returns M R p (π u) t a (π v) :=
  ⟨(hc.reach hp hu h).1, (hc.reach hp hu h).2.2⟩

variable (M R M' R' π I S) in
/-- Whatever `M` does can be done by `M'` from every state that stands for its state. -/
structure Lifts : Prop where
  env : ∀ {u w}, I u → R (π u) w → ∃ u', Drift R' u u' ∧ I u' ∧ π u' = w
  op : ∀ {u o r w}, S o → I u → M.step (π u) o r w → ∃ u', M'.step u o r u' ∧ I u' ∧ π u' = w

/-- The runs of `M` are runs of `M'`. -/
lemma Lifts.reach (hl : Lifts M R M' R' π I S) {p q : Prog Op Res α} (hp : p.All S) {u : W'} {w : W}
    {t : List (Event Op Res)} (hu : I u) (h : Reach M R p (π u) t q w) :
    ∃ v, Reach M' R' p u t q v ∧ I v ∧ q.All S ∧ π v = w := by
  induction h with
  | refl => exact ⟨u, .refl, hu, hp, rfl⟩
  | tail _ hs ih =>
    obtain ⟨v, hr, hv, hS, rfl⟩ := ih
    cases hs with
    | env h =>
      obtain ⟨v', hd, hv', rfl⟩ := hl.env hv h
      exact ⟨v', hr.trans (.drift hd), hv', hS, rfl⟩
    | op h =>
      obtain ⟨v', hstep, hv', rfl⟩ := hl.op hS.1 hv h
      exact ⟨v', hr.tail (.op hstep), hv', hS.2 _, rfl⟩
    | unroll => exact ⟨v, hr.tail .unroll, hv, Prog.All.bind hS.1 (Prog.All.again hS.1 hS.2), rfl⟩

lemma Lifts.returns (hl : Lifts M R M' R' π I S) {p : Prog Op Res α} (hp : p.All S) {u : W'} {w : W}
    {t : List (Event Op Res)} {a : α} (hu : I u) (h : Returns M R p (π u) t a w) :
    ∃ v, Returns M' R' p u t a v ∧ I v ∧ π v = w := by
  obtain ⟨v, hr, hv, -, hw⟩ := hl.reach hp hu h
  exact ⟨v, hr, hv, hw⟩

end Carry

/-- A session whose calls are known to be calls of another one, under an invariant of the
states between them. -/
lemma Session.carry {M : Machine Op Res W} {R : W → W → Prop} {M' : Machine Op' Res' W'}
    {R' : W' → W' → Prop} {π : W' → W} {I : W' → Prop} {T : List (Event Op Res) →
    List (Event Op' Res') → Prop} {q : ι → Prog Op' Res' α} {p : ι → Prog Op Res α}
    (henv : ∀ {u u'}, I u → R' u u' → I u' ∧ Drift R (π u) (π u'))
    (hcall : ∀ {i u t a v}, I u → Returns M' R' (q i) u t a v →
      I v ∧ ∃ s, Returns M R (p i) (π u) s a (π v) ∧ T s t)
    {u v : W'} {h : List (Call Op' Res' W' ι α)} (hs : Session M' R' q u h v) (hu : I u) :
    I v ∧ ∃ h', Session M R p (π u) h' (π v) ∧ List.Forall₂ (Implements π T) h h' := by
  induction hs with
  | start => exact ⟨hu, [], .start, .nil⟩
  | env _ hR ih =>
    obtain ⟨hI, h', hs, hh⟩ := ih
    obtain ⟨hI', hd⟩ := henv hI hR
    exact ⟨hI', h', hs.drift hd, hh⟩
  | @call h c _ hr ih =>
    obtain ⟨hI, h', hs, hh⟩ := ih
    obtain ⟨hI', s, hr', hT⟩ := hcall hI hr
    have hc := hs.call (c := ⟨c.program, π c.before, s, c.answer, π c.after⟩) hr'
    exact ⟨hI', _, hc, List.rel_append hh (.cons ⟨rfl, rfl, rfl, rfl, hT⟩ .nil)⟩

/-- The other direction, for calls that can be made below. -/
lemma Session.lift {M : Machine Op Res W} {R : W → W → Prop} {M' : Machine Op' Res' W'}
    {R' : W' → W' → Prop} {π : W' → W} {I : W' → Prop} {q : ι → Prog Op' Res' α}
    {p : ι → Prog Op Res α}
    (henv : ∀ {u w}, I u → R (π u) w → ∃ u', Drift R' u u' ∧ I u' ∧ π u' = w)
    (hcall : ∀ {i u s a w}, I u → Returns M R (p i) (π u) s a w →
      ∃ t u', Returns M' R' (q i) u t a u' ∧ I u' ∧ π u' = w)
    {u : W'} {w : W} {h : List (Call Op Res W ι α)} (hs : Session M R p (π u) h w) (hu : I u) :
    ∃ h' v, Session M' R' q u h' v ∧ I v ∧ π v = w ∧
      List.Forall₂ (Implements π fun _ _ => True) h' h := by
  induction hs with
  | start => exact ⟨[], u, .start, hu, rfl, .nil⟩
  | env _ hR ih =>
    obtain ⟨h', v, hs, hv, rfl, hh⟩ := ih
    obtain ⟨v', hd, hv', rfl⟩ := henv hv hR
    exact ⟨h', v', hs.drift hd, hv', rfl, hh⟩
  | @call h c _ hr ih =>
    obtain ⟨h', v, hs, hv, hbefore, hh⟩ := ih
    rw [← hbefore] at hr
    obtain ⟨t, v', hr', hv', hafter⟩ := hcall hv hr
    have hc := hs.call (c := ⟨c.program, v, t, c.answer, v'⟩) hr'
    exact ⟨_, v', hc, hv', hafter, List.rel_append hh
      (.cons ⟨rfl, rfl, hbefore.symm, hafter.symm, trivial⟩ .nil)⟩

end Interaction
