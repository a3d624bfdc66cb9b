/-
# Replacing operations by programs

`p.lower f` performs, for every operation `o` of `p`, the program `f o` over other operations.
When each complete run of `f o` does on one machine what the single operation `o` does on
another one, every complete run of the lowered program is a run of `p`: this is `Simulates`.
What is performed below falls into pieces, one for each operation performed above.

`Realises` is the other direction.

A loop is handled through its turns, which are a session.
-/
import Mathlib.Data.List.Forall2
import Enc624j600.Lib.Sessions

namespace Interaction

variable {Op Op' : Type} {Res : Op → Type} {Res' : Op' → Type} {W W' : Type} {α ι : Type}

/-! ### Lists related item by item -/

section Related

variable {β γ δ : Type} {S : β → γ → Prop} {T : δ → γ → Prop} {xs : List β} {ys : List γ}
  {zs : List δ}

/-- Two lists that are related to the same list are related to each other. -/
lemma forall₂_join (h : List.Forall₂ S xs ys) (h' : List.Forall₂ T zs ys) :
    List.Forall₂ (fun x z => ∃ y ∈ ys, S x y ∧ T z y) xs zs := by
  induction h generalizing zs with
  | nil =>
    cases h'
    exact .nil
  | @cons x y xs ys hx _ ih =>
    cases h' with
    | cons hz hzs =>
      refine .cons ⟨y, by simp, hx, hz⟩ ((ih hzs).imp ?_)
      rintro x z ⟨y', hy, hS, hT⟩
      exact ⟨y', by simp [hy], hS, hT⟩

lemma exists_of_forall₂ (h : List.Forall₂ S xs ys) {x : β} (hx : x ∈ xs) : ∃ y ∈ ys, S x y := by
  induction h with
  | nil => simp at hx
  | @cons x' y xs ys hy _ ih =>
    rcases List.mem_cons.1 hx with rfl | hx
    · exact ⟨y, by simp, hy⟩
    · obtain ⟨y', hmem, hS⟩ := ih hx
      exact ⟨y', by simp [hmem], hS⟩

end Related

/-! ### The turns of a loop -/

section Turns

variable {M : Machine Op Res W} {R : W → W → Prop} {b : Prog Op Res Bool} {k : Prog Op Res α}
  {w u v : W} {t : List (Event Op Res)} {a : α}

/-- The operations performed in a number of calls. -/
def traces (h : List (Call Op Res W ι α)) : List (Event Op Res) := (h.map Call.trace).flatten

@[simp] lemma traces_nil : traces ([] : List (Call Op Res W ι α)) = [] := rfl

@[simp] lemma traces_append (h h' : List (Call Op Res W ι α)) :
    traces (h ++ h') = traces h ++ traces h' := by
  simp [traces]

@[simp] lemma traces_singleton (c : Call Op Res W ι α) : traces [c] = c.trace := by
  simp [traces]

/-- Where a run of a loop is after the turns that answered `false`: in front of the next turn,
inside of it, or past the last one. -/
inductive LoopAt (M : Machine Op Res W) (R : W → W → Prop) (b : Prog Op Res Bool)
    (k : Prog Op Res α) (u : W) : List (Event Op Res) → Prog Op Res α → W → Prop where
  | front : LoopAt M R b k u [] (.loop b k) u
  | turn {t : List (Event Op Res)} {b' : Prog Op Res Bool} {v : W} : Reach M R b u t b' v →
      LoopAt M R b k u t (b'.bind (Prog.again b k)) v
  | past {t t' : List (Event Op Res)} {q : Prog Op Res α} {u' v : W} :
      Returns M R b u t true u' → Reach M R k u' t' q v → LoopAt M R b k u (t ++ t') q v

/-- A run of a loop is a session of turns that answer `false`, and what follows them. -/
lemma Reach.of_loop_session {q : Prog Op Res α} (h : Reach M R (.loop b k) w t q v) :
    ∃ (hs : List (Call Op Res W Unit Bool)) (u : W) (t' : List (Event Op Res)),
      Session M R (fun _ => b) w hs u ∧ (∀ c ∈ hs, c.answer = false) ∧ t = traces hs ++ t' ∧
        LoopAt M R b k u t' q v := by
  induction h with
  | refl => exact ⟨[], w, [], .start, by simp, rfl, .front⟩
  | @tail t t₁ q q' v v' _ hstep ih =>
    obtain ⟨hs, u, t', hses, hfalse, rfl, hat⟩ := ih
    -- in front of a turn, whether or not one was finished before
    have hfront : ∀ {hs : List (Call Op Res W Unit Bool)}, Session M R (fun _ => b) w hs v →
        (∀ c ∈ hs, c.answer = false) → Step M R (.loop b k) v t₁ q' v' →
        ∃ (hs' : List (Call Op Res W Unit Bool)) (u : W) (t' : List (Event Op Res)),
          Session M R (fun _ => b) w hs' u ∧ (∀ c ∈ hs', c.answer = false) ∧
            traces hs ++ t₁ = traces hs' ++ t' ∧ LoopAt M R b k u t' q' v' := by
      intro hs hses hfalse hstep
      cases hstep with
      | env h => exact ⟨hs, _, [], hses.env h, hfalse, rfl, .front⟩
      | unroll => exact ⟨hs, _, [], hses, hfalse, rfl, .turn .refl⟩
    cases hat with
    | front => simpa using hfront hses hfalse hstep
    | @turn t' b' _ hb =>
      cases b' with
      | op o k' =>
        cases hstep with
        | env h => exact ⟨hs, u, _, hses, hfalse, by simp, .turn (hb.tail (.env h))⟩
        | op h => exact ⟨hs, u, _, hses, hfalse, by simp, .turn (hb.tail (.op h))⟩
      | loop b'' k'' =>
        cases hstep with
        | env h => exact ⟨hs, u, _, hses, hfalse, by simp, .turn (hb.tail (.env h))⟩
        | unroll =>
          have he : (b''.bind (Prog.again b'' k'')).bind (Prog.again b k) =
              b''.bind (Prog.again b'' (k''.bind (Prog.again b k))) := by
            simp only [Prog.bind_assoc, Prog.again_bind]
          refine ⟨hs, u, t' ++ [], hses, hfalse, by simp, ?_⟩
          rw [← he]
          exact .turn (hb.tail .unroll)
      | pure x =>
        cases x with
        | true => exact ⟨hs, u, _, hses, hfalse, by simp, .past hb (.single hstep)⟩
        | false =>
          have hcall : Session M R (fun _ => b) w (hs ++ [⟨(), u, t', false, v⟩]) v :=
            Session.call (c := ⟨(), u, t', false, v⟩) hses hb
          have hall : ∀ c ∈ hs ++ [(⟨(), u, t', false, v⟩ : Call Op Res W Unit Bool)],
              c.answer = false := by
            intro c hc
            rcases List.mem_append.1 hc with hc | hc
            · exact hfalse c hc
            · rw [List.mem_singleton.1 hc]
          simpa using hfront hcall hall hstep
    | past hb hk => exact ⟨hs, u, _, hses, hfalse, by simp, .past hb (hk.tail hstep)⟩

/-- A complete run of a loop. -/
lemma returns_loop_session (h : Returns M R (.loop b k) w t a v) :
    ∃ (hs : List (Call Op Res W Unit Bool)) (u u' : W) (t₁ t₂ : List (Event Op Res)),
      Session M R (fun _ => b) w hs u ∧ (∀ c ∈ hs, c.answer = false) ∧
        Returns M R b u t₁ true u' ∧ Returns M R k u' t₂ a v ∧ t = traces hs ++ (t₁ ++ t₂) := by
  obtain ⟨hs, u, t', hses, hfalse, rfl, hat⟩ := Reach.of_loop_session h
  generalize hq : (Prog.pure a : Prog Op Res α) = q at hat
  cases hat with
  | front => exact absurd hq (by simp)
  | @turn t' b' _ hb =>
    cases b' with
    | op o k' => exact absurd hq (by simp)
    | loop b'' k'' => exact absurd hq (by simp)
    | pure x =>
      cases x with
      | true =>
        have hk : k = .pure a := hq.symm
        exact ⟨hs, u, v, t', [], hses, hfalse, hb, by rw [hk]; exact .refl, by simp⟩
      | false => exact absurd (show (Prog.pure a : Prog Op Res α) = .loop b k from hq) (by simp)
  | past hb hk =>
    subst hq
    exact ⟨hs, u, _, _, _, hses, hfalse, hb, hk, rfl⟩

/-- Turns that answer `false` can be put in front of a loop. -/
lemma Session.loop {hs : List (Call Op Res W Unit Bool)} (h : Session M R (fun _ => b) w hs u)
    (hfalse : ∀ c ∈ hs, c.answer = false) (hl : Returns M R (.loop b k) u t a v) :
    Returns M R (.loop b k) w (traces hs ++ t) a v := by
  induction h generalizing t with
  | start => simpa using hl
  | env _ hR ih => exact ih hfalse (hl.drift_left (.single hR))
  | @call hs c _ hc ih =>
    have hx : c.answer = false := hfalse c (by simp)
    rw [hx] at hc
    have hturn : Returns M R (.loop b k) c.before (c.trace ++ t) a v := hc.loop hl
    simpa using ih (fun d hd => hfalse d (by simp [hd])) hturn

end Turns

/-! ### Pieces of a run -/

section Pieces

variable (F : Event Op Res → List (Event Op' Res') → Prop)

/-- The events `t` fall into pieces, one for each event of `s`, as `F` says. -/
def Splits (s : List (Event Op Res)) (t : List (Event Op' Res')) : Prop :=
  ∃ pieces, List.Forall₂ F s pieces ∧ t = pieces.flatten

variable {F} {s s' : List (Event Op Res)} {t t' : List (Event Op' Res')}

lemma Splits.nil : Splits F [] [] := ⟨[], .nil, rfl⟩

lemma Splits.single {e : Event Op Res} (h : F e t) : Splits F [e] t :=
  ⟨[t], .cons h .nil, by simp⟩

lemma Splits.append (h : Splits F s t) (h' : Splits F s' t') : Splits F (s ++ s') (t ++ t') := by
  obtain ⟨ps, hp, rfl⟩ := h
  obtain ⟨qs, hq, rfl⟩ := h'
  exact ⟨ps ++ qs, List.rel_append hp hq, by simp⟩

end Pieces

/-! ### Simulation -/

section Simulation

variable (M : Machine Op Res W) (R : W → W → Prop) (M' : Machine Op' Res' W')
  (R' : W' → W' → Prop) (f : ∀ o, Prog Op' Res' (Res o)) (π : W' → W) (ρ : W → W') (S : Op → Prop)
  (F : Event Op Res → List (Event Op' Res') → Prop)
  (T : List (Event Op Res) → List (Event Op' Res') → Prop)

/-- Every run of `f o` is the operation `o`, for the operations in `S`, with what the
surroundings do before and after it. -/
structure Simulates : Prop where
  env : ∀ {u u'}, R' u u' → Drift R (π u) (π u')
  op : ∀ {o u t r u'}, S o → Returns M' R' (f o) u t r u' →
    (∃ w w', Drift R (π u) w ∧ M.step w o r w' ∧ Drift R w' (π u')) ∧ F ⟨o, r⟩ t

/-- Every operation `o` is a run of `f o`, for the operations in `S`. -/
structure Realises : Prop where
  env : ∀ {w w'}, R w w' → Drift R' (ρ w) (ρ w')
  op : ∀ {o w r w'}, S o → M.step w o r w' → ∃ t, Returns M' R' (f o) (ρ w) t r (ρ w')

/-- A call of a lowered program and the call that it implements. -/
structure Implements (c : Call Op' Res' W' ι α) (d : Call Op Res W ι α) : Prop where
  program : d.program = c.program
  answer : d.answer = c.answer
  before : d.before = π c.before
  after : d.after = π c.after
  trace : T d.trace c.trace

variable {M R M' R' f π ρ S F T}

lemma Simulates.drift (h : Simulates M R M' R' f π S F) {u u' : W'} (hd : Drift R' u u') :
    Drift R (π u) (π u') := by
  induction hd with
  | refl => exact .refl
  | tail _ hR ih => exact ih.trans (h.env hR)

lemma Realises.drift (h : Realises M R M' R' f ρ S) {w w' : W} (hd : Drift R w w') :
    Drift R' (ρ w) (ρ w') := by
  induction hd with
  | refl => exact .refl
  | tail _ hR ih => exact ih.trans (h.env hR)

/-- A session, when the runs of its programs are known to be runs of others. -/
lemma Session.transfer {q : ι → Prog Op' Res' α} {p : ι → Prog Op Res α}
    (henv : ∀ {u u'}, R' u u' → Drift R (π u) (π u'))
    (hcall : ∀ {i u t a v}, Returns M' R' (q i) u t a v →
      ∃ s, Returns M R (p i) (π u) s a (π v) ∧ T s t)
    {u v : W'} {h : List (Call Op' Res' W' ι α)} (hs : Session M' R' q u h v) :
    ∃ h', Session M R p (π u) h' (π v) ∧ List.Forall₂ (Implements π T) h h' := by
  induction hs with
  | start => exact ⟨[], .start, .nil⟩
  | env _ hR ih =>
    obtain ⟨h', hs, hh⟩ := ih
    exact ⟨h', hs.drift (henv hR), hh⟩
  | @call h c _ hr ih =>
    obtain ⟨h', hs, hh⟩ := ih
    obtain ⟨s, hr', hT⟩ := hcall hr
    have hc := hs.call (c := ⟨c.program, π c.before, s, c.answer, π c.after⟩) hr'
    exact ⟨_, hc, List.rel_append hh (.cons ⟨rfl, rfl, rfl, rfl, hT⟩ .nil)⟩

lemma splits_traces {h : List (Call Op' Res' W' ι α)} {h' : List (Call Op Res W ι α)}
    (hh : List.Forall₂ (Implements π (Splits F)) h h') : Splits F (traces h') (traces h) := by
  induction hh with
  | nil => exact .nil
  | @cons c d h h' hc _ ih => exact hc.trace.append ih

/-- The same answers are given. -/
lemma map_answer_of_implements {h : List (Call Op' Res' W' ι α)} {h' : List (Call Op Res W ι α)}
    (hh : List.Forall₂ (Implements π T) h h') : h'.map Call.answer = h.map Call.answer := by
  induction hh with
  | nil => rfl
  | cons hc _ ih => rw [List.map_cons, List.map_cons, hc.answer, ih]

lemma forall_answer_of_implements {P : α → Prop} {h : List (Call Op' Res' W' ι α)}
    {h' : List (Call Op Res W ι α)} (hh : List.Forall₂ (Implements π T) h h')
    (hP : ∀ c ∈ h, P c.answer) : ∀ d ∈ h', P d.answer := by
  intro d hd
  have hmem : d.answer ∈ h.map Call.answer := by
    rw [← map_answer_of_implements hh]
    exact List.mem_map_of_mem hd
  obtain ⟨c, hc, hcd⟩ := List.mem_map.1 hmem
  exact hcd ▸ hP c hc

/-- **A run of a lowered program is a run of the program.** -/
theorem Simulates.returns (sim : Simulates M R M' R' f π S F) {p : Prog Op Res α}
    (hp : p.All S) {u v : W'} {t : List (Event Op' Res')} {a : α}
    (h : Returns M' R' (p.lower f) u t a v) :
    ∃ s, Returns M R p (π u) s a (π v) ∧ Splits F s t := by
  induction p generalizing u t v with
  | pure b =>
    obtain ⟨rfl, rfl, hd⟩ := returns_pure_iff.1 h
    exact ⟨[], .pure_drift _ (sim.drift hd), .nil⟩
  | op o k ih =>
    obtain ⟨r, u₁, t₁, t₂, hop, hk, rfl⟩ := returns_bind_iff.1 h
    obtain ⟨⟨w, w', hd, hstep, hd'⟩, hF⟩ := sim.op hp.1 hop
    obtain ⟨s, hs, hsp⟩ := ih r (hp.2 r) hk
    exact ⟨⟨o, r⟩ :: s, (Returns.op hstep (hs.drift_left hd')).drift_left hd,
      (Splits.single hF).append hsp⟩
  | loop b k ihb ihk =>
    -- the turns below are turns above, by the induction hypothesis for the body
    obtain ⟨hs, u₁, u₂, t₁, t₂, hses, hfalse, hlast, hk, rfl⟩ := returns_loop_session h
    obtain ⟨hs', hses', hh⟩ := Session.transfer (fun hR => sim.env hR) (fun hr => ihb hp.1 hr) hses
    obtain ⟨s₁, hlast', hsp₁⟩ := ihb hp.1 hlast
    obtain ⟨s₂, hk', hsp₂⟩ := ihk hp.2 hk
    have hfalse' := forall_answer_of_implements (P := (· = false)) hh hfalse
    exact ⟨_, hses'.loop hfalse' (hlast'.loop hk'), (splits_traces hh).append (hsp₁.append hsp₂)⟩

/-- **A run of a program is a run of the lowered program.** -/
theorem Realises.returns (real : Realises M R M' R' f ρ S) {p : Prog Op Res α}
    (hp : p.All S) {w v : W} {s : List (Event Op Res)} {a : α} (h : Returns M R p w s a v) :
    ∃ t, Returns M' R' (p.lower f) (ρ w) t a (ρ v) := by
  induction p generalizing w s v with
  | pure b =>
    obtain ⟨rfl, rfl, hd⟩ := returns_pure_iff.1 h
    exact ⟨[], .pure_drift _ (real.drift hd)⟩
  | op o k ih =>
    obtain ⟨w₁, r, w₂, s', hd, hstep, rfl, hk⟩ := returns_op_iff.1 h
    obtain ⟨t₁, hop⟩ := real.op hp.1 hstep
    obtain ⟨t₂, ht⟩ := ih r (hp.2 r) hk
    exact ⟨_, (hop.bind ht).drift_left (real.drift hd)⟩
  | loop b k ihb ihk =>
    obtain ⟨hs, w₁, w₂, s₁, s₂, hses, hfalse, hlast, hk, rfl⟩ := returns_loop_session h
    obtain ⟨hs', hses', hh⟩ := Session.transfer (T := fun _ _ => True) (fun hR => real.env hR)
      (fun hr => (ihb hp.1 hr).imp fun _ ht => ⟨ht, trivial⟩) hses
    obtain ⟨t₁, hlast'⟩ := ihb hp.1 hlast
    obtain ⟨t₂, hk'⟩ := ihk hp.2 hk
    have hfalse' := forall_answer_of_implements (P := (· = false)) hh hfalse
    exact ⟨_, hses'.loop hfalse' (hlast'.loop hk')⟩

end Simulation

end Interaction
