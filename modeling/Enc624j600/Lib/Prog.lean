/-
# Interaction programs

A program that talks to its surroundings is a tree: it stops with a value, or it performs
one operation and goes on with the answer, or it repeats a body until the body answers
`true` and then goes on.  The last form is a loop of unknown length, such as a wait for a
status bit.  What an operation does is left open here: `Steps.lean` runs a program on a
machine, and `Prog.lower` replaces every operation by a program over another set of
operations.
-/
import Mathlib.Init

namespace Interaction

/-- Programs over the operations `Op`, where the operation `o` is answered by a `Res o`. -/
inductive Prog (Op : Type) (Res : Op → Type) : Type → Type 1 where
  /-- Stop with a value. -/
  | pure {α : Type} (a : α) : Prog Op Res α
  /-- Perform `o` and go on with its answer. -/
  | op {α : Type} (o : Op) (k : Res o → Prog Op Res α) : Prog Op Res α
  /-- Repeat `body` until it answers `true`, then go on with `k`. -/
  | loop {α : Type} (body : Prog Op Res Bool) (k : Prog Op Res α) : Prog Op Res α

namespace Prog

variable {Op : Type} {Res : Op → Type} {α β γ : Type}

/-- Sequential composition. -/
def bind {α β : Type} : Prog Op Res α → (α → Prog Op Res β) → Prog Op Res β
  | .pure a, f => f a
  | .op o k, f => .op o fun r => (k r).bind f
  | .loop b k, f => .loop b (k.bind f)

@[simp] lemma pure_bind (a : α) (f : α → Prog Op Res β) : (Prog.pure a).bind f = f a := rfl

@[simp] lemma op_bind (o : Op) (k : Res o → Prog Op Res α) (f : α → Prog Op Res β) :
    (Prog.op o k).bind f = .op o fun r => (k r).bind f := rfl

@[simp] lemma loop_bind (b : Prog Op Res Bool) (k : Prog Op Res α) (f : α → Prog Op Res β) :
    (Prog.loop b k).bind f = .loop b (k.bind f) := rfl

lemma bind_assoc (p : Prog Op Res α) (f : α → Prog Op Res β) (g : β → Prog Op Res γ) :
    (p.bind f).bind g = p.bind fun a => (f a).bind g := by
  induction p with
  | pure a => rfl
  | op o k ih => simp only [op_bind, ih]
  | loop b k _ ih => simp only [loop_bind, ih]

instance : Monad (Prog Op Res) where
  pure := Prog.pure
  bind := Prog.bind

@[simp] lemma monad_pure (a : α) : (Pure.pure a : Prog Op Res α) = .pure a := rfl

@[simp] lemma monad_bind (p : Prog Op Res α) (f : α → Prog Op Res β) : p >>= f = p.bind f := rfl

/-- One operation on its own. -/
def perform (o : Op) : Prog Op Res (Res o) := .op o .pure

@[simp] lemma perform_bind (o : Op) (f : Res o → Prog Op Res β) :
    (perform o).bind f = .op o f := rfl

/-- Repeat `body` until it answers `true`. -/
def untilTrue (body : Prog Op Res Bool) : Prog Op Res Unit := .loop body (.pure ())

@[simp] lemma untilTrue_bind (b : Prog Op Res Bool) (f : Unit → Prog Op Res β) :
    (untilTrue b).bind f = .loop b (f ()) := rfl

/-- What a loop does after one turn of its body. -/
def again (b : Prog Op Res Bool) (k : Prog Op Res α) : Bool → Prog Op Res α
  | true => k
  | false => .loop b k

lemma again_bind (b : Prog Op Res Bool) (k : Prog Op Res α) (f : α → Prog Op Res β) (x : Bool) :
    (again b k x).bind f = again b (k.bind f) x := by
  cases x <;> rfl

/-! ### The operations a program may perform -/

/-- Every operation that the program can perform satisfies `S`. -/
def All (S : Op → Prop) {α : Type} : Prog Op Res α → Prop
  | .pure _ => True
  | .op o k => S o ∧ ∀ r, (k r).All S
  | .loop b k => b.All S ∧ k.All S

@[simp] lemma all_pure (S : Op → Prop) (a : α) : (Prog.pure a : Prog Op Res α).All S := trivial

@[simp] lemma all_op (S : Op → Prop) (o : Op) (k : Res o → Prog Op Res α) :
    (Prog.op o k).All S ↔ S o ∧ ∀ r, (k r).All S := Iff.rfl

@[simp] lemma all_loop (S : Op → Prop) (b : Prog Op Res Bool) (k : Prog Op Res α) :
    (Prog.loop b k).All S ↔ b.All S ∧ k.All S := Iff.rfl

lemma All.bind {S : Op → Prop} {p : Prog Op Res α} {f : α → Prog Op Res β} (hp : p.All S)
    (hf : ∀ a, (f a).All S) : (p.bind f).All S := by
  induction p with
  | pure a => exact hf a
  | op o k ih => exact ⟨hp.1, fun r => ih r (hp.2 r) hf⟩
  | loop b k _ ih => exact ⟨hp.1, ih hp.2 hf⟩

lemma All.again {S : Op → Prop} {b : Prog Op Res Bool} {k : Prog Op Res α} (hb : b.All S)
    (hk : k.All S) (x : Bool) : (Prog.again b k x).All S := by
  cases x with
  | true => exact hk
  | false => exact ⟨hb, hk⟩

lemma All.mono {S T : Op → Prop} (h : ∀ o, S o → T o) {p : Prog Op Res α} (hp : p.All S) :
    p.All T := by
  induction p with
  | pure a => trivial
  | op o k ih => exact ⟨h o hp.1, fun r => ih r (hp.2 r)⟩
  | loop b k ihb ihk => exact ⟨ihb hp.1, ihk hp.2⟩

lemma all_of_forall {S : Op → Prop} (h : ∀ o, S o) (p : Prog Op Res α) : p.All S := by
  induction p with
  | pure a => trivial
  | op o k ih => exact ⟨h o, ih⟩
  | loop b k ihb ihk => exact ⟨ihb, ihk⟩

lemma All.and {S T : Op → Prop} {p : Prog Op Res α} (hS : p.All S) (hT : p.All T) :
    p.All fun o => S o ∧ T o := by
  induction p with
  | pure a => trivial
  | op o k ih => exact ⟨⟨hS.1, hT.1⟩, fun r => ih r (hS.2 r) (hT.2 r)⟩
  | loop b k ihb ihk => exact ⟨ihb hS.1 hT.1, ihk hS.2 hT.2⟩

/-- The program contains no loop. -/
def LoopFree {α : Type} : Prog Op Res α → Prop
  | .pure _ => True
  | .op _ k => ∀ r, (k r).LoopFree
  | .loop _ _ => False

lemma LoopFree.bind {p : Prog Op Res α} {f : α → Prog Op Res β} (hp : p.LoopFree)
    (hf : ∀ a, (f a).LoopFree) : (p.bind f).LoopFree := by
  induction p with
  | pure a => exact hf a
  | op o k ih => exact fun r => ih r (hp r) hf
  | loop b k => exact absurd hp id

/-- Every loop of the program repeats the body `body`. -/
def LoopsOf {α : Type} : Prog Op Res α → Prog Op Res Bool → Prop
  | .pure _, _ => True
  | .op _ k, body => ∀ r, (k r).LoopsOf body
  | .loop b k, body => b = body ∧ k.LoopsOf body

lemma LoopFree.loopsOf {body : Prog Op Res Bool} {p : Prog Op Res α} (hp : p.LoopFree) :
    p.LoopsOf body := by
  induction p with
  | pure a => trivial
  | op o k ih => exact fun r => ih r (hp r)
  | loop b k => exact absurd hp id

lemma LoopsOf.bind {body : Prog Op Res Bool} {p : Prog Op Res α} {f : α → Prog Op Res β}
    (hp : p.LoopsOf body) (hf : ∀ a, (f a).LoopsOf body) : (p.bind f).LoopsOf body := by
  induction p with
  | pure a => exact hf a
  | op o k ih => exact fun r => ih r (hp r) hf
  | loop b k _ ih => exact ⟨hp.1, ih hp.2 hf⟩

/-! ### Replacing the operations -/

variable {Op' : Type} {Res' : Op' → Type}

/-- Replace every operation `o` by the program `f o`. -/
def lower (f : ∀ o, Prog Op' Res' (Res o)) {α : Type} : Prog Op Res α → Prog Op' Res' α
  | .pure a => .pure a
  | .op o k => (f o).bind fun r => (k r).lower f
  | .loop b k => .loop (b.lower f) (k.lower f)

variable (f : ∀ o, Prog Op' Res' (Res o))

@[simp] lemma lower_pure (a : α) : (Prog.pure a : Prog Op Res α).lower f = .pure a := rfl

@[simp] lemma lower_op (o : Op) (k : Res o → Prog Op Res α) :
    (Prog.op o k).lower f = (f o).bind fun r => (k r).lower f := rfl

@[simp] lemma lower_loop (b : Prog Op Res Bool) (k : Prog Op Res α) :
    (Prog.loop b k).lower f = .loop (b.lower f) (k.lower f) := rfl

lemma All.lower {S : Op → Prop} {S' : Op' → Prop} {p : Prog Op Res α} (hp : p.All S)
    (hf : ∀ o, S o → (f o).All S') : (p.lower f).All S' := by
  induction p with
  | pure a => trivial
  | op o k ih => exact (hf o hp.1).bind fun r => ih r (hp.2 r)
  | loop b k ihb ihk => exact ⟨ihb hp.1, ihk hp.2⟩

lemma LoopFree.lower {p : Prog Op Res α} (hp : p.LoopFree) (hf : ∀ o, (f o).LoopFree) :
    (p.lower f).LoopFree := by
  induction p with
  | pure a => trivial
  | op o k ih => exact (hf o).bind fun r => ih r (hp r)
  | loop b k => exact absurd hp id

end Prog

end Interaction
