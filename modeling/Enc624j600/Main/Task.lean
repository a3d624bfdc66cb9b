/-
# The task that receives frames

`my_second_task` as a program over the machine of the chip, with the objects that it owns.  One
turn of its loop makes one receive call and prints what the call left.
-/
import Enc624j600.Init.Run
import Enc624j600.Lib.Lowering
import Enc624j600.Source.Main

namespace Enc624j600

open Interaction

/-! ### The machine of the task -/

/-- The byte at the index `i` of an array, as this store leaves it. -/
def Stored.byteAt (param : OutParam) (i : ℕ) : Stored → Option Byte
  | .bytes p bs => if p = param then bs[i]? else none
  | .receivedBytes _ => none

/-- The value of the variable that `received_bytes` points to, after this store. -/
def Stored.length : Stored → Option Word
  | .bytes _ _ => none
  | .receivedBytes v => some v

namespace World

variable (w : World)

/-- The byte at the index `i` of an array, if the driver stored one there. -/
def byteAt (param : OutParam) (i : ℕ) : Option Byte :=
  w.stored.reverse.findSome? (Stored.byteAt param i)

/-- `data_length`, which is 0 at first. -/
def dataLength : Word := (w.stored.reverse.findSome? Stored.length).getD 0#16

/-- `length_protocol`, which is 0 at first; its lower byte comes first. -/
def lengthProtocol : Word :=
  assemble ((w.byteAt .lengthType 0).getD 0#8) ((w.byteAt .lengthType 1).getD 0#8)

end World

/-- The task on the chip.  A byte that the driver did not store may be anything. -/
def taskMachine : Machine TaskOp TaskOp.Res World where
  step w o r w' :=
    match o, r with
    | .driver o, r => machine.step w o r w'
    | .togglePin, _ => w' = w
    | .readByte param i, r => (∀ b, w.byteAt param i = some b → r = b) ∧ w' = w
    | .readLengthProtocol, r => r = w.lengthProtocol ∧ w' = w
    | .readDataLength, r => r = w.dataLength ∧ w' = w
    | .printf _ _, _ => w' = w
    | .taskDelay _, _ => w' = w

lemma taskMachine_total (w : World) (o : TaskOp) : ∃ r w', taskMachine.step w o r w' := by
  cases o with
  | driver o => exact machine_total w o
  | togglePin => exact ⟨(), w, rfl⟩
  | readByte param i =>
    refine ⟨(w.byteAt param i).getD 0#8, w, ?_, rfl⟩
    intro b hb
    rw [hb]
    rfl
  | readLengthProtocol => exact ⟨_, w, rfl, rfl⟩
  | readDataLength => exact ⟨_, w, rfl, rfl⟩
  | printf f a => exact ⟨(), w, rfl⟩
  | taskDelay n => exact ⟨(), w, rfl⟩

/-- The operations that the task performs itself. -/
def TaskOp.IsOwn : TaskOp → Prop
  | .driver _ => False
  | _ => True

lemma TaskOp.IsOwn.step {w w' : World} {o : TaskOp} {r : o.Res} (ho : o.IsOwn)
    (hs : taskMachine.step w o r w') : w' = w := by
  cases o with
  | driver o => exact absurd ho id
  | togglePin => exact hs
  | readByte param i => exact hs.2
  | readLengthProtocol => exact hs.2
  | readDataLength => exact hs.2
  | printf f a => exact hs
  | taskDelay n => exact hs

section Runs

variable {R : World → World → Prop} {α : Type} {w v : World}
  {t : List (Event TaskOp TaskOp.Res)} {a : α}

/-- What the task does itself leaves the world to the surroundings. -/
lemma drift_of_own {p q : Task α} (hp : p.All TaskOp.IsOwn)
    (h : Reach taskMachine R p w t q v) : Drift R w v :=
  (h.invariant (F := Drift R w) hp (fun _ _ _ _ ho hu hs => ho.step hs ▸ hu)
    (fun _ _ hu hR => hu.tail hR) .refl).1

/-- An operation of a driver function, as the task performs it. -/
abbrev driverEvent (e : Event Op Op.Res) : Event TaskOp TaskOp.Res := ⟨.driver e.1, e.2⟩

lemma simulates_call : Simulates machine R taskMachine R (fun o => .perform (TaskOp.driver o)) id
    (fun _ => True) fun e t => t = [driverEvent e] where
  env := fun hR => .single hR
  op := by
    intro o u t r u' _ h
    obtain ⟨w₁, r', w₂, t', hd, hs, rfl, hp⟩ := returns_op_iff.1 h
    obtain ⟨rfl, rfl, hd'⟩ := returns_pure_iff.1 hp
    exact ⟨⟨w₁, w₂, hd, hs, hd'⟩, rfl⟩

lemma realises_call : Realises machine R taskMachine R (fun o => .perform (TaskOp.driver o)) id
    (fun _ => True) where
  env := fun hR => .single hR
  op := fun _ hs => ⟨_, Returns.op (M := taskMachine) (o := .driver _) hs .refl⟩

lemma splits_driverEvent {s : List (Event Op Op.Res)}
    (h : Splits (fun e t => t = [driverEvent e]) s t) : t = s.map driverEvent := by
  obtain ⟨pieces, hp, rfl⟩ := h
  induction hp with
  | nil => rfl
  | cons he _ ih =>
    subst he
    rw [List.flatten_cons, ih]
    rfl

/-- A call of a driver function is a run of that function. -/
lemma returns_call {p : Driver α} (h : Returns taskMachine R (call p) w t a v) :
    ∃ s, Returns machine R p w s a v ∧ t = s.map driverEvent := by
  obtain ⟨s, hs, hsp⟩ := simulates_call.returns (Prog.all_of_forall (fun _ => trivial) p) h
  exact ⟨s, hs, splits_driverEvent hsp⟩

end Runs

/-! ### One turn of the task -/

/-- What the task performs to print a frame with `n` bytes of data. -/
def IsPrint (n : ℕ) : TaskOp → Prop
  | .driver _ => False
  | .readByte param i => param = .buffer → i < n
  | .printf format _ => format ≠ "Nothing!\r\n"
  | _ => True

lemma IsPrint.isOwn {n : ℕ} {o : TaskOp} (h : IsPrint n o) : o.IsOwn := by
  cases o with
  | driver o => exact absurd h id
  | _ => trivial

lemma printf_all {n : ℕ} {format : String} {args : List Word} (h : format ≠ "Nothing!\r\n") :
    (printf format args).All (IsPrint n) :=
  ⟨h, fun _ => trivial⟩

lemma forUpTo_all {S : TaskOp → Prop} {n : ℕ} {body : ℕ → Task Unit}
    (h : ∀ i < n, (body i).All S) : (forUpTo n body).All S := by
  induction n with
  | zero => trivial
  | succ n ih =>
    exact Prog.All.bind (ih fun i hi => h i (by omega)) fun _ => h n (by omega)

lemma printAddress_all {n : ℕ} {address : OutParam} (ha : address ≠ .buffer) :
    (printAddress address).All (IsPrint n) := by
  unfold printAddress
  refine forUpTo_all fun i _ => ⟨fun h => absurd h ha, fun byte => ?_⟩
  change (ite _ _ _ : Task Unit).All _
  split
  · exact printf_all (by decide)
  · exact printf_all (by decide)

lemma forUpTo_loopFree {n : ℕ} {body : ℕ → Task Unit} (h : ∀ i, (body i).LoopFree) :
    (forUpTo n body).LoopFree := by
  induction n with
  | zero => trivial
  | succ n ih => exact ih.bind fun _ => h n

lemma printAddress_loopFree (address : OutParam) : (printAddress address).LoopFree := by
  unfold printAddress
  refine forUpTo_loopFree fun i byte => ?_
  change (ite _ _ _ : Task Unit).LoopFree
  split
  · exact fun _ => trivial
  · exact fun _ => trivial

lemma printHeader_all {n : ℕ} : printHeader.All (IsPrint n) := by
  refine Prog.All.bind (printf_all (by decide)) fun _ => ?_
  refine Prog.All.bind (printAddress_all (by decide)) fun _ => ?_
  refine Prog.All.bind (printf_all (by decide)) fun _ => ?_
  refine Prog.All.bind (printAddress_all (by decide)) fun _ => ?_
  exact ⟨trivial, fun _ => printf_all (by decide)⟩

lemma printData_all (dataLength : Word) : (printData dataLength).All (IsPrint dataLength.toNat) :=
  forUpTo_all fun _ hi => ⟨fun _ => hi, fun _ => printf_all (by decide)⟩

section Turn

variable {E : Surroundings} {w v : World} {t : List (Event TaskOp TaskOp.Res)}

/-- The surroundings do not touch what the driver stored. -/
lemma drift_stored (h : Drift E.rely w v) : v.stored = w.stored := by
  induction h with
  | refl => rfl
  | tail _ hR ih => exact (rely_driver hR).2.2.trans ih

lemma returns_printFrame (h : Returns taskMachine E.rely printFrame w t () v) :
    Drift E.rely w v ∧ ∀ e ∈ t, IsPrint w.dataLength.toNat e.1 := by
  obtain ⟨_, u₁, t₁, t₂, hhead, hrest, rfl⟩ := returns_bind_iff.1 h
  obtain ⟨u₂, n, u₃, t₃, hd, ⟨rfl, rfl⟩, rfl, hdata⟩ := returns_op_iff.1 hrest
  have hd₁ := (drift_of_own (printHeader_all.mono fun _ => (IsPrint.isOwn (n := 0))) hhead).trans hd
  have hn : u₃.dataLength = w.dataLength := by
    rw [World.dataLength, drift_stored hd₁, World.dataLength]
  have hall : ((printData u₃.dataLength).bind fun _ => printf "\r\n\r\n" []).All
      (IsPrint u₃.dataLength.toNat) :=
    Prog.All.bind (printData_all _) fun _ => printf_all (by decide)
  refine ⟨hd₁.trans (drift_of_own (hall.mono fun _ => IsPrint.isOwn) hdata), ?_⟩
  rw [← hn]
  intro e he
  rcases List.mem_append.1 he with he | he
  · exact (Reach.events printHeader_all hhead).1 e he
  · rcases List.mem_cons.1 he with rfl | he
    · trivial
    · exact (Reach.events hall hdata).1 e he

/-- A turn of the task. -/
abbrev Turn : Type := Call TaskOp TaskOp.Res World Unit Bool

/-- The turn made the receive call, and printed what the call left or that there is nothing. -/
structure TurnOf (t : List (Event TaskOp TaskOp.Res)) (d : DriverCall Unit ReceiveResult) :
    Prop where
  trace : ∃ rest, t = ⟨.togglePin, ()⟩ :: (d.trace.map driverEvent ++ rest) ∧
    (d.answer = .encReceiveSucceeded → ∀ e ∈ rest, IsPrint d.after.dataLength.toNat e.1) ∧
    (d.answer ≠ .encReceiveSucceeded → rest = [⟨.printf "Nothing!\r\n" [], ()⟩,
      ⟨.taskDelay (pdMsToTicks 5000#64), ()⟩])

lemma exists_turnOf {a : Bool} (h : Returns taskMachine E.rely mySecondTaskTurn w t a v) :
    ∃ d : DriverCall Unit ReceiveResult, Drift E.rely w d.before ∧
      Returns machine E.rely receiveCall d.before d.trace d.answer d.after ∧
        Drift E.rely d.after v ∧ TurnOf t d ∧ a = false := by
  obtain ⟨u₁, _, u₂, t₁, hd₁, hs₁, rfl, h₁⟩ := returns_op_iff.1 h
  obtain rfl : u₂ = u₁ := hs₁
  obtain ⟨result, u₃, t₂, t₃, hcall, h₂, rfl⟩ :=
    (returns_bind_iff (p := call receiveCall)).1 h₁
  obtain ⟨s, hs, rfl⟩ := returns_call hcall
  obtain ⟨_, u₄, t₄, t₅, hprint, h₃, rfl⟩ := returns_bind_iff.1 h₂
  obtain ⟨u₅, _, u₆, t₆, hd₂, hs₂, rfl, h₄⟩ := returns_op_iff.1 h₃
  obtain rfl : u₆ = u₅ := hs₂
  obtain ⟨rfl, rfl, hd₃⟩ := returns_pure_iff.1 h₄
  refine ⟨⟨(), u₂, s, result, u₃⟩, hd₁, hs, ?_⟩
  unfold printResult at hprint
  split at hprint
  -- what follows the receive call depends on its answer
  · rename_i hr
    obtain ⟨hd, hall⟩ := returns_printFrame hprint
    refine ⟨(hd.trans hd₂).trans hd₃, ⟨_, rfl, fun _ => ?_, fun hne => absurd hr hne⟩, rfl⟩
    intro e he
    rcases List.mem_append.1 he with he | he
    · exact hall e he
    · rw [List.mem_singleton.1 he]
      trivial
  · rename_i hr
    obtain ⟨u₇, _, u₈, t₇, hd₄, hs₄, rfl, h₅⟩ := returns_op_iff.1 hprint
    obtain rfl : u₈ = u₇ := hs₄
    obtain ⟨rfl, -, hd₅⟩ := returns_pure_iff.1 h₅
    exact ⟨((hd₄.trans hd₅).trans hd₂).trans hd₃, ⟨_, rfl, fun h => absurd h hr, fun _ => rfl⟩, rfl⟩

end Turn

end Enc624j600
