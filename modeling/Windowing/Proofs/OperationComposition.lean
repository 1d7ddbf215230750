import Windowing.Client.Run
import Windowing.Proofs.LockAcquisition

/-!
What operations are made of. Nearly all of them are put together from few actions, with pure steps
and looks at the process in between, in the same way for every native library. A law that every such
action obeys, and that composition keeps, then holds of the operation; it may be a law of one run or
compare the runs with two libraries.
-/

namespace Windowing

open Native Client

variable {α β ε : Type} {sim : Process → Process → Prop}
  {prim : (α : Type) → (Backend → M α) → Prop}

/-- Put together from the given actions. What the looks in between show is the same for similar
processes. -/
inductive Composed (sim : Process → Process → Prop)
    (prim : (α : Type) → (Backend → M α) → Prop) : {α : Type} → (Backend → M α) → Prop where
  | pure {α : Type} (a : α) : Composed sim prim fun _ => pure a
  | bind {α β : Type} {m : Backend → M α} {f : α → Backend → M β} (first : Composed sim prim m)
      (rest : ∀ a, Composed sim prim (f a)) : Composed sim prim fun native =>
        m native >>= (f · native)
  | look {α : Type} {f : Process → Backend → M α} (same : ∀ p q, sim p q → f p = f q)
      (rest : ∀ p, Composed sim prim (f p)) : Composed sim prim fun native => get >>= (f · native)
  | act {α : Type} {m : Backend → M α} (h : prim α m) : Composed sim prim m

/-- The same process, but for what panics left behind. -/
def SameButPanics (p q : Process) : Prop := ∃ x, q = { p with panics := x }

namespace Composed

theorem mono {weak : (α : Type) → (Backend → M α) → Prop} {m : Backend → M α}
    (h : ∀ α m, weak α m → prim α m) (hm : Composed sim weak m) : Composed sim prim m := by
  induction hm with
  | pure a => exact .pure a
  | bind _ _ first rest => exact .bind first rest
  | look same _ rest => exact .look same rest
  | act hm => exact .act (h _ _ hm)

/-- A look that panics make no difference to. -/
theorem sees {f : Process → Backend → M α} (same : ∀ p x, f { p with panics := x } = f p)
    (rest : ∀ p, Composed SameButPanics prim (f p)) :
    Composed SameButPanics prim fun native => get >>= (f · native) := by
  refine .look (fun p q h => ?_) rest
  obtain ⟨x, rfl⟩ := h
  exact (same p x).symm

theorem getTables : Composed SameButPanics prim fun _ => getTables :=
  .sees (fun _ _ => rfl) fun _ => .pure _

theorem ite {c : Prop} [Decidable c] {m n : Backend → M α} (hm : Composed sim prim m)
    (hn : Composed sim prim n) : Composed sim prim fun native => if c then m native else n native :=
    by
  split
  · exact hm
  · exact hn

theorem forM {f : β → Backend → M Unit} (hf : ∀ b, Composed sim prim (f b)) (bs : List β) :
    Composed sim prim fun native => bs.forM (f · native) := by
  induction bs with
  | nil => exact .pure _
  | cons b bs ih => exact .bind (hf b) fun _ => ih

end Composed

/-- The same of a computation that can fail. -/
def Attempts (sim : Process → Process → Prop) (prim : (α : Type) → (Backend → M α) → Prop)
    (x : Backend → ExceptT ε M α) : Prop :=
  Composed sim prim fun native => (x native).run

namespace Attempts

variable {x : Backend → ExceptT ε M α}

theorem pure (a : α) : Attempts sim prim fun _ => (Pure.pure a : ExceptT ε M α) := Composed.pure _

theorem fail (e : ε) : Attempts sim prim fun _ => (throw e : ExceptT ε M α) := Composed.pure _

theorem lift {m : Backend → M α} (h : Composed sim prim m) :
    Attempts sim prim fun native => (monadLift (m native) : ExceptT ε M α) :=
  Composed.bind h fun _ => .pure _

theorem liftExcept (y : Except ε α) :
    Attempts sim prim fun _ => (liftExcept y : ExceptT ε M α) := by
  cases y
  · exact fail _
  · exact pure _

theorem bind {f : α → Backend → ExceptT ε M β} (first : Attempts sim prim x)
    (rest : ∀ a, Attempts sim prim (f a)) :
    Attempts sim prim fun native => x native >>= (f · native) := by
  change Composed sim prim fun native => (x native).run >>= ExceptT.bindCont (f · native)
  refine .bind first fun outcome => ?_
  cases outcome with
  | error e => exact .pure _
  | ok a => exact rest a

theorem adapt {δ : Type} (f : ε → δ) (h : Attempts sim prim x) :
    Attempts sim prim fun native => ExceptT.adapt f (x native) :=
  Composed.bind h fun _ => .pure _

theorem ite {c : Prop} [Decidable c] {y : Backend → ExceptT ε M α} (hx : Attempts sim prim x)
    (hy : Attempts sim prim y) :
    Attempts sim prim fun native => if c then x native else y native := by
  split
  · exact hx
  · exact hy

theorem mapM {f : β → Backend → ExceptT ε M α} (hf : ∀ b, Attempts sim prim (f b)) (bs : List β) :
    Attempts sim prim fun native => bs.mapM (f · native) := by
  induction bs with
  | nil => exact .pure _
  | cons b bs ih =>
    simp only [List.mapM_cons]
    exact .bind (hf b) fun _ => .bind ih fun _ => .pure _

theorem foldlM {f : α → β → Backend → ExceptT ε M α}
    (hf : ∀ a b, Attempts sim prim (f a b)) (bs : List β) (a : α) :
    Attempts sim prim fun native => bs.foldlM (f · · native) a := by
  induction bs generalizing a with
  | nil => exact .pure _
  | cons b bs ih => exact .bind (hf a b) ih

end Attempts

/-- An operation is composed as its attempt is. -/
theorem Composed.answering {f : α → Answer} {x : Backend → Attempt α} (h : Attempts sim prim x) :
    Composed sim prim fun native => answering f (x native) := by
  refine .bind h fun outcome => ?_
  cases outcome <;> exact .pure _

end Windowing
