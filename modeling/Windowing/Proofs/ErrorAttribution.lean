import Windowing.Lifetime
import Windowing.Proofs.ProcessComputation

/-!
Attribution of errors. A body is made of reports of the native library, nested checked calls and
requests for the pending error, and goes on as it likes with what these answer. What a checked call
makes of it is computed here from the body alone: no process, no slot for the pending error. The
main statement is that a checked call has exactly this result on every process, and leaves the
pending error as it was.
-/

namespace Windowing

open Native

/-- What is done inside a checked call. -/
inductive Body : Type → Type 1 where
  | done {α : Type} (a : α) : Body α
  | report {α : Type} (code : Int32) (description : Option Text.Bytes) (next : Body α) : Body α
  | lastError {α : Type} (next : Except Error Unit → Body α) : Body α
  | nested {α β : Type} (inner : Body β) (next : Except Error β → Body α) : Body α

/-- What a body does itself; nested calls leave no mark. -/
inductive Mark where
  | reported (error : Error)
  | taken

/-- The first error that was reported after the last request, given the marks from the newest to
the oldest. -/
def firstSinceTaken : List Mark → Option Error
  | [] => none
  | .taken :: _ => none
  | .reported e :: older => firstSinceTaken older <|> some e

namespace Body

variable {α β : Type}

def exec : {α : Type} → Body α → M α
  | _, .done a => pure a
  | _, .report code description next => do
    onError code description
    next.exec
  | _, .lastError next => do
    let answer ← Windowing.lastError.run
    (next answer).exec
  | _, .nested inner next => do
    let answer ← (checked inner.exec).run
    (next answer).exec

/-- The value of a body and its marks, added to those that there are. A nested call starts with no
marks, and what it leaves is its verdict. -/
def trail : {α : Type} → Body α → List Mark → α × List Mark
  | _, .done a, marks => (a, marks)
  | _, .report code description next, marks =>
    next.trail (.reported (.reported code ((description.map Text.read).getD "")) :: marks)
  | _, .lastError next, marks =>
    (next (verdict () (firstSinceTaken marks))).trail (.taken :: marks)
  | _, .nested inner next, marks =>
    (next (verdict (inner.trail []).1 (firstSinceTaken (inner.trail []).2))).trail marks

/-- What a checked call makes of the body. -/
def outcome (b : Body α) : Except Error α :=
  verdict (b.trail []).1 (firstSinceTaken (b.trail []).2)

end Body

theorem result_lastError (p : Process) :
    result lastError.run p = verdict () p.locals.pending := by
  simp only [lastError, ExceptT.run_mk, result_bind, result_takeError]
  cases p.locals.pending <;> rfl

theorem final_lastError (p : Process) : final lastError.run p = final takeError p := by
  simp only [lastError, ExceptT.run_mk, final_bind, result_takeError]
  cases p.locals.pending <;> rfl

/-- A checked call puts back what was pending. -/
theorem pending_checked {α : Type} (body : M α) (p : Process) :
    (final (checked body).run p).locals.pending = p.locals.pending := by
  rw [final_checked, locals_setPending]

namespace Body

variable {α : Type}

/-- What is pending while a body runs is its first error since it was last asked. -/
theorem exec_trail (b : Body α) : ∀ (marks : List Mark) (p : Process),
    p.locals.pending = firstSinceTaken marks →
    result b.exec p = (b.trail marks).1 ∧
      (final b.exec p).locals.pending = firstSinceTaken (b.trail marks).2 := by
  induction b with
  | done a =>
    intro marks p hp
    exact ⟨rfl, hp⟩
  | report code description next ih =>
    intro marks p hp
    have kept : (final (onError code description) p).locals.pending =
        firstSinceTaken (.reported (.reported code ((description.map Text.read).getD "")) ::
          marks) := by
      rw [locals_onError, hp]
      rfl
    exact ih _ _ kept
  | lastError next ih =>
    intro marks p hp
    have taken : (final Windowing.lastError.run p).locals.pending = none := by
      rw [final_lastError, locals_takeError]
    simp only [exec, result_bind, final_bind, result_lastError, hp]
    exact ih _ (.taken :: marks) _ taken
  | nested inner next ihInner ihNext =>
    intro marks p hp
    have start : (final takeError p).locals.pending = firstSinceTaken [] := by
      rw [locals_takeError]
      rfl
    obtain ⟨hvalue, herror⟩ := ihInner [] _ start
    simp only [exec, result_bind, final_bind, result_checked, hvalue, herror]
    exact ihNext _ marks _ ((pending_checked _ p).trans hp)

end Body

/-- A checked call fails with the first error that its body itself reported since it last asked for
the pending error, and otherwise succeeds, whatever is pending around it; nested calls have their own
outcomes alone, and afterwards the same error is pending as before. -/
theorem checked_outcome {α : Type} (b : Body α) (p : Process) :
    result (checked b.exec).run p = b.outcome ∧
      (final (checked b.exec).run p).locals.pending = p.locals.pending := by
  have start : (final takeError p).locals.pending = firstSinceTaken [] := by
    rw [locals_takeError]
    rfl
  obtain ⟨hvalue, herror⟩ := b.exec_trail [] _ start
  exact ⟨by rw [result_checked, hvalue, herror, Body.outcome], pending_checked _ p⟩

end Windowing
