import Windowing.Proofs.CallExchanges

/-!
Dialogues with the native library. Most operations ask the native library in checked calls, each of
which may depend on the replies to those before, and make something of the replies. Such an operation
is a tree of calls; the exchanges that come of it are one path in the tree, which ends early at the first
call that reports an error. What an operation returns can then be read off its tree and its replies.
-/

namespace Windowing

open Native Client

variable {α : Type} {p : Process}

/-- What is asked, call by call, and what comes of the replies. -/
inductive Dialogue (α : Type) where
  | done (outcome : Except Error α)
  | ask (call : Call) (next : Reply → Dialogue α)

namespace Dialogue

variable {d : Dialogue α} {xs : List Exchange} {outcome outcome' : Except Error α}
  {expected : Call → Reply → Prop}

/-- All calls are checked. -/
def run (native : Backend) : Dialogue α → Attempt α
  | .done outcome => liftExcept outcome
  | .ask call next => do
    let reply ← checked (native call)
    (next reply).run native

/-- The exchanges of a dialogue up to the first that reports an error, and what it comes to. -/
inductive Unfolds : Dialogue α → List Exchange → Except Error α → Prop where
  | done {outcome : Except Error α} : Unfolds (.done outcome) [] outcome
  | failed {call : Call} {next : Reply → Dialogue α} {x : Exchange} {e : Error}
      (asked : x.call = call) (plain : x.Plain) (reported : x.error? = some e) :
      Unfolds (.ask call next) [x] (.error e)
  | went {call : Call} {next : Reply → Dialogue α} {x : Exchange} {xs : List Exchange}
      {outcome : Except Error α} (asked : x.call = call) (plain : x.Plain) (silent : x.error? = none)
      (rest : Unfolds (next x.reply) xs outcome) : Unfolds (.ask call next) (x :: xs) outcome

/-- What a dialogue comes to if nothing is reported and the replies are as expected. -/
def Yields (expected : Call → Reply → Prop) (outcome : Except Error α) : Dialogue α → Prop
  | .done outcome' => outcome' = outcome
  | .ask call next => ∀ reply, expected call reply → (next reply).Yields expected outcome

end Dialogue

/-- A checked call is an exchange, whose first error it fails with. -/
theorem checked_exchange (depth : Nat) (call : Call) (hr : p.current ∈ p.running) (hd : Deaf p) :
    ∃ x : Exchange, x.call = call ∧ x.Plain ∧
      Leaves p (final (checked (backend depth call)).run p) x.entries ∧
      result (checked (backend depth call)).run p = verdict x.reply x.error? := by
  obtain ⟨meanwhile, reply, plain, left, outcome⟩ := (backend_replies depth).checked call hr hd
  exact ⟨⟨call, meanwhile, reply⟩, rfl, plain, left, outcome⟩

namespace Exchange

theorem reports_entries (x : Exchange) : reports x.entries = reports x.meanwhile :=
  reports_call x.call x.meanwhile x.reply

theorem returned_mem (x : Exchange) : .returned x.call x.reply ∈ x.entries := by
  simp [entries]

theorem called_mem (x : Exchange) : .called x.call ∈ x.entries := by
  simp [entries]

/-- Nothing is reported in an exchange that is part of a silent stretch. -/
theorem error?_of_silent {x : Exchange} {xs : List Exchange} (hx : x ∈ xs)
    (silent : reports (xs.flatMap entries) = []) : x.error? = none := by
  have none : reports x.entries = [] := by
    rw [reports, List.filterMap_eq_nil_iff] at silent ⊢
    exact fun h hh => silent h (List.mem_flatMap.2 ⟨x, hx, hh⟩)
  rw [error?, ← reports_entries, none, List.head?_nil]

end Exchange

namespace Dialogue

variable {d : Dialogue α} {xs : List Exchange} {outcome outcome' : Except Error α}
  {expected : Call → Reply → Prop}

/-- An operation that is a dialogue goes along one path of it. -/
theorem run_unfolds (depth : Nat) (d : Dialogue α) (hr : p.current ∈ p.running) (hd : Deaf p) :
    ∃ xs, Unfolds d xs (result (d.run (backend depth)).run p) ∧
      Leaves p (final (d.run (backend depth)).run p) (xs.flatMap Exchange.entries) := by
  -- The rest of the tree is run from where the first call leaves the process.
  induction d generalizing p with
  | done outcome => cases outcome <;> exact ⟨[], .done, .refl⟩
  | ask call next ih =>
    obtain ⟨x, asked, plain, left, checks⟩ := checked_exchange depth call hr hd
    rw [run]
    cases reported : x.error? with
    | some e =>
      rw [reported] at checks
      rw [(run_bind_error checks).1, (run_bind_error checks).2]
      exact ⟨[x], .failed asked plain reported, by simpa using left⟩
    | none =>
      rw [reported] at checks
      rw [(run_bind_ok checks).1, (run_bind_ok checks).2]
      obtain ⟨xs, unfolds, left'⟩ := ih x.reply (left.mem_running hr) (left.deaf hd)
      exact ⟨x :: xs, .went asked plain reported unfolds, left.trans left'⟩

/-- All calls are checked, so none leaves its errors behind. -/
theorem pending_run (native : Backend) (d : Dialogue α) (p : Process) :
    (final (d.run native).run p).locals.pending = p.locals.pending := by
  induction d generalizing p with
  | done outcome => cases outcome <;> rfl
  | ask call next ih =>
    have kept := pending_checked (native call) p
    rw [run]
    cases asked : result (checked (native call)).run p with
    | error e => rw [(run_bind_error asked).2, kept]
    | ok reply => rw [(run_bind_ok asked).2, ih, kept]

theorem Unfolds.plain (h : Unfolds d xs outcome) : ∀ x ∈ xs, x.Plain := by
  induction h with
  | done => simp
  | failed _ plain _ => simpa using plain
  | went _ plain _ _ ih => simpa using ⟨plain, ih⟩

/-- Expected replies and no errors lead to the expected outcome. -/
theorem Unfolds.outcome_eq (h : Unfolds d xs outcome) (yields : d.Yields expected outcome')
    (silent : ∀ x ∈ xs, x.error? = none) (replies : ∀ x ∈ xs, expected x.call x.reply) :
    outcome = outcome' := by
  induction h with
  | done => exact yields
  | @failed call next x e _ _ reported =>
    rw [silent x List.mem_cons_self] at reported
    cases reported
  | @went call next x xs outcome asked _ _ _ ih =>
    have expects : expected call x.reply := asked ▸ replies x List.mem_cons_self
    exact ih (yields x.reply expects) (fun y hy => silent y (List.mem_cons_of_mem _ hy))
      fun y hy => replies y (List.mem_cons_of_mem _ hy)

/-- The same for a run in which nothing is reported and every call has its expected reply. -/
theorem result_of_yields {depth : Nat} {m : Attempt α} (dialogue : m = d.run (backend depth))
    (yields : d.Yields expected outcome) (hr : p.current ∈ p.running) (hd : Deaf p)
    (silent : reports (during m.run p) = [])
    (replies : ∀ call reply, .returned call reply ∈ during m.run p → expected call reply) :
    result m.run p = outcome := by
  subst dialogue
  obtain ⟨xs, unfolds, left⟩ := d.run_unfolds depth hr hd
  rw [left.during_eq] at silent replies
  exact unfolds.outcome_eq yields (fun x hx => Exchange.error?_of_silent hx silent) fun x hx =>
    replies _ _ (List.mem_flatMap.2 ⟨x, hx, x.returned_mem⟩)

/-- The same for an operation that makes one call. -/
theorem result_of_reply {depth : Nat} {m : Attempt α} {call : Call} {expects : Reply → Prop}
    (next : Reply → Except Error α)
    (asks : m = (ask call fun reply => done (next reply)).run (backend depth))
    (hr : p.current ∈ p.running) (hd : Deaf p) (silent : reports (during m.run p) = [])
    (given : ∀ reply, .returned call reply ∈ during m.run p → expects reply)
    (comes : ∀ reply, expects reply → next reply = outcome) : result m.run p = outcome := by
  let expected (asked : Call) (reply : Reply) : Prop := asked = call → expects reply
  have yields : (ask call fun reply => done (next reply)).Yields expected outcome :=
    fun reply given => comes reply (given rfl)
  refine result_of_yields asks yields hr hd silent ?_
  rintro asked reply returned rfl
  exact given reply returned

end Dialogue

end Windowing
