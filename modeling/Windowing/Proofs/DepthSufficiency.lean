import Windowing.Proofs.SupplyAgreement

/-!
Sufficiency of the depth. The native library of a session nests calls only so deep, and what a call
would do beyond that is left out. Nothing ever is: each level of nesting takes from the supply, so as
long as the supply is within the depth, a call is carried out in full, and a deeper library would do the
same. The depth of a session is never less than its supply.
-/

namespace Windowing

open Native Client

variable {native native' : Backend} {n depth depth' : Nat} {p : Process}

/-! ### What calls take -/

/-- A reply is taken out of the supply, or it is the plain one. -/
theorem takeReply_spendsSupply (call : Call) (p : Process) :
    SpendsSupply 0 p (final (takeReply call) p) ∧
      ((final (takeReply call) p).supply < p.supply ∨
        (result (takeReply call) p).callbacks = []) := by
  simp only [takeReply, final_modifyGet, result_modifyGet]
  cases h : p.scripts with
  | nil => exact ⟨.refl, .inr rfl⟩
  | cons script outer =>
    let q : Process := { p with scripts := (script.next call.name).2 :: outer }
    change SpendsSupply 0 p q ∧ (q.supply < p.supply ∨ (script.next call.name).1.callbacks = [])
    have held : p.held = script.held := by
      rw [Process.held, h]
      rfl
    obtain less | plain := script.next_cases call.name
    · have less : q.held + 1 = p.held := held ▸ less
      have spare : q.spare = p.spare := rfl
      exact ⟨⟨by omega, Nat.le_of_eq spare⟩, .inl (by rw [Process.supply, Process.supply]; omega)⟩
    · have same : q.held = p.held := by
        rw [held]
        exact congrArg (fun r => Script.held r.2) plain
      exact ⟨⟨Nat.le_of_eq same, Nat.le_refl p.spare⟩, .inr (by rw [plain]; rfl)⟩

/-- There are no turns to take, or those that are taken are no longer in supply, and neither is their
batch. -/
theorem takeTurns_cases (p : Process) :
    result takeTurns p = [] ∧ final takeTurns p = p ∨ (final takeTurns p).held = p.held ∧
      (final takeTurns p).spare + turnsSize (result takeTurns p) < p.spare := by
  simp only [takeTurns, final_modifyGet, result_modifyGet]
  cases h : p.schedule with
  | nil => exact .inl ⟨rfl, rfl⟩
  | cons batch later =>
    refine .inr ⟨rfl, ?_⟩
    change scheduleSize later + reactionsSize p.reactions + turnsSize batch <
      scheduleSize p.schedule + reactionsSize p.reactions
    rw [h, scheduleSize]
    omega

/-! ### What happens during calls -/

/-- What happens before a call returns. -/
def meanwhile (native : Backend) (reply : Reply) : M Unit := do
  (← takeTurns).forM fun turn => runTurn native turn
  reply.callbacks.forM fun callback => invoke native callback

/-- The turns that are taken during a call, and the callbacks of its reply. -/
def carryOut (native : Backend) (turns : List Turn) (reply : Reply) : M Unit := do
  turns.forM fun turn => runTurn native turn
  reply.callbacks.forM fun callback => invoke native callback

theorem meanwhile_run (native : Backend) (reply : Reply) (p : Process) :
    (meanwhile native reply).run p =
      (carryOut native (result takeTurns p) reply).run (final takeTurns p) :=
  rfl

theorem carryOut_concurs (h : ∀ call, Concur n 0 (native call) (native' call)) (turns : List Turn)
    (reply : Reply) :
    Concur n (turnsSize turns) (carryOut native turns reply) (carryOut native' turns reply) :=
  .followed (runTurns_concurs h turns) fun _ => .forM (invoke_concurs h) _

/-- Without turns and callbacks there is nothing to do. -/
theorem carryOut_none {reply : Reply} (h : reply.callbacks = []) (p : Process) :
    (carryOut native [] reply).run p = ((), p) := by
  rw [carryOut, h]
  rfl

theorem meanwhile_concurs (h : ∀ call, Concur n 0 (native call) (native' call)) (reply : Reply) :
    Concur n 0 (meanwhile native reply) (meanwhile native' reply) := by
  refine .repaid (meanwhile_run native reply) (meanwhile_run native' reply) fun p =>
    ⟨_, carryOut_concurs h _ reply, ?_⟩
  obtain ⟨none, still⟩ | ⟨held, spare⟩ := takeTurns_cases p
  · rw [none, still]
    exact ⟨Nat.le_refl _, Nat.le_refl _⟩
  · exact ⟨Nat.le_of_eq held, Nat.le_of_lt spare⟩

/-- Turns that are taken leave one less in supply. -/
theorem meanwhile_same (h : ∀ call, Concur n 0 (native call) (native' call)) {reply : Reply}
    (quiet : reply.callbacks = []) (hp : p.supply ≤ n + 1) :
    (meanwhile native reply).run p = (meanwhile native' reply).run p := by
  rw [meanwhile_run, meanwhile_run]
  obtain ⟨none, still⟩ | ⟨held, spare⟩ := takeTurns_cases p
  · rw [none, still, carryOut_none quiet, carryOut_none quiet]
  · refine (carryOut_concurs h _ reply).same _ ?_
    rw [Process.supply] at hp ⊢
    omega

/-- Nothing is done if nothing is in supply. -/
theorem meanwhile_idle {reply : Reply} (quiet : reply.callbacks = []) (hp : p.supply = 0) :
    (meanwhile native reply).run p = ((), p) := by
  rw [meanwhile_run]
  obtain ⟨none, still⟩ | ⟨-, spare⟩ := takeTurns_cases p
  · rw [none, still, carryOut_none quiet]
  · rw [Process.supply] at hp
    omega

theorem callWith_concurs {during during' : Reply → M Unit}
    (spendsSupply : ∀ reply p, SpendsSupply 0 p (final (during reply) p))
    (same : ∀ reply p, p.supply ≤ n → p.supply < n ∨ reply.callbacks = [] →
      (during reply).run p = (during' reply).run p) (call : Call) :
    Concur n 0 (callWith during call) (callWith during' call) := by
  let rest : Reply → M Reply := fun reply => do
    settle call
    note (.returned call reply)
    return reply
  have settled : Concur n 0 (settle call) (settle call) := .idle fun p => by
    cases call <;> exact .same rfl rfl rfl
  have ends : ∀ reply, Concur n 0 (rest reply) (rest reply) := fun reply =>
    .bind settled fun _ => .bind (.note _) fun _ => .pure _
  refine .bind (.note _) fun _ => ⟨fun p hp => ?_, fun p => ?_⟩
  · obtain ⟨left, less⟩ := takeReply_spendsSupply call p
    have room := left.supply
    have done := same (result (takeReply call) p) (final (takeReply call) p) (by omega)
      (less.imp_left fun less => by omega)
    exact congrArg (fun r => (rest (result (takeReply call) p)).run r.2) done
  · exact (takeReply_spendsSupply call p).1.trans ((spendsSupply _ _).trans ((ends _).spendsSupply _))

/-! ### The native library -/

/-- What the native library of a depth does before a call returns. -/
def meanwhileAt : (depth : Nat) → Reply → M Unit
  | 0 => fun _ => pure ()
  | depth + 1 => meanwhile (backend depth)

theorem backend_eq_callWith (depth : Nat) : backend depth = callWith (meanwhileAt depth) := by
  cases depth <;> rfl

theorem meanwhileAt_idle {reply : Reply} (quiet : reply.callbacks = []) (hp : p.supply = 0) :
    (meanwhileAt depth reply).run p = ((), p) := by
  cases depth with
  | zero => rfl
  | succ depth => exact meanwhile_idle quiet hp

theorem meanwhileAt_spendsSupply (depth : Nat) (reply : Reply) (p : Process) :
    SpendsSupply 0 p (final (meanwhileAt depth reply) p) := by
  induction depth generalizing reply p with
  | zero => exact .refl
  | succ depth ih =>
    have calls : ∀ call, Concur 0 0 (backend depth call) (backend depth call) := fun call => by
      rw [backend_eq_callWith]
      exact callWith_concurs ih (fun _ _ _ _ => rfl) call
    exact (meanwhile_concurs calls reply).spendsSupply p

/-- Within the supply, the depth does not matter: a call in which anything happens takes from the supply,
and so what happens in it does with one level less. -/
theorem backend_concurs (deep : n ≤ depth) (deep' : n ≤ depth') (call : Call) :
    Concur n 0 (backend depth call) (backend depth' call) := by
  induction n generalizing depth depth' call with
  | zero =>
    rw [backend_eq_callWith, backend_eq_callWith]
    refine callWith_concurs (meanwhileAt_spendsSupply depth) (fun reply p hp less => ?_) call
    have quiet : reply.callbacks = [] := less.resolve_left (Nat.not_lt_zero _)
    rw [meanwhileAt_idle quiet (Nat.le_zero.1 hp), meanwhileAt_idle quiet (Nat.le_zero.1 hp)]
  | succ n ih =>
    obtain ⟨depth, rfl⟩ := Nat.exists_eq_add_of_le' deep
    obtain ⟨depth', rfl⟩ := Nat.exists_eq_add_of_le' deep'
    have calls : ∀ call, Concur n 0 (backend (depth + n) call) (backend (depth' + n) call) :=
      ih (by omega) (by omega)
    refine callWith_concurs (meanwhileAt_spendsSupply (depth + n + 1))
      (fun reply p hp less => ?_) call
    obtain less | quiet := less
    · exact (meanwhile_concurs calls reply).same p (Nat.lt_succ_iff.1 less)
    · exact meanwhile_same calls quiet hp

/-- A call that is made within the depth is carried out in full: the turns and callbacks during it have
the same native library at hand. -/
theorem backend_unfolds (hp : p.supply ≤ depth) (call : Call) :
    (backend depth call).run p = (callWith (meanwhile (backend depth)) call).run p := by
  have deeper : Concur depth 0 (backend depth call) (backend (depth + 1) call) :=
    backend_concurs (Nat.le_refl _) (Nat.le_succ _) call
  exact deeper.same p hp

/-! ### Sessions -/

namespace Session

variable (s : Session)

/-- The body of the session with some native library. -/
def bodyWith (native : Backend) : M Unit := do
  let panic ← runSteps native s.steps
  let _ ← finish native true
  note (.threadEnded panic)

theorem body_eq : s.body = s.bodyWith (backend s.depth) := rfl

theorem supply_start : s.start.supply + stepsSize s.steps ≤ s.depth := by
  have held := s.script.held_le_size
  have none : s.start.reactions = [] := by
    rw [Process.reactions, List.flatMap_eq_nil_iff]
    intro e he
    obtain rfl | there := List.mem_cons.1 he
    · rfl
    · obtain ⟨turn, -, rfl⟩ := List.mem_map.1 there
      rfl
  have spare : s.start.spare = scheduleSize s.schedule := by
    rw [Process.spare, none]
    rfl
  have all : s.start.supply = s.script.held + scheduleSize s.schedule := by
    rw [Process.supply, spare]
    rfl
  rw [all, depth]
  omega

/-- No run exceeds the depth of its session: with a native library that nests calls deeper, the same
happens and the process ends as it does. -/
theorem body_run_of_le {deeper : Nat} (h : s.depth ≤ deeper) :
    (s.bodyWith (backend deeper)).run s.start = s.body.run s.start := by
  rw [body_eq]
  have calls := backend_concurs (Nat.le_refl s.depth) h
  have bodies : Concur s.depth (stepsSize s.steps) (s.bodyWith (backend s.depth))
      (s.bodyWith (backend deeper)) := by
    refine .followed (runSteps_concurs calls s.steps) fun _ => ?_
    refine .bind (finish_concurs calls true) fun _ => ?_
    exact .note _
  exact (bodies.same s.start s.supply_start).symm

end Session

end Windowing
