import Windowing.Proofs.OperationActions
import Windowing.Session

/-!
A poisoned lock changes nothing. What panics left behind, whether a thread is still unwinding or the
lock is poisoned, is looked at only where the lock is taken and dropped, and there nothing follows from
it but what panics leave behind in turn. So every computation of a client returns the same from
processes that are the same but for that, and leaves such processes again.
-/

namespace Windowing

open Native Client

variable {α β : Type} {native : Backend} {p q : Process}

/-- What panics left behind makes no difference to the computation. -/
def IgnoresPanics (m : M α) : Prop :=
  ∀ p q, SameButPanics p q → result m q = result m p ∧ SameButPanics (final m p) (final m q)

namespace IgnoresPanics

theorem pure (a : α) : IgnoresPanics (Pure.pure a : M α) := fun _ _ h => ⟨rfl, h⟩

theorem bind {m : M α} {f : α → M β} (hm : IgnoresPanics m) (hf : ∀ a, IgnoresPanics (f a)) :
    IgnoresPanics (m >>= f) := by
  intro p q h
  obtain ⟨same, left⟩ := hm p q h
  rw [result_bind, result_bind, final_bind, final_bind, same]
  exact hf (result m p) _ _ left

/-- A look that does not show what panics left behind. -/
theorem look {f : Process → M α} (same : ∀ p x, f { p with panics := x } = f p)
    (rest : ∀ p, IgnoresPanics (f p)) : IgnoresPanics ((get : M Process) >>= f) := by
  rintro p q ⟨x, rfl⟩
  rw [result_bind, result_bind, final_bind, final_bind, result_get, result_get, same]
  exact rest p p _ ⟨x, rfl⟩

theorem ite {c : Prop} [Decidable c] {m n : M α} (hm : IgnoresPanics m) (hn : IgnoresPanics n) :
    IgnoresPanics (if c then m else n) := by
  split
  · exact hm
  · exact hn

theorem forM {f : β → M Unit} (hf : ∀ b, IgnoresPanics (f b)) (bs : List β) :
    IgnoresPanics (bs.forM f) := by
  induction bs with
  | nil => exact .pure _
  | cons b bs ih => exact .bind (hf b) fun _ => ih

/-- A change that panics play no part in, except in what they leave behind. -/
theorem change {f : Process → Process} (h : ∀ p x, SameButPanics (f p) (f { p with panics := x })) :
    IgnoresPanics (modify f) := by
  rintro p q ⟨x, rfl⟩
  exact ⟨rfl, h p x⟩

theorem note (h : Happening) : IgnoresPanics (note h) := change fun _ x => ⟨x, rfl⟩

theorem locals (f : Locals → Locals) : IgnoresPanics (modifyLocals f) := change fun _ x => ⟨x, rfl⟩

theorem tables (f : Tables → Tables) : IgnoresPanics (modifyTables f) := change fun _ x => ⟨x, rfl⟩

theorem getLocals : IgnoresPanics getLocals := look (fun _ _ => rfl) fun _ => .pure _

theorem getTables : IgnoresPanics getTables := look (fun _ _ => rfl) fun _ => .pure _

theorem takeError : IgnoresPanics takeError := by
  refine .bind getLocals fun _ => ?_
  refine .bind (locals _) fun _ => ?_
  exact .pure _

theorem catchUnwind {body : M α} (h : IgnoresPanics body) : IgnoresPanics (catchUnwind body) := by
  refine .bind h fun _ => ?_
  refine .bind (change fun p x => ⟨x.caught p.current, rfl⟩) fun _ => ?_
  exact .pure _

theorem onThread (t : ThreadId) {body : M α} (h : IgnoresPanics body) :
    IgnoresPanics (onThread t body) := by
  rintro p q ⟨x, rfl⟩
  obtain ⟨same, y, left⟩ := h { p with running := t :: p.running } _ ⟨x, rfl⟩
  refine ⟨same, y, ?_⟩
  change { final body { p with running := t :: p.running, panics := x } with
    running := p.running } = _
  rw [left]
  rfl

theorem withScript (script : Script) {body : M α} (h : IgnoresPanics body) :
    IgnoresPanics (withScript script body) := by
  rintro p q ⟨x, rfl⟩
  obtain ⟨same, y, left⟩ := h { p with scripts := script :: p.scripts } _ ⟨x, rfl⟩
  refine ⟨same, y, ?_⟩
  change { final body { p with scripts := script :: p.scripts, panics := x } with
    scripts := p.scripts } = _
  rw [left]
  rfl

theorem composed {prim : (α : Type) → (Backend → M α) → Prop}
    (h : ∀ α m, prim α m → IgnoresPanics (m native)) {m : Backend → M α}
    (hm : Composed SameButPanics prim m) : IgnoresPanics (m native) := by
  induction hm with
  | pure a => exact .pure a
  | bind _ _ first rest => exact .bind first rest
  | look same _ rest =>
    exact look (fun p x => congrArg (· native) (same p _ ⟨x, rfl⟩).symm) rest
  | act hm => exact h _ _ hm

/-! ### Operations -/

variable (h : ∀ call, IgnoresPanics (native call))

include h

theorem checked (call : Call) : IgnoresPanics (Windowing.checked (native call)).run := by
  refine .bind takeError fun before => .bind (h call) fun reply => ?_
  exact .bind takeError fun raised => .bind (locals _) fun _ => .pure _

theorem destroy (pointer : Pointer) : IgnoresPanics (Window.destroy native pointer) := by
  refine .bind (checked h _) fun outcome => ?_
  cases outcome with
  | ok reply => exact .pure _
  | error e => exact note _

theorem release : IgnoresPanics (release native) := by
  have unlocked : IgnoresPanics unlock := change SharedChange.unlocked.panics
  refine .bind (change (SharedChange.holders (· - 1)).panics) fun _ =>
    look (fun _ _ => rfl) fun p => ?_
  refine .ite (.bind (checked h _) fun outcome => ?_) (.pure _)
  cases outcome with
  | ok reply => exact unlocked
  | error e => exact .bind (note _) fun _ => unlocked

theorem dropWindow (w : Window) : IgnoresPanics (w.drop native) := by
  refine .bind (note _) fun _ => .bind getLocals fun s => .ite ?_ ?_
  · exact .bind (locals _) fun _ => .bind (note _) fun _ => release h
  · exact .bind (destroy h w.pointer) fun _ => release h

theorem small {m : Backend → M α} (hm : Small α m) : IgnoresPanics (m native) := by
  cases hm with
  | quiet hm =>
    cases hm with
    | call call => exact h call
    | attempt call => exact checked h call
    | take => exact takeError
    | log l => exact note _
    | aside hm =>
      cases hm with
      | lend c | giveBack c => exact note _
      | lent f => exact change (SharedChange.lent f).panics
      | panics f => exact change (SharedChange.panicked f).panics
      | contexts f => exact tables _
  | call call => exact h call
  | attempt call => exact checked h call
  | obtain x | dropLibrary x | dropMonitor x => exact note _
  | tables f => exact tables f
  | shared hf => exact change hf.panics
  | dropWindow w => exact dropWindow h w

theorem processEvents (call : Call) (handler : Handler) :
    IgnoresPanics (processEvents native call handler) := by
  have taken : IgnoresPanics takeDeferred :=
    .bind getLocals fun _ => .bind (locals _) fun _ => .pure _
  refine .bind (locals _) fun _ => ?_
  refine .bind (checked h call) fun _ => ?_
  refine .bind (locals _) fun _ => ?_
  exact .bind taken fun doomed => .bind (forM (destroy h) doomed) fun _ => .pure _

theorem pump (kind : PumpKind) (handler : Handler) :
    IgnoresPanics (pump native kind handler).run := by
  have taken : IgnoresPanics takePanic := .bind getLocals fun _ => .bind (locals _) fun _ => .pure _
  simp only [Windowing.pump, ExceptT.run_bind, ExceptT.run_liftM, bind_map_left]
  refine .bind getLocals fun s => ?_
  by_cases busy : s.dispatching = true
  · rw [if_pos busy]
    exact .pure _
  · simp only [if_neg busy, ExceptT.run_bind, ExceptT.run_liftM, bind_map_left]
    refine .bind (processEvents h _ handler) fun _ => .bind taken fun panic => ?_
    cases panic <;> exact .pure _

theorem runPump (slot : Nat) (kind : PumpKind) (handler : Handler) :
    IgnoresPanics (runPump native slot kind handler) := by
  refine .bind getTables fun t => .ite (.pure _) (.bind (tables _) fun _ => ?_)
  refine .bind (pump h kind handler) fun outcome => .bind (tables _) fun _ => ?_
  rcases outcome with message | (e | _) <;> exact .pure _

theorem finish (panicked : Bool) : IgnoresPanics (finish native panicked) :=
  composed (fun _ _ => small h) (finish_modest panicked).minor

theorem spawn (contexts : List (Option (Context × Nat))) {body : M (Option String)}
    (hb : IgnoresPanics body) : IgnoresPanics (spawn native contexts body) := by
  have toEnd : IgnoresPanics (runToEnd native body) := by
    refine .bind hb fun _ => ?_
    refine .bind (finish h _) fun _ => ?_
    refine .bind (note _) fun _ => ?_
    exact .pure _
  refine look (fun _ _ => rfl) fun p => .bind (change fun _ x => ⟨x, rfl⟩) fun _ => ?_
  refine .bind (onThread _ toEnd.catchUnwind) fun outcome => ?_
  exact .bind (change fun _ x => ⟨x, rfl⟩) fun _ => .pure _

theorem runThread {body : M (Option String)} (hb : IgnoresPanics body) :
    IgnoresPanics (runThread native body) := by
  refine look (fun _ _ => rfl) fun p => .ite (.pure _) (.bind getTables fun t => ?_)
  refine .bind (tables _) fun _ => .bind (spawn h _ hb) fun outcome => ?_
  exact .bind (tables _) fun _ => .pure _

theorem law : StepLaw native fun _ m => IgnoresPanics m where
  pure := pure
  bind := bind
  operation op hop := composed (fun _ _ => small h) (runOp_small op hop)
  pump := runPump h
  thread _ hb := runThread h hb
  step script _ hop := .bind (note _) fun _ => .bind (withScript script hop) fun _ =>
    .bind (note _) fun _ => .pure _

theorem endThread (thread : ThreadId) (panic : Option String) :
    IgnoresPanics (endThread native thread panic) := by
  have ended : IgnoresPanics (do
      let _ ← Client.finish native true
      Windowing.note (.threadEnded panic)) := .bind (finish h true) fun _ => note _
  exact .bind ended.catchUnwind fun _ => change fun _ x => ⟨x, rfl⟩

theorem runTurn (turn : Turn) : IgnoresPanics (runTurn native turn) := by
  have interjected : ∀ {thread : ThreadId} {body : M Unit}, IgnoresPanics body →
      IgnoresPanics (interject thread body) := fun hb =>
    look (fun _ _ => rfl) fun _ => .ite (.pure _) (onThread _ hb)
  cases turn with
  | finish thread => exact interjected (endThread h thread none)
  | step thread step =>
    refine interjected (.bind ((law h).runStep step) fun outcome => ?_)
    cases outcome with
    | panicking message => exact endThread h thread _
    | _ => exact .pure _

/-! ### Callbacks -/

theorem react (time : Float) (event : Event) : IgnoresPanics (react native time event) := by
  refine .bind getLocals fun s => ?_
  refine .bind (locals _) fun _ => ?_
  refine .bind (note _) fun _ => ?_
  exact .bind ((law h).runSteps _).catchUnwind fun _ => .bind (note _) fun _ => .pure _

theorem deliver (decoded : Except Log Event) :
    IgnoresPanics (deliver native (Windowing.react native) decoded) := by
  cases decoded with
  | error warning => exact note _
  | ok event =>
    refine .bind (h _) fun reply => .bind getLocals fun s => ?_
    cases s.dropReason with
    | some reason => exact note _
    | none => exact .bind (locals _) fun _ => .bind (react h _ _) fun _ => locals _

theorem invoke (callback : Callback) : IgnoresPanics (invoke native callback) := by
  refine look (fun _ _ => by cases callback <;> rfl) fun p =>
    .ite (.bind (note _) fun _ => ?_) (.pure _)
  cases callback with
  | error code description => exact .bind (note _) fun _ => locals _
  | monitor monitor event => exact deliver h _
  | window window signal => exact deliver h _

omit h in
theorem callWith {meanwhile : Reply → M Unit} (hm : ∀ reply, IgnoresPanics (meanwhile reply))
    (call : Call) : IgnoresPanics (callWith meanwhile call) := by
  have answered : IgnoresPanics (takeReply call) := by
    rintro p q ⟨x, rfl⟩
    cases scripts : p.scripts with
    | nil => exact ⟨by simp [takeReply, scripts], x, by simp [takeReply, scripts]⟩
    | cons script outer => exact ⟨by simp [takeReply, scripts], x, by simp [takeReply, scripts]⟩
  have settled : IgnoresPanics (settle call) := by
    cases call <;> first | exact .pure _ | exact change fun _ x => ⟨x, rfl⟩
  refine .bind (note _) fun _ => ?_
  refine .bind answered fun reply => ?_
  refine .bind (hm reply) fun _ => ?_
  exact .bind settled fun _ => .bind (note _) fun _ => .pure _

end IgnoresPanics

theorem backend_ignoresPanics (depth : Nat) (call : Call) : IgnoresPanics (backend depth call) := by
  induction depth generalizing call with
  | zero => exact .callWith (fun _ => .pure _) call
  | succ depth ih =>
    have taken : IgnoresPanics takeTurns := by
      rintro p q ⟨x, rfl⟩
      cases schedule : p.schedule with
      | nil => exact ⟨by simp [takeTurns, schedule], x, by simp [takeTurns, schedule]⟩
      | cons batch later => exact ⟨by simp [takeTurns, schedule], x, by simp [takeTurns, schedule]⟩
    exact .callWith (fun reply => .bind taken fun batch => .bind (.forM (.runTurn ih) batch)
      fun _ => .forM (.invoke ih) reply.callbacks) call

end Windowing
