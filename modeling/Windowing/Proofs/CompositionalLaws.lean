import Windowing.Session
import Windowing.Proofs.OperationActions

/-!
Laws of all computations. A law that the smallest actions obey and that composition keeps holds of
everything that is put together from them and from native calls: of operations, pumps, programs and
callbacks. If it holds of the coming and going of a thread and of the turn of a thread as soon as it
holds of what the thread does, then it holds of native calls too, however deep they nest.
-/

namespace Windowing

open Native Client

variable {α β : Type} {native : Backend} {P : (α : Type) → M α → Prop}

/-! ### Turns -/

/-- A thread ends: it drops what it has and says how its program ended. -/
def ended (native : Backend) (panicked : Bool) (panic : Option String) : M Unit := do
  let _ ← finish native panicked
  note (.threadEnded panic)

/-- A thread whose step panicked ends. -/
def endPanicked (native : Backend) : Option String → M Bool
  | some message => do catchUnwind (ended native true (some message)); return true
  | none => return false

/-- What a thread does in its turn, and whether it has ended then. -/
def Client.Turn.taken (native : Backend) : Turn → M Bool
  | .step _ action => do endPanicked native (← runSteps native [action])
  | .finish _ => do catchUnwind (ended native true none); return true

/-- A thread that has ended is forgotten. -/
def Process.forgetting (p : Process) (t : ThreadId) (gone : Bool) : Process :=
  { p with threads := if gone then p.threads.erase t else p.threads }

theorem runTurn_eq (native : Backend) (turn : Turn) : runTurn native turn =
    interject turn.thread (do
      let gone ← turn.taken native
      modify fun p => p.forgetting turn.thread gone) := by
  cases turn with
  | finish thread =>
    rw [runTurn, Turn.thread, Turn.taken]
    rfl
  | step thread step =>
    rw [runTurn, Turn.thread, Turn.taken]
    refine congrArg (interject thread) ?_
    simp only [runSteps, bind_assoc]
    refine bind_congr fun outcome => ?_
    cases outcome <;> rfl

/-- The process while the thread takes its turn. -/
def Process.entering (p : Process) (t : ThreadId) : Process :=
  { p with running := t :: p.running }

/-- A thread that is in the middle of something takes no turn. -/
theorem final_runTurn_busy {turn : Turn} {p : Process} (busy : turn.thread ∈ p.running) :
    final (runTurn native turn) p = p := by
  rw [runTurn_eq]
  simp only [interject, final_bind, final_get, result_get, List.contains_eq_mem, busy]
  rfl

theorem final_runTurn_free {turn : Turn} {p : Process} (free : turn.thread ∉ p.running) :
    final (runTurn native turn) p =
      { (final (turn.taken native) (p.entering turn.thread)).forgetting turn.thread
          (result (turn.taken native) (p.entering turn.thread)) with running := p.running } := by
  rw [runTurn_eq]
  simp only [interject, final_bind, final_get, result_get, List.contains_eq_mem, free]
  rfl

/-! ### Callbacks -/

/-- What the wrapper does in a callback. -/
def heed (native : Backend) : Callback → M Unit
  | .error code description => onError code description
  | .monitor monitor event => onMonitor native (react native) monitor event
  | .window window signal => onWindow native (react native) window signal

theorem invoke_run {p : Process} {callback : Callback} (listens : p.listens callback = true) :
    (invoke native callback).run p = (heed native callback).run (p.note (.invoked callback)) := by
  change (if p.listens callback = true then _ else pure () : M Unit).run p = _
  rw [listens]
  cases callback <;> rfl

/-- A callback that is not registered is passed over. -/
theorem invoke_unheard {p : Process} {callback : Callback}
    (unheard : p.listens callback = false) :
    (invoke native callback).run p = ((), p) := by
  change (if p.listens callback = true then _ else pure () : M Unit).run p = _
  rw [unheard]
  rfl

/-! ### Calls -/

theorem takeReply_alike (call : Call) (p : Process) : Alike p (final (takeReply call) p) := by
  rw [takeReply, final_modifyGet]
  split
  · exact .rfl
  · exact alike_scripts p _

/-- The turns that other threads take during a call. -/
def takeAllTurns (native : Backend) : M Unit := do
  (← takeTurns).forM fun turn => runTurn native turn

theorem result_takeTurns (p : Process) : result takeTurns p = p.schedule.headD [] := by
  rw [takeTurns, result_modifyGet]
  split <;> simp [*]

theorem final_takeTurns (p : Process) :
    final takeTurns p = { p with schedule := p.schedule.tail } := by
  rw [takeTurns, final_modifyGet]
  split
  next none =>
    rw [none, List.tail_nil, ← none]
  next some =>
    rw [some]
    rfl

theorem takeTurns_alike (p : Process) : Alike p (final takeTurns p) := by
  rw [final_takeTurns]
  exact ⟨⟨rfl, rfl, rfl⟩, rfl, rfl, rfl⟩

theorem settle_alike (call : Call) (p : Process) : Alike p (final (settle call) p) := by
  cases call <;> exact ⟨⟨rfl, rfl, rfl⟩, rfl, rfl, rfl⟩

/-! ### Laws -/

/-- No thread, nor the schedule of their turns, shows a difference. -/
structure Unnoticed (p q : Process) : Prop extends SameThreads p q where
  schedule : q.schedule = p.schedule

theorem Unnoticed.rfl {p : Process} : Unnoticed p p := ⟨⟨Eq.refl _, Eq.refl _, Eq.refl _⟩, Eq.refl _⟩

theorem catchPanic_unnoticed (p : Process) : Unnoticed p (final catchPanic p) :=
  ⟨(catchPanic_alike p).toSameThreads, Eq.refl _⟩

theorem scripts_unnoticed (p : Process) (scripts : List Script) :
    Unnoticed p { p with scripts } := ⟨⟨rfl, rfl, rfl⟩, rfl⟩

theorem takeReply_unnoticed (call : Call) (p : Process) :
    Unnoticed p (final (takeReply call) p) := by
  refine ⟨(takeReply_alike call p).toSameThreads, ?_⟩
  rw [takeReply, final_modifyGet]
  split <;> rfl

theorem settle_unnoticed (call : Call) (p : Process) : Unnoticed p (final (settle call) p) := by
  refine ⟨(settle_alike call p).toSameThreads, ?_⟩
  cases call <;> rfl

/-- A law that composition keeps. Entries and changes of the current thread obey it, and so does what
is unnoticed. -/
structure Closed (P : (α : Type) → M α → Prop) : Prop where
  unnoticed : ∀ {α : Type} (m : M α), (∀ p, Unnoticed p (final m p)) → P α m
  bind : ∀ {α β : Type} {m : M α} {f : α → M β}, P α m → (∀ a, P β (f a)) → P β (m >>= f)
  note : ∀ h, P Unit (note h)
  setHere : ∀ f : Process → Thread, P Unit (modify fun p => p.setHere (f p))

/-- The native calls obey the law, and threads that come and go or take a turn obey it if they do so in
what they do. -/
structure Compositional (native : Backend) (P : (α : Type) → M α → Prop) : Prop extends Closed P where
  call : ∀ call, P Reply (native call)
  spawn : ∀ contexts (body : M (Option String)), P _ (runToEnd native body) →
    P _ (spawn native contexts body)
  turns : (∀ turn : Turn, P Bool (turn.taken native)) → P Unit (takeAllTurns native)

namespace Closed

theorem ite (_ : Closed P) {c : Prop} [Decidable c] {m n : M α} (hm : P α m) (hn : P α n) :
    P α (if c then m else n) := by
  split
  · exact hm
  · exact hn

variable (h : Closed P)

include h

theorem pure (a : α) : P α (Pure.pure a) := h.unnoticed _ fun _ => .rfl

theorem look : P Process get := h.unnoticed _ fun _ => .rfl

theorem getLocals : P Locals getLocals := h.unnoticed _ fun _ => .rfl

theorem getTables : P Tables getTables := h.unnoticed _ fun _ => .rfl

theorem forM {f : β → M Unit} (hf : ∀ b, P Unit (f b)) (bs : List β) : P Unit (bs.forM f) := by
  induction bs with
  | nil => exact h.pure _
  | cons b bs ih => exact h.bind (hf b) fun _ => ih

theorem composed {prim : (α : Type) → (Backend → M α) → Prop}
    (hp : ∀ α m, prim α m → P α (m native)) {m : Backend → M α}
    (hm : Composed SameButPanics prim m) : P α (m native) := by
  induction hm with
  | pure a => exact h.pure a
  | bind _ _ first rest => exact h.bind first rest
  | look _ _ rest => exact h.bind h.look rest
  | act hm => exact hp _ _ hm

theorem catchUnwind {body : M α} (hb : P α body) : P α (catchUnwind body) := by
  refine h.bind hb fun _ => ?_
  refine h.bind (h.unnoticed _ catchPanic_unnoticed) fun _ => ?_
  exact h.pure _

theorem withScript (script : Script) {body : M α} (hb : P α body) :
    P α (withScript script body) := by
  refine h.bind h.look fun p => ?_
  refine h.bind (h.unnoticed _ fun q => scripts_unnoticed q _) fun _ => ?_
  exact h.bind hb fun _ => h.bind (h.unnoticed _ fun q => scripts_unnoticed q _) fun _ => h.pure _

theorem takeError : P _ takeError := by
  refine h.bind h.getLocals fun _ => ?_
  exact h.bind (h.setHere _) fun _ => h.pure _

theorem takeDeferred : P _ takeDeferred := by
  refine h.bind h.getLocals fun _ => ?_
  exact h.bind (h.setHere _) fun _ => h.pure _

theorem takePanic : P _ takePanic := by
  refine h.bind h.getLocals fun _ => ?_
  exact h.bind (h.setHere _) fun _ => h.pure _

theorem checked {call : M α} (hc : P α call) : P _ (checked call).run := by
  refine h.bind h.takeError fun _ => h.bind hc fun _ => ?_
  exact h.bind h.takeError fun _ => h.bind (h.setHere _) fun _ => h.pure _

end Closed

namespace Compositional

variable (h : Compositional native P)

include h

/-! ### Operations -/

theorem quiet {m : Backend → M α} (hm : Quiet α m) : P α (m native) := by
  cases hm with
  | call call => exact h.call call
  | attempt call => exact h.checked (h.call call)
  | take => exact h.takeError
  | log l => exact h.note _
  | aside hm =>
    cases hm with
    | lend c => exact h.note _
    | giveBack c => exact h.note _
    | lent f | panics f => exact h.unnoticed _ fun _ => ⟨⟨rfl, rfl, rfl⟩, rfl⟩
    | contexts f => exact h.setHere _

theorem destroy (pointer : Pointer) : P Unit (Window.destroy native pointer) := by
  refine h.bind (h.checked (h.call _)) fun outcome => ?_
  cases outcome with
  | ok reply => exact h.pure _
  | error e => exact h.note _

theorem terminate : P Unit (terminate native) := by
  have free : P Unit unlock := h.unnoticed _ fun _ => ⟨⟨rfl, rfl, rfl⟩, rfl⟩
  refine h.bind (h.checked (h.call _)) fun outcome => ?_
  cases outcome with
  | ok reply => exact free
  | error e => exact h.bind (h.note _) fun _ => free

theorem release : P Unit (release native) := by
  refine h.bind (h.unnoticed _ fun _ => ⟨⟨rfl, rfl, rfl⟩, rfl⟩) fun _ => ?_
  exact h.bind h.look fun _ => h.ite h.terminate (h.pure _)

theorem dropWindow (w : Window) : P Unit (w.drop native) := by
  refine h.bind (h.note _) fun _ => h.bind h.getLocals fun _ => h.ite ?_ ?_
  · exact h.bind (h.setHere _) fun _ => h.bind (h.note _) fun _ => h.release
  · exact h.bind (h.destroy _) fun _ => h.release

theorem small {m : Backend → M α} (hm : Small α m) : P α (m native) := by
  cases hm with
  | quiet hm => exact h.quiet hm
  | call call => exact h.call call
  | attempt call => exact h.checked (h.call call)
  | obtain _ => exact h.note _
  | dropLibrary _ => exact h.note _
  | dropMonitor _ => exact h.note _
  | tables f => exact h.setHere _
  | shared hf => exact h.unnoticed _ fun p => ⟨hf.threads p, hf.schedule p⟩
  | dropWindow w => exact h.dropWindow w

theorem minor {m : Backend → M α} (hm : Composed SameButPanics Small m) : P α (m native) :=
  h.composed (fun _ _ => h.small) hm

theorem finish (panicked : Bool) : P _ (finish native panicked) :=
  h.minor (finish_modest panicked).minor

/-! ### Pumps, threads and programs -/

theorem processEvents (call : Call) (handler : Handler) :
    P _ (processEvents native call handler) := by
  refine h.bind (h.setHere _) fun _ => h.bind (h.checked (h.call call)) fun _ => ?_
  refine h.bind (h.setHere _) fun _ => ?_
  exact h.bind h.takeDeferred fun doomed => h.bind (h.forM h.destroy doomed) fun _ => h.pure _

theorem pump (kind : PumpKind) (handler : Handler) : P _ (pump native kind handler).run := by
  simp only [Windowing.pump, ExceptT.run_bind, ExceptT.run_liftM, bind_map_left]
  refine h.bind h.getLocals fun s => ?_
  by_cases busy : s.dispatching = true
  · rw [if_pos busy]
    exact h.pure _
  · simp only [if_neg busy, ExceptT.run_bind, ExceptT.run_liftM, bind_map_left]
    refine h.bind (h.processEvents kind.call handler) fun outcome => ?_
    refine h.bind h.takePanic fun panic => ?_
    cases panic <;> exact h.pure _

theorem runPump (slot : Nat) (kind : PumpKind) (reactions : List (List Step)) :
    P Outcome (runPump native slot kind reactions) := by
  refine h.bind h.getTables fun t => h.ite (h.pure _) ?_
  refine h.bind (h.setHere _) fun _ => h.bind (h.pump kind reactions) fun outcome => ?_
  refine h.bind (h.setHere _) fun _ => ?_
  rcases outcome with message | (e | _) <;> exact h.pure _

theorem runToEnd {body : M (Option String)} (hb : P _ body) : P _ (runToEnd native body) := by
  refine h.bind hb fun _ => ?_
  refine h.bind (h.finish _) fun _ => ?_
  refine h.bind (h.note _) fun _ => ?_
  exact h.pure _

theorem runThread {body : M (Option String)} (hb : P _ body) :
    P Outcome (runThread native body) := by
  refine h.bind h.look fun _ => h.ite (h.pure _) (h.bind h.getTables fun t => ?_)
  refine h.bind (h.setHere _) fun _ => ?_
  exact h.bind (h.spawn _ body (h.runToEnd hb)) fun _ => h.bind (h.setHere _) fun _ => h.pure _

theorem law : StepLaw native P where
  pure := h.pure
  bind := h.bind
  operation op hop := h.minor (runOp_small op hop)
  pump := h.runPump
  thread _ hb := h.runThread hb
  step script _ hop := by
    refine h.bind (h.note _) fun _ => h.bind (h.withScript script hop) fun _ => ?_
    exact h.bind (h.note _) fun _ => h.pure _

/-! ### Turns and callbacks -/

theorem ended (panicked : Bool) (panic : Option String) : P Unit (ended native panicked panic) :=
  h.bind (h.finish panicked) fun _ => h.note _

theorem endPanicked (panic : Option String) : P Bool (endPanicked native panic) := by
  cases panic with
  | none => exact h.pure _
  | some message => exact h.bind (h.catchUnwind (h.ended true _)) fun _ => h.pure _

theorem taken (turn : Turn) : P Bool (turn.taken native) := by
  cases turn with
  | finish thread => exact h.bind (h.catchUnwind (h.ended true none)) fun _ => h.pure _
  | step thread step => exact h.bind (h.law.runSteps [step]) h.endPanicked

theorem takeAllTurns : P Unit (takeAllTurns native) := h.turns h.taken

theorem react (time : Float) (event : Event) : P _ (react native time event) := by
  refine h.bind h.getLocals fun _ => ?_
  refine h.bind (h.setHere _) fun _ => ?_
  refine h.bind (h.note _) fun _ => ?_
  refine h.bind (h.catchUnwind (h.law.runSteps _)) fun _ => ?_
  exact h.bind (h.note _) fun _ => h.pure _

theorem dispatch (time : Float) (event : Event) :
    P Unit (dispatch (Windowing.react native) time event) := by
  refine h.bind h.getLocals fun s => ?_
  cases s.dropReason with
  | some reason => exact h.note _
  | none =>
    exact h.bind (h.setHere _) fun _ => h.bind (h.react time event) fun _ => h.setHere _

theorem deliver (decoded : Except Log Event) :
    P Unit (deliver native (Windowing.react native) decoded) := by
  cases decoded with
  | error warning => exact h.note _
  | ok event => exact h.bind (h.call .getTime) fun reply => h.dispatch reply.time event

theorem heed (callback : Callback) : P Unit (heed native callback) := by
  cases callback with
  | error code description => exact h.bind (h.note _) fun _ => h.setHere _
  | monitor monitor event => exact h.deliver _
  | window window signal => exact h.deliver _

theorem invoke (callback : Callback) : P Unit (invoke native callback) :=
  h.bind h.look fun _ => h.ite (h.bind (h.note _) fun _ => h.heed callback) (h.pure _)

end Compositional

theorem Closed.callWith (h : Closed P) {meanwhile : Reply → M Unit}
    (hm : ∀ reply, P Unit (meanwhile reply)) (call : Call) : P Reply (callWith meanwhile call) := by
  have taken : P Reply (takeReply call) := h.unnoticed _ (takeReply_unnoticed call)
  refine h.bind (h.note _) fun _ => ?_
  refine h.bind taken fun reply => ?_
  refine h.bind (hm reply) fun _ => ?_
  refine h.bind (h.unnoticed _ (settle_unnoticed call)) fun _ => ?_
  exact h.bind (h.note _) fun _ => h.pure _

/-- A law of all computations is one of native calls. -/
theorem Closed.backend (h : Closed P)
    (whole : ∀ depth, (∀ call, P Reply (backend depth call)) → Compositional (backend depth) P)
    (depth : Nat) (call : Call) : P Reply (backend depth call) := by
  induction depth generalizing call with
  | zero => exact h.callWith (fun _ => h.pure _) call
  | succ depth ih =>
    have h := whole depth ih
    have meanwhile (reply : Reply) : P Unit (do
        Windowing.takeAllTurns (Windowing.backend depth)
        reply.callbacks.forM fun callback => Windowing.invoke (Windowing.backend depth) callback) :=
      h.bind h.takeAllTurns fun _ => h.forM h.invoke reply.callbacks
    exact h.callWith meanwhile call

end Windowing
