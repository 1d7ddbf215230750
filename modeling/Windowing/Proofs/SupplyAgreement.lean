import Windowing.Proofs.CallSupply

/-!
Agreement within a supply. Two computations concur if they do the same as long as no more than a
given number is left in supply, whichever of two native libraries they call. All operations keep
this if the calls do: none puts back what a call has taken, so what they leave is within the supply
again.
-/

namespace Windowing

open Native Client

variable {α β ε δ : Type} {native native' : Backend} {n j k : Nat}

/-- The two computations do the same wherever no more than `n` is in supply, counting what they bring
along, of which there is no more than `added`. -/
structure Concur (n added : Nat) (m m' : M α) : Prop where
  same : ∀ p, p.supply + added ≤ n → m.run p = m'.run p
  spendsSupply : ∀ p, SpendsSupply added p (final m p)

namespace Concur

variable {m m' : M α} {f f' : α → M β}

/-- A computation that adds nothing concurs with itself. -/
theorem idle (h : ∀ p, SpendsSupply 0 p (final m p)) : Concur n 0 m m := ⟨fun _ _ => rfl, h⟩

theorem mono (h : Concur n j m m') (le : j ≤ k) : Concur n k m m' :=
  ⟨fun p hp => h.same p (by omega), fun p => (h.spendsSupply p).mono le⟩

/-- Whatever the first part brings along may still be there for the second one. -/
theorem sequence (hm : Concur n j m m') (hf : ∀ a, Concur n k (f a) (f' a)) :
    Concur n (j + k) (m >>= f) (m' >>= f') where
  same p hp := by
    have left := (hm.spendsSupply p).supply
    have rest := (hf (result m p)).same (final m p) (by omega)
    change (f (m.run p).1).run (m.run p).2 = (f' (m'.run p).1).run (m'.run p).2
    rw [← hm.same p (by omega)]
    exact rest
  spendsSupply p := (hm.spendsSupply p).trans ((hf _).spendsSupply _)

theorem pure (a : α) : Concur n 0 (Pure.pure a : M α) (Pure.pure a) := .idle fun _ => .refl

theorem bind (hm : Concur n 0 m m') (hf : ∀ a, Concur n k (f a) (f' a)) :
    Concur n k (m >>= f) (m' >>= f') := by
  have both := hm.sequence hf
  rwa [Nat.zero_add] at both

theorem followed (hm : Concur n k m m') (hf : ∀ a, Concur n 0 (f a) (f' a)) :
    Concur n k (m >>= f) (m' >>= f') :=
  hm.sequence hf

/-- What the rest brings along was taken out of the supply before. -/
theorem repaid {l l' : Process → M α} {step : Process → Process}
    (run : ∀ p, m.run p = (l p).run (step p)) (run' : ∀ p, m'.run p = (l' p).run (step p))
    (h : ∀ p, ∃ k, Concur n k (l p) (l' p) ∧ (step p).held ≤ p.held ∧
      (step p).spare + k ≤ p.spare) : Concur n 0 m m' where
  same p hp := by
    obtain ⟨k, concur, held, spare⟩ := h p
    rw [run, run']
    refine concur.same _ ?_
    rw [Process.supply] at hp ⊢
    omega
  spendsSupply p := by
    obtain ⟨k, concur, held, spare⟩ := h p
    obtain ⟨held', spare'⟩ := concur.spendsSupply (step p)
    rw [final, run]
    exact ⟨Nat.le_trans held' held, by rw [final] at spare'; omega⟩

theorem look : Concur n 0 (get : M Process) get := .idle fun _ => .refl

theorem ite {c : Prop} [Decidable c] {l l' : M α} (hm : Concur n k m m') (hl : Concur n k l l') :
    Concur n k (if c then m else l) (if c then m' else l') := by
  split
  · exact hm
  · exact hl

theorem forM {g g' : β → M Unit} (h : ∀ b, Concur n 0 (g b) (g' b)) (bs : List β) :
    Concur n 0 (bs.forM g) (bs.forM g') := by
  induction bs with
  | nil => exact .pure _
  | cons b bs ih => exact .bind (h b) fun _ => ih

theorem getLocals : Concur n 0 getLocals getLocals := .bind .look fun _ => .pure _

theorem getTables : Concur n 0 getTables getTables := .bind .look fun _ => .pure _

theorem note (h : Happening) : Concur n 0 (note h) (note h) := .idle fun _ => .same rfl rfl rfl

theorem shared {g : Process → Process}
    (h : ∀ p, (g p).scripts = p.scripts ∧ (g p).schedule = p.schedule ∧ (g p).threads = p.threads) :
    Concur n 0 (modify g : M Unit) (modify g) :=
  .idle fun p => .same (h p).1 (h p).2.1 (h p).2.2

theorem locals {g : Locals → Locals}
    (h : ∀ s, reactionsSize ((g s).handler.getD []) ≤ reactionsSize (s.handler.getD []) + k) :
    Concur n k (modifyLocals g) (modifyLocals g) :=
  ⟨fun _ _ => rfl, fun p => .setHere (h p.locals)⟩

/-- The handler stays as it is. -/
theorem keepHandler {g : Locals → Locals} (h : ∀ s, (g s).handler = s.handler) :
    Concur n 0 (modifyLocals g) (modifyLocals g) :=
  locals fun s => by rw [h]; exact Nat.le_refl _

theorem tables (g : Tables → Tables) : Concur n 0 (modifyTables g) (modifyTables g) :=
  .idle fun p => .setHere (Nat.le_refl (reactionsSize p.here.reactions))

theorem takeError : Concur n 0 takeError takeError := by
  refine .bind .getLocals fun _ => ?_
  refine .bind (.keepHandler fun _ => rfl) fun _ => ?_
  exact .pure _

theorem takePanic : Concur n 0 takePanic takePanic := by
  refine .bind .getLocals fun _ => ?_
  refine .bind (.keepHandler fun _ => rfl) fun _ => ?_
  exact .pure _

theorem takeDeferred : Concur n 0 takeDeferred takeDeferred := by
  refine .bind .getLocals fun _ => ?_
  refine .bind (.keepHandler fun _ => rfl) fun _ => ?_
  exact .pure _

theorem setPending (e : Option Error) : Concur n 0 (setPending e) (setPending e) :=
  .keepHandler fun _ => rfl

theorem catchUnwind (hm : Concur n k m m') : Concur n k (catchUnwind m) (catchUnwind m') := by
  refine .followed hm fun _ => ?_
  refine .bind (.shared fun _ => ⟨rfl, rfl, rfl⟩) fun _ => ?_
  exact .pure _

/-- What is composed of parts that concur concurs. -/
theorem composed {prim : (α : Type) → (Backend → M α) → Prop}
    (h : ∀ α m, prim α m → Concur n 0 (m native) (m native')) {m : Backend → M α}
    (hm : Composed SameButPanics prim m) : Concur n 0 (m native) (m native') := by
  induction hm with
  | pure a => exact .pure a
  | bind _ _ first rest => exact .bind first rest
  | look _ _ rest => exact .bind .look rest
  | act hm => exact h _ _ hm

theorem onThread (t : ThreadId) (h : Concur n k m m') :
    Concur n k (onThread t m) (onThread t m') where
  same p hp := by
    let back : α × Process → α × Process := fun r => (r.1, { r.2 with running := p.running })
    exact congrArg back (h.same { p with running := t :: p.running } hp)
  spendsSupply p := by
    obtain ⟨held, spare⟩ := h.spendsSupply { p with running := t :: p.running }
    exact ⟨held, spare⟩

/-- The script in use is put back, whatever is left of the other one. -/
theorem withScript (script : Script) (h : Concur n k m m') :
    Concur n (script.size + k) (withScript script m) (withScript script m') where
  same p hp := by
    have room : script.held + p.spare + k ≤ n := by
      have held := script.held_le_size
      rw [Process.supply] at hp
      omega
    let back : α × Process → α × Process := fun r => (r.1, { r.2 with scripts := p.scripts })
    exact congrArg back (h.same { p with scripts := script :: p.scripts } room)
  spendsSupply p := by
    obtain ⟨-, spare⟩ := h.spendsSupply { p with scripts := script :: p.scripts }
    have more : p.spare + k ≤ p.spare + (script.size + k) := by omega
    exact ⟨Nat.le_refl p.held, Nat.le_trans spare more⟩

end Concur

/-! ### Operations -/

section Operations

variable (h : ∀ call, Concur n 0 (native call) (native' call))

include h

theorem checked_concurs (call : Call) :
    Concur n 0 (checked (native call)).run (checked (native' call)).run := by
  refine .bind .takeError fun before => .bind (h call) fun reply => ?_
  exact .bind .takeError fun raised => .bind (.setPending before) fun _ => .pure _

theorem destroy_concurs (pointer : Pointer) :
    Concur n 0 (Window.destroy native pointer) (Window.destroy native' pointer) := by
  refine .bind (checked_concurs h (.destroyWindow pointer)) fun outcome => ?_
  cases outcome with
  | error e => exact .note _
  | ok reply => exact .pure _

theorem release_concurs : Concur n 0 (release native) (release native') := by
  have unlocked : Concur n 0 unlock unlock := .shared fun _ => ⟨rfl, rfl, rfl⟩
  have terminated : Concur n 0 (terminate native) (terminate native') := by
    refine .bind (checked_concurs h .terminate) fun outcome => ?_
    cases outcome with
    | error e => exact .bind (.note _) fun _ => unlocked
    | ok reply => exact unlocked
  refine .bind (.shared fun _ => ⟨rfl, rfl, rfl⟩) fun _ => .bind .look fun p => ?_
  exact .ite terminated (.pure _)

theorem dropWindow_concurs (w : Window) : Concur n 0 (w.drop native) (w.drop native') := by
  refine .bind (.note _) fun _ => .bind .getLocals fun s => .ite ?_ ?_
  · refine .bind (.keepHandler fun _ => rfl) fun _ => .bind (.note _) fun _ => ?_
    exact release_concurs h
  · refine .bind (destroy_concurs h w.pointer) fun _ => ?_
    exact release_concurs h

theorem quiet_concurs {m : Backend → M α} (hm : Quiet α m) :
    Concur n 0 (m native) (m native') := by
  cases hm with
  | call call => exact h call
  | attempt call => exact checked_concurs h call
  | take => exact .takeError
  | log l => exact .note _
  | aside hm =>
    cases hm with
    | lend c | giveBack c => exact .note _
    | lent f | panics f => exact .shared fun _ => ⟨rfl, rfl, rfl⟩
    | contexts f => exact .tables _

theorem small_concurs {m : Backend → M α} (hm : Small α m) :
    Concur n 0 (m native) (m native') := by
  cases hm with
  | quiet hm => exact quiet_concurs h hm
  | call call => exact h call
  | attempt call => exact checked_concurs h call
  | obtain x => exact .note _
  | dropLibrary l => exact .note _
  | dropMonitor m => exact .note _
  | tables f => exact .tables f
  | shared change =>
    exact .shared fun p => ⟨change.scripts p, change.schedule p, (change.threads p).threads⟩
  | dropWindow w => exact dropWindow_concurs h w

theorem finish_concurs (panicked : Bool) :
    Concur n 0 (finish native panicked) (finish native' panicked) :=
  .composed (fun _ _ => small_concurs h) (finish_modest panicked).minor

/-! ### Pumps and threads -/

/-- The reactions of the handler are in supply while the pump runs. -/
theorem processEvents_concurs (call : Call) (handler : Handler) :
    Concur n (reactionsSize handler) (processEvents native call handler)
      (processEvents native' call handler) := by
  refine .followed (.locals fun _ => Nat.le_add_left _ _) fun _ => ?_
  refine .bind (checked_concurs h call) fun _ => ?_
  refine .bind (.locals fun _ => Nat.zero_le _) fun _ => ?_
  refine .bind .takeDeferred fun doomed => ?_
  refine .bind (.forM (destroy_concurs h) doomed) fun _ => ?_
  exact .pure _

theorem pump_concurs (kind : PumpKind) (handler : Handler) :
    Concur n (reactionsSize handler) (pump native kind handler).run
      (pump native' kind handler).run := by
  simp only [pump, ExceptT.run_bind, ExceptT.run_liftM, bind_map_left]
  refine .bind .getLocals fun s => ?_
  by_cases busy : s.dispatching = true
  · rw [if_pos busy, if_pos busy]
    exact (Concur.pure _).mono (Nat.zero_le _)
  · simp only [if_neg busy, ExceptT.run_bind, ExceptT.run_liftM, bind_map_left]
    refine .followed (processEvents_concurs h _ handler) fun _ => .bind .takePanic fun panic => ?_
    cases panic <;> exact .pure _

theorem runPump_concurs (slot : Nat) (kind : PumpKind) (handler : Handler) :
    Concur n (reactionsSize handler) (runPump native slot kind handler)
      (runPump native' slot kind handler) := by
  refine .bind .getTables fun _ => ?_
  refine .ite ((Concur.pure _).mono (Nat.zero_le _)) ?_
  refine .bind (.tables _) fun _ => ?_
  refine .followed (pump_concurs h kind handler) fun outcome => ?_
  refine .bind (.tables _) fun _ => ?_
  rcases outcome with message | (e | _) <;> exact .pure _

section Bodies

variable {body body' : M (Option String)} (hb : Concur n k body body')

include hb

theorem runToEnd_concurs : Concur n k (runToEnd native body) (runToEnd native' body') := by
  refine .followed hb fun _ => ?_
  refine .bind (finish_concurs h _) fun _ => ?_
  refine .bind (.note _) fun _ => ?_
  exact .pure _

theorem spawn_concurs (contexts : List (Option (Context × Nat))) :
    Concur n k (spawn native contexts body) (spawn native' contexts body') := by
  refine .bind .look fun _ => ?_
  refine .bind (.idle fun _ => .setThread rfl) fun _ => ?_
  refine .followed (.onThread _ (runToEnd_concurs h hb).catchUnwind) fun _ => ?_
  refine .bind (.idle fun _ => .erase _) fun _ => ?_
  exact .pure _

theorem runThread_concurs : Concur n k (runThread native body) (runThread native' body') := by
  refine .bind .look fun _ => ?_
  refine .ite ((Concur.pure _).mono (Nat.zero_le _)) ?_
  refine .bind .getTables fun _ => ?_
  refine .bind (.tables _) fun _ => ?_
  refine .followed (spawn_concurs h hb _) fun _ => ?_
  refine .bind (.tables _) fun _ => ?_
  exact .pure _

end Bodies

end Operations

/-! ### Steps -/

mutual

theorem runOp_concurs (h : ∀ call, Concur n 0 (native call) (native' call)) :
    ∀ op : Op, Concur n op.size (runOp native op) (runOp native' op)
  | .onThread steps => runThread_concurs h (runSteps_concurs h steps)
  | .pump slot kind reactions => runPump_concurs h slot kind reactions
  | .init | .tryInit | .getError | .getVersion | .getVersionString | .getTime | .detachCurrent
  | .current | .swapInterval _ | .extensionSupported _ | .getProcAddress _ | .panic _
  | .library _ _ | .window _ _ | .monitor _ _ | .context _ _ =>
    .composed (fun _ _ => small_concurs h) (runOp_small _ rfl)

theorem runStep_concurs (h : ∀ call, Concur n 0 (native call) (native' call)) :
    ∀ step : Step, Concur n step.size (runStep native step) (runStep native' step)
  | .mk script op => .bind (.note _) fun _ =>
    .followed (.withScript script (runOp_concurs h op)) fun _ => .bind (.note _) fun _ => .pure _

theorem runSteps_concurs (h : ∀ call, Concur n 0 (native call) (native' call)) :
    ∀ steps : List Step, Concur n (stepsSize steps) (runSteps native steps) (runSteps native' steps)
  | [] => .pure _
  | step :: rest => by
    refine .sequence (runStep_concurs h step) fun outcome => ?_
    have later := runSteps_concurs h rest
    cases outcome with
    | panicking message => exact (Concur.pure _).mono (Nat.zero_le _)
    | _ => exact later

end

section Calls

variable (h : ∀ call, Concur n 0 (native call) (native' call))

include h

theorem endThread_concurs (thread : ThreadId) (panic : Option String) :
    Concur n 0 (endThread native thread panic) (endThread native' thread panic) :=
  .bind (Concur.bind (finish_concurs h _) fun _ => .note _).catchUnwind fun _ => .idle fun _ =>
    .erase _

theorem runTurn_concurs (turn : Turn) :
    Concur n turn.size (runTurn native turn) (runTurn native' turn) := by
  have interjected : ∀ {thread : ThreadId} {body body' : M Unit} {k : Nat}, Concur n k body body' →
      Concur n k (interject thread body) (interject thread body') := fun hb =>
    .bind .look fun _ => .ite ((Concur.pure _).mono (Nat.zero_le _)) (.onThread _ hb)
  cases turn with
  | finish thread => exact interjected (endThread_concurs h thread none)
  | step thread step =>
    refine interjected (.followed (runStep_concurs h step) fun outcome => ?_)
    cases outcome with
    | panicking message => exact endThread_concurs h thread _
    | _ => exact .pure _

theorem runTurns_concurs (turns : List Turn) :
    Concur n (turnsSize turns) (turns.forM (runTurn native)) (turns.forM (runTurn native')) := by
  induction turns with
  | nil => exact .pure _
  | cons turn rest ih => exact .sequence (runTurn_concurs h turn) fun _ => ih

/-! ### Callbacks -/

omit h in
/-- The rest of a reaction, once it is taken from the handler. -/
theorem react_run (native : Backend) (time : Float) (event : Event) (p : Process) :
    (react native time event).run p = StateT.run (do
      note (.handling time event)
      let panic ← catchUnwind (runSteps native (p.here.reactions.headD []))
      note (.handled panic)
      return panic) (final (modifyLocals Locals.nextReaction) p) :=
  rfl

theorem react_concurs (time : Float) (event : Event) :
    Concur n 0 (react native time event) (react native' time event) :=
  .repaid (react_run native time event) (react_run native' time event) fun p =>
    ⟨_, .bind (.note _) fun _ => .followed (runSteps_concurs h _).catchUnwind fun _ =>
      .bind (.note _) fun _ => .pure _, Nat.le_refl _, Nat.le_of_eq p.spare_nextReaction⟩

theorem deliver_concurs (decoded : Except Log Event) :
    Concur n 0 (deliver native (react native) decoded)
      (deliver native' (react native') decoded) := by
  cases decoded with
  | error warning => exact .note _
  | ok event =>
    refine .bind (h _) fun _ => .bind .getLocals fun state => ?_
    cases state.dropReason with
    | some reason => exact .note _
    | none =>
      refine .bind (.keepHandler fun _ => rfl) fun _ => ?_
      refine .bind (react_concurs h _ _) fun _ => ?_
      exact .keepHandler fun _ => rfl

theorem invoke_concurs (callback : Callback) :
    Concur n 0 (invoke native callback) (invoke native' callback) := by
  refine .bind .look fun p => .ite (.bind (.note _) fun _ => ?_) (.pure _)
  cases callback with
  | error code description => exact .bind (.note _) fun _ => .keepHandler fun _ => rfl
  | monitor monitor event => exact deliver_concurs h _
  | window window signal => exact deliver_concurs h _

end Calls

end Windowing
