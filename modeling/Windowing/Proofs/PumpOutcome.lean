import Windowing.Proofs.CallExchanges
import Windowing.Proofs.InitializationLock
import Windowing.Proofs.PumpErrors

/-!
The end of a pump. Once its native call has returned, the handler goes, the windows that it dropped
are destroyed in that order, and then the pump goes on with the handler's panic or ends with the
error that is left. Its thread is as it was before.
-/

namespace Windowing

open Native Client

variable {p q : Process} {hs : List Happening}

/-- A destruction, whose failure is only logged. -/
def Exchange.destruction (x : Exchange) : List Happening :=
  x.entries ++ (x.error?.map fun e => .logged (.destroyFailed e)).toList

/-- The first error that was reported while a pump waited, outside the checked calls of its handler
and after the handler last asked for the pending error. -/
def errorLeft (handler : Handler) (inside : List Happening) : Option Error :=
  firstSinceTaken (inside.foldl Reading.read { reactions := handler }).marks

/-- No other cell of the thread has changed. -/
theorem Leaves.locals_eq (h : Leaves p q hs) (pending : q.locals.pending = p.locals.pending)
    (outside : p.locals.dispatching = false) : q.locals = p.locals := by
  have deferred := h.deferred
  rw [outside, if_neg (by decide), List.append_nil] at deferred
  change (⟨q.locals.pending, q.locals.handler, q.locals.dispatching, q.locals.panic,
    q.locals.deferred⟩ : Locals) = p.locals
  rw [pending, h.handler, h.dispatching, h.panic, deferred]

/-- Without a handler the thread dismisses all events. -/
theorem reason_of_absent (absent : p.locals.handler = none) :
    p.locals.dropReason = some .noHandler := by
  rw [Locals.dropReason, absent]
  rfl

theorem Locals.Quiescent.eq {s : Locals} (h : s.Quiescent) : s = { pending := s.pending } := by
  obtain ⟨pending, handler, dispatching, panic, deferred⟩ := s
  obtain rfl : handler = none := h.handler
  obtain rfl : dispatching = false := h.dispatching
  obtain rfl : panic = none := h.panic
  obtain rfl : deferred = [] := h.deferred
  rfl

/-- Between its steps outside handlers a thread has no handler, nor anything that one left. -/
theorem ReadyToStep.quiescent (h : ReadyToStep p) (outside : p.locals.dispatching = false) :
    p.locals.Quiescent := by
  obtain ⟨w, o, calm, work, others, standing⟩ := h
  obtain ⟨rfl, -⟩ := work.outside (by simp [outside])
  have idle : p.locals.Idle := work.calm.idle
  refine ⟨idle, ?_⟩
  rcases standing.owner others with bare | ⟨-, l, kept⟩
  · exact bare.deferred
  · exact kept.account.deferred idle.handler

/-! ### Destructions -/

/-- What a destruction after a pump may be. -/
structure Exchange.Destroys (x : Exchange) (pointer : Pointer) : Prop where
  call : x.call = .destroyWindow pointer
  plain : x.Plain
  dismissesEvents : ∀ h ∈ x.meanwhile, h.DropsFor .noHandler

theorem destroy_quietly (depth : Nat) (pointer : Pointer) (hr : p.current ∈ p.running)
    (absent : p.locals.handler = none) : ∃ x : Exchange, x.Destroys pointer ∧
      Leaves p (final (Window.destroy (backend depth) pointer) p) x.destruction := by
  have reason := reason_of_absent absent
  obtain ⟨meanwhile, reply, plain, left, outcome⟩ :=
    (backend_replies depth).checked (.destroyWindow pointer) hr (deaf_of_reason reason)
  have dismissed := (backend_dropsFor .noHandler depth (.destroyWindow pointer)).checked.during hr
    reason
  rw [left.during_eq] at dismissed
  let x : Exchange := ⟨.destroyWindow pointer, meanwhile, reply⟩
  have within : ∀ h ∈ meanwhile, h.DropsFor .noHandler := fun h hh =>
    dismissed h (List.mem_append_left _ (List.mem_cons_of_mem _ hh))
  refine ⟨x, ⟨rfl, plain, within⟩, ?_⟩
  rw [Exchange.destruction, Window.destroy, final_bind, outcome]
  cases reported : x.error? with
  | none =>
    rw [show (reports meanwhile).head? = none from reported]
    exact left.trans .refl
  | some e =>
    rw [show (reports meanwhile).head? = some e from reported]
    exact left.trans (.note rfl _)

/-- Windows are destroyed one after the other, each once. -/
theorem destroyAll_quietly (depth : Nat) (doomed : List Pointer) (hr : p.current ∈ p.running)
    (absent : p.locals.handler = none) : ∃ destroyed : List Exchange,
      List.Forall₂ Exchange.Destroys destroyed doomed ∧
      Leaves p (final (doomed.forM fun pointer => Window.destroy (backend depth) pointer) p)
        (destroyed.flatMap Exchange.destruction) := by
  induction doomed generalizing p with
  | nil => exact ⟨[], .nil, .refl⟩
  | cons pointer doomed ih =>
    obtain ⟨x, destroys, first⟩ := destroy_quietly depth pointer hr absent
    obtain ⟨xs, destroyed, rest⟩ := ih (first.mem_running hr) (first.handler.trans absent)
    refine ⟨x :: xs, .cons destroys destroyed, ?_⟩
    rw [List.flatMap_cons]
    exact first.trans rest

/-- Once the native call has returned, the handler goes and its windows are destroyed. -/
theorem tidy_quietly (depth : Nat) (outer : Option Error) (reply : Reply)
    (hr : p.current ∈ p.running) (idle : p.locals.dispatching = false) :
    ∃ destroyed : List Exchange, List.Forall₂ Exchange.Destroys destroyed p.locals.deferred ∧
      Passes p (final (tidy (backend depth) outer reply) p)
        (destroyed.flatMap Exchange.destruction) ∧
      result (tidy (backend depth) outer reply) p = verdict reply p.locals.pending ∧
      (final (tidy (backend depth) outer reply) p).locals =
        { p.locals with pending := outer, handler := none, deferred := [] } := by
  let bared := final takeDeferred (final (modifyLocals fun s => { s with handler := none })
    (final (setPending outer) (final takeError p)))
  have locals : bared.locals =
      { p.locals with pending := outer, handler := none, deferred := [] } := by
    simp [bared, takeDeferred, takeError, setPending, final_modifyLocals, Process.locals]
  have doomed : result takeDeferred (final (modifyLocals fun s => { s with handler := none })
      (final (setPending outer) (final takeError p))) = p.locals.deferred := by
    simp [takeDeferred, takeError, setPending, final_modifyLocals, Process.locals]
  have absent : bared.locals.handler = none := by rw [locals]
  obtain ⟨destroyed, each, left⟩ :=
    destroyAll_quietly depth p.locals.deferred (p := bared) hr absent
  have run : final (tidy (backend depth) outer reply) p =
      final (p.locals.deferred.forM fun pointer => Window.destroy (backend depth) pointer)
        bared := by
    rw [← doomed]
    rfl
  have spared : SparesPending (p.locals.deferred.forM fun pointer =>
    Window.destroy (backend depth) pointer) :=
    .forM (.destroy (backend_confined depth)) _
  have bares : Passes p bared [] := ⟨rfl, rfl⟩
  rw [run]
  refine ⟨destroyed, each, bares.trans (.of_leaves left), rfl, ?_⟩
  rw [left.locals_eq (spared bared hr).2 (by rw [locals]; exact idle), locals]

/-! ### The pump -/

theorem locals_pumped (outer : Option Nat) (outcome : Except Error Reply) (p : Process) :
    (final (pumped outer outcome) p).locals = { p.locals with panic := none } := by
  simp [pumped, takePanic, final_modifyLocals, final_modifyTables, Process.locals]

theorem pumped_passes (outer : Option Nat) (outcome : Except Error Reply) (p : Process) :
    Passes p (final (pumped outer outcome) p) [] := ⟨rfl, rfl⟩

/-- A call and its return tell nothing of what happens in between. -/
theorem errorLeft_eq (handler : Handler) (call : Call) (reply : Reply) (inside : List Happening) :
    firstSinceTaken ((.called call :: (inside ++ [.returned call reply])).foldl Reading.read
      { reactions := handler }).marks = errorLeft handler inside := by
  have unmarked : ∀ r : Reading, (r.read (.returned call reply)).marks = r.marks := by
    rintro ⟨reactions, steps, since, marks⟩
    cases since <;> rfl
  rw [List.foldl_cons, List.foldl_append, List.foldl_cons, List.foldl_nil, unmarked]
  rfl

theorem panic_eq (call : Call) (reply : Reply) (inside : List Happening) :
    (.called call :: (inside ++ [.returned call reply])).findSome? Happening.panic? =
      inside.findSome? Happening.panic? := by
  change (inside ++ [Happening.returned call reply]).findSome? Happening.panic? = _
  rw [List.findSome?_append]
  exact Option.or_none

theorem doomed_eq (call : Call) (reply : Reply) (inside : List Happening) :
    (.called call :: (inside ++ [.returned call reply])).filterMap Happening.doomed? =
      inside.filterMap Happening.doomed? := by
  rw [List.filterMap_cons_none rfl, List.filterMap_append]
  exact List.append_nil _

/-- What is left of a handler when its pump's native call returns. -/
structure Remnants (handler : Handler) (inside : List Happening) (s : Locals) : Prop where
  pending : s.pending = errorLeft handler inside
  dispatching : s.dispatching = false
  panic : s.panic = inside.findSome? Happening.panic?
  deferred : s.deferred = inside.filterMap Happening.doomed?

/-- The native call of a pump. -/
theorem installed_remnants (h : ReadyToStep p) (depth : Nat) {slot : Nat}
    (library : (occupant p.tables.libraries slot).isSome = true)
    (outside : p.locals.dispatching = false) (kind : PumpKind) (handler : Handler) :
    let q := p.installed slot handler
    let native := backend depth kind.call
    ∃ inside, Passes q (final native q)
        (.called kind.call :: (inside ++ [.returned kind.call (result native q)])) ∧
      Remnants handler inside (final native q).locals := by
  intro q native
  have quiescent := h.quiescent outside
  have locals : q.locals = { p.locals with handler := some handler, pending := none } :=
    congrArg Thread.locals (here_installed p slot handler)
  have calling : Calling kind.call q :=
    installed_calling h slot kind handler library (by simp [outside])
  have neutral : kind.call.neutral = true := by cases kind <;> rfl
  have idle : q.locals.dispatching = false := by rw [locals, outside]
  obtain ⟨inside, attended⟩ := backend_attended depth kind.call neutral calling idle
  have fits : ({ reactions := handler } : Reading).Fits q.locals := by
    rw [locals]
    exact ⟨rfl, rfl, rfl⟩
  refine ⟨inside, attended.passes, ?_, attended.dispatching.trans idle, ?_, ?_⟩
  · rw [(attended.reading _ fits).pending, errorLeft_eq]
  · rw [attended.panic, locals, panic_eq]
    exact congrArg (Option.or · _) quiescent.panic
  · rw [attended.deferred, locals, doomed_eq]
    exact congrArg (· ++ _) quiescent.deferred

/-- Outside handlers a pump waits while its native call lasts. Then the handler is gone, the windows
that the handler dropped are destroyed in that order, each once, where all their events are dropped
for want of a handler and the errors are only logged, and nothing else happens until the pump ends.
It ends with the first panic of its handler, whatever was reported; otherwise it fails with the
first error that was reported while it waited, outside the checked calls of the handler and after
the handler last asked for the pending error, and succeeds if there is none. In any case the thread
is left as it was, with the error pending that was pending before. -/
theorem pump_outcome (h : Juncture true p) (script : Script) (depth : Nat) {slot : Nat}
    (library : (occupant p.tables.libraries slot).isSome = true)
    (outside : p.locals.dispatching = false) (kind : PumpKind) (handler : Handler) :
    let p := p.stepping script
    let m := runOp (backend depth) (.pump slot kind handler)
    ∃ (inside : List Happening) (reply : Reply) (destroyed : List Exchange),
      during m p = .called kind.call :: inside ++ .returned kind.call reply ::
        destroyed.flatMap Exchange.destruction ∧
      List.Forall₂ Exchange.Destroys destroyed (inside.filterMap Happening.doomed?) ∧
      (result m p = match inside.findSome? Happening.panic?, errorLeft handler inside with
        | some message, _ => .panicked message
        | none, some e => .failed e
        | none, none => .answered .unit) ∧
      (final m p).locals = p.locals := by
  intro p' m
  have readyToStep : ReadyToStep p' := h.settled.readyToStep.stepping script
  have idle : p'.locals.dispatching = false := outside
  obtain ⟨inside, waited, remnants⟩ :=
    installed_remnants readyToStep depth library idle kind handler
  let reply := result (backend depth kind.call) (p'.installed slot handler)
  let returned := final (backend depth kind.call) (p'.installed slot handler)
  have running : returned.current ∈ returned.running := by
    rw [waited.current, waited.running]
    exact readyToStep.unheeding.1
  obtain ⟨destroyed, each, tidied, outcome, locals⟩ :=
    tidy_quietly depth p'.locals.pending reply running remnants.dispatching
  let cleared := final (tidy (backend depth) p'.locals.pending reply) returned
  have run : m.run p' = (pumped p'.tables.pumping
      (result (tidy (backend depth) p'.locals.pending reply) returned)).run cleared :=
    runPump_run (backend depth) slot kind handler library (by simp [idle])
  have passes : Passes p' (final m p')
      (.called kind.call :: (inside ++ [.returned kind.call reply]) ++
        destroyed.flatMap Exchange.destruction) := by
    have installed : Passes p' (p'.installed slot handler) [] := ⟨rfl, rfl⟩
    have ended : Passes cleared (final m p') [] := by
      rw [final, run]
      exact pumped_passes _ _ _
    simpa using (installed.trans (waited.trans tidied)).trans ended
  refine ⟨inside, reply, destroyed, ?_, remnants.deferred ▸ each, ?_, ?_⟩
  · rw [passes.during_eq]
    simp
  · have ended : result m p' = pumpOutcome cleared.locals.panic
        (result (tidy (backend depth) p'.locals.pending reply) returned) := congrArg Prod.fst run
    have panic : cleared.locals.panic = inside.findSome? Happening.panic? := by
      rw [locals]
      exact remnants.panic
    rw [ended, outcome, panic, remnants.pending]
    cases inside.findSome? Happening.panic? <;> cases errorLeft handler inside <;> rfl
  · have ended : (final m p').locals = { cleared.locals with panic := none } := by
      rw [final, run]
      exact locals_pumped _ _ _
    rw [ended, locals, (readyToStep.quiescent idle).eq]
    have quiet : returned.locals.dispatching = false := remnants.dispatching
    exact congrArg (fun dispatching => ({ pending := _, dispatching } : Locals)) quiet

/-- A thread that has a library and a window, and an error that nobody has asked for. -/
def unasked : Process :=
  final (runStep (backend 1)
      (.mk ⟨[("glfwGetVersion", [{ callbacks := [.error 0x70003 none] }])]⟩ .getVersion))
    (final (runStep (backend 1) (.mk ⟨[("glfwCreateWindow", [{ pointer := 0x1000 }])]⟩
        (.library 0 (.createWindow
          { hints := [], width := 4, height := 4, title := "", monitor := none, share := none }))))
      (final (runStep (backend 1) (.mk {} .init)) (Session.start {})))

/-- The pump and the destruction report errors. -/
def roughPump : Script :=
  ⟨[("glfwPollEvents", [{ callbacks := [.error 0x70008 none, .window 0x1000 .close] }]),
    ("glfwDestroyWindow", [{ callbacks := [.error 0x70001 none, .window 0x1000 .refresh] }])]⟩

/-- The handler drops its window and panics. -/
theorem pump_outcome_unasked : Juncture true unasked ∧
    (occupant unasked.tables.libraries 0).isSome = true ∧ unasked.locals.dispatching = false ∧
    let p := unasked.stepping roughPump
    let m := runOp (backend 2) (.pump 0 .poll [[.mk {} (.window 0 .drop), .mk {} (.panic "lost")]])
    result m p = .panicked "lost" ∧ .logged (.destroyFailed (.reported 0x70001 "")) ∈ during m p ∧
      (final m p).locals.pending = some (.reported 0x70003 "") := by
  have reached : Juncture true unasked := .step 1 _ (.step 1 _ (.step 1 _ (.start {})))
  have library : (occupant unasked.tables.libraries 0).isSome = true := by decide +kernel
  have outside : unasked.locals.dispatching = false := by decide +kernel
  obtain ⟨_, _, _, -, -, -, same⟩ := pump_outcome reached roughPump 2 library outside .poll
    [[.mk {} (.window 0 .drop), .mk {} (.panic "lost")]]
  exact ⟨reached, library, outside, by decide +kernel, by decide +kernel,
    (congrArg Locals.pending same).trans (by decide +kernel)⟩

end Windowing
