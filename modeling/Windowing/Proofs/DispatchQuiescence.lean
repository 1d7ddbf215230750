import Windowing.Proofs.HistoryLedger
import Windowing.Proofs.ClientCode

/-!
Quiescence of the dispatch state. Outside pumps a thread has no handler, none that runs, no panic of
one and no window that waits to be destroyed, whatever its pumps did before. While a handler runs its
operations leave it installed and running and no panic behind, and add to the waiting windows those
that they drop.
-/

namespace Windowing

open Native Client

variable {α β : Type} {native : Backend} {p : Process} {s : Locals}

/-- No pump runs, and none has left anything behind. -/
structure Locals.Quiescent (s : Locals) : Prop extends s.Idle where
  deferred : s.deferred = []

/-- A pump with the given reactions waits for events, of which some were handled. -/
structure Locals.Waits (reactions : Handler) (s : Locals) : Prop where
  handler : ∃ begun, s.handler = some (reactions.drop begun)
  dispatching : s.dispatching = false

theorem deaf_of_dispatching (h : p.locals.dispatching = true) : Deaf p := by
  unfold Deaf Locals.dropReason
  rw [h]
  cases p.locals.handler <;> cases p.locals.panic <;> rfl

theorem Locals.Idle.deaf (h : p.locals.Idle) : Deaf p := by
  unfold Deaf Locals.dropReason
  rw [h.handler]
  rfl

theorem Leaves.quiescent {q : Process} {hs : List Happening} (h : Leaves p q hs)
    (hq : p.locals.Quiescent) : q.locals.Quiescent := by
  refine ⟨⟨h.handler.trans hq.handler, h.dispatching.trans hq.dispatching,
    h.panic.trans hq.panic⟩, ?_⟩
  rw [h.deferred, hq.deferred, hq.dispatching]
  rfl

/-! ### Inside a handler -/

/-- A computation of client code. In a handler it only adds to the windows that wait. -/
def HandlerCodeEffects (m : M α) : Prop :=
  ∀ p, p.current ∈ p.running → p.locals.dispatching = true → ∃ hs, Leaves p (final m p) hs

theorem ClientEffects.handles {m : M α} (h : ClientEffects m) : HandlerCodeEffects m := fun p hr hd =>
  h p hr (deaf_of_dispatching hd)

namespace HandlerCodeEffects

theorem bind {m : M α} {f : α → M β} (hm : HandlerCodeEffects m)
    (hf : ∀ a, HandlerCodeEffects (f a)) :
    HandlerCodeEffects (m >>= f) := by
  intro p hr hd
  obtain ⟨hs, left⟩ := hm p hr hd
  obtain ⟨hs', left'⟩ := hf (result m p) _ (left.mem_running hr) (left.dispatching.trans hd)
  exact ⟨hs ++ hs', left.trans left'⟩

theorem pure (a : α) : HandlerCodeEffects (Pure.pure a : M α) := ClientEffects.handles (.pure a)

theorem withScript (script : Script) {body : M α} (hb : HandlerCodeEffects body) :
    HandlerCodeEffects (withScript script body) := by
  intro p hr hd
  have before : Leaves p { p with scripts := script :: p.scripts } [] :=
    .of_sameThreads (alike_scripts p _).toSameThreads
  obtain ⟨hs, left⟩ := hb _ (before.mem_running hr) (before.dispatching.trans hd)
  have after : Leaves (final body { p with scripts := script :: p.scripts })
      (final (Windowing.withScript script body) p) [] :=
    .of_sameThreads (alike_scripts _ p.scripts).toSameThreads
  exact ⟨_, (before.trans left).trans after⟩

variable (h : LibraryOnlyReports native) (hc : ∀ call, Confined (native call))

include h

omit h in
/-- A handler may not pump. -/
theorem runPump (slot : Nat) (kind : PumpKind) (handler : Handler) :
    HandlerCodeEffects (runPump native slot kind handler) := by
  have refused : HandlerCodeEffects (pump native kind handler).run := by
    intro p _ hd
    rw [final_pump_refused hd]
    exact ⟨[], .refl⟩
  refine .bind (ClientEffects.handles (.bind .look fun _ => .pure _)) fun t => ?_
  split
  · exact pure _
  refine .bind (ClientEffects.handles (.tables _)) fun _ => ?_
  refine .bind refused fun outcome => ?_
  refine .bind (ClientEffects.handles (.tables _)) fun _ => ?_
  rcases outcome with message | (e | _) <;> exact pure _

include hc

omit h in
theorem runThread {body : M (Option String)} (hb : Confined body) :
    HandlerCodeEffects (runThread native body) := by
  refine .bind (ClientEffects.handles .look) fun _ => ?_
  split
  · exact pure _
  have apart : ∀ contexts, HandlerCodeEffects (spawn native contexts body) := fun contexts p hr _ =>
    ⟨[], .of_apart (Confined.spawn_apart hc contexts hb) hr⟩
  refine .bind (ClientEffects.handles (.bind .look fun _ => .pure _)) fun t => ?_
  refine .bind (ClientEffects.handles (.tables _)) fun _ => ?_
  refine .bind (apart _) fun _ => ?_
  refine .bind (ClientEffects.handles (.tables _)) fun _ => ?_
  exact pure _

theorem law : StepLaw native fun _ m => HandlerCodeEffects m ∧ Confined m where
  pure a := ⟨pure a, .pure a⟩
  bind hm hf := ⟨bind hm.1 fun a => (hf a).1, .bind hm.2 fun a => (hf a).2⟩
  operation op small := ⟨ClientEffects.handles
    (.composed (fun _ _ => .small h) (runOp_small op small)),
    (Confined.law hc).operation op small⟩
  pump slot kind reactions := ⟨runPump slot kind reactions,
    (Confined.law hc).pump slot kind reactions⟩
  thread _ hb := ⟨runThread hc hb.2, (Confined.law hc).thread _ hb.2⟩
  step script op hop :=
    ⟨.bind (ClientEffects.handles (.note rfl)) fun _ => .bind (withScript script hop.1) fun _ =>
      .bind (ClientEffects.handles (.note rfl)) fun _ => pure _,
        (Confined.law hc).step script op hop.2⟩

end HandlerCodeEffects

/-! ### While events are processed -/

/-- A computation during which only callbacks may happen to the current thread, and that keeps what
holds of its state. -/
def CallbacksPreserve (holds : Locals → Prop) (m : M α) : Prop :=
  ∀ p, p.current ∈ p.running → holds p.locals →
    (final m p).running = p.running ∧ holds (final m p).locals

/-- What callbacks keep of a thread, also if its handler takes their events. -/
structure PreservedByCallbacks (native : Backend) (holds : Locals → Prop) : Prop where
  pending : ∀ s e, holds s → holds { s with pending := e }
  dispatch : ∀ time event, CallbacksPreserve holds (dispatch (react native) time event)

namespace CallbacksPreserve

variable {holds : Locals → Prop}

theorem pure (a : α) : CallbacksPreserve holds (Pure.pure a : M α) := fun _ _ hp => ⟨rfl, hp⟩

theorem bind {m : M α} {f : α → M β} (hm : CallbacksPreserve holds m)
    (hf : ∀ a, CallbacksPreserve holds (f a)) :
    CallbacksPreserve holds (m >>= f) := by
  intro p hr hp
  obtain ⟨running, hq⟩ := hm p hr hp
  have hcurrent : (final m p).current = p.current := Process.current_eq running
  obtain ⟨running', hr'⟩ := hf (result m p) (final m p) (by rw [hcurrent, running]; exact hr) hq
  exact ⟨running'.trans running, hr'⟩

theorem forM {f : α → M Unit} (hf : ∀ a, CallbacksPreserve holds (f a)) (xs : List α) :
    CallbacksPreserve holds (xs.forM f) := by
  induction xs with
  | nil => exact pure _
  | cons x xs ih => exact bind (hf x) fun _ => ih

theorem note (h : Happening) : CallbacksPreserve holds (note h) := fun _ _ hp => ⟨rfl, hp⟩

theorem alike {m : M α} (hm : ∀ p, Alike p (final m p)) : CallbacksPreserve holds m := fun p _ hp =>
  ⟨(hm p).running, (hm p).toSameThreads.locals ▸ hp⟩

theorem apart {m : M α} (hm : Apart m) : CallbacksPreserve holds m := by
  intro p hr hp
  obtain ⟨running, waits⟩ := hm p
  have hcurrent : (final m p).current = p.current := Process.current_eq running
  refine ⟨running, ?_⟩
  rw [Process.locals, Process.here, hcurrent, (waits _ hr).thread]
  exact hp

theorem withScript (script : Script) {body : M α} (hb : CallbacksPreserve holds body) :
    CallbacksPreserve holds (withScript script body) := fun _ hr hp => hb _ hr hp

theorem callWith {meanwhile : Reply → M Unit} (h : ∀ reply, CallbacksPreserve holds (meanwhile reply))
    (call : Call) : CallbacksPreserve holds (callWith meanwhile call) := by
  refine .bind (note _) fun _ => ?_
  refine .bind (alike (takeReply_alike call)) fun reply => ?_
  refine .bind (h reply) fun _ => ?_
  refine .bind (alike (settle_alike call)) fun _ => ?_
  refine .bind (note _) fun _ => ?_
  exact pure reply

variable (h : PreservedByCallbacks native holds)
  (hcall : ∀ call, CallbacksPreserve holds (native call))

include h hcall

theorem deliver (decoded : Except Log Event) :
    CallbacksPreserve holds (deliver native (react native) decoded) := by
  cases decoded with
  | error warning => exact note _
  | ok event => exact .bind (hcall .getTime) fun reply => h.dispatch reply.time event

theorem heed (callback : Callback) : CallbacksPreserve holds (heed native callback) := by
  cases callback with
  | error code description =>
    intro p _ hp
    refine ⟨rfl, ?_⟩
    rw [Windowing.heed, locals_onError]
    exact h.pending _ _ hp
  | monitor monitor event => exact deliver h hcall _
  | window window signal => exact deliver h hcall _

theorem invoke (callback : Callback) : CallbacksPreserve holds (invoke native callback) := by
  have heeded : CallbacksPreserve holds (do
      Windowing.note (.invoked callback)
      Windowing.heed native callback) := bind (note _) fun _ => heed h hcall callback
  intro p hr hp
  cases listens : p.listens callback with
  | true =>
    rw [final, invoke_run listens]
    exact heeded p hr hp
  | false =>
    rw [final, invoke_unheard listens]
    exact pure () p hr hp

end CallbacksPreserve

theorem backend_callbacksPreserve {holds : Locals → Prop}
    (h : ∀ depth, PreservedByCallbacks (backend depth) holds)
    (depth : Nat) (call : Call) : CallbacksPreserve holds (backend depth call) := by
  induction depth generalizing call with
  | zero => exact .callWith (fun _ => .pure ()) call
  | succ depth ih =>
    have turns : ∀ turn, CallbacksPreserve holds (runTurn (backend depth) turn) := fun turn =>
      .apart (Confined.runTurn (backend_confined depth) turn)
    exact .callWith (fun reply => .bind (.alike takeTurns_alike) fun batch =>
      .bind (.forM turns batch) fun _ => .forM
        (CallbacksPreserve.invoke (h depth) ih) reply.callbacks) call

/-- A handler that runs takes one of its reactions, and keeps the others and its state. -/
theorem react_leaves (h : LibraryOnlyReports native) (hc : ∀ call, Confined (native call))
    (time : Float)
    (event : Event) (hr : p.current ∈ p.running) (hd : p.locals.dispatching = true) :
    (final (react native time event) p).running = p.running ∧
      (final (react native time event) p).locals.handler = p.locals.handler.map List.tail ∧
      (final (react native time event) p).locals.panic = p.locals.panic := by
  let pop (s : Locals) : Locals := { s with handler := s.handler.map List.tail }
  let started := (final (modifyLocals pop) p).note (.handling time event)
  have locals : started.locals = pop p.locals := locals_modifyLocals pop p
  obtain ⟨hs, left⟩ := ((HandlerCodeEffects.law h hc).runSteps
    ((p.locals.handler.getD []).headD [])).1 started
    hr (by rw [locals]; exact hd)
  rw [final_react, final_catchUnwind]
  exact ⟨left.running, left.handler.trans (by rw [locals]), left.panic.trans (by rw [locals])⟩

theorem preservedByCallbacks_waits (h : LibraryOnlyReports native)
    (hc : ∀ call, Confined (native call))
    (reactions : Handler) : PreservedByCallbacks native (·.Waits reactions) where
  pending s e hs := ⟨hs.handler, hs.dispatching⟩
  dispatch time event p hr hp := by
    cases hreason : p.locals.dropReason with
    | some reason =>
      rw [dispatch_dropped hreason]
      exact ⟨rfl, hp⟩
    | none =>
      let entered := final (modifyLocals fun s => { s with dispatching := true }) p
      have locals : entered.locals = { p.locals with dispatching := true } :=
        locals_modifyLocals _ p
      obtain ⟨running, handler, -⟩ := react_leaves h hc time event (p := entered) hr (by rw [locals])
      obtain ⟨begun, installed⟩ := hp.handler
      rw [dispatch_handled hreason rfl rfl]
      refine ⟨running, ⟨begun + 1, ?_⟩, ?_⟩
      · rw [locals_modifyLocals, handler, locals, installed, Option.map_some, List.tail_drop]
      · rw [locals_modifyLocals]

/-! ### Outside pumps -/

theorem ClientEffects.rests {m : M α} (h : ClientEffects m) :
    CallbacksPreserve Locals.Quiescent m := by
  intro p hr hp
  obtain ⟨hs, left⟩ := h p hr hp.toIdle.deaf
  exact ⟨left.running, left.quiescent hp⟩

/-- What the handler of a pump leaves behind goes with the pump. -/
theorem pump_rests (h : LibraryOnlyReports native) {kind : PumpKind}
    (hcall : ∀ reactions, CallbacksPreserve (·.Waits reactions) (native kind.call))
    (handler : Handler) :
    CallbacksPreserve Locals.Quiescent (pump native kind handler).run := by
  intro p hr hp
  let install (s : Locals) : Locals := { s with handler := some handler }
  have waiting : (final (modifyLocals install) p).locals.Waits handler := by
    rw [locals_modifyLocals]
    exact ⟨⟨0, rfl⟩, hp.dispatching⟩
  have attempt : CallbacksPreserve (·.Waits handler) (checked (native kind.call)).run := by
    have pending : ∀ e, CallbacksPreserve (·.Waits handler) (setPending e) := fun e p _ hp =>
      ⟨rfl, by rw [locals_setPending]; exact ⟨hp.handler, hp.dispatching⟩⟩
    refine .bind (pending none) fun _ => ?_
    refine .bind (hcall handler) fun _ => ?_
    refine .bind (pending none) fun _ => ?_
    refine .bind (pending _) fun _ => ?_
    exact .pure _
  have idle : ¬p.locals.dispatching = true := by simp [hp.dispatching]
  obtain ⟨running, waits⟩ := attempt (final (modifyLocals install) p) hr waiting
  generalize hq : final (checked (native kind.call)).run (final (modifyLocals install) p) = q
    at running waits
  have removed : q.withoutHandler.locals = { q.locals with handler := none, deferred := [] } := by
    rw [Process.withoutHandler, Process.locals, Process.here_setHere]
  have hcurrent : q.withoutHandler.current = p.current := by
    rw [Process.withoutHandler, Process.current_setHere, Process.current, running]
    rfl
  have hr' : q.withoutHandler.current ∈ q.withoutHandler.running := by
    rw [hcurrent]
    exact running ▸ hr
  have deaf : Deaf q.withoutHandler := by
    unfold Deaf Locals.dropReason
    rw [removed]
    rfl
  obtain ⟨hs, left⟩ := ClientEffects.forM
    (ClientEffects.destroy h) q.locals.deferred q.withoutHandler hr' deaf
  rw [final_pump idle, final_processEvents kind.call handler hq]
  generalize final (q.locals.deferred.forM fun pointer => Window.destroy native pointer)
    q.withoutHandler = cleared at left
  have calm : (final takePanic cleared).locals = { cleared.locals with panic := none } := by
    simp [takePanic]
  refine ⟨left.running.trans running, ⟨?_, ?_, ?_⟩, ?_⟩
  · rw [calm, left.handler, removed]
  · rw [calm, left.dispatching, removed]
    exact waits.dispatching
  · rw [calm]
  · rw [calm, left.deferred, removed]
    simp [waits.dispatching]

namespace Rests

variable (h : LibraryOnlyReports native) (hc : ∀ call, Confined (native call))
  (hw : ∀ kind : PumpKind, ∀ reactions, CallbacksPreserve (·.Waits reactions) (native kind.call))

include h hw

theorem runPump (slot : Nat) (kind : PumpKind) (handler : Handler) :
    CallbacksPreserve Locals.Quiescent (runPump native slot kind handler) := by
  refine .bind (ClientEffects.rests (.bind .look fun _ => .pure _)) fun t => ?_
  split
  · exact .pure _
  refine .bind (ClientEffects.rests (.tables _)) fun _ => ?_
  refine .bind (pump_rests h (hw kind) handler) fun outcome => ?_
  refine .bind (ClientEffects.rests (.tables _)) fun _ => ?_
  rcases outcome with message | (e | _) <;> exact .pure _

omit h hw

include hc

theorem runThread {body : M (Option String)} (hb : Confined body) :
    CallbacksPreserve Locals.Quiescent (runThread native body) := by
  refine .bind (ClientEffects.rests .look) fun _ => ?_
  split
  · exact .pure _
  refine .bind (ClientEffects.rests (.bind .look fun _ => .pure _)) fun t => ?_
  refine .bind (ClientEffects.rests (.tables _)) fun _ => ?_
  refine .bind (.apart (Confined.spawn_apart hc _ hb)) fun _ => ?_
  refine .bind (ClientEffects.rests (.tables _)) fun _ => ?_
  exact .pure _

include h hw

theorem law : StepLaw native fun _ m => CallbacksPreserve Locals.Quiescent m ∧ Confined m where
  pure a := ⟨.pure a, .pure a⟩
  bind hm hf := ⟨.bind hm.1 fun a => (hf a).1, .bind hm.2 fun a => (hf a).2⟩
  operation op small := ⟨ClientEffects.rests (.composed (fun _ _ => .small h) (runOp_small op small)),
    (Confined.law hc).operation op small⟩
  pump slot kind reactions :=
    ⟨runPump h hw slot kind reactions, (Confined.law hc).pump slot kind reactions⟩
  thread _ hb := ⟨runThread hc hb.2, (Confined.law hc).thread _ hb.2⟩
  step script op hop :=
    ⟨.bind (.note _) fun _ => .bind (.withScript script hop.1) fun _ =>
      .bind (.note _) fun _ => .pure _, (Confined.law hc).step script op hop.2⟩

end Rests

/-! ### Reachable states -/

/-- Where a thread is: outside all pumps, in the native call of a pump with the given reactions, or in
the handler. It is also known how many of the reactions have begun. -/
inductive Place where
  | outside
  | waiting (reactions : Handler) (begun : Nat)
  | handling (reactions : Handler) (begun : Nat)

/-- Whether client code runs. -/
def Place.client : Place → Prop
  | .waiting _ _ => False
  | _ => True

/-- The states that a thread reaches, whatever the native library and the other threads do. -/
inductive Reachable : Place → Locals → Prop where
  | fresh : Reachable .outside {}
  /-- Client code performs an operation. -/
  | operated {place : Place} {p : Process} (depth : Nat) (op : Op) (client : place.client)
      (running : p.current ∈ p.running) (h : Reachable place p.locals) :
      Reachable place (final (runOp (backend depth) op) p).locals
  /-- The thread drops what it owns, at its end or because of a panic. -/
  | finished {p : Process} (depth : Nat) (panicked : Bool) (running : p.current ∈ p.running)
      (h : Reachable .outside p.locals) :
      Reachable .outside (final (finish (backend depth) panicked) p).locals
  /-- A pump installs its handler. -/
  | installed {s : Locals} (reactions : Handler) (h : Reachable .outside s) :
      Reachable (.waiting reactions 0) { s with handler := some reactions }
  /-- The pump is a checked call, and errors are reported. -/
  | pending {reactions : Handler} {begun : Nat} {s : Locals} (e : Option Error)
      (h : Reachable (.waiting reactions begun) s) :
      Reachable (.waiting reactions begun) { s with pending := e }
  /-- The handler takes an event. -/
  | entered {reactions : Handler} {begun : Nat} {s : Locals} (takes : s.dropReason = none)
      (h : Reachable (.waiting reactions begun) s) :
      Reachable (.handling reactions (begun + 1))
        { s with dispatching := true, handler := s.handler.map List.tail }
  /-- The handler returns, or panics. -/
  | left {reactions : Handler} {begun : Nat} {s : Locals} (panic : Option String)
      (h : Reachable (.handling reactions begun) s) :
      Reachable (.waiting reactions begun) { s with dispatching := false, panic := panic.or s.panic }

/-- What is expected of the state of a thread. -/
def Place.Expects (s : Locals) : Place → Prop
  | .outside => s.Quiescent
  | .waiting reactions begun =>
    s.dispatching = false ∧ s.handler = some (reactions.drop begun)
  | .handling reactions begun =>
    s.dispatching = true ∧ s.panic = none ∧ s.handler = some (reactions.drop begun)

theorem backend_waits (depth : Nat) (reactions : Handler) (call : Call) :
    CallbacksPreserve (·.Waits reactions) (backend depth call) :=
  backend_callbacksPreserve (fun depth =>
    preservedByCallbacks_waits (backend_answers depth) (backend_confined depth) reactions)
    depth call

/-- In a handler an operation adds the windows that it drops to those that wait, and changes nothing
else but the pending error. -/
theorem runOp_leaves (depth : Nat) (op : Op) (hr : p.current ∈ p.running)
    (hd : p.locals.dispatching = true) : Leaves p (final (runOp (backend depth) op) p)
      (during (runOp (backend depth) op) p) := by
  obtain ⟨hs, left⟩ :=
    ((HandlerCodeEffects.law (backend_answers depth) (backend_confined depth)).runOp op).1 p hr hd
  rw [left.during_eq]
  exact left

theorem Reachable.expected {place : Place} (h : Reachable place s) : place.Expects s := by
  induction h with
  | fresh => exact ⟨⟨rfl, rfl, rfl⟩, rfl⟩
  | @operated place p depth op client running _ ih =>
    cases place with
    | outside =>
      have law := Rests.law (backend_answers depth) (backend_confined depth)
        fun kind reactions => backend_waits depth reactions kind.call
      exact ((law.runOp op).1 p running ih).2
    | waiting reactions begun => exact client.elim
    | handling reactions begun =>
      obtain ⟨dispatching, panic, handler⟩ := ih
      have left := runOp_leaves depth op running dispatching
      exact ⟨left.dispatching.trans dispatching, left.panic.trans panic,
        left.handler.trans handler⟩
  | @finished p depth panicked running _ ih =>
    have clientEffects : ClientEffects (finish (backend depth) panicked) :=
      .composed (fun _ _ => .small (backend_answers depth)) (finish_modest panicked).minor
    exact (clientEffects.rests p running ih).2
  | installed reactions _ ih => exact ⟨ih.dispatching, rfl⟩
  | pending e _ ih => exact ih
  | @entered reactions begun s takes _ ih =>
    obtain ⟨dispatching, handler⟩ := ih
    have calm : s.panic = none := by
      unfold Locals.dropReason at takes
      rw [handler] at takes
      cases hpanic : s.panic with
      | none => rfl
      | some message =>
        rw [hpanic] at takes
        cases takes
    refine ⟨rfl, calm, ?_⟩
    change s.handler.map List.tail = _
    rw [handler, Option.map_some, List.tail_drop]
  | left panic _ ih => exact ⟨rfl, ih.2.2⟩

theorem Reachable.runSteps (reactions : Handler) (begun depth : Nat) (steps : List Step) :
    CallbacksPreserve (Reachable (.handling reactions begun)) (runSteps (backend depth) steps) := by
  have operates : ∀ op, CallbacksPreserve (Reachable (.handling reactions begun))
    (runOp (backend depth) op) :=
    fun op p hr hp => ⟨((Confined.law (backend_confined depth)).runOp op p).running,
      .operated depth op trivial hr hp⟩
  have stepped : ∀ step, CallbacksPreserve (Reachable (.handling reactions begun))
      (runStep (backend depth) step) := by
    rintro ⟨script, op⟩
    refine .bind (.note _) fun _ => ?_
    refine .bind (.withScript script (operates op)) fun _ => ?_
    refine .bind (.note _) fun _ => ?_
    exact .pure _
  induction steps with
  | nil => exact .pure none
  | cons step rest ih =>
    refine .bind (stepped step) fun outcome => ?_
    cases outcome with
    | panicking message => exact .pure _
    | _ => exact ih

theorem preservedByCallbacks_reachable (depth : Nat) (reactions : Handler) :
    PreservedByCallbacks (backend depth) fun s => ∃ begun,
      Reachable (.waiting reactions begun) s where
  pending s e hs := hs.imp fun _ h => h.pending e
  dispatch time event p hr hp := by
    obtain ⟨begun, hp⟩ := hp
    cases hreason : p.locals.dropReason with
    | some reason =>
      rw [dispatch_dropped hreason]
      exact ⟨rfl, begun, hp⟩
    | none =>
      let enter (s : Locals) : Locals := { s with dispatching := true }
      let pop (s : Locals) : Locals := { s with handler := s.handler.map List.tail }
      let steps := ((final (modifyLocals enter) p).locals.handler.getD []).headD []
      let started := (final (modifyLocals pop) (final (modifyLocals enter) p)).note
        (.handling time event)
      have locals : started.locals = pop (enter p.locals) := by
        rw [locals_note, locals_modifyLocals, locals_modifyLocals]
      have entered := hp.entered hreason
      obtain ⟨running, handled⟩ := Reachable.runSteps reactions (begun + 1) depth steps started hr
        (by rw [locals]; exact entered)
      rw [dispatch_handled hreason rfl (final_react time event (final (modifyLocals enter) p))]
      refine ⟨running, begun + 1, ?_⟩
      rw [locals_modifyLocals, locals_note]
      exact handled.left _

theorem Rest.quiescent {c : ThreadId} (h : Rest c none p) (alone : p.running = [c]) (t : ThreadId) :
    (p.threads.get t).locals.Quiescent := by
  have idle : (p.threads.get t).locals.Idle := by
    by_cases ht : t = c
    · subst ht
      exact h.current ▸ h.work.calm.idle
    · exact (h.calm t (by simp [alone, ht])).idle
  refine ⟨idle, ?_⟩
  cases h.standing with
  | free free => exact (free.bare t).deferred
  | @kept owner l kept =>
    by_cases ht : t = owner
    · subst ht
      exact kept.account.deferred idle.handler
    · exact (kept.guarded.others t ht).deferred

/-- In every state that a thread reaches outside pumps it has no handler, none that runs, no panic and
no window that waits. In every state that it reaches while its handler runs, the handler is that of
the running pump and marked as running, and has left no panic; an operation changes none of this, and
adds to the windows that wait just those that it drops. The callbacks of a pump's native call lead
to no other states, and between the steps of a program all threads are as outside pumps. -/
theorem dispatch_quiescence :
    (∀ s, Reachable .outside s → s.Quiescent) ∧
    (∀ reactions begun s, Reachable (.handling reactions begun) s →
      s.dispatching = true ∧ s.panic = none ∧ s.handler = some (reactions.drop begun)) ∧
    (∀ reactions begun depth op p, p.current ∈ p.running →
      Reachable (.handling reactions begun) p.locals →
      (final (runOp (backend depth) op) p).locals = { p.locals with
        pending := (final (runOp (backend depth) op) p).locals.pending
        deferred := p.locals.deferred ++
          (during (runOp (backend depth) op) p).filterMap Happening.doomed? }) ∧
    (∀ reactions begun depth call p, p.current ∈ p.running →
      Reachable (.waiting reactions begun) p.locals →
      ∃ later, Reachable (.waiting reactions later) (final (backend depth call) p).locals) ∧
    ∀ (s : Session) (n : Nat) (t : ThreadId),
      ((final (runSteps (backend s.depth) (s.steps.take n)) s.start).threads.get
        t).locals.Quiescent := by
  refine ⟨fun s h => h.expected, fun reactions begun s h => h.expected,
    fun reactions begun depth op p hr h => ?_, fun reactions begun depth call p hr h => ?_,
    fun s n t => ?_⟩
  · have dispatching : p.locals.dispatching = true := h.expected.1
    have left := runOp_leaves depth op hr dispatching
    have deferred := left.deferred
    rw [dispatching, if_pos rfl] at deferred
    change (final (runOp (backend depth) op) p).locals =
      ⟨_, p.locals.handler, p.locals.dispatching, p.locals.panic, _⟩
    rw [← left.handler, ← left.dispatching, ← left.panic, ← deferred]
  · exact (backend_callbacksPreserve (fun depth => preservedByCallbacks_reachable depth reactions)
      depth call p hr
      ⟨begun, h⟩).2
  · have rest := s.start_rest.keepsBooks
      ((OperationKeepsBooks.law (backend_libraryKeepsBooks s.depth)).runSteps (s.steps.take n))
    have confined := (Confined.law (backend_confined s.depth)).runSteps (s.steps.take n) s.start
    exact rest.quiescent confined.running t

end Windowing
