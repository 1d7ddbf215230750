import Windowing.Proofs.ContextHandover

/-!
Every run is sound. Pumps keep their libraries in their slots and destroy what their handlers dropped,
callbacks lead to nothing but handlers, and other threads take their turns while those that wait keep
what they have. So at every entry of a history that which it presupposes is there.
-/

namespace Windowing

open Native Client

variable {α β : Type} {native : Backend} {loans : Loans} {p q : Process} {w : Watch}

/-! ### Pumps -/

section Pumps

variable (hm : LibraryKeepsSound native)

include hm

/-- The native call of a pump, with its handler installed. -/
theorem pumped_sound {call : Call} (hcall : call.pumps = true) (handler : Handler)
    (hp : AllCalm p) (hw : AtWork p {}) (waiting : Waiting loans p) (sound : Sound loans p)
    {slot : Nat} (hslot : p.tables.pumping = some slot)
    (hlib : (occupant p.tables.libraries slot).isSome = true) :
    Sound loans (final (checked (native call)).run
      (final (modifyLocals fun s => { s with handler := some handler }) p)) := by
  have installed : Sound loans
    (final (modifyLocals fun s => { s with handler := some handler }) p) := by
    have start := MidOperation.of_work hp hw waiting sound
    exact sound.setHere waiting ⟨(sound.backed _).held, fun _ => ⟨slot, hslot, hlib⟩⟩
      fun c origin hc => start.lent hc
  obtain ⟨calm, view⟩ := ClientStaysCalm.installed_view hp hw handler
  have start : Watch.step {} (.called call) =
      some { stage := .listening, frames := [(call, none)] } := by
    simp [Watch.step, hcall]
  have names : call.windows = [] ∧ call.monitors = [] := by
    cases call <;> first | exact ⟨rfl, rfl⟩ | cases hcall
  have called := (installed.setPending waiting none).noteOf (e := .called call) rfl
    ⟨by simp [names], by simp [names]⟩
  have waiting' : ∀ {r : Process}, r.running = p.running → Waiting loans r := waiting.same
  have returned := hm.sound loans call _ { stage := .listening, frames := [(call, none)] }
    calm (view.note start) ⟨rfl, rfl⟩ (waiting' rfl) called
  have running := (hm.confined call (final takeError
    (final (modifyLocals fun s => { s with handler := some handler }) p))).running
  rw [final_checked]
  exact (returned.setPending (waiting' running) none).setPending (waiting' running) _

/-- After the native call of a pump its handler is gone. -/
theorem processEvents_midOperationSettled {call : Call} (hcall : call.pumps = true)
    (handler : Handler)
    (hp : AllCalm p) (hw : AtWork p {}) (waiting : Waiting loans p) (sound : Sound loans p)
    {slot : Nat} (hslot : p.tables.pumping = some slot)
    (hlib : (occupant p.tables.libraries slot).isSome = true) :
    MidOperationSettled loans {} (final (processEvents native call handler) p) := by
  obtain ⟨calm, stage, hstage, view⟩ := ClientStaysCalm.pumped_view hm.callsBack hcall handler hp hw
  have after := pumped_sound hm hcall handler hp hw waiting sound hslot hlib
  have running : (final (checked (native call)).run
      (final (modifyLocals fun s => { s with handler := some handler }) p)).running = p.running :=
    (Confined.closed.checked (hm.confined call) _).running
  generalize hq : final (checked (native call)).run
    (final (modifyLocals fun s => { s with handler := some handler }) p) = q
    at calm view after running
  rw [final_processEvents call handler hq]
  obtain ⟨calm', view'⟩ := ClientStaysCalm.removed_view calm view hstage
  rw [final_takeDeferred] at calm' view'
  have removed : Sound loans q.withoutHandler :=
    after.locals (waiting.same running) (fun s => { s with handler := none, deferred := [] })
      (by simp)
  have start : MidOperationSettled loans {} q.withoutHandler :=
    (MidOperation.of_sound calm' view' ⟨rfl, rfl⟩ (by decide)
      (waiting.same running) removed).midOperationSettled
  exact Triple.forM (fun pointer _ ⟨_, h⟩ => (h.destroy hm pointer).midOperationSettled) _ _ start

theorem runPump_clientKeepsSound (slot : Nat) (kind : PumpKind) (handler : Handler) :
    ClientKeepsSound (runPump native slot kind handler) := by
  intro loans p w hp hw waiting sound
  cases hocc : occupant p.tables.libraries slot with
  | none =>
    have refused : final (runPump native slot kind handler) p = p := by simp [runPump, hocc]
    rw [refused]
    exact sound
  | some library =>
    have start := MidOperation.of_work hp hw waiting sound
    rw [final_runPump slot kind handler (by rw [hocc]; rfl)]
    let entered := final (modifyTables fun t => { t with pumping := some slot }) p
    change Sound loans (final (modifyTables fun now => { now with pumping := p.tables.pumping })
      (final (pump native kind handler).run entered))
    have locals : entered.locals = p.locals := locals_modifyTables _ p
    obtain ⟨calm, work⟩ := ClientStaysCalm.keepsHandler
      (.tables fun t => { t with pumping := some slot }) p w hp hw
    by_cases busy : p.locals.dispatching = true
    · rw [final_pump_refused (locals ▸ busy)]
      have restored : final (modifyTables fun now => { now with pumping := p.tables.pumping })
          entered = p.setHere p.here := by
        simp [entered, final_modifyTables, Process.tables]
      rw [restored]
      exact sound.setHere waiting (sound.backed _) fun c origin hc => start.lent hc
    · obtain ⟨rfl, -⟩ := hw.outside busy
      have absent : ∀ {r : Process}, Sight r {} → r.locals.handler.isSome = true → False :=
        fun sight installed => sight.fits.handler.1 installed rfl
      have marked : MidOperation loans {} { p.tables with pumping := some slot } [] none entered :=
        start.modifyTables (fun t => { t with pumping := some slot }) (.refl _)
          (fun installed => (absent hw.sight installed).elim) fun c origin hc => start.lent hc
      have pumping : entered.tables.pumping = some slot := by rw [tables_modifyTables]
      have library : (occupant entered.tables.libraries slot).isSome = true := by
        rw [tables_modifyTables]
        simp [hocc]
      have hkind : kind.call.pumps = true := by cases kind <;> rfl
      obtain ⟨T, pumped⟩ := processEvents_midOperationSettled hm hkind handler calm work
        marked.waiting
        marked.sound pumping library
      have fits := pumped.sight.fits
      have calmed := pumped.modifyLocals (fun s => { s with panic := none })
        ⟨fits.handler, fits.dispatching, by simp⟩ id
      rw [final_pump (locals ▸ busy)]
      exact (calmed.modifyTables (fun now => { now with pumping := p.tables.pumping }) (.refl _)
        (fun installed => (absent calmed.sight installed).elim) fun c origin hc =>
          calmed.lent hc).sound

end Pumps

/-! ### Steps -/

theorem OperationKeepsSound.withScript (script : Script) {body : M α}
    (hb : OperationKeepsSound body) :
    OperationKeepsSound (withScript script body) where
  staysCalm := .withScript script hb.staysCalm
  confined := .withScript script hb.confined
  clientKeepsSound loans p w hp hw waiting sound := by
    have before := alike_scripts p (script :: p.scripts)
    have ran := hb.clientKeepsSound loans _ w (before.allCalm hp)
      ((before.undisturbed _).atWork before.running hw) (waiting.same rfl)
      (sound.same before.threads before.history)
    exact ran.same (alike_scripts _ p.scripts).threads (alike_scripts _ p.scripts).history

theorem OperationKeepsSound.catchUnwind {body : M α} (hb : OperationKeepsSound body) :
    OperationKeepsSound (catchUnwind body) where
  staysCalm := .catchUnwind hb.staysCalm
  confined := .catchUnwind hb.confined
  clientKeepsSound loans p w hp hw waiting sound := by
    have caught := catchPanic_alike (final body p)
    exact (hb.clientKeepsSound loans p w hp hw waiting sound).same caught.threads caught.history

/-- All operations of a client comply. -/
theorem OperationKeepsSound.law (hm : LibraryKeepsSound native) : StepLaw native fun _ m =>
    OperationKeepsSound m where
  pure := OperationKeepsSound.pure
  bind := OperationKeepsSound.bind
  operation op small := by
    obtain ⟨staysCalm, confined⟩ := (ClientStaysCalm.law hm.callsBack hm.confined).operation op small
    exact ⟨staysCalm, confined, runOp_clientKeepsSound hm op small⟩
  pump slot kind reactions :=
    ⟨.runPump hm.callsBack slot kind reactions, (Confined.law hm.confined).pump slot kind reactions,
      runPump_clientKeepsSound hm slot kind reactions⟩
  thread _ hb := runThread_operationKeepsSound hm hb
  step script op hop :=
    .bind (.note rfl rfl fun _ _ => trivial) fun _ => .bind (.withScript script hop) fun outcome =>
      .bind (.note rfl rfl fun _ _ => trivial) fun _ => .pure outcome

/-! ### Events -/

/-- A computation of callbacks and turns that keeps what is sound. -/
structure CallbackKeepsSound (m : M α) : Prop where
  onlyCallbacks : OnlyCallbacks m
  confined : Confined m
  sound : ∀ loans p w, AllCalm p → Sight p w → w.Clear → Waiting loans p → Sound loans p →
    Sound loans (final m p)

namespace CallbackKeepsSound

theorem pure (a : α) : CallbackKeepsSound (Pure.pure a : M α) :=
  ⟨.pure a, .pure a, fun _ _ _ _ _ _ _ h => h⟩

theorem bind {m : M α} {f : α → M β} (hm : CallbackKeepsSound m)
    (hf : ∀ a, CallbackKeepsSound (f a)) :
    CallbackKeepsSound (m >>= f) where
  onlyCallbacks := .bind hm.onlyCallbacks fun a => (hf a).onlyCallbacks
  confined := .bind hm.confined fun a => (hf a).confined
  sound loans p w hp hw hc waiting sound := by
    obtain ⟨hq, w', hw', heard⟩ := hm.onlyCallbacks p w hp hw hc
    exact (hf _).sound loans _ w' hq hw' heard.clear (waiting.same (hm.confined p).running)
      (hm.sound loans p w hp hw hc waiting sound)

theorem forM {f : α → M Unit} (hf : ∀ a, CallbackKeepsSound (f a)) (xs : List α) :
    CallbackKeepsSound (xs.forM f) := by
  induction xs with
  | nil => exact pure _
  | cons x xs ih => exact bind (hf x) fun _ => ih

theorem alike {m : M α} (h : ∀ p, Alike p (final m p)) : CallbackKeepsSound m where
  onlyCallbacks p w hp hw hc :=
    ⟨(h p).allCalm hp, w, (h p).view hw, .of_samePlace hc (.of_here (h p).here)⟩
  confined p := (h p).within
  sound _ p _ _ _ _ _ sound := sound.same (h p).threads (h p).history

end CallbackKeepsSound

section Events

variable (hm : LibraryKeepsSound native)

include hm

/-- The steps of a handler comply. -/
theorem dispatch_sound {time : Float} {event : Event} (hp : AllCalm p)
    (hw : Sight p { w with owed := some (time, event) }) (hs : w.stage = .listening) (hc : w.Clear)
    (waiting : Waiting loans p) (sound : Sound loans p) :
    Sound loans (final (dispatch (react native) time event) p) := by
  obtain ⟨calm, work, steps, panic, ran⟩ := dispatch_runs native hp hw hs hc
  have entered := sound.locals waiting (fun s => { s with dispatching := true }) id
  have popped := entered.locals (waiting.same rfl)
    (fun s => { s with handler := s.handler.map List.tail }) (by simp)
  have begun : Sound loans (p.handed time event) :=
    popped.noteOf (e := .handling time event) rfl trivial
  have operationKeepsSound := ((OperationKeepsSound.law hm).runSteps steps).catchUnwind
  have ended := operationKeepsSound.clientKeepsSound loans _ _ calm work (waiting.same rfl) begun
  have running : (final (catchUnwind (runSteps native steps)) (p.handed time event)).running =
      p.running :=
    (operationKeepsSound.confined _).running
  rw [ran]
  exact (ended.noteOf (e := .handled panic) rfl trivial).locals (waiting.same running)
    (fun s => { s with dispatching := false, panic := panic.or s.panic }) id

theorem deliver_sound (decoded : Except Log Event) (hp : AllCalm p)
    (hw : Sight p { w with armed := if w.stage = .listening then decoded.toOption else none })
    (hc : w.Clear) (waiting : Waiting loans p) (sound : Sound loans p) :
    Sound loans (final (deliver native (react native) decoded) p) := by
  cases decoded with
  | error warning => exact sound.noteOf rfl trivial
  | ok event =>
    have reads : Sound loans (final (native .getTime) p) := by
      have called := deliver_called event hw hc
      exact hm.sound loans .getTime p _ hp called ⟨rfl, hc.owed⟩ waiting
        (sound.noteOf rfl ⟨by simp [Call.windows], by simp [Call.monitors]⟩)
    obtain ⟨hq, w', heard, dropped, owed⟩ := deliver_read hm.callsBack event hp hw hc
    have running := (hm.confined .getTime p).running
    change Sound loans (final (dispatch (react native) (result (native .getTime) p).time event)
      (final (native .getTime) p))
    generalize (result (native .getTime) p).time = time at owed ⊢
    generalize final (native .getTime) p = q at reads hq heard dropped owed running ⊢
    cases hreason : q.locals.dropReason with
    | some reason =>
      rw [dispatch_dropped hreason]
      exact reads.noteOf rfl trivial
    | none =>
      obtain ⟨-, listening, owed⟩ := owed hreason
      exact dispatch_sound hm hq owed listening heard.clear (waiting.same running) reads

theorem invoke_callbackKeepsSound (callback : Callback) :
    CallbackKeepsSound (invoke native callback) where
  onlyCallbacks := invoke_onlyCallbacks hm.callsBack hm.confined callback
  confined := (Confined.compositional hm.confined).invoke callback
  sound loans p w hp hw hc waiting sound := by
    cases listens : p.listens callback with
    | true =>
      rw [final, invoke_run listens]
      have fired := hw.invoked hc callback
      have hp' := allCalm_note hp hw.running (.invoked callback)
      have noted := sound.noteOf (e := .invoked callback) rfl trivial
      cases callback with
      | error code description =>
        let text := (description.map Text.read).getD ""
        have logged := noted.noteOf (e := .logged (.nativeError code text)) rfl trivial
        exact logged.locals (waiting.same rfl)
          (fun s => { s with pending := s.pending <|> some (.reported code text) }) id
      | monitor monitor event => exact deliver_sound hm _ hp' fired hc (waiting.same rfl) noted
      | window window signal => exact deliver_sound hm _ hp' fired hc (waiting.same rfl) noted
    | false =>
      rw [final, invoke_unheard listens]
      exact sound

/-! ### Turns -/

omit hm in
/-- Another thread takes its turn, unless it is among those that wait. -/
theorem interject_sound {thread : ThreadId} {body : M Unit} (hp : AllCalm p)
    (waiting : Waiting loans p) (sound : Sound loans p)
    (hb : ∀ q, q.current = thread → AllCalm q → AtWork q {} → Waiting loans q → Sound loans q →
      Sound loans (final body q)) : Sound loans (final (interject thread body) p) := by
  by_cases busy : p.running.contains thread
  · simp only [interject, final_bind, final_get, result_get, busy, ↓reduceIte]
    exact sound
  · have absent : thread ∉ p.running := by simpa using busy
    obtain ⟨calm, work⟩ := onThread_start hp absent
    have waits : Waiting loans { p with running := thread :: p.running } := fun u v hv =>
      have runs := (waiting u v hv).1
      ⟨List.mem_cons_of_mem _ runs, fun same : v = thread => absent (same ▸ runs)⟩
    have ended := hb { p with running := thread :: p.running } rfl calm work waits
      (sound.same rfl rfl)
    simp only [interject, final_bind, final_get, result_get, busy]
    exact ended.same rfl rfl

theorem runTurn_sound (turn : Turn) (hp : AllCalm p) (waiting : Waiting loans p)
    (sound : Sound loans p) : Sound loans (final (runTurn native turn) p) := by
  cases turn with
  | finish thread =>
    exact interject_sound hp waiting sound fun q hq calm work => endThread_sound hm none hq calm work
  | step thread step =>
    refine interject_sound hp waiting sound fun q hq calm work waits hs => ?_
    have steps := (OperationKeepsSound.law hm).runStep step
    have stepped := steps.clientKeepsSound loans q {} calm work waits hs
    obtain ⟨calm', work'⟩ := steps.staysCalm q {} calm work
    have within := steps.confined q
    rw [final_bind]
    cases result (runStep native step) q with
    | panicking message =>
      exact endThread_sound hm _ (within.current.trans hq) calm' work' (waits.same within.running)
        stepped
    | _ => exact stepped

theorem runTurn_callbackKeepsSound (turn : Turn) : CallbackKeepsSound (runTurn native turn) where
  onlyCallbacks := .apart (Confined.runTurn hm.confined turn)
    fun _ => allCalm_runTurn hm.callsBack hm.confined turn
  confined := (Confined.runTurn hm.confined turn).confined
  sound _ _ _ hp _ _ waiting sound := runTurn_sound hm turn hp waiting sound

end Events

/-! ### The native library -/

section Calls

variable {meanwhile : Reply → M Unit} {call : Call}

theorem callWith_sound (h : ∀ reply, CallbackKeepsSound (meanwhile reply)) (hp : AllCalm p)
    (hw : Sight (p.note (.called call)) w) (hc : w.Clear) (waiting : Waiting loans p)
    (sound : Sound loans (p.note (.called call))) :
    Sound loans (final (callWith meanwhile call) p) := by
  have rest : CallbackKeepsSound (do
      let reply ← takeReply call
      meanwhile reply
      settle call
      return reply) := by
    refine .bind (.alike (takeReply_alike call)) fun reply => ?_
    refine .bind (h reply) fun _ => ?_
    refine .bind (.alike (settle_alike call)) fun _ => ?_
    exact .pure reply
  have ended := rest.sound loans _ w (allCalm_note hp hw.running _) hw hc (waiting.same rfl) sound
  exact ended.noteOf rfl trivial

theorem callWith_returns (h : ∀ reply, Confined (meanwhile reply)) (p : Process) :
    ∃ q : Process, q.current = p.current ∧ final (callWith meanwhile call) p =
      q.note (.returned call (result (callWith meanwhile call) p)) := by
  refine ⟨_, ?_, final_callWith meanwhile call p⟩
  rw [(settle_alike call _).current, (h _ _).current, (takeReply_alike call _).current]
  rfl

end Calls

theorem backend_libraryKeepsSound (depth : Nat) : LibraryKeepsSound (backend depth) := by
  induction depth with
  | zero =>
    refine ⟨backend_callsBack 0, backend_confined 0, backend_answers 0,
      fun call p => callWith_returns (fun _ => .pure ()) p, ?_⟩
    exact fun loans call p w hp hw hc => callWith_sound (fun _ => .pure ()) hp hw hc
  | succ depth ih =>
    have meanwhile : ∀ reply : Reply, CallbackKeepsSound (do
        (← takeTurns).forM fun turn => runTurn (backend depth) turn
        reply.callbacks.forM fun callback => invoke (backend depth) callback) := fun reply =>
      .bind (.alike takeTurns_alike) fun batch =>
        .bind (.forM (runTurn_callbackKeepsSound ih) batch) fun _ =>
        .forM (invoke_callbackKeepsSound ih) reply.callbacks
    refine ⟨backend_callsBack _, backend_confined _, backend_answers _,
      fun call p => callWith_returns (fun reply => (meanwhile reply).confined) p, ?_⟩
    exact fun loans call p w hp hw hc => callWith_sound meanwhile hp hw hc

/-! ### Sessions -/

/-- Every entry of a session finds what it presupposes. -/
theorem Session.proper (s : Session) : Proper (final s.body s.start).history := by
  have libraryKeepsSound := backend_libraryKeepsSound s.depth
  let loans : Loans := fun _ _ => False
  obtain ⟨calm, work⟩ := s.start_calm
  have waiting : Waiting loans s.start := fun _ _ lent => lent.elim
  have start : Sound loans s.start := by
    refine ⟨trivial, fun t => ?_, fun t c origin hc => ?_⟩
    · rw [s.start_thread t]
      exact ⟨List.nil_subperm, fun installed => by cases installed⟩
    · rw [s.start_thread t] at hc
      cases hc
  have steps := (OperationKeepsSound.law libraryKeepsSound).runSteps s.steps
  obtain ⟨calm', work'⟩ := steps.staysCalm _ _ calm work
  have sound := steps.clientKeepsSound loans _ _ calm work waiting start
  have ran := MidOperation.of_work calm' work' (waiting.same (steps.confined _).running) sound
  obtain ⟨⟨T, parted, -⟩, -⟩ := ran.finish libraryKeepsSound rfl true
  have ended : Sound loans _ := parted.sound.noteOf
    (e := .threadEnded (result (runSteps (backend s.depth) s.steps) s.start)) rfl trivial
  rw [s.final_body]
  exact ended.proper

end Windowing
