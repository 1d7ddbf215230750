import Windowing.Proofs.SharedState

/-!
Reception of events. While a handler waits, a native call on its thread may hand it events, for which
it runs steps that call the native library again. Two handlers that react alike receive the same
events and do the same, up to the first callback or reply in which the native library differs.
-/

namespace Windowing

open Native Client

variable {α : Type} {native native' : Backend} {p p' q q' : Process} {w : Watch} {o : Option Pause}

/-! ### Calls -/

/-- The current thread may be called back, whether its handler waits or not. -/
def Hosting (p : Process) : Prop :=
  ∃ w o, AllCalm p ∧ Sight p w ∧ w.Clear ∧ Gate o p w ∧ Standing p o

/-- The current thread may make the call. -/
def Calling (call : Call) (p : Process) : Prop :=
  ∃ w o, AllCalm p ∧ Sight (p.note (.called call)) w ∧ w.Clear ∧ Gate o p w ∧ Standing p o

theorem Hosting.callbackKeepsBooks {m : M α} (hm : CallbackKeepsBooks m) (h : Hosting p) :
    Hosting (final m p) := by
  obtain ⟨w, o, calm, sight, clear, gate, standing⟩ := h
  obtain ⟨hq, w', hw', heard⟩ := hm.onlyCallbacks p w calm sight clear
  refine ⟨w', o, hq, hw', heard.clear, fun x hx hcurrent => ?_,
    hm.standing o p w calm sight clear gate standing⟩
  have hstage := gate x hx (hcurrent.trans (hm.confined p).current)
  rw [(heard.aside hstage).1]
  exact hstage

theorem turnsAt_callbackKeepsBooks (depth : Nat) : CallbackKeepsBooks (turnsAt depth) := by
  cases depth with
  | zero => exact .pure _
  | succ depth =>
    exact .bind takeTurns_callbackKeepsBooks fun batch =>
      .forM (runTurn_callbackKeepsBooks (backend_libraryKeepsBooks depth)) batch

theorem Calling.running {call : Call} (h : Calling call p) : p.current ∈ p.running := by
  obtain ⟨w, o, -, sight, -, -, -⟩ := h
  exact sight.running

theorem Calling.begun {call : Call} (neutral : call.neutral = true) (h : Calling call p)
    (depth : Nat) : Hosting (p.begun (turnsAt depth) call) := by
  obtain ⟨w, o, calm, sight, clear, gate, standing⟩ := h
  have taken := takeReply_alike call (p.note (.called call))
  have called : Hosting (final (takeReply call) (p.note (.called call))) := by
    refine ⟨w, o, taken.allCalm (allCalm_note calm sight.running _), taken.view sight, clear,
      fun x hx hcurrent => gate x hx (hcurrent.trans taken.current), ?_⟩
    have noted : (Happening.called call).neutral = true := neutral
    exact (standing.same (sameBooks_note p noted)).same taken.sameBooks
  exact called.callbackKeepsBooks (turnsAt_callbackKeepsBooks depth)

/-- Calls of two native libraries agree, also while a handler waits. -/
def Receives (native native' : Backend) : Prop :=
  ∀ call p p', call.neutral = true → Calling call p → Calling call p' → p.here.Akin p'.here →
    Agrees (fun r r' q q' => r = r' ∧ q.here.Akin q'.here) (native call) (native' call) p p'

/-- Two computations of client code agree. -/
def Isolates (m m' : M α) : Prop :=
  ∀ p p', Paired p p' → Agrees (fun a a' q q' => a = a' ∧ Paired q q') m m' p p'

theorem Paired.catchPanic (h : Paired p p') : Paired (final catchPanic p) (final catchPanic p') :=
  ⟨h.readyToStep.keepsBooks .catchPanic, h.readyToStep'.keepsBooks .catchPanic, h.akin⟩

/-- Bodies that agree do so up to their panics. -/
theorem Isolates.catchUnwind {body body' : M α} (h : Isolates body body') :
    Isolates (catchUnwind body) (catchUnwind body') := by
  intro p p' paired
  have caught : ∀ a : α, GrowsConfined (do
      Windowing.catchPanic
      return a) := fun a =>
    .bind (.alike fun p => (catchPanic_alike p).toSameThreads) fun _ => .pure a
  refine (h p p' paired).bind caught caught fun ended => ?_
  exact .silent (.of_sameThreads (catchPanic_alike _).toSameThreads)
    (.of_sameThreads (catchPanic_alike _).toSameThreads) ⟨ended.1, ended.2.catchPanic⟩

/-! ### Events -/

/-- Alike handlers have alike reactions left. -/
theorem reaction_like {handler handler' : Option Handler}
    (h : Option.Rel Handler.Like handler handler') :
    List.Forall₂ Step.Like ((handler.getD []).headD []) ((handler'.getD []).headD []) ∧
      Option.Rel Handler.Like (handler.map List.tail) (handler'.map List.tail) := by
  cases h with
  | none => exact ⟨.nil, .none⟩
  | some like =>
    cases like with
    | nil => exact ⟨.nil, .some .nil⟩
    | cons first rest => exact ⟨first, .some rest⟩

theorem here_handed (time : Float) (event : Event) (p : Process) :
    (p.handed time event).here = { p.here with locals := { p.locals with
      handler := p.locals.handler.map List.tail, dispatching := true } } := by
  simp [Process.handed, final_modifyLocals, Process.locals]

theorem handed_akin (time : Float) (event : Event) (akin : p.here.Akin p'.here) :
    (p.handed time event).here.Akin (p'.handed time event).here := by
  rw [here_handed, here_handed]
  exact ⟨⟨akin.locals.pending, (reaction_like akin.locals.handler).2, rfl, akin.locals.panic,
    akin.locals.deferred⟩, akin.tables, akin.spawned⟩

/-- What the handler does with an event that it is handed. -/
theorem dispatch_run {time : Float} {event : Event} (takes : p.locals.dropReason = none) :
    (dispatch (react native) time event).run p = (do
      let panic ← catchUnwind (runSteps native ((p.locals.handler.getD []).headD []))
      note (.handled panic)
      modifyLocals fun s => { s with dispatching := false, panic := panic.or s.panic }).run
        (p.handed time event) := by
  have handler : (final (modifyLocals fun s => { s with dispatching := true }) p).locals.handler =
      p.locals.handler := by rw [locals_modifyLocals]
  have panic : result (react native time event)
      (final (modifyLocals fun s => { s with dispatching := true }) p) =
        result (runSteps native ((p.locals.handler.getD []).headD [])) (p.handed time event) := by
    rw [← handler]
    rfl
  refine Prod.ext rfl ((dispatch_handled takes rfl (final_react time event _)).trans ?_)
  rw [panic, handler]
  rfl

/-- An event has been fired, whose time is read next. -/
def Fired (event : Option Event) (p : Process) : Prop :=
  ∃ w o, AllCalm p ∧ Sight p { w with armed := if w.stage = .listening then event else none } ∧
    w.Clear ∧ Gate o p w ∧ Standing p o

theorem Hosting.fired (h : Hosting p) (callback : Callback) :
    Fired callback.event? (p.note (.invoked callback)) := by
  obtain ⟨w, o, calm, sight, clear, gate, standing⟩ := h
  exact ⟨w, o, allCalm_note calm sight.running _, sight.invoked clear callback, clear, gate,
    standing.same (sameBooks_note p rfl)⟩

theorem Fired.calling {event : Event} (h : Fired (some event) p) : Calling .getTime p := by
  obtain ⟨w, o, calm, sight, clear, gate, standing⟩ := h
  exact ⟨_, o, calm, deliver_called event sight clear, ⟨rfl, clear.owed⟩, gate, standing⟩

/-- A waiting handler that reads an event's time is ready to be handed the event. -/
theorem Fired.handed (hm : LibraryKeepsBooks native) {event : Event} (h : Fired (some event) p)
    (takes : (final (native .getTime) p).locals.dropReason = none) :
    ReadyToStep ((final (native .getTime) p).handed (result (native .getTime) p).time event) := by
  obtain ⟨w, o, hp, hw, hc, hg, hs⟩ := h
  have reads : Standing (final (native .getTime) p) o := by
    have called := deliver_called event hw hc
    exact hm.neutral .getTime o p _ rfl hp called ⟨rfl, hc.owed⟩ hg hs
  obtain ⟨hq, w', heard, -, owed⟩ := deliver_read hm.callsBack event hp hw hc
  obtain ⟨hstage, hstage', sight⟩ := owed takes
  obtain ⟨calm, work, -⟩ := dispatch_runs native hq sight hstage' heard.clear
  have others : ∀ x ∈ o, x.owner ≠ (final (native .getTime) p).current := fun x hx heq =>
    hg x hx (heq.trans (hm.confined .getTime p).current) hstage
  obtain ⟨-, standing⟩ := handed_standing sight hstage' others reads
  exact ⟨_, none, calm, work, (fun _ hx => by cases hx), standing⟩

section Events

/-- Two handlers have done alike with an event. -/
theorem handled_agrees (paired : Paired p p') (panic : Option String) :
    Agrees (fun _ _ q q' => q.here.Akin q'.here)
      (do
        note (.handled panic)
        modifyLocals fun s => { s with dispatching := false, panic := panic.or s.panic })
      (do
        note (.handled panic)
        modifyLocals fun s => { s with dispatching := false, panic := panic.or s.panic }) p p' := by
  refine .single (x := .handled panic) (y := .handled panic) ⟨rfl, entriesOf_note_self _ _⟩
    ⟨rfl, entriesOf_note_self _ _⟩ rfl ?_
  have akin := paired.akin
  simp only [final_bind, final_note, final_modifyLocals, Process.here_setHere]
  exact ⟨⟨akin.locals.pending, akin.locals.handler, rfl,
    congrArg (panic.or ·) akin.locals.panic, akin.locals.deferred⟩, akin.tables, akin.spawned⟩

/-- An event is handed to both handlers, or dropped on both threads. -/
theorem dispatch_agrees {time : Float} {event : Event}
    (steps : ∀ steps steps', List.Forall₂ Step.Like steps steps' →
      Isolates (runSteps native steps) (runSteps native' steps'))
    (akin : p.here.Akin p'.here)
    (handed : p.locals.dropReason = none → ReadyToStep (p.handed time event))
    (handed' : p'.locals.dropReason = none → ReadyToStep (p'.handed time event)) :
    Agrees (fun _ _ q q' => q.here.Akin q'.here) (dispatch (react native) time event)
      (dispatch (react native') time event) p p' := by
  have same : p.locals.dropReason = p'.locals.dropReason := akin.locals.dropReason
  cases takes : p.locals.dropReason with
  | some reason =>
    refine .single (x := .logged (.eventDropped reason event))
      (y := .logged (.eventDropped reason event)) ?_ ?_ rfl ?_
    · rw [dispatch_dropped takes]
      exact .note _ p
    · rw [dispatch_dropped (same ▸ takes)]
      exact .note _ p'
    · rw [dispatch_dropped takes, dispatch_dropped (same ▸ takes)]
      exact akin
  | none =>
    have takes' : p'.locals.dropReason = none := same ▸ takes
    have paired : Paired (p.handed time event) (p'.handed time event) :=
      ⟨handed takes, handed' takes', handed_akin time event akin⟩
    have passes : ∀ p : Process, Passes p (p.handed time event) [.handling time event] :=
      fun p => ⟨rfl, entriesOf_note_self _ _⟩
    refine .after (passes p) (passes p') (.refl _) (dispatch_run takes) (dispatch_run takes') ?_
    have done : ∀ panic : Option String, GrowsConfined (do
        note (.handled panic)
        modifyLocals fun s => { s with dispatching := false, panic := panic.or s.panic }) :=
      fun _ => .bind (.note _) fun _ => .setHere
    have like := (reaction_like akin.locals.handler).1
    refine ((steps _ _ like).catchUnwind _ _ paired).bind done done fun ended => ?_
    rw [← ended.1]
    exact handled_agrees ended.2 _

variable (h : ReliableLibrary native) (h' : ReliableLibrary native')

include h h'

theorem deliver_agrees (receives : Receives native native')
    (steps : ∀ steps steps', List.Forall₂ Step.Like steps steps' →
      Isolates (runSteps native steps) (runSteps native' steps'))
    (decoded : Except Log Event) (fired : Fired decoded.toOption p)
    (fired' : Fired decoded.toOption p') (akin : p.here.Akin p'.here) :
    Agrees (fun _ _ q q' => q.here.Akin q'.here) (deliver native (react native) decoded)
      (deliver native' (react native') decoded) p p' := by
  cases decoded with
  | error warning =>
    exact .single (x := .logged warning) (y := .logged warning) (.note _ p) (.note _ p') rfl akin
  | ok event =>
    refine (receives .getTime p p' rfl fired.calling fired'.calling akin).bind
      (fun reply => h.growsConfined.dispatch reply.time event)
      (fun reply => h'.growsConfined.dispatch reply.time event) fun ended => ?_
    have handed' := fired'.handed h'.libraryKeepsBooks
    rw [← ended.1] at handed' ⊢
    exact dispatch_agrees steps ended.2 (fired.handed h.libraryKeepsBooks) handed'

/-- Two threads take a callback alike. -/
theorem heed_agrees (receives : Receives native native')
    (steps : ∀ steps steps', List.Forall₂ Step.Like steps steps' →
      Isolates (runSteps native steps) (runSteps native' steps'))
    (callback : Callback) (hosting : Hosting p) (hosting' : Hosting p')
    (akin : p.here.Akin p'.here) : Agrees (fun _ _ q q' => q.here.Akin q'.here)
      (heed native callback) (heed native' callback) (p.note (.invoked callback))
      (p'.note (.invoked callback)) := by
  have fired := hosting.fired callback
  have fired' := hosting'.fired callback
  cases callback with
  | error code description =>
    let reported := Happening.logged (.nativeError code ((description.map Text.read).getD ""))
    refine .single (x := reported) (y := reported) ⟨rfl, entriesOf_note_self _ _⟩
      ⟨rfl, entriesOf_note_self _ _⟩ rfl ?_
    simp only [heed, onError, log, final_bind, final_note, final_modifyLocals,
      Process.here_setHere]
    exact ⟨⟨congrArg (· <|> _) akin.locals.pending, akin.locals.handler, akin.locals.dispatching,
      akin.locals.panic, akin.locals.deferred⟩, akin.tables, akin.spawned⟩
  | monitor monitor event => exact deliver_agrees h h' receives steps _ fired fired' akin
  | window window signal => exact deliver_agrees h h' receives steps _ fired fired' akin

end Events

/-- Calls agree if handlers take their events alike. -/
theorem backend_receives {depth depth' : Nat}
    (taken : ∀ reply, ∀ c ∈ heardAt depth reply, ∀ p p', Hosting p → Hosting p' →
      p.here.Akin p'.here → Agrees (fun _ _ q q' => q.here.Akin q'.here)
        (heed (backend depth.pred) c) (heed (backend depth'.pred) c) (p.note (.invoked c))
        (p'.note (.invoked c))) : Receives (backend depth) (backend depth') := by
  intro call p p' neutral calling calling' akin
  have kept : ∀ depth c p, Hosting p → Hosting (final (invoke (backend depth) c) p) :=
    fun depth c _ hp => hp.callbackKeepsBooks
      (invoke_callbackKeepsBooks (backend_libraryKeepsBooks depth) c)
  rw [backend_eq, backend_eq]
  exact callWith_agrees (backend_reliableLibrary _) (backend_reliableLibrary _) (turnsAt_apart _)
    (turnsAt_apart _) (kept _) (kept _) taken calling.running calling'.running akin
    (calling.begun neutral depth) (calling'.begun neutral depth')

/-! ### Pumps -/

/-- What a pump does once its native call has returned: the handler goes, what it left to destroy is
destroyed, and the error that was pending before is pending again. -/
def tidy (native : Backend) (outer : Option Error) (reply : Reply) : M (Except Error Reply) := do
  let inner ← takeError
  setPending outer
  modifyLocals fun s => { s with handler := none }
  let doomed ← takeDeferred
  doomed.forM fun pointer => Window.destroy native pointer
  return verdict reply inner

/-- A pump goes on with the panic that its handler left, if there is one. -/
def pumpOutcome : Option String → Except Error Reply → Outcome
  | some message, _ => .panicked message
  | none, .ok _ => .answered .unit
  | none, .error e => .failed e

/-- The end of a pump. -/
def pumped (outer : Option Nat) (outcome : Except Error Reply) : M Outcome := do
  let panic ← takePanic
  modifyTables fun now => { now with pumping := outer }
  return pumpOutcome panic outcome

/-- The owner has installed its handler. -/
def Process.installed (p : Process) (slot : Nat) (handler : Handler) : Process :=
  final takeError (final (modifyLocals fun s => { s with handler := some handler })
    (final (modifyTables fun t => { t with pumping := some slot }) p))

theorem processEvents_run (native : Backend) (call : Call) (handler : Handler) (p : Process) :
    (processEvents native call handler).run p = (native call >>= tidy native p.locals.pending).run
      (final takeError (final (modifyLocals fun s => { s with handler := some handler }) p)) := by
  let listening := final (modifyLocals fun s => { s with handler := some handler }) p
  have pending : listening.locals.pending = p.locals.pending := by
    rw [locals_modifyLocals]
  rw [← pending]
  refine Prod.ext (?_ : result _ _ = result _ _) (?_ : final _ _ = final _ _)
  · simp only [processEvents, tidy, result_bind, result_checked, result_pure, result_takeError,
      listening]
  · simp only [processEvents, tidy, final_bind, final_checked, final_pure, result_takeError,
      listening]

theorem result_pump (kind : PumpKind) (handler : Handler) (free : ¬p.locals.dispatching = true) :
    result (pump native kind handler).run p =
      match result takePanic (final (processEvents native kind.call handler) p) with
      | some message => .error message
      | none => .ok ((result (processEvents native kind.call handler) p).map fun _ => ()) := by
  simp only [pump, bind_pure_comp, ExceptT.map_throw, ExceptT.run_bind, ExceptT.run_liftM,
    bind_map_left, result_bind, result_getLocals, free, Bool.false_eq_true, ↓reduceIte,
    final_getLocals]
  cases result takePanic (final (processEvents native kind.call handler) p) <;> rfl

theorem result_runPump (slot : Nat) (kind : PumpKind) (handler : Handler)
    (h : (occupant p.tables.libraries slot).isSome = true) :
    result (runPump native slot kind handler) p =
      match result (pump native kind handler).run
        (final (modifyTables fun t => { t with pumping := some slot }) p) with
      | .ok (.ok ()) => .answered .unit
      | .ok (.error e) => .failed e
      | .error message => .panicked message := by
  have found : (occupant p.tables.libraries slot).isNone = false := by
    simpa using h
  simp only [runPump, result_bind, result_getTables, final_getTables, found, Bool.false_eq_true,
    ↓reduceIte]
  rcases result (pump native kind handler).run
    (final (modifyTables fun t => { t with pumping := some slot }) p) with message | (e | _) <;> rfl

theorem runPump_run (native : Backend) (slot : Nat) (kind : PumpKind) (handler : Handler)
    (hocc : (occupant p.tables.libraries slot).isSome = true)
    (free : ¬p.locals.dispatching = true) :
    (runPump native slot kind handler).run p =
      (native kind.call >>= tidy native p.locals.pending >>= pumped p.tables.pumping).run
        (p.installed slot handler) := by
  let entered := final (modifyTables fun t => { t with pumping := some slot }) p
  have locals : entered.locals = p.locals := locals_modifyTables _ p
  have events := processEvents_run native kind.call handler entered
  have final_events : final (processEvents native kind.call handler) entered =
      final (native kind.call >>= tidy native p.locals.pending) (p.installed slot handler) := by
    rw [← locals]
    exact congrArg Prod.snd events
  have result_events : result (processEvents native kind.call handler) entered =
      result (native kind.call >>= tidy native p.locals.pending) (p.installed slot handler) := by
    rw [← locals]
    exact congrArg Prod.fst events
  have ended : final (runPump native slot kind handler) p = _ := final_runPump slot kind handler hocc
  refine Prod.ext ?_ ?_
  · change result (runPump native slot kind handler) p = result _ _
    rw [result_runPump slot kind handler hocc, result_pump kind handler (locals ▸ free),
      final_events, result_events]
    let events := native kind.call >>= tidy native p.locals.pending
    change _ = pumpOutcome (result takePanic (final events (p.installed slot handler)))
      (result events (p.installed slot handler))
    cases result takePanic (final events (p.installed slot handler)) with
    | some message => rfl
    | none => cases result events (p.installed slot handler) <;> rfl
  · change final (runPump native slot kind handler) p = _
    rw [ended, final_pump (locals ▸ free), final_events]
    rfl
theorem takeDeferred_tied : Tied Eq takeDeferred takeDeferred where
  goes := .bind GrowsConfined.closed.getLocals fun _ => .bind .setHere fun _ => .pure _
  goes' := .bind GrowsConfined.closed.getLocals fun _ => .bind .setHere fun _ => .pure _
  agrees _ _ hp := .silent ⟨rfl, rfl⟩ ⟨rfl, rfl⟩ ⟨hp.akin.locals.deferred,
    hp.setHere ⟨⟨hp.akin.locals.pending, hp.akin.locals.handler, hp.akin.locals.dispatching,
      hp.akin.locals.panic, rfl⟩, hp.akin.tables, hp.akin.spawned⟩ rfl⟩

/-- Without its handler a thread is out of reach. -/
theorem tidy_agrees (calls : ∀ call, Tied Eq (native call) (native' call)) (outer : Option Error)
    (reply : Reply) (akin : p.here.Akin p'.here) (running : p.current ∈ p.running)
    (running' : p'.current ∈ p'.running) :
    Agrees (fun r r' q q' => r = r' ∧ q.here.Akin q'.here) (tidy native outer reply)
      (tidy native' outer reply) p p' := by
  let bared (p : Process) := final (modifyLocals fun s => { s with handler := none })
    (final (setPending outer) (final takeError p))
  have here : ∀ p : Process, (bared p).here = { p.here with locals := { p.locals with
      pending := outer, handler := none } } := fun p => by
    simp [bared, final_modifyLocals, setPending, takeError, Process.locals]
  have matched : Matched (bared p) (bared p') := by
    refine ⟨?_, running, running', ?_⟩
    · rw [here, here]
      exact ⟨⟨rfl, .none, akin.locals.dispatching, akin.locals.panic, akin.locals.deferred⟩,
        akin.tables, akin.spawned⟩
    · rw [Deaf, Process.locals, here]
      rfl
  have destroyed : Tied Eq
      (do
        let doomed ← takeDeferred
        doomed.forM fun pointer => Window.destroy native pointer
        return verdict reply p.locals.pending)
      (do
        let doomed ← takeDeferred
        doomed.forM fun pointer => Window.destroy native' pointer
        return verdict reply p.locals.pending) := by
    refine .andThen takeDeferred_tied fun _ => ?_
    refine .andThen (.forM (destroy_tied calls) _) fun _ => ?_
    exact .pure rfl
  have pending : p.locals.pending = p'.locals.pending := akin.locals.pending
  have passes : ∀ p : Process, Passes p (bared p) [] := fun _ => ⟨rfl, rfl⟩
  have agree := destroyed.agrees _ _ matched
  refine .after (passes p) (passes p') (.refl _) rfl ?_ (agree.mono fun ended => ?_)
  · rw [pending]
    rfl
  · exact ⟨ended.1, ended.2.akin⟩

theorem installed_calling (h : ReadyToStep p) (slot : Nat) (kind : PumpKind) (handler : Handler)
    (hocc : (occupant p.tables.libraries slot).isSome = true)
    (free : ¬p.locals.dispatching = true) :
    Calling kind.call (p.installed slot handler) := by
  obtain ⟨w, o, calm, work, ho, standing⟩ := h
  obtain ⟨rfl, rfl, l, pumps⟩ := work.pumps calm ho standing hocc free
  obtain ⟨calm', view⟩ := ClientStaysCalm.installed_view pumps.calm pumps.work handler
  have hkind : kind.call.pumps = true := by cases kind <;> rfl
  exact ⟨_, none, calm', view.pumps hkind, ⟨rfl, rfl⟩, (fun _ hx => by cases hx),
    pumps.kept.install handler pumps.pumping pumps.library⟩

theorem here_installed (p : Process) (slot : Nat) (handler : Handler) :
    (p.installed slot handler).here = { p.here with
      locals := { p.locals with handler := some handler, pending := none }
      tables := { p.tables with pumping := some slot } } := by
  simp [Process.installed, takeError, final_modifyLocals, final_modifyTables, Process.locals,
    Process.tables]

/-- A pump within a handler is refused. -/
theorem runPump_refused (native : Backend) (slot : Nat) (kind : PumpKind) (handler : Handler)
    (hocc : (occupant p.tables.libraries slot).isSome = true)
    (busy : p.locals.dispatching = true) : (runPump native slot kind handler).run p =
      (.failed (.insideHandler kind.call.name), p.setHere p.here) := by
  have locals : (final (modifyTables fun t => { t with pumping := some slot }) p).locals =
      p.locals := locals_modifyTables _ p
  refine Prod.ext ((result_runPump slot kind handler hocc).trans ?_)
    ((final_runPump slot kind handler hocc).trans ?_)
  · have refused : result (pump native kind handler).run
        (final (modifyTables fun t => { t with pumping := some slot }) p) =
          .ok (.error (.insideHandler kind.call.name)) := by
      simp [pump, ExceptT.run_bind, locals, busy]
    rw [refused]
  · rw [final_pump_refused (locals ▸ busy)]
    simp [final_modifyTables, Process.tables]

theorem tidy_growsConfined (h : ReliableLibrary native) (outer : Option Error) (reply : Reply) :
    GrowsConfined (tidy native outer reply) := by
  refine .bind h.growsConfined.takeError fun _ => ?_
  refine .bind .setHere fun _ => ?_
  refine .bind .setHere fun _ => ?_
  refine .bind h.growsConfined.takeDeferred fun doomed => ?_
  exact .bind (h.growsConfined.forM h.growsConfined.destroy doomed) fun _ => .pure _

theorem pumped_agrees (outer : Option Nat) (outcome : Except Error Reply)
    (akin : p.here.Akin p'.here) : Agrees (fun o o' q q' => o = o' ∧ q.here.Akin q'.here)
      (pumped outer outcome) (pumped outer outcome) p p' := by
  have here : ∀ p : Process, (final (pumped outer outcome) p).here = { p.here with
      locals := { p.locals with panic := none }
      tables := { p.tables with pumping := outer } } := fun p => by
    simp [pumped, takePanic, final_modifyLocals, final_modifyTables, Process.locals, Process.tables]
  refine .silent ⟨rfl, rfl⟩ ⟨rfl, rfl⟩ ⟨congrArg (pumpOutcome · outcome) akin.locals.panic, ?_⟩
  rw [here, here]
  exact ⟨⟨akin.locals.pending, akin.locals.handler, akin.locals.dispatching, rfl,
    akin.locals.deferred⟩, ⟨akin.tables.libraries, akin.tables.windows, akin.tables.monitors, rfl⟩,
    akin.spawned⟩

/-- Two pumps run alike. -/
theorem runPump_concludes (h : ReliableLibrary native) (h' : ReliableLibrary native')
    (calls : ∀ call, Tied Eq (native call) (native' call)) (receives : Receives native native')
    (paired : Paired p p') (slot : Nat) (kind : PumpKind) {handler handler' : Handler}
    (like : handler.Like handler') :
    Concludes (runPump native slot kind handler) (runPump native' slot kind handler') p p' := by
  have akin := paired.akin
  have libraries : p.tables.libraries = p'.tables.libraries := akin.tables.libraries
  have pumping : p.tables.pumping = p'.tables.pumping := akin.tables.pumping
  have pending : p.locals.pending = p'.locals.pending := akin.locals.pending
  have dispatching : p.locals.dispatching = p'.locals.dispatching := akin.locals.dispatching
  by_cases hocc : (occupant p.tables.libraries slot).isSome = true
  · have hocc' : (occupant p'.tables.libraries slot).isSome = true := libraries ▸ hocc
    by_cases busy : p.locals.dispatching = true
    · have refused := runPump_refused native slot kind handler hocc busy
      have refused' := runPump_refused native' slot kind handler' hocc'
        (dispatching ▸ busy)
      rw [Concludes, result, result, final, final, refused, refused']
      exact ⟨[], [], ⟨rfl, rfl⟩, ⟨rfl, rfl⟩, .inr ⟨.refl _, rfl, by simpa using akin⟩⟩
    · have free' : ¬p'.locals.dispatching = true := dispatching ▸ busy
      have calling := installed_calling paired.readyToStep slot kind handler hocc busy
      have calling' := installed_calling paired.readyToStep' slot kind handler' hocc' free'
      have installed : (p.installed slot handler).here.Akin (p'.installed slot handler').here := by
        rw [here_installed, here_installed]
        exact ⟨⟨rfl, .some like, dispatching, akin.locals.panic, akin.locals.deferred⟩,
          ⟨libraries, akin.tables.windows, akin.tables.monitors, rfl⟩, akin.spawned⟩
      have neutral : kind.call.neutral = true := by cases kind <;> rfl
      have enters : ∀ (p : Process) (handler : Handler), Passes p (p.installed slot handler) [] :=
        fun _ _ => ⟨rfl, rfl⟩
      have run' := runPump_run native' slot kind handler' hocc' free'
      rw [← pending, ← pumping] at run'
      refine Agrees.concludes (R := fun o o' q q' => o = o' ∧ q.here.Akin q'.here)
        (.after (enters p handler) (enters p' handler') (.refl _)
          (runPump_run native slot kind handler hocc busy) run' ?_) id
      have called := receives kind.call _ _ neutral calling calling' installed
      have returns : ∀ outcome, GrowsConfined (pumped p.tables.pumping outcome) := fun _ =>
        .bind (.bind GrowsConfined.closed.getLocals fun _ => .bind .setHere fun _ => .pure _) fun _ =>
          .bind .setHere fun _ => .pure _
      have tidied : Agrees (fun r r' q q' => r = r' ∧ q.here.Akin q'.here)
          (native kind.call >>= tidy native p.locals.pending)
          (native' kind.call >>= tidy native' p.locals.pending) (p.installed slot handler)
          (p'.installed slot handler') := by
        refine called.bind (tidy_growsConfined h _) (tidy_growsConfined h' _) fun ended => ?_
        rw [← ended.1]
        exact tidy_agrees calls _ _ ended.2 ((h.call _).mem_running calling.running)
          ((h'.call _).mem_running calling'.running)
      refine tidied.bind returns returns fun ended => ?_
      rw [← ended.1]
      exact pumped_agrees _ _ ended.2
  · have vacant : ∀ {native : Backend} {p : Process} {handler : Handler},
        ¬(occupant p.tables.libraries slot).isSome = true →
        (runPump native slot kind handler).run p = (.refused .noLibrary, p) := by
      intro native p handler absent
      change (if (occupant p.tables.libraries slot).isNone = true then _ else _ : M Outcome).run p = _
      rw [if_pos (by simpa using absent)]
      rfl
    exact .at_once akin (vacant hocc) (vacant (libraries ▸ hocc))

end Windowing
