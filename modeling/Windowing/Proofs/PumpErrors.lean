import Windowing.Proofs.DroppedEvents
import Windowing.Proofs.PendingErrorFrame
import Windowing.Proofs.AgreeingPrograms

/-!
Reading of what happens while a pump waits. Errors are reported by its native call, by the reading
of event times and by the operations of its handler, and the handler may ask for the pending error.
From what happens on the thread, and the operations that the handler consists of, one can tell at
each time which error is pending, which windows the handler has dropped and whether it has panicked.
-/

namespace Windowing

open Native Client

variable {α β : Type} {native : Backend} {p q r : Process} {hs hs' : List Happening}

/-- The panic that a handler ended with. -/
def Happening.panic? : Happening → Option String
  | .handled panic => panic
  | _ => none

/-- What an operation of a handler does to the pending error, the newest first: it takes it, or
leaves what is reported while its unchecked calls run. -/
def Client.Op.marks (hs : List Happening) : Op → List Mark
  | .getError => [.taken]
  | op => ((reports (op.unguarded hs)).map .reported).reverse

/-- How far the record of a pump was read. -/
structure Reading where
  /-- The reactions that have not begun. -/
  reactions : Handler
  /-- The steps of the running reaction that have not ended. -/
  steps : List Step := []
  /-- What has happened in the running step, if one is running. -/
  since : Option (List Happening) := none
  /-- The marks that were found, the newest first. -/
  marks : List Mark := []

namespace Reading

/-- The step that was running has ended. -/
def endStep (r : Reading) : Reading :=
  match r.steps with
  | [] => { r with since := none }
  | .mk _ op :: later =>
    { r with steps := later, since := none, marks := op.marks (r.since.getD []) ++ r.marks }

/-- Outside steps every report leaves a mark. -/
def note (r : Reading) (h : Happening) : Reading :=
  match r.since with
  | some hs => { r with since := some (hs ++ [h]) }
  | none => { r with marks := (h.report?.map Mark.reported).toList ++ r.marks }

def read (r : Reading) : Happening → Reading
  | .handling _ _ => { r with reactions := r.reactions.tail, steps := r.reactions.headD [] }
  | .stepStarted => { r with since := some [] }
  | .stepEnded _ => r.endStep
  | h => r.note h

/-- The reading fits the thread: no step is running, the reactions that have not begun are those
that the handler has left, and the pending error is the one that the marks show. -/
structure Fits (r : Reading) (s : Locals) : Prop where
  idle : r.since = none
  handler : s.handler = some r.reactions
  pending : s.pending = firstSinceTaken r.marks

theorem read_inward (r : Reading) {h : Happening} (inward : h.inward = true) :
    r.read h = r.note h := by
  cases h <;> first | rfl | cases inward

/-- The entries of a step are those of its operation. -/
theorem read_inside {r : Reading} {before : List Happening} (since : r.since = some before)
    (inward : ∀ h ∈ hs, h.inward = true) :
    hs.foldl read r = { r with since := some (before ++ hs) } := by
  induction hs generalizing r before with
  | nil => rw [List.append_nil, List.foldl_nil, ← since]
  | cons h hs ih =>
    have first : r.read h = { r with since := some (before ++ [h]) } := by
      rw [read_inward r (inward h List.mem_cons_self), note, since]
    rw [List.foldl_cons, first, ih rfl fun e he => inward e (List.mem_cons_of_mem _ he),
      List.append_assoc, List.singleton_append]

/-- Outside steps all reports leave their marks. -/
theorem read_outside {r : Reading} (idle : r.since = none) (inward : ∀ h ∈ hs, h.inward = true) :
    hs.foldl read r = { r with marks := ((reports hs).map .reported).reverse ++ r.marks } := by
  induction hs generalizing r with
  | nil => rfl
  | cons h hs ih =>
    have first : r.read h =
        { r with marks := (h.report?.map Mark.reported).toList ++ r.marks } := by
      rw [read_inward r (inward h List.mem_cons_self), note, idle]
    have later := ih (r := { r with marks := (h.report?.map Mark.reported).toList ++ r.marks }) idle
      fun e he => inward e (List.mem_cons_of_mem _ he)
    rw [List.foldl_cons, first, later, reports, reports, List.filterMap_cons]
    cases h.report? <;> simp

/-- A step leaves the marks of its operation. -/
theorem read_step {r : Reading} {script : Script} {op : Op} {later : List Step} (outcome : Outcome)
    (steps : r.steps = .mk script op :: later) (inward : ∀ h ∈ hs, h.inward = true) :
    (.stepStarted :: (hs ++ [.stepEnded outcome])).foldl read r =
      { r with steps := later, since := none, marks := op.marks hs ++ r.marks } := by
  have begun : hs.foldl read (r.read .stepStarted) = { r with since := some ([] ++ hs) } :=
    read_inside rfl inward
  rw [List.foldl_cons, List.foldl_append, begun]
  simp [read, endStep, steps]

theorem read_handled {r : Reading} (idle : r.since = none) (panic : Option String) :
    r.read (.handled panic) = r := by
  obtain ⟨reactions, steps, since, marks⟩ := r
  cases idle
  rfl

end Reading

/-- Errors that are reported after others count if nothing was pending. -/
theorem firstSinceTaken_reported (errors : List Error) (marks : List Mark) :
    firstSinceTaken ((errors.map .reported).reverse ++ marks) =
      (firstSinceTaken marks <|> errors.head?) := by
  induction errors generalizing marks with
  | nil => cases h : firstSinceTaken marks <;> simp [h]
  | cons e errors ih =>
    rw [List.map_cons, List.reverse_cons, List.append_assoc, List.singleton_append, ih,
      firstSinceTaken]
    cases firstSinceTaken marks <;> rfl

/-- An operation of a handler leaves its marks. -/
theorem runOp_marks (depth : Nat) (op : Op) (hr : p.current ∈ p.running) (hd : Deaf p)
    (locked : p.locked = true) {marks : List Mark} (h : p.locals.pending = firstSinceTaken marks) :
    (final (runOp (backend depth) op) p).locals.pending =
      firstSinceTaken (op.marks (during (runOp (backend depth) op) p) ++ marks) := by
  by_cases asks : op = .getError
  · subst asks
    have taken : final (runOp (backend depth) .getError) p = final takeError p := by
      rw [← final_lastError]
      change final (answering _ lastError) p = _
      rw [final, answering_run]
      cases result lastError.run p <;> rfl
    rw [taken, locals_takeError]
    rfl
  · have left := runOp_pending depth asks (fun _ => locked) hr hd
    have marked : ∀ hs, op.marks hs = ((reports (op.unguarded hs)).map .reported).reverse := by
      intro hs
      cases op <;> first | rfl | exact absurd rfl asks
    rw [left, marked, firstSinceTaken_reported, h]

/-! ### The steps of a handler -/

theorem Happening.panic?_inward {h : Happening} (inward : h.inward = true) : h.panic? = none := by
  cases h <;> first | rfl | cases inward

/-- The thread that runs a handler has the initialization to itself. -/
theorem ReadyToStep.locked (h : ReadyToStep p) (inside : p.locals.dropReason = some .insideHandler) :
    p.locked = true := by
  obtain ⟨w, o, -, work, others, standing⟩ := h
  obtain ⟨-, l, kept⟩ := standing.installed others (Locals.inside_iff.1 inside).1
  exact kept.guarded.locked

/-- A step of a handler leaves the marks of its operation. -/
theorem runStep_read (depth : Nat) (script : Script) (op : Op) (readyToStep : ReadyToStep p)
    (inside : p.locals.dropReason = some .insideHandler) : ∃ hs outcome,
    (∀ h ∈ hs, h.inward = true) ∧
    Leaves p (final (runStep (backend depth) (.mk script op)) p)
      (.stepStarted :: (hs ++ [.stepEnded outcome])) ∧
    ∀ marks, p.locals.pending = firstSinceTaken marks →
      (final (runStep (backend depth) (.mk script op)) p).locals.pending =
        firstSinceTaken (op.marks hs ++ marks) := by
  have readyToStep' : ReadyToStep (p.stepping script) := readyToStep.stepping script
  have inside' : (p.stepping script).locals.dropReason = some .insideHandler := inside
  have running := readyToStep'.unheeding.1
  have started : Leaves p (p.stepping script) [.stepStarted] :=
    (Leaves.note rfl p).trans (.of_sameThreads (alike_scripts _ _).toSameThreads)
  have operated := runOp_leaves depth op running (Locals.inside_iff.1 inside').2.2
  have ended : Leaves (final (runOp (backend depth) op) (p.stepping script))
      (final (runStep (backend depth) (.mk script op)) p) [.stepEnded _] :=
    (Leaves.of_sameThreads (alike_scripts _ p.scripts).toSameThreads).trans (.note rfl _)
  refine ⟨_, _, (runOp_inward depth op).during running inside',
    started.trans (operated.trans ended), fun marks pending => ?_⟩
  exact runOp_marks depth op running readyToStep'.unheeding.2 (readyToStep'.locked inside') pending

theorem final_runSteps_cons (native : Backend) (step : Step) (rest : List Step) (p : Process) :
    final (runSteps native (step :: rest)) p = final (runStep native step) p ∨
      final (runSteps native (step :: rest)) p =
        final (runSteps native rest) (final (runStep native step) p) := by
  rw [runSteps, final_bind]
  cases result (runStep native step) p with
  | panicking message => exact .inl rfl
  | _ => exact .inr rfl

/-- What the steps of a handler do to the pending error is read off what happens meanwhile. -/
theorem runSteps_read (depth : Nat) (steps : List Step) (readyToStep : ReadyToStep p)
    (inside : p.locals.dropReason = some .insideHandler) : ∃ hs,
    Leaves p (final (runSteps (backend depth) steps) p) hs ∧ (∀ h ∈ hs, h.panic? = none) ∧
    ∀ r : Reading, r.since = none → r.steps = steps → p.locals.pending = firstSinceTaken r.marks →
      (hs.foldl Reading.read r).since = none ∧
      (hs.foldl Reading.read r).reactions = r.reactions ∧
      (final (runSteps (backend depth) steps) p).locals.pending =
        firstSinceTaken (hs.foldl Reading.read r).marks := by
  induction steps generalizing p with
  | nil => exact ⟨[], .refl, by simp, fun r idle _ pending => ⟨idle, rfl, pending⟩⟩
  | cons step rest ih =>
    obtain ⟨script, op⟩ := step
    obtain ⟨hs, outcome, inward, left, marked⟩ := runStep_read depth script op readyToStep inside
    have calm : ∀ h ∈ .stepStarted :: (hs ++ [.stepEnded outcome]), h.panic? = none := by
      refine List.forall_mem_cons.2 ⟨rfl, List.forall_mem_append.2 ⟨fun h hh => ?_, ?_⟩⟩
      · exact Happening.panic?_inward (inward h hh)
      · exact List.forall_mem_singleton.2 rfl
    rcases final_runSteps_cons (backend depth) (.mk script op) rest p with ended | goes
    · rw [ended]
      refine ⟨_, left, calm, fun r idle steps pending => ?_⟩
      rw [Reading.read_step outcome steps inward]
      exact ⟨rfl, rfl, marked _ pending⟩
    · have readyToStep' := readyToStep.keepsBooks
        ((OperationKeepsBooks.law (backend_libraryKeepsBooks depth)).runStep (.mk script op))
      obtain ⟨hs', left', calm', read⟩ := ih readyToStep' (left.dropReason.trans inside)
      rw [goes]
      refine ⟨_, left.trans left', List.forall_mem_append.2 ⟨calm, calm'⟩,
        fun r idle steps pending => ?_⟩
      rw [List.foldl_append, Reading.read_step outcome steps inward]
      exact read _ rfl rfl (marked _ pending)

/-! ### Events -/

/-- What the entries tell of a thread whose handler waits: the first panic, the windows that were
left to destroy, the reactions that are left, and the pending error. -/
structure Attended (p q : Process) (hs : List Happening) : Prop where
  passes : Passes p q hs
  dispatching : q.locals.dispatching = p.locals.dispatching
  panic : q.locals.panic = p.locals.panic.or (hs.findSome? Happening.panic?)
  deferred : q.locals.deferred = p.locals.deferred ++ hs.filterMap Happening.doomed?
  reading : ∀ r : Reading, r.Fits p.locals → (hs.foldl Reading.read r).Fits q.locals

namespace Attended

theorem trans (h : Attended p q hs) (h' : Attended q r hs') : Attended p r (hs ++ hs') where
  passes := h.passes.trans h'.passes
  dispatching := h'.dispatching.trans h.dispatching
  panic := by rw [h'.panic, h.panic, List.findSome?_append, Option.or_assoc]
  deferred := by rw [h'.deferred, h.deferred, List.filterMap_append, List.append_assoc]
  reading reading fits := by
    rw [List.foldl_append]
    exact h'.reading _ (h.reading _ fits)

/-- Outside the handler's operations errors may be reported. -/
theorem reported (passes : Passes p q hs) (inward : ∀ h ∈ hs, h.inward = true)
    (undoomed : hs.filterMap Happening.doomed? = [])
    (locals : q.locals =
      { p.locals with pending := p.locals.pending <|> (reports hs).head? }) : Attended p q hs := by
  have calm : hs.findSome? Happening.panic? = none :=
    List.findSome?_eq_none_iff.2 fun h hh => Happening.panic?_inward (inward h hh)
  refine ⟨passes, by rw [locals], by rw [locals, calm, Option.or_none],
    by rw [locals, undoomed, List.append_nil], fun r fits => ?_⟩
  rw [Reading.read_outside fits.idle inward, locals]
  exact ⟨fits.idle, fits.handler, by rw [firstSinceTaken_reported, fits.pending]⟩

/-- What reports no error and drops no window leaves the thread as it is. -/
theorem still (passes : Passes p q hs) (inward : ∀ h ∈ hs, h.inward = true)
    (unreported : reports hs = []) (undoomed : hs.filterMap Happening.doomed? = [])
    (here : q.here = p.here) : Attended p q hs := by
  refine reported passes inward undoomed ?_
  have pending : (p.locals.pending <|> none) = p.locals.pending := by
    cases p.locals.pending <;> rfl
  rw [unreported, List.head?_nil, pending, Process.locals, here, Process.locals]

theorem refl : Attended p p [] := still .refl (by simp) rfl rfl rfl

theorem note {h : Happening} (inward : h.inward = true) (unreported : h.report? = none)
    (undoomed : h.doomed? = none) (p : Process) : Attended p (p.note h) [h] :=
  still (.note h p) (by simpa using inward) (by simp [reports, unreported]) (by simp [undoomed]) rfl

/-- The error callback. -/
theorem onError (code : Int32) (description : Option Text.Bytes) (p : Process) :
    Attended p (final (onError code description) (p.note (.invoked (.error code description))))
      [.invoked (.error code description),
        .logged (.nativeError code ((description.map Text.read).getD ""))] :=
  reported ((Passes.note _ p).trans ⟨rfl, entriesOf_note_self _ _⟩) (by simp [Happening.inward]) rfl
    (locals_onError _ _ _)

end Attended

theorem locals_handed (time : Float) (event : Event) (p : Process) :
    (p.handed time event).locals =
      { p.locals with handler := p.locals.handler.map List.tail, dispatching := true } :=
  congrArg Thread.locals (here_handed time event p)

/-- The handler that is handed an event runs. -/
theorem handed_inside (time : Float) (event : Event) (takes : p.locals.dropReason = none) :
    (p.handed time event).locals.dropReason = some .insideHandler := by
  obtain ⟨installed, calm, -⟩ := Locals.taken_iff.1 takes
  rw [Locals.inside_iff, locals_handed]
  exact ⟨Option.isSome_map.trans installed, calm, rfl⟩

/-- A waiting handler takes an event. -/
theorem dispatch_attended (depth : Nat) (time : Float) (event : Event)
    (takes : p.locals.dropReason = none) (readyToStep : ReadyToStep (p.handed time event)) : ∃ hs,
    Attended p (final (dispatch (react (backend depth)) time event) p) hs := by
  obtain ⟨-, calm, idle⟩ := Locals.taken_iff.1 takes
  have inside := handed_inside time event takes
  have locals := locals_handed time event p
  let steps := (p.locals.handler.getD []).headD []
  obtain ⟨hs, left, quiet, read⟩ := runSteps_read depth steps readyToStep inside
  let panic := result (runSteps (backend depth) steps) (p.handed time event)
  let q := final (catchUnwind (runSteps (backend depth) steps)) (p.handed time event)
  replace left : Leaves (p.handed time event) q hs := by
    have caught := left.trans (.of_sameThreads (catchPanic_alike _).toSameThreads)
    rwa [List.append_nil] at caught
  have run : final (dispatch (react (backend depth)) time event) p =
      final (modifyLocals fun s => { s with dispatching := false, panic := panic.or s.panic })
        (q.note (.handled panic)) := congrArg Prod.snd (dispatch_run takes)
  have after : (final (dispatch (react (backend depth)) time event) p).locals =
      { q.locals with dispatching := false, panic := panic.or q.locals.panic } := by
    rw [run, locals_modifyLocals, locals_note]
  have ends : (.handling time event :: (hs ++ [.handled panic])).findSome? Happening.panic? =
      panic := by
    change (hs ++ [Happening.handled panic]).findSome? Happening.panic? = panic
    rw [List.findSome?_append, List.findSome?_eq_none_iff.2 quiet, Option.none_or]
    cases panic <;> rfl
  refine ⟨.handling time event :: (hs ++ [.handled panic]), ?_, ?_, ?_, ?_, fun r fits => ?_⟩
  · have handed : Passes p (p.handed time event) [.handling time event] :=
      ⟨rfl, entriesOf_note_self _ _⟩
    have ended : Passes q (final (dispatch (react (backend depth)) time event) p)
        [.handled panic] := by
      rw [run]
      exact ⟨rfl, entriesOf_note_self _ _⟩
    exact handed.trans ((Passes.of_leaves left).trans ended)
  · rw [after, idle]
  · rw [after, left.panic, locals, calm, Option.or_none, Option.none_or, ends]
  · rw [after, left.deferred, locals, List.filterMap_cons_none rfl, List.filterMap_append]
    simp [Happening.doomed?]
  · obtain ⟨since, reactions, pending⟩ := read (r.read (.handling time event)) fits.idle
      (by simp [Reading.read, steps, fits.handler]) (by rw [locals]; exact fits.pending)
    rw [List.foldl_cons, List.foldl_append, List.foldl_cons, List.foldl_nil,
      Reading.read_handled since, after]
    refine ⟨since, ?_, pending⟩
    rw [reactions]
    exact left.handler.trans (by rw [locals, fits.handler]; rfl)

section Calls

variable {depth : Nat} (reads : ∀ p, Calling .getTime p → p.locals.dispatching = false →
  ∃ hs, Attended p (final (backend depth .getTime) p) hs)

include reads

/-- The time of an event is read, and the event is taken or dropped. -/
theorem deliver_attended (decoded : Except Log Event) (fired : Fired decoded.toOption p)
    (idle : p.locals.dispatching = false) :
    ∃ hs, Attended p (final (deliver (backend depth) (react (backend depth)) decoded) p) hs := by
  cases decoded with
  | error warning => exact ⟨_, .note rfl rfl rfl p⟩
  | ok event =>
    obtain ⟨hs, read⟩ := reads p fired.calling idle
    have split : final (deliver (backend depth) (react (backend depth)) (.ok event)) p =
        final (dispatch (react (backend depth)) (result (backend depth .getTime) p).time event)
          (final (backend depth .getTime) p) := rfl
    rw [split]
    cases takes : (final (backend depth .getTime) p).locals.dropReason with
    | some reason =>
      rw [dispatch_dropped takes]
      exact ⟨_, read.trans (.note rfl rfl rfl _)⟩
    | none =>
      have readyToStep := fired.handed (backend_libraryKeepsBooks depth) takes
      obtain ⟨hs', taken⟩ := dispatch_attended depth _ event takes readyToStep
      exact ⟨_, read.trans taken⟩

theorem invoke_attended (callback : Callback) (hosting : Hosting p)
    (idle : p.locals.dispatching = false) :
    ∃ hs, Attended p (final (invoke (backend depth) callback) p) hs := by
  cases listens : p.listens callback with
  | false =>
    rw [final, invoke_unheard listens]
    exact ⟨[], .refl⟩
  | true =>
    have fired := hosting.fired callback
    rw [final, invoke_run listens]
    cases callback with
    | error code description => exact ⟨_, .onError code description p⟩
    | monitor monitor event =>
      obtain ⟨hs, delivered⟩ := deliver_attended reads _ fired idle
      exact ⟨_, (Attended.note (h := .invoked _) rfl rfl rfl p).trans delivered⟩
    | window window signal =>
      obtain ⟨hs, delivered⟩ := deliver_attended reads _ fired idle
      exact ⟨_, (Attended.note (h := .invoked _) rfl rfl rfl p).trans delivered⟩

theorem callbacks_attended (callbacks : List Callback) (hosting : Hosting p)
    (idle : p.locals.dispatching = false) :
    ∃ hs, Attended p (final (callbacks.forM fun c => invoke (backend depth) c) p) hs := by
  induction callbacks generalizing p with
  | nil => exact ⟨[], .refl⟩
  | cons c callbacks ih =>
    obtain ⟨hs, first⟩ := invoke_attended reads c hosting idle
    obtain ⟨hs', rest⟩ := ih (hosting.callbackKeepsBooks
      (invoke_callbackKeepsBooks (backend_libraryKeepsBooks depth) c))
      (first.dispatching.trans idle)
    exact ⟨_, first.trans rest⟩

end Calls

/-- A call returns once its callbacks are done. -/
theorem call_attended (depth : Nat) (call : Call) (hr : p.current ∈ p.running)
    (h : Attended (p.begun (turnsAt depth) call) (final
      ((heardAt depth (result (backend depth call) p)).forM fun c => invoke (backend depth.pred) c)
      (p.begun (turnsAt depth) call)) hs) :
    Attended p (final (backend depth call) p)
      (.called call :: (hs ++ [.returned call (result (backend depth call) p)])) := by
  obtain ⟨passes, here⟩ := begun_passes (turnsAt_apart depth) call hr
  have began : Attended p (p.begun (turnsAt depth) call) [.called call] :=
    .still passes (by simp [Happening.inward]) rfl rfl here
  have settled (q : Process) : Attended q (final (settle call) q) [] :=
    have same := (settle_alike call q).toSameThreads
    .still (.of_sameThreads same) (by simp) rfl rfl same.here
  have run : final (backend depth call) p = (final (settle call) (final
      ((heardAt depth (result (backend depth call) p)).forM fun c => invoke (backend depth.pred) c)
      (p.begun (turnsAt depth) call))).note (.returned call (result (backend depth call) p)) := by
    rw [backend_eq]
    rfl
  rw [run]
  exact began.trans (h.trans ((settled _).trans (.note rfl rfl rfl _)))

/-- A native call that is made while a handler waits: what happens until it returns tells what the
handler did. -/
theorem backend_attended (depth : Nat) (call : Call) (neutral : call.neutral = true)
    (calling : Calling call p) (idle : p.locals.dispatching = false) : ∃ hs,
    Attended p (final (backend depth call) p)
      (.called call :: (hs ++ [.returned call (result (backend depth call) p)])) := by
  induction depth generalizing call p with
  | zero => exact ⟨[], call_attended 0 call calling.running .refl⟩
  | succ depth ih =>
    have hosting := calling.begun neutral (depth + 1)
    have here := (begun_passes (turnsAt_apart (depth + 1)) call calling.running).2
    have idle' : (p.begun (turnsAt (depth + 1)) call).locals.dispatching = false := by
      rw [Process.locals, here]
      exact idle
    have reads : ∀ p, Calling .getTime p → p.locals.dispatching = false →
        ∃ hs, Attended p (final (backend depth .getTime) p) hs := by
      intro p calling idle
      obtain ⟨hs, read⟩ := ih .getTime rfl calling idle
      exact ⟨_, read⟩
    obtain ⟨hs, attended⟩ := callbacks_attended reads
      (heardAt (depth + 1) (result (backend (depth + 1) call) p)) hosting idle'
    exact ⟨hs, call_attended (depth + 1) call calling.running attended⟩

end Windowing
