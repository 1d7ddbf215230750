import Windowing.Proofs.ThreadEnds

/-!
Every history can be read by the ledger. Handlers run on the thread that owns the initialization,
other threads take their turns while its books stand still, and what runs inside a native call keeps
the books of whoever waits for its return.
-/

namespace Windowing

open Native Client

variable {native : Backend} {o : Option Pause} {p : Process} {w : Watch} {l l' : Ledger}

/-- The owner changes its state and its books in one step. -/
theorem Kept.noted (hk : Kept p.current l p) {e : Happening} {t : Thread}
    (hstep : l.step ⟨p.current, e⟩ = some l') (phase : l'.phase = l.phase)
    (held : l'.held = l.held) (urgent : l'.urgent = none) (ha : Account l' t []) :
    Kept p.current l' ((p.setHere t).note e) where
  guarded := by
    refine ⟨hk.guarded.locked, held ▸ hk.guarded.holders, fun u hu => ?_⟩
    have same : (p.threads.set p.current t).get u = p.threads.get u :=
      Registry.get_set_of_ne _ hu _
    exact same.symm ▸ hk.guarded.others u hu
  reads := by
    refine ⟨?_, urgent, phase ▸ hk.reads.owner⟩
    change (p.note e).ledger = some l'
    rw [ledger_note, hk.reads.ledger]
    exact hstep
  alive := phase.trans hk.alive
  held := held ▸ hk.held
  account := by
    have same : (p.threads.set p.current t).get p.current = t := Registry.get_set_self _ _ _
    exact same.symm ▸ ha

/-- The owner's handler has run; the books show that it runs no more. -/
theorem Standing.handled (hs : Standing p none) (hw : AtWork p w) (hstage : w.stage = .handling)
    (panic : Option String) :
    Standing (final (modifyLocals fun s =>
      { s with dispatching := false, panic := panic.or s.panic }) (p.note (.handled panic))) none :=
        by
  have installed : p.locals.handler.isSome = true :=
    hw.sight.fits.handler.2 (by rw [hstage]; decide)
  have running : p.locals.dispatching = true := hw.sight.fits.dispatching.2 hstage
  obtain ⟨-, l, kept⟩ := hs.installed (fun _ hx => by cases hx) installed
  have account := kept.account
  have busy : l.busy = true := account.busy.trans running
  have finished : l.step ⟨p.current, .handled panic⟩ = some { l with busy := false } := by
    rw [Ledger.step_eq_advance kept.reads.urgent]
    exact if_pos ⟨kept.alive, kept.held, busy⟩
  have waiting : Account { l with busy := false } { p.here with
      locals := { p.locals with dispatching := false, panic := panic.or p.locals.panic } } [] :=
    ⟨account.held, account.owing, rfl, account.deferred, account.pumping⟩
  exact Standing.kept (kept.noted finished rfl rfl kept.reads.urgent waiting)

section Events

variable (hm : LibraryKeepsBooks native)

include hm

omit hm in
/-- An event is handed to the owner's handler; from then on the books show that it runs. -/
theorem handed_standing {time : Float} {event : Event}
    (hw : Sight p { w with owed := some (time, event) }) (hs : w.stage = .listening)
    (ho : ∀ x ∈ o, x.owner ≠ p.current) (hst : Standing p o) :
    o = none ∧ Standing (p.handed time event) none := by
  have installed : p.locals.handler.isSome = true := hw.fits.handler.2 (by simp [hs])
  have quiet : p.locals.dispatching = false := by simpa [hs] using hw.fits.dispatching
  obtain ⟨rfl, l, kept⟩ := hst.installed ho installed
  have account := kept.account
  have busy : l.busy = false := account.busy.trans quiet
  have begin : l.step ⟨p.current, .handling time event⟩ = some { l with busy := true } := by
    rw [Ledger.step_eq_advance kept.reads.urgent]
    exact if_pos ⟨kept.alive, kept.held, busy⟩
  have handling : Account { l with busy := true } { p.here with
      locals := { p.locals with
        handler := p.locals.handler.map List.tail
        dispatching := true } } [] :=
    ⟨account.held, account.owing, rfl, fun hn => account.deferred (Option.map_eq_none_iff.1 hn),
      fun hi => account.pumping (Option.isSome_map.symm.trans hi)⟩
  have noted := kept.noted begin rfl rfl kept.reads.urgent handling
  exact ⟨rfl, by simpa [Process.handed, final_modifyLocals, Process.locals] using Standing.kept noted⟩

/-- The owner's handler takes an event. -/
theorem dispatch_standing {time : Float} {event : Event} (hp : AllCalm p)
    (hw : Sight p { w with owed := some (time, event) }) (hs : w.stage = .listening)
    (hc : w.Clear) (ho : ∀ x ∈ o, x.owner ≠ p.current) (hst : Standing p o) :
    Standing (final (dispatch (react native) time event) p) o := by
  obtain ⟨calm, work, taken, panic, ran⟩ := dispatch_runs native hp hw hs hc
  obtain ⟨rfl, entered⟩ := handed_standing hw hs ho hst
  have steps := ((OperationKeepsBooks.law hm).runSteps taken).catchUnwind
  obtain ⟨-, work'⟩ := steps.staysCalm _ _ calm work
  have ended := steps.clientKeepsBooks none _ _ calm work (fun _ hx => by cases hx) entered
  rw [ran]
  exact ended.handled work' rfl panic

theorem deliver_standing (decoded : Except Log Event) (hp : AllCalm p)
    (hw : Sight p { w with armed := if w.stage = .listening then decoded.toOption else none })
    (hc : w.Clear) (hg : Gate o p w) (hs : Standing p o) :
    Standing (final (deliver native (react native) decoded) p) o := by
  cases decoded with
  | error warning => exact hs.same (sameBooks_note p rfl)
  | ok event =>
    have reads : Standing (final (native .getTime) p) o := by
      have called := deliver_called event hw hc
      exact hm.neutral .getTime o p _ rfl hp called ⟨rfl, hc.owed⟩ hg hs
    obtain ⟨hq, w', heard, dropped, owed⟩ := deliver_read hm.callsBack event hp hw hc
    have hcurrent := (hm.confined .getTime p).current
    change Standing (final (dispatch (react native) (result (native .getTime) p).time event)
      (final (native .getTime) p)) o
    generalize (result (native .getTime) p).time = time at owed ⊢
    generalize final (native .getTime) p = q at reads hq heard dropped owed hcurrent ⊢
    cases hreason : q.locals.dropReason with
    | some reason =>
      rw [dispatch_dropped hreason]
      exact reads.same (sameBooks_note q rfl)
    | none =>
      obtain ⟨hstage, hstage', owed⟩ := owed hreason
      exact dispatch_standing hm hq owed hstage' heard.clear
        (fun x hx heq => hg x hx (heq.trans hcurrent) hstage) reads

theorem invoke_callbackKeepsBooks (callback : Callback) :
    CallbackKeepsBooks (invoke native callback) where
  onlyCallbacks := invoke_onlyCallbacks hm.callsBack hm.confined callback
  confined := (Confined.compositional hm.confined).invoke callback
  standing o p w hp hw hc hg hs := by
    cases listens : p.listens callback with
    | true =>
      rw [final, invoke_run listens]
      have fired := hw.invoked hc callback
      have hp' := allCalm_note hp hw.running (.invoked callback)
      have noted := hs.same (sameBooks_note p (h := .invoked callback) rfl)
      cases callback with
      | error code description =>
        exact (noted.same (sameBooks_note _ rfl)).same
          (sameBooks_setHere _ ⟨rfl, rfl, rfl, rfl, rfl, rfl, rfl⟩)
      | monitor monitor event => exact deliver_standing hm _ hp' fired hc hg noted
      | window window signal => exact deliver_standing hm _ hp' fired hc hg noted
    | false =>
      rw [final, invoke_unheard listens]
      exact hs

/-! ### Turns -/

omit hm in
/-- Another thread takes its turn while the books may be paused. -/
theorem interject_standing {thread : ThreadId} {body : M Unit} (hp : AllCalm p) (hs : Standing p o)
    (hb : ∀ q, Rest thread o q → Standing (final body q) o) :
    Standing (final (interject thread body) p) o := by
  by_cases busy : p.running.contains thread
  · simp only [interject, final_bind, final_get, result_get, busy, ↓reduceIte]
    exact hs
  · simp only [interject, final_bind, final_get, result_get, busy]
    exact (hb _ (hs.enter hp (by simpa using busy))).leave hs.mem_running

theorem runTurn_standing (turn : Turn) (hp : AllCalm p) (hs : Standing p o) :
    Standing (final (runTurn native turn) p) o := by
  cases turn with
  | finish thread => exact interject_standing hp hs fun q hq => hq.endThread hm none
  | step thread step =>
    refine interject_standing hp hs fun q hq => ?_
    have stepped := hq.keepsBooks ((OperationKeepsBooks.law hm).runStep step)
    rw [final_bind]
    cases result (runStep native step) q with
    | panicking message => exact stepped.endThread hm _
    | _ => exact stepped.standing

theorem runTurn_callbackKeepsBooks (turn : Turn) : CallbackKeepsBooks (runTurn native turn) where
  onlyCallbacks := .apart (Confined.runTurn hm.confined turn)
    fun _ => allCalm_runTurn hm.callsBack hm.confined turn
  confined := (Confined.runTurn hm.confined turn).confined
  standing _ _ _ hp _ _ _ hs := runTurn_standing hm turn hp hs

end Events

theorem takeTurns_callbackKeepsBooks : CallbackKeepsBooks takeTurns := by
  refine .same (fun p w hp hw hc => ?_) (fun p => (takeTurns_alike p).within)
    fun p => (takeTurns_alike p).sameBooks
  have same := (takeTurns_alike p).toSameThreads
  exact ⟨same.allCalm hp, w, same.view hw, .of_samePlace hc (.of_here same.here)⟩

theorem backend_libraryKeepsBooks (depth : Nat) : LibraryKeepsBooks (backend depth) := by
  induction depth with
  | zero => exact callWith_libraryKeepsBooks fun _ => .pure _
  | succ depth ih =>
    exact callWith_libraryKeepsBooks fun reply => .bind takeTurns_callbackKeepsBooks fun batch =>
      .bind (.forM (runTurn_callbackKeepsBooks ih) batch) fun _ =>
        .forM (invoke_callbackKeepsBooks ih) reply.callbacks

/-! ### Sessions -/

theorem Session.start_rest (s : Session) : Rest 0 none s.start := by
  obtain ⟨calm, work⟩ := s.start_calm
  refine ⟨calm, work, rfl, .free ⟨rfl, rfl, fun t => ?_⟩, fun _ hx => by cases hx⟩
  rw [s.start_thread t]
  exact ⟨rfl, rfl, rfl⟩

theorem Session.final_body (s : Session) : final s.body s.start =
    (final (finish (backend s.depth) true) (final (runSteps (backend s.depth) s.steps) s.start)).note
      (.threadEnded (result (runSteps (backend s.depth) s.steps) s.start)) := by
  simp only [Session.body, final_bind, final_note]

/-- At the end of a session its main thread has no handle, and the books agree with the process. -/
theorem Session.body_rest (s : Session) : Rest 0 none (final s.body s.start) ∧
    (final s.body s.start).tables.handles = [] := by
  have libraryKeepsBooks := backend_libraryKeepsBooks s.depth
  have ran := s.start_rest.keepsBooks ((OperationKeepsBooks.law libraryKeepsBooks).runSteps s.steps)
  obtain ⟨rest, empty⟩ := ran.finish libraryKeepsBooks true
  rw [s.final_body]
  exact ⟨rest.keepsBooks (.boundary rfl rfl), empty⟩

end Windowing
