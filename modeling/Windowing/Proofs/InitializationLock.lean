import Windowing.Proofs.ThreadIsolation
import Windowing.Proofs.LockPoisoning

/-!
The lock of the initialization. Between the steps of the threads the lock is held exactly while some
thread has a handle of a library, a window or a monitor, whatever happened before: handles that a
panic dropped, initializations that failed, a termination that reported errors. So the attempt to
initialize that does not wait is refused exactly then, and otherwise it is an initialization. That the
lock may be poisoned makes no difference to either.
-/

namespace Windowing

open Native Client

variable {native : Backend} {p : Process} {client : Bool}

/-- The states of a process between the steps of its threads. Either client code runs on the current
thread, in its handler or outside all pumps, and it may take its next step; or a pump of the current
thread waits for events, and only others may take theirs. -/
inductive Juncture : (client : Bool) → Process → Prop where
  | start (s : Session) : Juncture true s.start
  | step {p : Process} (depth : Nat) (step : Step) (h : Juncture true p) :
      Juncture true (final (runStep (backend depth) step) p)
  /-- The thread drops what it owns, at its end or because of a panic. -/
  | ended {p : Process} (depth : Nat) (panicked : Bool) (panic : Option String)
      (outside : p.locals.dispatching = false) (h : Juncture true p) :
      Juncture true (final (ended (backend depth) panicked panic) p)
  /-- Another thread has taken its turn. -/
  | turn {client : Bool} {p : Process} (depth : Nat) (turn : Turn) (h : Juncture client p) :
      Juncture client (final (runTurn (backend depth) turn) p)
  /-- Another thread begins its turn. -/
  | entered {client : Bool} {p : Process} (t : ThreadId) (idle : t ∉ p.running)
      (h : Juncture client p) : Juncture true (p.entering t)
  /-- A new thread begins, whose end the current one waits for. -/
  | spawned {p : Process} (contexts : List (Option (Context × Nat))) (h : Juncture true p) :
      Juncture true ((p.withThread contexts).entering p.freshThread)
  /-- A pump has installed its handler and called the native library. -/
  | pump {p : Process} (slot : Nat) (kind : PumpKind) (handler : Handler)
      (library : (occupant p.tables.libraries slot).isSome = true)
      (outside : p.locals.dispatching = false) (h : Juncture true p) :
      Juncture false (final (takeReply kind.call)
        ((p.installed slot handler).note (.called kind.call)))
  /-- The native library has invoked a callback. -/
  | callback {p : Process} (depth : Nat) (callback : Callback) (h : Juncture false p) :
      Juncture false (final (invoke (backend depth) callback) p)
  /-- The handler takes the event of a callback, once its time has been read. -/
  | handed {p : Process} (depth : Nat) (callback : Callback) (event : Event)
      (fires : callback.event? = some event)
      (takes : (final (backend depth .getTime) (p.note (.invoked callback))).locals.dropReason = none)
      (h : Juncture false p) :
      Juncture true ((final (backend depth .getTime) (p.note (.invoked callback))).handed
        (result (backend depth .getTime) (p.note (.invoked callback))).time event)

/-- Some thread has a handle that holds the initialization. -/
def Process.Alive (p : Process) : Prop :=
  ∃ t, (p.threads.get t).tables.handles ≠ []

/-! ### The books between steps -/

/-- No thread is in the middle of an operation that begins or ends anything. -/
def Settled (client : Bool) (p : Process) : Prop :=
  ∃ w, AllCalm p ∧ Standing p none ∧
    if client then AtWork p w else Sight p w ∧ w.Clear

namespace Settled

theorem of_rest {c : ThreadId} (h : Rest c none p) : Settled true p :=
  ⟨{}, h.calm, h.standing, h.work⟩

theorem keepsBooks {α : Type} {m : M α} (hm : OperationKeepsBooks m) (h : Settled true p) :
    Settled true (final m p) := by
  obtain ⟨w, calm, standing, work⟩ := h
  obtain ⟨calm', work'⟩ := hm.staysCalm p w calm work
  exact ⟨w, calm', hm.clientKeepsBooks none p w calm work (fun _ hx => by cases hx) standing, work'⟩

theorem readyToStep (h : Settled true p) : ReadyToStep p := by
  obtain ⟨w, calm, standing, work⟩ := h
  exact ⟨w, none, calm, work, (fun _ hx => by cases hx), standing⟩

/-- A thread whose handler is installed has all that is alive. -/
theorem of_readyToStep (h : ReadyToStep p) (installed : p.locals.handler.isSome = true) :
    Settled true p := by
  obtain ⟨w, o, calm, work, others, standing⟩ := h
  obtain ⟨rfl, -⟩ := standing.installed others installed
  exact ⟨w, calm, standing, work⟩

theorem ended (hm : LibraryKeepsBooks native) (panicked : Bool) (panic : Option String)
    (outside : p.locals.dispatching = false) (h : Settled true p) :
    Settled true (final (ended native panicked panic) p) := by
  obtain ⟨w, calm, standing, work⟩ := h
  obtain ⟨rfl, -⟩ := work.outside (by simp [outside])
  have rest : Rest p.current none p := ⟨calm, work, rfl, standing, (fun _ hx => by cases hx)⟩
  exact of_rest ((rest.finish hm panicked).1.keepsBooks (.boundary (e := .threadEnded panic) rfl rfl))

theorem turn (hm : LibraryKeepsBooks native) (turn : Turn) (h : Settled client p) :
    Settled client (final (runTurn native turn) p) := by
  obtain ⟨w, calm, standing, place⟩ := h
  obtain ⟨running, waits⟩ := Confined.runTurn hm.confined turn p
  refine ⟨w, allCalm_runTurn hm.callsBack hm.confined turn calm,
    runTurn_standing hm turn calm standing, ?_⟩
  cases client with
  | true => exact (waits _ place.sight.running).atWork running place
  | false => exact ⟨(waits _ place.1.running).view running place.1, place.2⟩

theorem entered {t : ThreadId} (idle : t ∉ p.running) (h : Settled client p) :
    Settled true (p.entering t) := by
  obtain ⟨-, calm, standing, -⟩ := h
  exact of_rest (standing.enter calm idle)

/-- A new thread has no handle. -/
theorem spawned (contexts : List (Option (Context × Nat))) (h : Settled true p) :
    Settled true ((p.withThread contexts).entering p.freshThread) := by
  obtain ⟨-, calm, standing, -⟩ := h
  have unborn : (p.threads.get p.freshThread).Bare := by
    rw [get_fresh p]
    exact ⟨rfl, rfl, rfl⟩
  have born : ((p.withThread contexts).threads.get p.freshThread).Bare := by
    rw [withThread_fresh]
    exact ⟨rfl, rfl, rfl⟩
  have begun : Standing (p.withThread contexts) none :=
    standing.forget unborn (fun _ hu => withThread_of_ne hu contexts) born
  exact of_rest (begun.enter (allCalm_withThread calm contexts) (fresh_notMem_running p))

theorem pump (slot : Nat) (kind : PumpKind) (handler : Handler)
    (library : (occupant p.tables.libraries slot).isSome = true)
    (outside : p.locals.dispatching = false) (h : Settled true p) :
    Settled false
      (final (takeReply kind.call) ((p.installed slot handler).note (.called kind.call))) := by
  obtain ⟨w, calm, standing, work⟩ := h
  obtain ⟨-, rfl, l, pumps⟩ :=
    work.pumps calm (fun _ hx => by cases hx) standing library (by simp [outside])
  obtain ⟨calm', view⟩ := ClientStaysCalm.installed_view pumps.calm pumps.work handler
  have hkind : kind.call.pumps = true := by cases kind <;> rfl
  have called := view.pumps hkind
  have noted : Standing ((p.installed slot handler).note (.called kind.call)) none :=
    (pumps.kept.install handler pumps.pumping pumps.library).same
      (sameBooks_note _ (Native.Call.neutral_of_pumps hkind))
  have taken := takeReply_alike kind.call ((p.installed slot handler).note (.called kind.call))
  exact ⟨_, taken.allCalm (allCalm_note calm' view.running _), noted.same taken.sameBooks,
    taken.view called, ⟨rfl, rfl⟩⟩

theorem hosting (h : Settled false p) : Hosting p := by
  obtain ⟨w, calm, standing, sight, clear⟩ := h
  exact ⟨w, none, calm, sight, clear, (fun _ hx => by cases hx), standing⟩

theorem callback (depth : Nat) (callback : Callback) (h : Settled false p) :
    Settled false (final (invoke (backend depth) callback) p) := by
  have callbackKeepsBooks := invoke_callbackKeepsBooks (backend_libraryKeepsBooks depth) callback
  obtain ⟨w, calm, standing, sight, clear⟩ := h
  obtain ⟨calm', w', sight', heard⟩ := callbackKeepsBooks.onlyCallbacks p w calm sight clear
  exact ⟨w', calm', callbackKeepsBooks.standing none p w calm sight clear
    (fun _ hx => by cases hx) standing,
    sight', heard.clear⟩

/-- The owner's handler is handed an event. -/
theorem handed (hm : LibraryKeepsBooks native) {callback : Callback} {event : Event}
    (fires : callback.event? = some event)
    (takes : (final (native .getTime) (p.note (.invoked callback))).locals.dropReason = none)
    (h : Settled false p) :
    Settled true ((final (native .getTime) (p.note (.invoked callback))).handed
      (result (native .getTime) (p.note (.invoked callback))).time event) := by
  have fired := h.hosting.fired callback
  rw [fires] at fired
  have readyToStep := fired.handed hm takes
  refine of_readyToStep readyToStep ?_
  obtain ⟨w, -, -, work, -, -⟩ := readyToStep
  have dispatching : w.stage = .handling := work.sight.fits.dispatching.1 (by
    rw [Process.locals, here_handed])
  exact work.sight.fits.handler.2 (by rw [dispatching]; decide)

end Settled

theorem Juncture.settled (h : Juncture client p) : Settled client p := by
  induction h with
  | start s => exact .of_rest s.start_rest
  | step depth step _ ih =>
    exact ih.keepsBooks ((OperationKeepsBooks.law (backend_libraryKeepsBooks depth)).runStep step)
  | ended depth panicked panic outside _ ih =>
    exact ih.ended (backend_libraryKeepsBooks depth) panicked panic outside
  | turn depth turn _ ih => exact ih.turn (backend_libraryKeepsBooks depth) turn
  | entered t idle _ ih => exact ih.entered idle
  | spawned contexts _ ih => exact ih.spawned contexts
  | pump slot kind handler library outside _ ih => exact ih.pump slot kind handler library outside
  | callback depth callback _ ih => exact ih.callback depth callback
  | handed depth callback event fires takes _ ih =>
    exact ih.handed (backend_libraryKeepsBooks depth) fires takes

/-! ### The lock -/

/-- The lock is held by the thread that has all handles. -/
theorem Standing.locked (h : Standing p none) :
    (p.locked = true ↔ p.Alive) ∧ (p.Alive ↔ survivors [] p.history.reverse ≠ []) := by
  have read : ∀ l, p.ledger = some l → survivors [] p.history.reverse = l.held := fun l hl => by
    rw [Process.ledger, Ledger.read_eq_run] at hl
    exact (run_survivors hl (.inr ⟨rfl, rfl⟩)).1.symm
  cases h with
  | free free =>
    have dead : ¬p.Alive := by
      rintro ⟨t, has⟩
      exact has (free.bare t).handles
    have none : survivors [] p.history.reverse = [] := read _ free.ledger
    rw [none, free.locked]
    exact ⟨⟨fun held => (by cases held), fun alive => (dead alive).elim⟩,
      fun alive => (dead alive).elim, fun some => (some rfl).elim⟩
  | @kept owner l kept =>
    have some : (p.threads.get owner).tables.handles ≠ [] := fun none => by
      have held := kept.account.held
      rw [none] at held
      exact kept.held held.eq_nil
    have alive : p.Alive := ⟨owner, some⟩
    rw [read _ kept.reads.ledger]
    exact ⟨⟨fun _ => alive, fun _ => kept.guarded.locked⟩, ⟨fun _ => kept.held, fun _ => alive⟩⟩

namespace Client

/-- The outcome of an initialization as that of the attempt that does not wait. -/
def Outcome.tried : Outcome → Outcome
  | .initFailed e => .tryInitFailed (.failed e)
  | outcome => outcome

/-- The attempt that does not wait comes to the same as the initialization. -/
theorem runTryInit_tried (native : Backend) (free : p.locked = false) :
    (runTryInit native).run p = ((result (runInit native) p).tried, final (runInit native) p) := by
  have ended : ∀ o : Except InitError Library, ∀ q : Process,
      (tryInitEnded (o.mapError .failed)).run q =
        ((result (initEnded o) q).tried, final (initEnded o) q) := by
    rintro (e | l) q <;> rfl
  rw [runTryInit_unlocked native free, result, final, runInit_unlocked native free]
  exact ended _ _

end Client

/-- A step is its operation between two entries. -/
theorem runStep_run (native : Backend) (script : Script) (op : Op) (p : Process) :
    (runStep native (.mk script op)).run p = (result (runOp native op) (p.stepping script),
      Process.note { final (runOp native op) (p.stepping script) with scripts := p.scripts }
        (.stepEnded (result (runOp native op) (p.stepping script)))) :=
  rfl

/-- Between the steps of the threads, the lock of the initialization is held exactly while some thread
has a handle that holds it, that is, one was obtained and not dropped. The attempt to initialize that
does not wait is refused exactly then, which changes nothing, not even the pending error, and makes no
native call; otherwise it is an initialization, except that its error is wrapped. Whether the lock is
poisoned, and whatever else panics left behind, both ways to initialize come to the same, and so does
every step of a client. -/
theorem init_lock (h : Juncture client p) :
    (p.locked = true ↔ p.Alive) ∧ (p.Alive ↔ survivors [] p.history.reverse ≠ []) ∧
    (∀ native,
      (result (Library.tryInit native) p = .error .wouldBlock ↔ p.Alive) ∧
      (p.Alive → (Library.tryInit native).run p = (.error .wouldBlock, p)) ∧
      (¬p.Alive → (Library.tryInit native).run p =
        ((result (Library.init native) p).mapError .failed, final (Library.init native) p)) ∧
      ∀ script,
        (p.Alive → (runStep native (.mk script .tryInit)).run p = (.tryInitFailed .wouldBlock,
          (p.note .stepStarted).note (.stepEnded (.tryInitFailed .wouldBlock)))) ∧
        (¬p.Alive → ∃ (q : Process) (outcome : Outcome),
          (runStep native (.mk script .init)).run p = (outcome, q.note (.stepEnded outcome)) ∧
          (runStep native (.mk script .tryInit)).run p =
            (outcome.tried, q.note (.stepEnded outcome.tried)))) ∧
    ∀ depth, IgnoresPanics (Library.init (backend depth)) ∧
      IgnoresPanics (Library.tryInit (backend depth)) ∧
      ∀ step, IgnoresPanics (runStep (backend depth) step) := by
  obtain ⟨-, -, standing, -⟩ := h.settled
  obtain ⟨locked, alive⟩ := standing.locked
  have free : ¬p.Alive → p.locked = false := fun dead => by
    simpa using mt locked.1 dead
  refine ⟨locked, alive, fun native => ⟨⟨fun refused => ?_, fun alive => ?_⟩, fun alive => ?_,
    fun dead => Library.tryInit_unlocked native (free dead),
    fun script => ⟨fun alive => ?_, fun dead => ?_⟩⟩, fun depth => ?_⟩
  · by_contra dead
    have begun : result (Library.tryInit native) p =
      (result (Library.init native) p).mapError .failed :=
      congrArg Prod.fst (Library.tryInit_unlocked native (free dead))
    rw [refused] at begun
    cases outcome : result (Library.init native) p <;> rw [outcome] at begun <;> cases begun
  · exact congrArg Prod.fst (Library.tryInit_locked native (locked.2 alive))
  · exact Library.tryInit_locked native (locked.2 alive)
  · have refused : (runOp native .tryInit).run (p.stepping script) =
        (.tryInitFailed .wouldBlock, p.stepping script) :=
      runTryInit_locked native (locked.2 alive)
    rw [runStep_run, result, final, refused]
    rfl
  · have tried : (runOp native .tryInit).run (p.stepping script) =
        ((result (runOp native .init) (p.stepping script)).tried,
          final (runOp native .init) (p.stepping script)) :=
      runTryInit_tried native (free dead)
    refine ⟨_, _, runStep_run native script .init p, ?_⟩
    rw [runStep_run native script .tryInit, result, final, tried]
  · have calls := backend_ignoresPanics depth
    exact ⟨.composed (fun _ _ => .small calls) Library.init_small,
      .composed (fun _ _ => .small calls) Library.tryInit_small, (IgnoresPanics.law calls).runStep⟩

/-- A program that fails to initialize the library, initializes it and panics. -/
def abandonment : Session where
  script := ⟨[("glfwTerminate", [{ callbacks := [.error 0x70008 none] }])]⟩
  steps := [.mk ⟨[("glfwInit", [{}])]⟩ .init, .mk {} .init, .mk {} (.panic "")]

/-- The panic has dropped the library, which has poisoned the lock, and its termination has reported
an error. -/
def abandoned : Process :=
  final (ended (backend 2) true (some "")) (final (runStep (backend 2) (.mk {} (.panic "")))
    (final (runStep (backend 2) (.mk {} .init))
      (final (runStep (backend 2) (.mk ⟨[("glfwInit", [{}])]⟩ .init)) abandonment.start)))

theorem init_lock_abandoned : Juncture true abandoned ∧ ¬abandoned.Alive ∧
    abandoned.panics.poisoned = true ∧
    ⟨0, .logged (.terminateFailed (.reported 0x70008 ""))⟩ ∈ abandoned.history ∧
    result (Library.tryInit (backend 1)) abandoned = .ok {} ∧
    result (Library.tryInit (backend 1)) { abandoned with panics := {} } = .ok {} := by
  have reached : Juncture true abandoned :=
    .ended 2 true (some "") (by decide +kernel)
      (.step 2 _ (.step 2 _ (.step 2 _ (.start abandonment))))
  obtain ⟨locked, -, tries, ignores⟩ := init_lock reached
  have free : ¬abandoned.Alive := fun alive => by
    have held : abandoned.locked = true := locked.2 alive
    revert held
    decide +kernel
  have begun : result (Library.tryInit (backend 1)) abandoned =
      (result (Library.init (backend 1)) abandoned).mapError .failed :=
    congrArg Prod.fst ((tries (backend 1)).2.2.1 free)
  have tried : result (Library.tryInit (backend 1)) abandoned = .ok {} :=
    begun.trans (by decide +kernel)
  have unpoisoned := ((ignores 1).2.1 abandoned { abandoned with panics := {} } ⟨{}, rfl⟩).1
  exact ⟨reached, free, by decide +kernel, by decide +kernel, tried, unpoisoned.trans tried⟩

end Windowing
