import Windowing.Client.Run
import Windowing.Proofs.ProcessComputation

/-!
Taking the lock. A poisoned lock is handed over in an error, out of which its guard is taken, so both
ways to initialize go on from a poisoned lock as from any other: with the lock taken if it was free.
-/

namespace Windowing

open Client

variable {native : Backend} {p : Process}

theorem SameThreads.withLock (p : Process) : SameThreads p p.withLock := ⟨rfl, rfl, rfl⟩

/-- A poisoned lock is taken like any other. -/
theorem lockInit_run (p : Process) : lockInit.run p = ({}, p.withLock) := by
  have locked : InitLock.lock.run p =
      (if p.panics.poisoned then .error ⟨{}⟩ else .ok {}, p.withLock) := rfl
  rw [lockInit, StateT.run_bind, locked]
  cases p.panics.poisoned <;> rfl

theorem lockInit_eq : lockInit = do
    modify Process.withLock
    return {} :=
  funext lockInit_run

/-- The lock is taken, poisoned or not, unless it is held. -/
theorem tryLockInit_run (p : Process) :
    tryLockInit.run p = if p.locked then (.error .wouldBlock, p) else (.ok {}, p.withLock) := by
  have tried : InitLock.tryLock.run p = if p.locked then (.error .wouldBlock, p) else
      ((if p.panics.poisoned then .error ⟨{}⟩ else .ok {} : Except PoisonError _).mapError .poisoned,
        p.withLock) := by
    change (if p.locked = true then _ else _ : M _).run p = _
    cases p.locked <;> rfl
  rw [tryLockInit, StateT.run_bind, tried]
  cases p.locked <;> cases p.panics.poisoned <;> rfl

theorem tryLockInit_eq : tryLockInit = do
    if (← get).locked then
      return .error .wouldBlock
    return .ok (← lockInit) := by
  refine funext fun p => (tryLockInit_run p).trans ?_
  rw [lockInit_eq]
  change _ = (if p.locked = true then _ else _ : M _).run p
  cases p.locked <;> rfl

/-! ### Initializations -/

namespace Library

theorem init_run (native : Backend) (p : Process) :
    (init native).run p = (start native).run p.withLock := by
  rw [init, lockInit_eq]
  rfl

theorem result_init (native : Backend) (p : Process) :
    result (init native) p = result (start native) p.withLock :=
  congrArg Prod.fst (init_run native p)

theorem final_init (native : Backend) (p : Process) :
    final (init native) p = final (start native) p.withLock :=
  congrArg Prod.snd (init_run native p)

/-- An attempt to initialize that finds the lock free is an initialization. -/
theorem tryInit_eq (native : Backend) : tryInit native = do
    if (← get).locked then
      return .error .wouldBlock
    return (← init native).mapError .failed := by
  rw [tryInit, tryLockInit_eq, bind_assoc]
  refine bind_congr fun p => ?_
  cases p.locked with
  | true => rfl
  | false => simp [init]

theorem tryInit_locked (native : Backend) (locked : p.locked = true) :
    (tryInit native).run p = (.error .wouldBlock, p) := by
  rw [tryInit_eq]
  change (if p.locked = true then _ else _ : M _).run p = _
  rw [locked]
  rfl

theorem tryInit_unlocked (native : Backend) (free : p.locked = false) :
    (tryInit native).run p = ((result (init native) p).mapError .failed, final (init native) p) := by
  rw [tryInit_eq]
  change (if p.locked = true then _ else _ : M _).run p = _
  rw [free]
  rfl

end Library

namespace Client

/-- What comes of an initialization. -/
def initEnded : Except InitError Library → M Outcome
  | .ok l => do return .answered (.slot (← addLibrary l))
  | .error e => return .initFailed e

/-- What comes of an attempt to initialize that does not wait. -/
def tryInitEnded : Except TryInitError Library → M Outcome
  | .ok l => do return .answered (.slot (← addLibrary l))
  | .error e => return .tryInitFailed e

theorem runInit_locked (native : Backend) (locked : p.locked = true) :
    (runInit native).run p = (.refused .wouldDeadlock, p) := by
  change (if p.locked = true then _ else _ : M _).run p = _
  rw [locked]
  rfl

theorem runInit_unlocked (native : Backend) (free : p.locked = false) :
    (runInit native).run p = (Library.init native >>= initEnded).run p := by
  change (if p.locked = true then _ else _ : M _).run p = _
  rw [free]
  rfl

theorem runTryInit_eq (native : Backend) : runTryInit native = Library.tryInit native >>=
    tryInitEnded :=
  rfl

theorem runTryInit_locked (native : Backend) (locked : p.locked = true) :
    (runTryInit native).run p = (.tryInitFailed .wouldBlock, p) := by
  rw [runTryInit_eq, StateT.run_bind, Library.tryInit_locked native locked]
  rfl

theorem runTryInit_unlocked (native : Backend) (free : p.locked = false) :
    (runTryInit native).run p =
      (Library.init native >>= fun o => tryInitEnded (o.mapError .failed)).run p := by
  rw [runTryInit_eq, StateT.run_bind, Library.tryInit_unlocked native free]
  rfl

end Client

end Windowing
