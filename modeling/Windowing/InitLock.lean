import Windowing.Failure
import Windowing.Process

/-!
The lock of the initialization. It guards no data, so a panic that drops its guard leaves nothing
inconsistent behind, and a poisoned lock is taken like any other.
-/

namespace Windowing

/-- What holds the lock. There is one at most, and what it remembers is kept with the lock. -/
structure InitGuard where
  deriving DecidableEq, Repr

/-- The lock is poisoned; it has been taken all the same. -/
structure PoisonError where
  guard : InitGuard
  deriving DecidableEq, Repr

inductive TryLockError where
  | poisoned (error : PoisonError)
  | wouldBlock
  deriving DecidableEq, Repr

def PoisonError.intoInner (e : PoisonError) : InitGuard := e.guard

/-- The current thread holds the lock. -/
def Process.withLock (p : Process) : Process :=
  { p with locked := true, panics := p.panics.guarded p.current }

namespace InitLock

/-- Takes the lock, which must be free. -/
def lock : M (Except PoisonError InitGuard) := do
  modify Process.withLock
  return if (← get).panics.poisoned then .error ⟨{}⟩ else .ok {}

/-- Takes the lock unless it is taken. -/
def tryLock : M (Except TryLockError InitGuard) := do
  if (← get).locked then
    return .error .wouldBlock
  return (← lock).mapError .poisoned

end InitLock

/-- Drops the guard of the lock, which is free then. -/
def unlock : M Unit :=
  modify fun p => { p with locked := false, panics := p.panics.released p.current }

/-- Takes the lock, poisoned or not. -/
def lockInit : M InitGuard := do
  match ← InitLock.lock with
  | .ok guard => return guard
  | .error poisoned => return poisoned.intoInner

/-- Takes the lock, poisoned or not, unless it is taken. -/
def tryLockInit : M (Except TryInitError InitGuard) := do
  match ← InitLock.tryLock with
  | .ok guard => return .ok guard
  | .error (.poisoned e) => return .ok e.intoInner
  | .error .wouldBlock => return .error .wouldBlock

end Windowing
