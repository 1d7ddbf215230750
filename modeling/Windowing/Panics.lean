import Windowing.Client.Program

/-!
What panics leave behind. A panic unwinds its thread until it is caught or the thread ends. If the
thread drops the guard of the initialization lock on the way, the lock is poisoned, and stays so.
-/

namespace Windowing

open Client

structure Panics where
  /-- The threads that a panic unwinds. -/
  unwinding : List ThreadId := []
  /-- Whether the thread that took the lock was unwinding. Its guard then poisons nothing. -/
  guardPanicking : Bool := false
  poisoned : Bool := false
  deriving Inhabited, DecidableEq, Repr

namespace Panics

variable (x : Panics) (t : ThreadId)

def begin : Panics := { x with unwinding := t :: x.unwinding }

def caught : Panics := { x with unwinding := x.unwinding.filter (· ≠ t) }

/-- A thread takes the lock. -/
def guarded : Panics := { x with guardPanicking := x.unwinding.contains t }

/-- A thread drops the guard of the lock. -/
def released : Panics :=
  { x with poisoned := x.poisoned || (!x.guardPanicking && x.unwinding.contains t) }

end Panics

end Windowing
