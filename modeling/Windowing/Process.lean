import Windowing.Client.Outcome
import Windowing.Client.Program
import Windowing.Log
import Windowing.Panics
import Windowing.Registry

/-!
A process: the state in which everything happens, and the operations of the smallest grain on it.

Each thread has state of its own (the pending error, the installed handler, whether that
handler is running, the panic that it left, the windows whose destruction waits for the end of the
pump) and its client's tables of handles. All threads share the initialization lock with the number
of handles that hold the initialization and with what panics left, the lent contexts, and the native
library, which knows its registered callbacks and follows scripts. What happens is added to a
history and never taken back.
-/

namespace Windowing

open Native Client

structure Locals where
  pending : Option Error := none
  handler : Option Handler := none
  dispatching : Bool := false
  panic : Option String := none
  deferred : List Pointer := []
  deriving Inhabited

/-- A slot that was emptied stays empty. -/
structure Tables where
  libraries : List (Option Library) := []
  windows : List (Option Window) := []
  monitors : List (Option Monitor) := []
  /-- Each context with the slot of the window that it was lent from. -/
  contexts : List (Option (Context × Nat)) := []
  /-- The slot of the library whose pump is running. -/
  pumping : Option Nat := none
  deriving Inhabited

structure Thread where
  locals : Locals := {}
  tables : Tables := {}
  /-- Whether another thread waits for this one to end. -/
  spawned : Bool := false
  deriving Inhabited

inductive Happening where
  | called (call : Call)
  | returned (call : Call) (reply : Reply)
  | invoked (callback : Callback)
  | logged (log : Log)
  | handling (time : Float) (event : Event)
  | handled (panic : Option String)
  | obtained (handle : Handle)
  | dropped (handle : Handle)
  | stepStarted
  | stepEnded (outcome : Outcome)
  | threadEnded (panic : Option String)
  deriving DecidableEq, Repr

structure Entry where
  thread : ThreadId
  what : Happening
  deriving DecidableEq, Repr

structure Process where
  /-- The threads that are in the middle of something, the current one first. -/
  running : List ThreadId := []
  threads : Registry Thread := {}
  locked : Bool := false
  panics : Panics := {}
  /-- How many handles hold the initialization. -/
  holders : Nat := 0
  /-- The keys of the windows whose context is lent. -/
  lent : List Nat := []
  nextKey : Nat := 0
  errorCallback : Bool := false
  monitorCallback : Bool := false
  windowCallbacks : List (Pointer × Channel) := []
  /-- The scripts of the steps that are running, the innermost first. -/
  scripts : List Script := []
  /-- The turns that other threads take during the next native calls. -/
  schedule : List (List Turn) := []
  /-- The newest entry comes first. -/
  history : List Entry := []
  deriving Inhabited

namespace Process

def current (p : Process) : ThreadId := p.running.headD 0

def here (p : Process) : Thread := p.threads.get p.current

def setHere (p : Process) (t : Thread) : Process :=
  { p with threads := p.threads.set p.current t }

def locals (p : Process) : Locals := p.here.locals

def tables (p : Process) : Tables := p.here.tables

def note (p : Process) (h : Happening) : Process :=
  { p with history := ⟨p.current, h⟩ :: p.history }

@[simp] theorem current_setHere (p : Process) (t : Thread) : (p.setHere t).current = p.current :=
  rfl

@[simp] theorem here_setHere (p : Process) (t : Thread) : (p.setHere t).here = t := by
  simp [here, setHere, current]

@[simp] theorem setHere_setHere (p : Process) (t u : Thread) :
    (p.setHere t).setHere u = p.setHere u := by
  simp [setHere, current]

@[simp] theorem here_note (p : Process) (h : Happening) : (p.note h).here = p.here :=
  rfl

/-- A number that no thread has or had. -/
def freshThread (p : Process) : ThreadId :=
  (p.threads.entries.map (·.1) ++ p.running ++ p.history.map (·.thread)).foldl max 0 + 1

end Process

abbrev M := StateM Process

def getLocals : M Locals := return (← get).locals

def modifyLocals (f : Locals → Locals) : M Unit :=
  modify fun p => p.setHere { p.here with locals := f p.locals }

def getTables : M Tables := return (← get).tables

def modifyTables (f : Tables → Tables) : M Unit :=
  modify fun p => p.setHere { p.here with tables := f p.tables }

def note (h : Happening) : M Unit :=
  modify fun p => p.note h

def log (l : Log) : M Unit :=
  note (.logged l)

/-- From here on a panic unwinds the current thread. -/
def beginPanic : M Unit :=
  modify fun p => { p with panics := p.panics.begin p.current }

/-- A panic of the current thread, if there is one, goes no further. -/
def catchPanic : M Unit :=
  modify fun p => { p with panics := p.panics.caught p.current }

/-- Runs a body up to its end or its panic, which goes no further. -/
def catchUnwind {α : Type} (body : M α) : M α := do
  let a ← body
  catchPanic
  return a

/-- Runs a part on another thread. -/
def onThread {α : Type} (t : ThreadId) (body : M α) : M α := do
  let outer := (← get).running
  modify fun p => { p with running := t :: outer }
  let a ← body
  modify fun p => { p with running := outer }
  return a

/-- Runs a part during which the native library follows a script of its own. -/
def withScript {α : Type} (script : Script) (body : M α) : M α := do
  let outer := (← get).scripts
  modify fun p => { p with scripts := script :: outer }
  let a ← body
  modify fun p => { p with scripts := outer }
  return a

end Windowing
