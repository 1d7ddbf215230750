import Windowing.Client.Run
import Windowing.Dispatch

/-!
Whole runs. A native call takes its reply from the innermost script; while it runs, other threads
take the turns that the schedule has for it, and the library invokes the callbacks of the reply, as
far as they are registered. A callback may run a client's handler, whose steps call the library
again, so calls nest. Every level of nesting uses up a reply or a batch of turns, and the number of
those bounds the depth.

Threads that take turns have handles of their own but no contexts of others: nobody waits for them, so
none can borrow a window from another. They meet other threads at the initialization lock and in the
native library. How the contexts of a window may be lent, used and dropped by several threads at once
is a matter of atomic operations on its flag, of which a session is one sequence among many.
-/

namespace Windowing

open Native Client

/-- The next reply for a call. -/
def takeReply (call : Call) : M Reply := modifyGet fun p =>
  match p.scripts with
  | [] => (.plain call.name, p)
  | script :: outer =>
    let (reply, rest) := script.next call.name
    (reply, { p with scripts := rest :: outer })

/-- The turns that other threads take during the next call. -/
def takeTurns : M (List Turn) := modifyGet fun p =>
  match p.schedule with
  | [] => ([], p)
  | batch :: later => (batch, { p with schedule := later })

/-- What a call changes in the native library itself, once its callbacks are done. -/
def settle : Call → M Unit
  | .setErrorCallback => modify fun p => { p with errorCallback := true }
  | .setMonitorCallback => modify fun p => { p with monitorCallback := true }
  | .setWindowCallback window channel =>
    modify fun p => { p with windowCallbacks := (window, channel) :: p.windowCallbacks }
  | .destroyWindow window =>
    modify fun p => { p with windowCallbacks := p.windowCallbacks.filter (·.1 ≠ window) }
  | .terminate => modify fun p => { p with monitorCallback := false, windowCallbacks := [] }
  | _ => pure ()

/-- Whether the callback is registered and so can be invoked. -/
def Process.listens (p : Process) : Callback → Bool
  | .error _ _ => p.errorCallback
  | .monitor _ _ => p.monitorCallback
  | .window window signal => p.windowCallbacks.contains (window, signal.channel)

/-- Runs the installed handler's next reaction, whose panic is caught. -/
def react (native : Backend) (time : Float) (event : Event) : M (Option String) := do
  let steps := ((← getLocals).handler.getD []).headD []
  modifyLocals fun s => { s with handler := s.handler.map List.tail }
  note (.handling time event)
  let panic ← catchUnwind (runSteps native steps)
  note (.handled panic)
  return panic

def invoke (native : Backend) (callback : Callback) : M Unit := do
  if (← get).listens callback then
    note (.invoked callback)
    match callback with
    | .error code description => onError code description
    | .monitor monitor event => onMonitor native (react native) monitor event
    | .window window signal => onWindow native (react native) window signal

/-- A call, of which `meanwhile` says what happens before it returns. -/
def callWith (meanwhile : Reply → M Unit) (call : Call) : M Reply := do
  note (.called call)
  let reply ← takeReply call
  meanwhile reply
  settle call
  note (.returned call reply)
  return reply

/-- The native library, whose calls nest at most `depth` deep. -/
def backend : (depth : Nat) → Backend
  | 0 => callWith fun _ => pure ()
  | depth + 1 => callWith fun reply => do
    (← takeTurns).forM fun turn => runTurn (backend depth) turn
    reply.callbacks.forM fun callback => invoke (backend depth) callback

/-- A program of one main thread; other threads take turns as scheduled. -/
structure Session where
  script : Script := {}
  steps : List Step := []
  schedule : List (List Turn) := []

namespace Session

/-- A depth that no run of the session exceeds. -/
def depth (s : Session) : Nat :=
  s.script.size + stepsSize s.steps + scheduleSize s.schedule

/-- The main thread runs, and the threads that are scheduled are there. -/
def start (s : Session) : Process where
  running := [0]
  threads := ⟨(0, {}) :: s.schedule.flatten.map fun turn => (turn.thread, {})⟩
  scripts := [s.script]
  schedule := s.schedule

/-- Runs the steps, then drops what the main thread owns. -/
def body (s : Session) : M Unit := do
  let native := backend s.depth
  let panic ← runSteps native s.steps
  let _ ← finish native true
  note (.threadEnded panic)

/-- What happened in the run, in order. -/
def history (s : Session) : List Entry :=
  (s.body.run s.start).2.history.reverse

end Session

end Windowing
