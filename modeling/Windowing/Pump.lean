import Windowing.Window.Lifetime

/-!
Event pumps. A pump installs a handler for as long as the native library processes events, destroys
the windows that the handler dropped, and then either goes on with the handler's panic or returns
what the native call reported. A handler may not pump in turn.
-/

namespace Windowing

open Native Client

/-- A panic that goes through the caller. -/
abbrev Unwinding := ExceptT String M

def takeDeferred : M (List Pointer) := do
  let deferred := (← getLocals).deferred
  modifyLocals fun s => { s with deferred := [] }
  return deferred

def takePanic : M (Option String) := do
  let panic := (← getLocals).panic
  modifyLocals fun s => { s with panic := none }
  return panic

/-- Lets the native library process events for a handler, and then destroys the windows that the
handler dropped. -/
def processEvents (native : Backend) (call : Call) (handler : Handler) :
    M (Except Error Reply) := do
  modifyLocals fun s => { s with handler := some handler }
  let result ← (checked (native call)).run
  modifyLocals fun s => { s with handler := none }
  let doomed ← takeDeferred
  doomed.forM fun pointer => Window.destroy native pointer
  return result

/-- A panic that the handler left goes on here, where no native call is in its way. -/
def pump (native : Backend) (kind : PumpKind) (handler : Handler) :
    Unwinding (Except Error Unit) := do
  if (← getLocals).dispatching then
    return .error (.insideHandler kind.call.name)
  let result ← processEvents native kind.call handler
  if let some message ← takePanic then throw message
  return result.map fun _ => ()

end Windowing
