import Windowing.Lifetime

/-!
Creation and destruction of windows. A window is destroyed when its handle goes; if that happens
while the thread's handler runs, where the native library forbids it, the pump that runs the handler
destroys it at its end.
-/

namespace Windowing

open Native

/-- Sizes are positive. -/
def checkSize (width height : Int32) : Except Error Unit :=
  if 0 < width ∧ 0 < height then .ok () else .error (.invalidSize width height)

namespace Window

/-- Applies the hints from left to right up to the first one that fails. -/
def applyHints (native : Backend) (index : Nat) : List WindowHint → ExceptT CreateError M Unit
  | [] => pure ()
  | hint :: rest => do
    let (target, value) := hint.raw
    let _ ← ExceptT.adapt (.hint index hint) (checked (native (.windowHint target value)))
    applyHints native (index + 1) rest

/-- Creates the native window, which is never null. -/
def createNative (native : Backend) (width height : Int32) (title : Text.Bytes)
    (monitor : Option Monitor) (share : Option Window) : Attempt Pointer := do
  let call := .createWindow width height title ((monitor.map (·.pointer)).getD null)
    ((share.map (·.pointer)).getD null)
  let reply ← checked (native call)
  if reply.pointer = null then throw (.unreported call.name)
  return reply.pointer

/-- Registers the callbacks of a native window. The calls are not checked: an error of theirs stays
pending. -/
def listen (native : Backend) (pointer : Pointer) : M Unit :=
  Channel.all.forM fun channel => do
    let _ ← native (.setWindowCallback pointer channel)

/-- Makes the handle of a native window, which from now on holds the initialization. -/
def adopt (pointer : Pointer) : M Window := do
  let window : Window := ⟨pointer, (← get).nextKey⟩
  modify fun p => { p with nextKey := p.nextKey + 1 }
  hold
  note (.obtained (.window window))
  return window

/-- Creates a window from hints alone: all attributes without a hint have their defaults, whatever
was hinted before. -/
def create (native : Backend) (hints : List WindowHint) (width height : Int32) (title : String)
    (monitor : Option Monitor) (share : Option Window) : ExceptT CreateError M Window := do
  ExceptT.adapt .creation (liftExcept (checkSize width height))
  let title ← ExceptT.adapt .creation (liftExcept (terminated title))
  let _ ← ExceptT.adapt .creation (checked (native .defaultWindowHints))
  applyHints native 0 hints
  let pointer ← ExceptT.adapt .creation (createNative native width height title monitor share)
  listen native pointer
  adopt pointer

/-- Destroys a native window. A failure has no one to be reported to and is logged. -/
def destroy (native : Backend) (pointer : Pointer) : M Unit := do
  if let .error e ← (checked (native (.destroyWindow pointer))).run then
    log (.destroyFailed e)

def drop (native : Backend) (window : Window) : M Unit := do
  note (.dropped (.window window))
  if (← getLocals).dispatching then
    modifyLocals fun s => { s with deferred := s.deferred ++ [window.pointer] }
    log (.destructionDeferred window.id)
  else
    destroy native window.pointer
  release native

end Window

end Windowing
