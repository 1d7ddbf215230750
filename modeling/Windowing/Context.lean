import Windowing.Flag
import Windowing.PendingError

/-!
Contexts. A window lends its context to at most one handle at a time, which may be used on any
thread. The window has its context back when the handle goes. The context that is current is a
matter of the calling thread.
-/

namespace Windowing.Context

open Native

def isLent (key : Nat) : M Bool :=
  return (← get).lent.contains key

/-- Takes the context of a window, unless another handle has it. -/
def lend (w : Window) : Attempt Context := do
  if ← isLent w.key then throw .contextLent
  modify fun p => { p with lent := w.key :: p.lent }
  let context : Context := ⟨w.pointer, w.key⟩
  note (.obtained (.context context))
  return context

def drop (c : Context) : M Unit := do
  note (.dropped (.context c))
  modify fun p => { p with lent := p.lent.erase c.key }

variable (native : Backend)

def makeCurrent (c : Context) : Attempt Unit :=
  perform native (.makeContextCurrent c.pointer)

def swapBuffers (c : Context) : Attempt Unit :=
  perform native (.swapBuffers c.pointer)

/-- Leaves the calling thread without a current context. -/
def detachCurrent : Attempt Unit :=
  perform native (.makeContextCurrent null)

/-- The window whose context is current on the calling thread. -/
def current : Attempt (Option WindowId) := do
  let reply ← checked (native .getCurrentContext)
  return if reply.pointer = null then none else some ⟨reply.pointer⟩

/-- How many screen updates to wait for before the buffers of the current context are swapped. -/
def setSwapInterval (interval : Int32) : Attempt Unit :=
  perform native (.swapInterval interval)

def supportsExtension (name : String) : Attempt Bool := do
  let name ← liftExcept (terminated name)
  let reply ← checked (native (.extensionSupported name))
  return Flag.isSet reply.value

/-- The address of a function of the current context's interface. -/
def procAddress (name : String) : Attempt (Option Pointer) := do
  let name ← liftExcept (terminated name)
  let reply ← checked (native (.getProcAddress name))
  return if reply.pointer = null then none else some reply.pointer

end Windowing.Context
