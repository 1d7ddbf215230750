import Windowing.Lifetime

/-!
Monitors. A handle keeps the library initialized while the monitor itself may go at any time.
-/

namespace Windowing.Monitor

open Native

/-- Makes the handle of a native monitor, which from now on holds the initialization. -/
def adopt (pointer : Pointer) : M Monitor := do
  let monitor : Monitor := ⟨pointer⟩
  hold
  note (.obtained (.monitor monitor))
  return monitor

/-- The handle of a native monitor, if there is one. -/
def ofPointer? (pointer : Pointer) : M (Option Monitor) :=
  if pointer = null then return none else return some (← adopt pointer)

variable (native : Backend)

def drop (m : Monitor) : M Unit := do
  note (.dropped (.monitor m))
  release native

/-- The connected monitors, the primary one first. -/
def all : Attempt (List Monitor) := do
  let reply ← checked (native .getMonitors)
  (Reply.entries reply.pointers reply.count).mapM fun pointer => adopt pointer

def primary : Attempt (Option Monitor) := do
  let reply ← checked (native .getPrimaryMonitor)
  ofPointer? reply.pointer

def name (m : Monitor) : Attempt String := do
  let call := .getMonitorName m.pointer
  let reply ← checked (native call)
  return Text.read (← liftExcept (expectSome call.name reply.text))

/-- The place of the upper left corner. -/
def pos (m : Monitor) : Attempt (Int32 × Int32) := do
  let reply ← checked (native (.getMonitorPos m.pointer))
  return (reply.int 0, reply.int 1)

/-- Width and height of the display in millimetres. -/
def physicalSize (m : Monitor) : Attempt (Int32 × Int32) := do
  let reply ← checked (native (.getMonitorPhysicalSize m.pointer))
  return (reply.int 0, reply.int 1)

def videoModes (m : Monitor) : Attempt (List VideoMode) := do
  let call := .getVideoModes m.pointer
  let reply ← checked (native call)
  let modes ← liftExcept (expectSome call.name reply.modes)
  return Reply.entries (some modes) reply.count

/-- The current mode; a mode of zeros means that there is none. -/
def videoMode (m : Monitor) : Attempt VideoMode := do
  let call := .getVideoMode m.pointer
  let reply ← checked (native call)
  if reply.mode = .zero then throw (.unreported call.name)
  return reply.mode

def setGamma (m : Monitor) (gamma : Float32) : Attempt Unit := do
  liftExcept (GammaRamp.checkGamma gamma)
  perform native (.setGamma m.pointer gamma)

def gammaRamp (m : Monitor) : Attempt GammaRamp := do
  let reply ← checked (native (.getGammaRamp m.pointer))
  return reply.outRamp

def setGammaRamp (m : Monitor) (ramp : GammaRamp) : Attempt Unit :=
  perform native (.setGammaRamp m.pointer ramp)

end Windowing.Monitor
