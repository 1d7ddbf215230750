import Windowing.Flag
import Windowing.InitLock
import Windowing.PendingError

/-!
The life of an initialization. It begins under a lock that all threads share and is held by every
handle of the library, of a window and of a monitor. When the last of them goes, the native library
is terminated, and only then is the lock free again.
-/

namespace Windowing

open Native

def hold : M Unit :=
  modify fun p => { p with holders := p.holders + 1 }

/-- Ends the initialization. A failure has no one to be reported to and is logged. -/
def terminate (native : Backend) : M Unit := do
  if let .error e ← (checked (native .terminate)).run then
    log (.terminateFailed e)
  unlock

/-- Gives up one hold; with the last one the initialization ends. -/
def release (native : Backend) : M Unit := do
  modify fun p => { p with holders := p.holders - 1 }
  if (← get).holders = 0 then
    terminate native

namespace Library

def versionString (native : Backend) : M String := do
  let reply ← native .getVersionString
  return (reply.text.map Text.read).getD ""

def drop (native : Backend) (library : Library) : M Unit := do
  note (.dropped (.library library))
  release native

/-- Initializes under the lock, which the caller has taken and which is free again on failure. The
error callback comes first, so that errors inside the initialization are reported. The version is asked
for only to be logged, which a client can turn off; here every level is logged. -/
def start (native : Backend) : M (Except InitError Library) := do
  let _ ← native .setErrorCallback
  let _ ← takeError
  let reply ← native .init
  if Flag.isSet reply.value then
    let library : Library := {}
    modify fun p => { p with holders := 1 }
    note (.obtained (.library library))
    let _ ← native .setMonitorCallback
    match ← takeError with
    | some e =>
      library.drop native
      return .error ⟨e⟩
    | none =>
      log (.initialized (← versionString native))
      return .ok library
  else
    let e ← takeError
    unlock
    return .error ⟨e.getD (.unreported Call.init.name)⟩

/-- Takes the lock, which must be free, and initializes. -/
def init (native : Backend) : M (Except InitError Library) := do
  let _ ← lockInit
  start native

/-- Initializes unless the lock is taken. -/
def tryInit (native : Backend) : M (Except TryInitError Library) := do
  match ← tryLockInit with
  | .error e => return .error e
  | .ok _ => return (← start native).mapError .failed

end Library

/-- The error that is pending on this thread, which is no longer pending afterwards. -/
def lastError : Attempt Unit := ExceptT.mk do
  match ← takeError with
  | some e => return .error e
  | none => return .ok ()

/-- Major, minor and revision number of the native library. -/
def version (native : Backend) : M (List Int32) := do
  let reply ← native .getVersion
  return [reply.int 0, reply.int 1, reply.int 2]

def setTime (native : Backend) (time : Float) : Attempt Unit :=
  perform native (.setTime time)

/-- Seconds since the initialization, or since the timer was set. -/
def time (native : Backend) : M Float :=
  return (← native .getTime).time

end Windowing
