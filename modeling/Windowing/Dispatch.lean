import Windowing.Flag
import Windowing.PendingError

/-!
Callbacks of the native library. Window and monitor callbacks are decoded into events, which go to
the handler that is installed on the thread, if there is one, it is not running, and it has not
panicked. Everything else is logged and dropped.
-/

namespace Windowing

open Native

/-- Runs the installed handler on an event; a panic is caught and returned. -/
abbrev Reaction := Float → Event → M (Option String)

namespace WindowEvent

/-- The event of a callback, or the warning that there is none. A key without a code of its own is
unknown, which blocks nothing. -/
def decode : Signal → Except Log WindowEvent
  | .pos x y => .ok (.pos x y)
  | .size width height => .ok (.size width height)
  | .close => .ok .close
  | .refresh => .ok .refresh
  | .focus focused => .ok (.focus (Flag.isSet focused))
  | .iconify iconified => .ok (.iconify (Flag.isSet iconified))
  | .mouseButton button action =>
    match Coded.ofCode? MouseButton button, Coded.ofCode? Action action with
    | some button, some action => .ok (.mouseButton button action)
    | _, _ => .error (.unknownButton button action)
  | .cursorPos x y => .ok (.cursorPos x y)
  | .cursorEnter entered => .ok (.cursorEnter (Flag.isSet entered))
  | .scroll x y => .ok (.scroll x y)
  | .key code action =>
    let pressed := (Coded.ofCode? Key code).getD .unknown
    match Coded.ofCode? Action action with
    | some action => .ok (.key pressed action)
    | none => .error (.unknownKeyAction pressed action)
  | .char codepoint =>
    if h : codepoint.isValidChar then .ok (.char ⟨codepoint, h⟩)
    else .error (.invalidCodepoint codepoint)

end WindowEvent

namespace MonitorEvent

def connectedCode : Int32 := 0x61000
def disconnectedCode : Int32 := 0x61001

def decode (monitor : Pointer) (event : Int32) : Except Log MonitorEvent :=
  if event = connectedCode then .ok (.connected ⟨monitor⟩)
  else if event = disconnectedCode then .ok (.disconnected ⟨monitor⟩)
  else .error (.unknownMonitorEvent event)

end MonitorEvent

/-- Why no handler takes an event now. -/
def Locals.dropReason (s : Locals) : Option DropReason :=
  if s.handler.isNone then some .noHandler
  else if s.panic.isSome then some .handlerPanicked
  else if s.dispatching then some .insideHandler
  else none

def dispatch (react : Reaction) (time : Float) (event : Event) : M Unit := do
  match (← getLocals).dropReason with
  | some reason => log (.eventDropped reason event)
  | none =>
    modifyLocals fun s => { s with dispatching := true }
    let panic ← react time event
    modifyLocals fun s => { s with dispatching := false, panic := panic.or s.panic }

/-- The time of an event is read when it is decoded, before it is known who takes it. -/
def deliver (native : Backend) (react : Reaction) : Except Log Event → M Unit
  | .error warning => log warning
  | .ok event => do
    let reply ← native .getTime
    dispatch react reply.time event

def onWindow (native : Backend) (react : Reaction) (window : Pointer) (signal : Signal) : M Unit :=
  deliver native react ((WindowEvent.decode signal).map (.window ⟨window⟩))

def onMonitor (native : Backend) (react : Reaction) (monitor : Pointer) (event : Int32) : M Unit :=
  deliver native react ((MonitorEvent.decode monitor event).map .monitor)

end Windowing
