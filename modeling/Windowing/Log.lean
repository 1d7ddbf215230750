import Windowing.Error
import Windowing.Event

/-!
What the wrapper logs. Only failures without a caller to report to and dropped callbacks are logged;
everything else is an operation's result.
-/

namespace Windowing

inductive LogLevel where
  | warn | debug | trace
  deriving DecidableEq, Repr, Inhabited

def LogLevel.name : LogLevel → String
  | .warn => "warn"
  | .debug => "debug"
  | .trace => "trace"

/-- Why a decoded event reached no handler. -/
inductive DropReason where
  | noHandler | handlerPanicked | insideHandler
  deriving DecidableEq, Repr, Inhabited

def DropReason.text : DropReason → String
  | .noHandler => "no event handler installed"
  | .handlerPanicked => "event handler panicked"
  | .insideHandler => "event raised from within the event handler"

inductive Log where
  | nativeError (code : Int32) (description : String)
  | initialized (version : String)
  | terminateFailed (error : Error)
  | destroyFailed (error : Error)
  | destructionDeferred (window : WindowId)
  | eventDropped (reason : DropReason) (event : Event)
  | unknownButton (button action : Int32)
  | unknownKeyAction (key : Key) (action : Int32)
  | invalidCodepoint (codepoint : UInt32)
  | unknownMonitorEvent (event : Int32)
  deriving DecidableEq, Repr

namespace Log

def level : Log → LogLevel
  | .nativeError _ _ | .initialized _ | .destructionDeferred _ => .debug
  | .eventDropped _ _ => .trace
  | .terminateFailed _ | .destroyFailed _ | .unknownButton _ _ | .unknownKeyAction _ _
  | .invalidCodepoint _ | .unknownMonitorEvent _ => .warn

def text : Log → String
  | .nativeError code description => s!"GLFW error {Number.hexWord code}: {description}"
  | .initialized version => s!"initialized GLFW {version}"
  | .terminateFailed error => s!"glfwTerminate failed: {error.display}"
  | .destroyFailed error => s!"glfwDestroyWindow failed: {error.display}"
  | .destructionDeferred window =>
    s!"deferring destruction of {window.text} until the event pump returns"
  | .eventDropped reason event => s!"{reason.text}, dropping {event.text}"
  | .unknownButton button action =>
    s!"unknown mouse button event: button={button.toInt} action={action.toInt}"
  | .unknownKeyAction key action => s!"unknown key action {action.toInt} for {key.name}"
  | .invalidCodepoint codepoint => s!"invalid codepoint {Number.hex codepoint.toNat}"
  | .unknownMonitorEvent event => s!"unknown monitor event {Number.hexWord event}"

end Log

end Windowing
