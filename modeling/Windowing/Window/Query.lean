import Windowing.Flag
import Windowing.Handle
import Windowing.Hint
import Windowing.Input
import Windowing.Key
import Windowing.PendingError
import Windowing.WindowState

/-!
What a window knows about itself: its attributes, one by one and as a set of state flags, and its
input modes and input state. Enumerations are read by their codes, and a code of no member is an
error.
-/

namespace Windowing.Window

open Native

variable (native : Backend)

def getParam (w : Window) (a : Attribute) : Attempt Int32 := do
  let reply ← checked (native (.getWindowParam w.pointer a.code))
  return reply.value

def getFlag (w : Window) (a : Attribute) : Attempt Bool := do
  return Flag.isSet (← getParam native w a)

def isFocused (w : Window) : Attempt Bool := getFlag native w .focused
def isIconified (w : Window) : Attempt Bool := getFlag native w .iconified
def isVisible (w : Window) : Attempt Bool := getFlag native w .visible
def isResizable (w : Window) : Attempt Bool := getFlag native w .resizable
def isDecorated (w : Window) : Attempt Bool := getFlag native w .decorated
def isForwardCompat (w : Window) : Attempt Bool := getFlag native w .openGlForwardCompat
def isDebugContext (w : Window) : Attempt Bool := getFlag native w .openGlDebugContext

/-- All state flags, read in their order up to the first failure. -/
def state (w : Window) : Attempt WindowState :=
  StateFlag.all.foldlM (fun s flag => return s.set flag (← getFlag native w flag.attr)) .empty

def clientApi (w : Window) : Attempt ClientApi := do
  liftExcept (expectCode ClientApi "GLFW_CLIENT_API" (← getParam native w .clientApi))

/-- Major, minor and revision number of the context's interface. -/
def contextVersion (w : Window) : Attempt (Int32 × Int32 × Int32) := do
  let major ← getParam native w .contextVersionMajor
  let minor ← getParam native w .contextVersionMinor
  let revision ← getParam native w .contextRevision
  return (major, minor, revision)

def openGlProfile (w : Window) : Attempt OpenGlProfile := do
  liftExcept (expectCode OpenGlProfile "GLFW_OPENGL_PROFILE" (← getParam native w .openGlProfile))

def contextRobustness (w : Window) : Attempt ContextRobustness := do
  liftExcept (expectCode ContextRobustness "GLFW_CONTEXT_ROBUSTNESS"
    (← getParam native w .contextRobustness))

/-- What `getInputMode` and `setInputMode` refer to. -/
inductive InputMode where
  | cursor | stickyKeys | stickyMouseButtons
  deriving DecidableEq, Repr, Inhabited

def InputMode.code : InputMode → Int32
  | .cursor => 0x33001
  | .stickyKeys => 0x33002
  | .stickyMouseButtons => 0x33003

def getInputMode (w : Window) (mode : InputMode) : Attempt Int32 := do
  let reply ← checked (native (.getInputMode w.pointer mode.code))
  return reply.value

def setInputMode (w : Window) (mode : InputMode) (value : Int32) : Attempt Unit :=
  perform native (.setInputMode w.pointer mode.code value)

def cursorMode (w : Window) : Attempt CursorMode := do
  liftExcept (expectCode CursorMode "GLFW_CURSOR_MODE" (← getInputMode native w .cursor))

def setCursorMode (w : Window) (mode : CursorMode) : Attempt Unit :=
  setInputMode native w .cursor mode.code

def stickyKeys (w : Window) : Attempt Bool := do
  return Flag.isSet (← getInputMode native w .stickyKeys)

/-- A press of a sticky key is seen by the next query, even if the key was released before. -/
def setStickyKeys (w : Window) (value : Bool) : Attempt Unit :=
  setInputMode native w .stickyKeys (Flag.code value)

def stickyMouseButtons (w : Window) : Attempt Bool := do
  return Flag.isSet (← getInputMode native w .stickyMouseButtons)

def setStickyMouseButtons (w : Window) (value : Bool) : Attempt Unit :=
  setInputMode native w .stickyMouseButtons (Flag.code value)

def keyState (w : Window) (key : Key) : Attempt Action := do
  let reply ← checked (native (.getKey w.pointer key.code))
  liftExcept (expectCode Action "key state" reply.value)

def mouseButtonState (w : Window) (button : MouseButton) : Attempt Action := do
  let reply ← checked (native (.getMouseButton w.pointer button.code))
  liftExcept (expectCode Action "mouse button state" reply.value)

end Windowing.Window
