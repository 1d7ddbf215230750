import Windowing.GammaRamp
import Windowing.Hint
import Windowing.Native.Reply

/-!
What a client does: steps, each an operation on handles in numbered slots of its own tables. A step
comes with the script that the native library follows while the step runs. A pump carries its
handler's reactions, one list of steps for each event that is delivered.
-/

namespace Windowing.Client

structure WindowRequest where
  /-- A hint that could not be read is missing here. -/
  hints : List (Option WindowHint)
  width : Int32
  height : Int32
  title : String
  monitor : Option Nat
  share : Option Nat
  deriving Repr

/-- An operation that is not known is refused once its slot has been looked up. -/
inductive LibraryOp where
  | drop
  | setTime (time : Float)
  | getMonitors
  | getPrimaryMonitor
  | joystickPresent (joystick : Int32)
  | joystickAxes (joystick : Int32)
  | joystickButtons (joystick : Int32)
  | joystickName (joystick : Int32)
  | createWindow (request : WindowRequest)
  | unknown
  deriving Repr

inductive WindowOp where
  | drop
  | lendContext
  | identify (other : Nat)
  | shouldClose
  | setShouldClose (value : Bool)
  | isFocused | isIconified | isVisible | isResizable | isDecorated
  | isForwardCompat | isDebugContext
  | state
  | clientApi | contextVersion | openGlProfile | contextRobustness
  | makeCurrent | swapBuffers
  | iconify | restore | reveal | hide
  | setTitle (title : String)
  | getPos | setPos (x y : Int32)
  | getSize | setSize (width height : Int32)
  | getCursorPos | setCursorPos (x y : Float)
  | getMonitor
  | userPointer | setUserPointer (pointer : Pointer)
  | getClipboard | setClipboard (text : String)
  | getCursorMode | setCursorMode (mode : Int32)
  | stickyKeys | setStickyKeys (value : Bool)
  | stickyMouseButtons | setStickyMouseButtons (value : Bool)
  | getKey (key : Int32)
  | getMouseButton (button : Int32)
  | unknown
  deriving Repr

/-- Where a ramp comes from: a gamma exponent, or a table. -/
inductive RampSource where
  | gamma (gamma : Float32)
  | table (ramp : GammaRamp)
  deriving Repr

inductive MonitorOp where
  | drop
  | identify (other : Nat)
  | name | pos | physicalSize | videoModes | videoMode
  | setGamma (gamma : Float32)
  | getGammaRamp
  | setGammaRamp (source : RampSource)
  | unknown
  deriving Repr

inductive ContextOp where
  | drop | windowId | makeCurrent | swapBuffers | unknown
  deriving Repr

/-- Which of the two pumps runs: the one that returns at once, or the one that waits. -/
inductive PumpKind where
  | poll | wait
  deriving DecidableEq, Repr

def PumpKind.call : PumpKind → Native.Call
  | .poll => .pollEvents
  | .wait => .waitEvents

mutual

inductive Op where
  | init
  | tryInit
  | getError
  | getVersion
  | getVersionString
  | getTime
  | detachCurrent
  | current
  | swapInterval (interval : Int32)
  | extensionSupported (name : String)
  | getProcAddress (name : String)
  | panic (message : String)
  | onThread (steps : List Step)
  | pump (slot : Nat) (kind : PumpKind) (reactions : List (List Step))
  | library (slot : Nat) (op : LibraryOp)
  | window (slot : Nat) (op : WindowOp)
  | monitor (slot : Nat) (op : MonitorOp)
  | context (slot : Nat) (op : ContextOp)

inductive Step where
  | mk (script : Native.Script) (op : Op)

end

instance : Inhabited Step := ⟨.mk {} .getError⟩

/-- What a handler has yet to do: one list of steps for each further event, and nothing after
that. -/
abbrev Handler := List (List Step)

abbrev ThreadId := Nat

/-- A thread takes a step, or ends and drops what it owns. -/
inductive Turn where
  | step (thread : ThreadId) (step : Step)
  | finish (thread : ThreadId)

/-- The thread that takes the turn. -/
def Turn.thread : Turn → ThreadId
  | .step thread _ | .finish thread => thread

/-! The size of a program is the number of replies that its scripts hold, which bounds how deep
native calls can nest. -/

mutual

def Op.size : Op → Nat
  | .onThread steps => stepsSize steps
  | .pump _ _ reactions => reactionsSize reactions
  | _ => 0

def Step.size : Step → Nat
  | .mk script op => script.size + op.size

def stepsSize : List Step → Nat
  | [] => 0
  | s :: rest => s.size + stepsSize rest

def reactionsSize : List (List Step) → Nat
  | [] => 0
  | steps :: rest => stepsSize steps + reactionsSize rest

end

def Turn.size : Turn → Nat
  | .step _ s => s.size
  | .finish _ => 0

def turnsSize : List Turn → Nat
  | [] => 0
  | turn :: rest => turn.size + turnsSize rest

/-- A batch of turns counts as a reply, since it is taken during a call. -/
def scheduleSize : List (List Turn) → Nat
  | [] => 0
  | batch :: rest => 1 + turnsSize batch + scheduleSize rest

end Windowing.Client
