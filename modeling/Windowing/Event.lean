import Windowing.Input
import Windowing.Key
import Windowing.Number.FloatText
import Windowing.Text.Quoted

/-!
Events, as a client's handler receives them, and the identities of windows and monitors that they
carry. Two events are the same if they agree in every part; coordinates are compared as numbers, so
an event with a NaN differs from itself.
-/

namespace Windowing

/-- An address in the native library; 0 is null. -/
abbrev Pointer := UInt64

def null : Pointer := 0

structure WindowId where
  address : Pointer
  deriving DecidableEq, Repr, Inhabited

structure MonitorId where
  address : Pointer
  deriving DecidableEq, Repr, Inhabited

namespace WindowId

def text (w : WindowId) : String := s!"WindowId({w.address.toNat})"

instance : Ord WindowId := ⟨fun a b => compare a.address b.address⟩

end WindowId

namespace MonitorId

def text (m : MonitorId) : String := s!"MonitorId({m.address.toNat})"

instance : Ord MonitorId := ⟨fun a b => compare a.address b.address⟩

end MonitorId

inductive WindowEvent where
  | pos (x y : Int32)
  | size (width height : Int32)
  | close
  | refresh
  | focus (focused : Bool)
  | iconify (iconified : Bool)
  | mouseButton (button : MouseButton) (action : Action)
  | cursorPos (x y : Float)
  | cursorEnter (entered : Bool)
  | scroll (x y : Float)
  | key (key : Key) (action : Action)
  | char (char : Char)
  deriving DecidableEq, Repr

inductive MonitorEvent where
  | connected (monitor : MonitorId)
  | disconnected (monitor : MonitorId)
  deriving DecidableEq, Repr

inductive Event where
  | monitor (event : MonitorEvent)
  | window (window : WindowId) (event : WindowEvent)
  deriving DecidableEq, Repr

namespace WindowEvent

def same : WindowEvent → WindowEvent → Bool
  | .cursorPos x y, .cursorPos x' y' => x == x' && y == y'
  | .scroll x y, .scroll x' y' => x == x' && y == y'
  | a, b => decide (a = b)

def text : WindowEvent → String
  | .pos x y => s!"Pos({x.toInt}, {y.toInt})"
  | .size width height => s!"Size({width.toInt}, {height.toInt})"
  | .close => "Close"
  | .refresh => "Refresh"
  | .focus focused => s!"Focus({focused})"
  | .iconify iconified => s!"Iconify({iconified})"
  | .mouseButton button action => s!"MouseButton({button.name}, {action.name})"
  | .cursorPos x y => s!"CursorPos({Number.general64 x}, {Number.general64 y})"
  | .cursorEnter entered => s!"CursorEnter({entered})"
  | .scroll x y => s!"Scroll({Number.general64 x}, {Number.general64 y})"
  | .key pressed action => s!"Key({pressed.name}, {action.name})"
  | .char c => s!"Char({Text.quoted c})"

end WindowEvent

namespace Event

def same : Event → Event → Bool
  | .window w a, .window w' b => decide (w = w') && a.same b
  | a, b => decide (a = b)

def text : Event → String
  | .monitor (.connected m) => s!"Monitor(Connected({m.text}))"
  | .monitor (.disconnected m) => s!"Monitor(Disconnected({m.text}))"
  | .window w e => s!"Window({w.text}, {e.text})"

end Event

end Windowing
