import Windowing.Context
import Windowing.Monitor
import Windowing.Window.Lifetime

/-!
Operations on a window: its place, title, visibility, clipboard and cursor. While the context is
lent, the window itself may not use it.
-/

namespace Windowing.Window

open Native

variable (native : Backend)

def ensureContextOwned (w : Window) : Attempt Unit := do
  if ← Context.isLent w.key then throw .contextLent

def makeContextCurrent (w : Window) : Attempt Unit := do
  ensureContextOwned w
  perform native (.makeContextCurrent w.pointer)

def swapBuffers (w : Window) : Attempt Unit := do
  ensureContextOwned w
  perform native (.swapBuffers w.pointer)

def shouldClose (w : Window) : Attempt Bool := do
  let reply ← checked (native (.windowShouldClose w.pointer))
  return Flag.isSet reply.value

def setShouldClose (w : Window) (value : Bool) : Attempt Unit :=
  perform native (.setWindowShouldClose w.pointer (Flag.code value))

def setTitle (w : Window) (title : String) : Attempt Unit := do
  let title ← liftExcept (terminated title)
  perform native (.setWindowTitle w.pointer title)

def pos (w : Window) : Attempt (Int32 × Int32) := do
  let reply ← checked (native (.getWindowPos w.pointer))
  return (reply.int 0, reply.int 1)

def setPos (w : Window) (x y : Int32) : Attempt Unit :=
  perform native (.setWindowPos w.pointer x y)

def size (w : Window) : Attempt (Int32 × Int32) := do
  let reply ← checked (native (.getWindowSize w.pointer))
  return (reply.int 0, reply.int 1)

def setSize (w : Window) (width height : Int32) : Attempt Unit := do
  liftExcept (checkSize width height)
  perform native (.setWindowSize w.pointer width height)

def iconify (w : Window) : Attempt Unit := perform native (.iconifyWindow w.pointer)
def restore (w : Window) : Attempt Unit := perform native (.restoreWindow w.pointer)
def reveal (w : Window) : Attempt Unit := perform native (.showWindow w.pointer)
def hide (w : Window) : Attempt Unit := perform native (.hideWindow w.pointer)

/-- The monitor of a window in fullscreen mode. -/
def monitor (w : Window) : Attempt (Option Monitor) := do
  let reply ← checked (native (.getWindowMonitor w.pointer))
  Monitor.ofPointer? reply.pointer

/-- The native library keeps the pointer and never follows it; the call is not checked. -/
def setUserPointer (w : Window) (pointer : Pointer) : M Unit := do
  let _ ← native (.setWindowUserPointer w.pointer pointer)

def userPointer (w : Window) : M Pointer :=
  return (← native (.getWindowUserPointer w.pointer)).pointer

/-- The cursor's place relative to the upper left corner of the window's content. -/
def cursorPos (w : Window) : Attempt (Float × Float) := do
  let reply ← checked (native (.getCursorPos w.pointer))
  return (reply.real 0, reply.real 1)

def setCursorPos (w : Window) (x y : Float) : Attempt Unit :=
  perform native (.setCursorPos w.pointer x y)

def setClipboard (w : Window) (text : String) : Attempt Unit := do
  let text ← liftExcept (terminated text)
  perform native (.setClipboardString w.pointer text)

/-- The text on the clipboard, if it holds any. -/
def clipboard (w : Window) : Attempt (Option String) := do
  let reply ← checked (native (.getClipboardString w.pointer))
  return reply.text.map Text.read

end Windowing.Window
