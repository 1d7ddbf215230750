import Windowing.Event
import Windowing.GammaRamp
import Windowing.Text.Utf8

/-!
Calls of the native library: which function is called, and with which arguments. Out parameters are
no arguments; what a call leaves in them is part of its reply. Enumerations cross the boundary as
their codes and text as bytes.
-/

namespace Windowing.Native

/-- The callbacks that a window can have, in the order in which they are registered. -/
inductive Channel where
  | pos | size | close | refresh | focus | iconify | mouseButton | cursorPos | cursorEnter | scroll
  | key | char
  deriving DecidableEq, Repr, Inhabited

namespace Channel

def all : List Channel :=
  [.pos, .size, .close, .refresh, .focus, .iconify, .mouseButton, .cursorPos, .cursorEnter,
   .scroll, .key, .char]

def setter : Channel → String
  | .pos => "glfwSetWindowPosCallback"
  | .size => "glfwSetWindowSizeCallback"
  | .close => "glfwSetWindowCloseCallback"
  | .refresh => "glfwSetWindowRefreshCallback"
  | .focus => "glfwSetWindowFocusCallback"
  | .iconify => "glfwSetWindowIconifyCallback"
  | .mouseButton => "glfwSetMouseButtonCallback"
  | .cursorPos => "glfwSetCursorPosCallback"
  | .cursorEnter => "glfwSetCursorEnterCallback"
  | .scroll => "glfwSetScrollCallback"
  | .key => "glfwSetKeyCallback"
  | .char => "glfwSetCharCallback"

end Channel

inductive Call where
  | init
  | terminate
  | getVersion
  | getVersionString
  | setErrorCallback
  | setMonitorCallback
  | getTime
  | setTime (time : Float)
  | pollEvents
  | waitEvents
  | getMonitors
  | getPrimaryMonitor
  | getMonitorPos (monitor : Pointer)
  | getMonitorPhysicalSize (monitor : Pointer)
  | getMonitorName (monitor : Pointer)
  | getVideoModes (monitor : Pointer)
  | getVideoMode (monitor : Pointer)
  | setGamma (monitor : Pointer) (gamma : Float32)
  | getGammaRamp (monitor : Pointer)
  | setGammaRamp (monitor : Pointer) (ramp : GammaRamp)
  | defaultWindowHints
  | windowHint (target value : Int32)
  | createWindow (width height : Int32) (title : Text.Bytes) (monitor share : Pointer)
  | destroyWindow (window : Pointer)
  | setWindowCallback (window : Pointer) (channel : Channel)
  | windowShouldClose (window : Pointer)
  | setWindowShouldClose (window : Pointer) (value : Int32)
  | setWindowTitle (window : Pointer) (title : Text.Bytes)
  | getWindowPos (window : Pointer)
  | setWindowPos (window : Pointer) (x y : Int32)
  | getWindowSize (window : Pointer)
  | setWindowSize (window : Pointer) (width height : Int32)
  | iconifyWindow (window : Pointer)
  | restoreWindow (window : Pointer)
  | showWindow (window : Pointer)
  | hideWindow (window : Pointer)
  | getWindowMonitor (window : Pointer)
  | getWindowParam (window : Pointer) (param : Int32)
  | setWindowUserPointer (window : Pointer) (pointer : Pointer)
  | getWindowUserPointer (window : Pointer)
  | getInputMode (window : Pointer) (mode : Int32)
  | setInputMode (window : Pointer) (mode value : Int32)
  | getKey (window : Pointer) (key : Int32)
  | getMouseButton (window : Pointer) (button : Int32)
  | getCursorPos (window : Pointer)
  | setCursorPos (window : Pointer) (x y : Float)
  | getJoystickParam (joystick param : Int32)
  | getJoystickAxes (joystick capacity : Int32)
  | getJoystickButtons (joystick capacity : Int32)
  | getJoystickName (joystick : Int32)
  | setClipboardString (window : Pointer) (text : Text.Bytes)
  | getClipboardString (window : Pointer)
  | makeContextCurrent (window : Pointer)
  | getCurrentContext
  | swapBuffers (window : Pointer)
  | swapInterval (interval : Int32)
  | extensionSupported (name : Text.Bytes)
  | getProcAddress (name : Text.Bytes)
  deriving DecidableEq, Repr

/-- One argument of a call; a callback is only known to be there. -/
inductive Argument where
  | int (value : Int32)
  | pointer (value : Pointer)
  | real (value : Float)
  | single (value : Float32)
  | text (value : Text.Bytes)
  | callback
  | channel (value : RampChannel)
  deriving DecidableEq, Repr

namespace Call

def name : Call → String
  | .init => "glfwInit"
  | .terminate => "glfwTerminate"
  | .getVersion => "glfwGetVersion"
  | .getVersionString => "glfwGetVersionString"
  | .setErrorCallback => "glfwSetErrorCallback"
  | .setMonitorCallback => "glfwSetMonitorCallback"
  | .getTime => "glfwGetTime"
  | .setTime _ => "glfwSetTime"
  | .pollEvents => "glfwPollEvents"
  | .waitEvents => "glfwWaitEvents"
  | .getMonitors => "glfwGetMonitors"
  | .getPrimaryMonitor => "glfwGetPrimaryMonitor"
  | .getMonitorPos _ => "glfwGetMonitorPos"
  | .getMonitorPhysicalSize _ => "glfwGetMonitorPhysicalSize"
  | .getMonitorName _ => "glfwGetMonitorName"
  | .getVideoModes _ => "glfwGetVideoModes"
  | .getVideoMode _ => "glfwGetVideoMode"
  | .setGamma _ _ => "glfwSetGamma"
  | .getGammaRamp _ => "glfwGetGammaRamp"
  | .setGammaRamp _ _ => "glfwSetGammaRamp"
  | .defaultWindowHints => "glfwDefaultWindowHints"
  | .windowHint _ _ => "glfwWindowHint"
  | .createWindow _ _ _ _ _ => "glfwCreateWindow"
  | .destroyWindow _ => "glfwDestroyWindow"
  | .setWindowCallback _ channel => channel.setter
  | .windowShouldClose _ => "glfwWindowShouldClose"
  | .setWindowShouldClose _ _ => "glfwSetWindowShouldClose"
  | .setWindowTitle _ _ => "glfwSetWindowTitle"
  | .getWindowPos _ => "glfwGetWindowPos"
  | .setWindowPos _ _ _ => "glfwSetWindowPos"
  | .getWindowSize _ => "glfwGetWindowSize"
  | .setWindowSize _ _ _ => "glfwSetWindowSize"
  | .iconifyWindow _ => "glfwIconifyWindow"
  | .restoreWindow _ => "glfwRestoreWindow"
  | .showWindow _ => "glfwShowWindow"
  | .hideWindow _ => "glfwHideWindow"
  | .getWindowMonitor _ => "glfwGetWindowMonitor"
  | .getWindowParam _ _ => "glfwGetWindowParam"
  | .setWindowUserPointer _ _ => "glfwSetWindowUserPointer"
  | .getWindowUserPointer _ => "glfwGetWindowUserPointer"
  | .getInputMode _ _ => "glfwGetInputMode"
  | .setInputMode _ _ _ => "glfwSetInputMode"
  | .getKey _ _ => "glfwGetKey"
  | .getMouseButton _ _ => "glfwGetMouseButton"
  | .getCursorPos _ => "glfwGetCursorPos"
  | .setCursorPos _ _ _ => "glfwSetCursorPos"
  | .getJoystickParam _ _ => "glfwGetJoystickParam"
  | .getJoystickAxes _ _ => "glfwGetJoystickAxes"
  | .getJoystickButtons _ _ => "glfwGetJoystickButtons"
  | .getJoystickName _ => "glfwGetJoystickName"
  | .setClipboardString _ _ => "glfwSetClipboardString"
  | .getClipboardString _ => "glfwGetClipboardString"
  | .makeContextCurrent _ => "glfwMakeContextCurrent"
  | .getCurrentContext => "glfwGetCurrentContext"
  | .swapBuffers _ => "glfwSwapBuffers"
  | .swapInterval _ => "glfwSwapInterval"
  | .extensionSupported _ => "glfwExtensionSupported"
  | .getProcAddress _ => "glfwGetProcAddress"

def arguments : Call → List Argument
  | .init | .terminate | .getVersion | .getVersionString | .getTime | .pollEvents | .waitEvents
  | .getMonitors | .getPrimaryMonitor | .defaultWindowHints | .getCurrentContext => []
  | .setErrorCallback | .setMonitorCallback => [.callback]
  | .setTime time => [.real time]
  | .getMonitorPos p | .getMonitorPhysicalSize p | .getMonitorName p | .getVideoModes p
  | .getVideoMode p | .getGammaRamp p | .destroyWindow p | .windowShouldClose p | .getWindowPos p
  | .getWindowSize p | .iconifyWindow p | .restoreWindow p | .showWindow p | .hideWindow p
  | .getWindowMonitor p | .getWindowUserPointer p | .getCursorPos p | .getClipboardString p
  | .makeContextCurrent p | .swapBuffers p => [.pointer p]
  | .setGamma p gamma => [.pointer p, .single gamma]
  | .setGammaRamp p ramp =>
    [.pointer p, .channel ramp.red, .channel ramp.green, .channel ramp.blue]
  | .windowHint target value => [.int target, .int value]
  | .createWindow width height title monitor share =>
    [.int width, .int height, .text title, .pointer monitor, .pointer share]
  | .setWindowCallback p _ => [.pointer p, .callback]
  | .setWindowTitle p text | .setClipboardString p text => [.pointer p, .text text]
  | .setWindowPos p x y | .setWindowSize p x y | .setInputMode p x y =>
    [.pointer p, .int x, .int y]
  | .setWindowShouldClose p v | .getWindowParam p v | .getInputMode p v | .getKey p v
  | .getMouseButton p v => [.pointer p, .int v]
  | .setWindowUserPointer p pointer => [.pointer p, .pointer pointer]
  | .setCursorPos p x y => [.pointer p, .real x, .real y]
  | .getJoystickParam joystick v | .getJoystickAxes joystick v | .getJoystickButtons joystick v =>
    [.int joystick, .int v]
  | .getJoystickName joystick => [.int joystick]
  | .swapInterval interval => [.int interval]
  | .extensionSupported text | .getProcAddress text => [.text text]

end Call

end Windowing.Native
