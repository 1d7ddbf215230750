import Windowing.Coded

/-!
Mouse buttons, button and key actions, cursor modes and joysticks, with their native codes.
-/

namespace Windowing

/-- Buttons 1 to 3 are left, right and middle. -/
inductive MouseButton where
  | button1 | button2 | button3 | button4 | button5 | button6 | button7 | button8
  deriving DecidableEq, Repr, Inhabited

namespace MouseButton

def left : MouseButton := .button1
def right : MouseButton := .button2
def middle : MouseButton := .button3

def code : MouseButton → Int32
  | .button1 => 0
  | .button2 => 1
  | .button3 => 2
  | .button4 => 3
  | .button5 => 4
  | .button6 => 5
  | .button7 => 6
  | .button8 => 7

def name : MouseButton → String
  | .button1 => "Button1"
  | .button2 => "Button2"
  | .button3 => "Button3"
  | .button4 => "Button4"
  | .button5 => "Button5"
  | .button6 => "Button6"
  | .button7 => "Button7"
  | .button8 => "Button8"

instance : Coded MouseButton where
  all := [.button1, .button2, .button3, .button4, .button5, .button6, .button7, .button8]
  code := code
  name := name
  mem_all := by intro b; cases b <;> decide
  codes_nodup := by decide

end MouseButton

/-- What happened to a key or a button. -/
inductive Action where
  | release | press | repeated
  deriving DecidableEq, Repr, Inhabited

namespace Action

def code : Action → Int32
  | .release => 0
  | .press => 1
  | .repeated => 2

def name : Action → String
  | .release => "Release"
  | .press => "Press"
  | .repeated => "Repeat"

instance : Coded Action where
  all := [.release, .press, .repeated]
  code := code
  name := name
  mem_all := by intro a; cases a <;> decide
  codes_nodup := by decide

/-- A joystick button is pressed exactly when its byte is 1. -/
def ofButtonByte (byte : UInt8) : Action :=
  if byte = 1 then .press else .release

end Action

inductive CursorMode where
  | normal | hidden | captured
  deriving DecidableEq, Repr, Inhabited

namespace CursorMode

def code : CursorMode → Int32
  | .normal => 0x34001
  | .hidden => 0x34002
  | .captured => 0x34003

def name : CursorMode → String
  | .normal => "Normal"
  | .hidden => "Hidden"
  | .captured => "Captured"

instance : Coded CursorMode where
  all := [.normal, .hidden, .captured]
  code := code
  name := name
  mem_all := by intro m; cases m <;> decide
  codes_nodup := by decide

end CursorMode

inductive Joystick where
  | joystick1 | joystick2 | joystick3 | joystick4 | joystick5 | joystick6 | joystick7 | joystick8
  | joystick9 | joystick10 | joystick11 | joystick12 | joystick13 | joystick14 | joystick15
  | joystick16
  deriving DecidableEq, Repr, Inhabited

namespace Joystick

def all : List Joystick :=
  [.joystick1, .joystick2, .joystick3, .joystick4, .joystick5, .joystick6, .joystick7,
   .joystick8, .joystick9, .joystick10, .joystick11, .joystick12, .joystick13, .joystick14,
   .joystick15, .joystick16]

def code : Joystick → Int32
  | .joystick1 => 0
  | .joystick2 => 1
  | .joystick3 => 2
  | .joystick4 => 3
  | .joystick5 => 4
  | .joystick6 => 5
  | .joystick7 => 6
  | .joystick8 => 7
  | .joystick9 => 8
  | .joystick10 => 9
  | .joystick11 => 10
  | .joystick12 => 11
  | .joystick13 => 12
  | .joystick14 => 13
  | .joystick15 => 14
  | .joystick16 => 15

def name : Joystick → String
  | .joystick1 => "Joystick1"
  | .joystick2 => "Joystick2"
  | .joystick3 => "Joystick3"
  | .joystick4 => "Joystick4"
  | .joystick5 => "Joystick5"
  | .joystick6 => "Joystick6"
  | .joystick7 => "Joystick7"
  | .joystick8 => "Joystick8"
  | .joystick9 => "Joystick9"
  | .joystick10 => "Joystick10"
  | .joystick11 => "Joystick11"
  | .joystick12 => "Joystick12"
  | .joystick13 => "Joystick13"
  | .joystick14 => "Joystick14"
  | .joystick15 => "Joystick15"
  | .joystick16 => "Joystick16"

instance : Coded Joystick where
  all := all
  code := code
  name := name
  mem_all := by intro j; cases j <;> decide
  codes_nodup := by decide +kernel

end Joystick

end Windowing
