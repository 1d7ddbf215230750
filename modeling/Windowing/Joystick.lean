import Windowing.Flag
import Windowing.Input
import Windowing.PendingError

/-!
Joysticks. Axes and buttons are read into an array of the announced length, of which only the part
that was written counts.
-/

namespace Windowing.Joystick

open Native

inductive Param where
  | present | axes | buttons
  deriving DecidableEq, Repr, Inhabited

def Param.code : Param → Int32
  | .present => 0x50001
  | .axes => 0x50002
  | .buttons => 0x50003

/-- The first `written` entries of an array of `capacity` entries, which hold `blank` where nothing
was written. -/
def filled {α : Type} (blank : α) (out : List α) (capacity written : Int32) : List α :=
  (List.range (min written.toNatClampNeg capacity.toNatClampNeg)).map fun i => out.getD i blank

variable (native : Backend)

def getParam (j : Joystick) (p : Param) : Attempt Int32 := do
  let reply ← checked (native (.getJoystickParam j.code p.code))
  return reply.value

def isPresent (j : Joystick) : Attempt Bool := do
  return Flag.isSet (← getParam native j .present)

/-- The length to make room for; a negative one counts as 0. -/
def capacity (j : Joystick) (p : Param) : Attempt Int32 := do
  let count ← getParam native j p
  return if count < 0 then 0 else count

/-- The positions of the axes; none if the joystick is absent. -/
def axes (j : Joystick) : Attempt (List Float32) := do
  let capacity ← capacity native j .axes
  let reply ← checked (native (.getJoystickAxes j.code capacity))
  return filled 0 reply.outAxes capacity reply.value

/-- The states of the buttons; none if the joystick is absent. -/
def buttons (j : Joystick) : Attempt (List Action) := do
  let capacity ← capacity native j .buttons
  let reply ← checked (native (.getJoystickButtons j.code capacity))
  return (filled 0 reply.outBytes capacity reply.value).map Action.ofButtonByte

def deviceName (j : Joystick) : Attempt (Option String) := do
  let reply ← checked (native (.getJoystickName j.code))
  return reply.text.map Text.read

end Windowing.Joystick
