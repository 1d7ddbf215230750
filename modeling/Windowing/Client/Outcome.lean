import Windowing.Failure
import Windowing.GammaRamp
import Windowing.Handle
import Windowing.Input
import Windowing.VideoMode
import Windowing.WindowState

/-!
What comes of a step: an answer, a failure of the operation, a refusal of the step itself, or a
panic.
-/

namespace Windowing.Client

/-- Why a step was not carried out. -/
inductive Refusal where
  | noLibrary | noWindow | noMonitor | noContext
  | wouldDeadlock
  | inUse
  | contextHeld
  | nestedThread
  | badJoystick | badHint | badKey | badButton | badMode
  | unknownOperation
  deriving DecidableEq, Repr

/-- How a window or monitor compares with another one. -/
structure Identity where
  address : Pointer
  text : String
  order : Ordering
  /-- Missing if there is no other one. -/
  equal : Option Bool
  deriving DecidableEq, Repr

inductive Answer where
  | unit
  | flag (value : Bool)
  | ints (values : List Int32)
  | reals (values : List Float)
  | singles (values : List Float32)
  | time (value : Float)
  | text (value : String)
  | optionalText (value : Option String)
  | pointer (value : Pointer)
  | optionalPointer (value : Option Pointer)
  | slot (index : Nat)
  | optionalSlot (index : Option Nat)
  | slots (indices : List Nat)
  | name (value : String)
  | names (values : List String)
  | state (value : WindowState)
  | mode (value : VideoMode)
  | modes (values : List VideoMode)
  | ramp (value : GammaRamp)
  | windowIdentity (value : Identity)
  | monitorIdentity (value : Identity)
  deriving DecidableEq, Repr

inductive Outcome where
  | answered (answer : Answer)
  | failed (error : Error)
  | initFailed (error : InitError)
  | tryInitFailed (error : TryInitError)
  | createFailed (error : CreateError)
  | refused (why : Refusal)
  /-- A panic that left a pump. -/
  | panicked (message : String)
  /-- The step itself panics, and with it the body that it belongs to. -/
  | panicking (message : String)
  /-- A thread was run to its end, which may have been a panic. -/
  | joined (panic : Option String)
  deriving DecidableEq, Repr

end Windowing.Client
