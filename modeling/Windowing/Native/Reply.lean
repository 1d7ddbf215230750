import Windowing.Event
import Windowing.GammaRamp
import Windowing.Text.Utf8
import Windowing.VideoMode
import Windowing.Native.Call

/-!
What the native library does when it is called: the callbacks that it invokes meanwhile, the value
that it returns and what it leaves in the out parameters. Its behaviour over a stretch of a run is a
script, which holds the next replies of each function.
-/

namespace Windowing.Native

/-- The arguments of a window callback. -/
inductive Signal where
  | pos (x y : Int32)
  | size (width height : Int32)
  | close
  | refresh
  | focus (focused : Int32)
  | iconify (iconified : Int32)
  | mouseButton (button action : Int32)
  | cursorPos (x y : Float)
  | cursorEnter (entered : Int32)
  | scroll (x y : Float)
  | key (key action : Int32)
  | char (codepoint : UInt32)
  deriving DecidableEq, Repr

def Signal.channel : Signal → Channel
  | .pos _ _ => .pos
  | .size _ _ => .size
  | .close => .close
  | .refresh => .refresh
  | .focus _ => .focus
  | .iconify _ => .iconify
  | .mouseButton _ _ => .mouseButton
  | .cursorPos _ _ => .cursorPos
  | .cursorEnter _ => .cursorEnter
  | .scroll _ _ => .scroll
  | .key _ _ => .key
  | .char _ => .char

/-- A callback and the arguments with which the native library invokes it. -/
inductive Callback where
  | error (code : Int32) (description : Option Text.Bytes)
  | monitor (monitor : Pointer) (event : Int32)
  | window (window : Pointer) (signal : Signal)
  deriving DecidableEq, Repr

/-- A call reads the parts that its function has: one of the returned values, and out parameters.
An array that is not there is a null pointer; an out parameter that is not there is left at 0. -/
structure Reply where
  value : Int32 := 0
  pointer : Pointer := null
  time : Float := 0
  text : Option Text.Bytes := none
  mode : VideoMode := .zero
  pointers : Option (List Pointer) := none
  modes : Option (List VideoMode) := none
  /-- The length that was written for a returned array. -/
  count : Int32 := 0
  outInts : List Int32 := []
  outReals : List Float := []
  outAxes : List Float32 := []
  outBytes : List UInt8 := []
  outRamp : GammaRamp := .zero
  callbacks : List Callback := []
  deriving DecidableEq, Repr

namespace Reply

/-- The reply of a function about which nothing more is known; initialization succeeds. -/
def plain (function : String) : Reply :=
  { value := if function = Call.init.name then 1 else 0 }

/-- The count written for an array: the given one, else the array's length, and never more. -/
def countFor {α : Type} (array : Option (List α)) (given : Option Int32) : Int32 :=
  match array with
  | none => given.getD 0
  | some xs =>
    let length := Int32.ofNat xs.length
    match given with
    | some count => if count < length then count else length
    | none => length

/-- The first `count` entries of an array; a null array and a negative count have none. -/
def entries {α : Type} (array : Option (List α)) (count : Int32) : List α :=
  (array.getD []).take count.toNatClampNeg

def int (r : Reply) (i : Nat) : Int32 := r.outInts.getD i 0

def real (r : Reply) (i : Nat) : Float := r.outReals.getD i 0

end Reply

/-- The next replies of each function, by name. -/
structure Script where
  queues : List (String × List Reply) := []
  deriving DecidableEq, Repr, Inhabited

namespace Script

/-- The next reply of a function and what is left of the script. -/
def next (s : Script) (function : String) : Reply × Script :=
  match s.queues.lookup function with
  | some (r :: rest) =>
    (r, ⟨s.queues.map fun q => if q.1 = function then (q.1, rest) else q⟩)
  | _ => (Reply.plain function, s)

def size (s : Script) : Nat :=
  s.queues.foldl (fun n q => n + q.2.length) 0

end Script

end Windowing.Native
