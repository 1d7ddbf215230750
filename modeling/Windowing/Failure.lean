import Windowing.Error
import Windowing.Hint

/-!
Failures that say which stage of an operation an error belongs to.
-/

namespace Windowing

/-- Initialization began and failed. -/
structure InitError where
  cause : Error
  deriving DecidableEq, Repr

def InitError.display (e : InitError) : String :=
  s!"glfwInit failed: {e.cause.display}"

inductive TryInitError where
  | wouldBlock
  | failed (error : InitError)
  deriving DecidableEq, Repr

def TryInitError.display : TryInitError → String
  | .wouldBlock => "GLFW is already initialized"
  | .failed error => error.display

/-- A hint is given with its place in the list of hints. -/
inductive CreateError where
  | hint (index : Nat) (hint : WindowHint) (cause : Error)
  | creation (cause : Error)
  deriving DecidableEq, Repr

namespace CreateError

def cause : CreateError → Error
  | .hint _ _ cause => cause
  | .creation cause => cause

def display : CreateError → String
  | .hint _ h cause => s!"invalid hint {h.text}: {cause.display}"
  | .creation cause => s!"glfwCreateWindow failed: {cause.display}"

end CreateError

end Windowing
