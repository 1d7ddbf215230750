import Windowing.Coded
import Windowing.Number.Hex
import Windowing.Number.FloatText

/-!
Errors. The native library reports a code and a text; the wrapper adds causes of its own. Every
error has a native code, a description, and, when the code is one of the nine defined ones, a kind.
-/

namespace Windowing

inductive ErrorKind where
  | notInitialized | noCurrentContext | invalidEnum | invalidValue | outOfMemory | apiUnavailable
  | versionUnavailable | platformError | formatUnavailable
  deriving DecidableEq, Repr, Inhabited

namespace ErrorKind

def code : ErrorKind → Int32
  | .notInitialized => 0x70001
  | .noCurrentContext => 0x70002
  | .invalidEnum => 0x70003
  | .invalidValue => 0x70004
  | .outOfMemory => 0x70005
  | .apiUnavailable => 0x70006
  | .versionUnavailable => 0x70007
  | .platformError => 0x70008
  | .formatUnavailable => 0x70009

def name : ErrorKind → String
  | .notInitialized => "NotInitialized"
  | .noCurrentContext => "NoCurrentContext"
  | .invalidEnum => "InvalidEnum"
  | .invalidValue => "InvalidValue"
  | .outOfMemory => "OutOfMemory"
  | .apiUnavailable => "ApiUnavailable"
  | .versionUnavailable => "VersionUnavailable"
  | .platformError => "PlatformError"
  | .formatUnavailable => "FormatUnavailable"

instance : Coded ErrorKind where
  all := [.notInitialized, .noCurrentContext, .invalidEnum, .invalidValue, .outOfMemory,
    .apiUnavailable, .versionUnavailable, .platformError, .formatUnavailable]
  code := code
  name := name
  mem_all := by intro k; cases k <;> decide
  codes_nodup := by decide

end ErrorKind

/-- Why an operation failed; native functions are given by name. -/
inductive Error where
  | reported (code : Int32) (description : String)
  | unreported (function : String)
  | invalidSize (width height : Int32)
  | containsNul (offset : Nat)
  | invalidGamma (gamma : Float32)
  | contextLent
  | insideHandler (function : String)
  | unexpectedValue (value : Int32) (subject : String)
  deriving DecidableEq, Repr

namespace Error

/-- A failure that the native library left unreported has the code -1, which is of no kind. -/
def code : Error → Int32
  | .reported code _ => code
  | .unreported _ => -1
  | .invalidSize _ _ | .containsNul _ | .invalidGamma _ | .contextLent | .insideHandler _ =>
    ErrorKind.invalidValue.code
  | .unexpectedValue _ _ => ErrorKind.invalidEnum.code

def description : Error → String
  | .reported _ description => description
  | .unreported function => s!"{function} failed without reporting an error"
  | .invalidSize width height => s!"Invalid window size {width.toInt}x{height.toInt}"
  | .containsNul offset => s!"string contains a NUL byte at offset {offset}"
  | .invalidGamma gamma => s!"Invalid gamma value {Number.plain32 gamma}"
  | .contextLent => "the window's context is held by a Context handle"
  | .insideHandler function => s!"{function} may not be called from an event handler"
  | .unexpectedValue value subject =>
    s!"unexpected value {Number.hexWord value} for {subject}"

def kind (e : Error) : Option ErrorKind :=
  Coded.ofCode? ErrorKind e.code

def display (e : Error) : String :=
  s!"{e.description} ({Number.hexWord e.code})"

end Error

end Windowing
