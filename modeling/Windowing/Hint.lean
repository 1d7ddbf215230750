import Windowing.Attribute
import Windowing.Flag

/-!
Hints applied before a window is created. A hint names an attribute as its target and carries a flag,
a number or a member of an enumeration; the native library takes both as integers (`WindowHint.raw`).
-/

namespace Windowing

inductive ClientApi where
  | openGl | openGlEs
  deriving DecidableEq, Repr, Inhabited

namespace ClientApi

def code : ClientApi → Int32
  | .openGl => 0x30001
  | .openGlEs => 0x30002

def name : ClientApi → String
  | .openGl => "OpenGl"
  | .openGlEs => "OpenGlEs"

instance : Coded ClientApi where
  all := [.openGl, .openGlEs]
  code := code
  name := name
  mem_all := by intro a; cases a <;> decide
  codes_nodup := by decide

end ClientApi

inductive ContextRobustness where
  | none | noResetNotification | loseContextOnReset
  deriving DecidableEq, Repr, Inhabited

namespace ContextRobustness

def code : ContextRobustness → Int32
  | .none => 0
  | .noResetNotification => 0x31001
  | .loseContextOnReset => 0x31002

def name : ContextRobustness → String
  | .none => "None"
  | .noResetNotification => "NoResetNotification"
  | .loseContextOnReset => "LoseContextOnReset"

instance : Coded ContextRobustness where
  all := [.none, .noResetNotification, .loseContextOnReset]
  code := code
  name := name
  mem_all := by intro a; cases a <;> decide
  codes_nodup := by decide

end ContextRobustness

/-- `any` is an unknown profile, or a context for another client interface. -/
inductive OpenGlProfile where
  | any | core | compat
  deriving DecidableEq, Repr, Inhabited

namespace OpenGlProfile

def code : OpenGlProfile → Int32
  | .any => 0
  | .core => 0x32001
  | .compat => 0x32002

def name : OpenGlProfile → String
  | .any => "Any"
  | .core => "Core"
  | .compat => "Compat"

instance : Coded OpenGlProfile where
  all := [.any, .core, .compat]
  code := code
  name := name
  mem_all := by intro a; cases a <;> decide
  codes_nodup := by decide

end OpenGlProfile

inductive WindowHint where
  | resizable (value : Bool)
  | visible (value : Bool)
  | decorated (value : Bool)
  | redBits (value : Int32)
  | greenBits (value : Int32)
  | blueBits (value : Int32)
  | alphaBits (value : Int32)
  | depthBits (value : Int32)
  | stencilBits (value : Int32)
  | accumRedBits (value : Int32)
  | accumGreenBits (value : Int32)
  | accumBlueBits (value : Int32)
  | accumAlphaBits (value : Int32)
  | auxBuffers (value : Int32)
  | samples (value : Int32)
  | refreshRate (value : Int32)
  | stereo (value : Bool)
  | srgbCapable (value : Bool)
  | clientApi (value : ClientApi)
  | contextVersionMajor (value : Int32)
  | contextVersionMinor (value : Int32)
  | contextRobustness (value : ContextRobustness)
  | openGlForwardCompat (value : Bool)
  | openGlDebugContext (value : Bool)
  | openGlProfile (value : OpenGlProfile)
  deriving DecidableEq, Repr

namespace WindowHint

/-- Hints that leave every attribute at its default. -/
def defaults : List WindowHint := []

def target : WindowHint → Attribute
  | .resizable _ => .resizable
  | .visible _ => .visible
  | .decorated _ => .decorated
  | .redBits _ => .redBits
  | .greenBits _ => .greenBits
  | .blueBits _ => .blueBits
  | .alphaBits _ => .alphaBits
  | .depthBits _ => .depthBits
  | .stencilBits _ => .stencilBits
  | .accumRedBits _ => .accumRedBits
  | .accumGreenBits _ => .accumGreenBits
  | .accumBlueBits _ => .accumBlueBits
  | .accumAlphaBits _ => .accumAlphaBits
  | .auxBuffers _ => .auxBuffers
  | .samples _ => .samples
  | .refreshRate _ => .refreshRate
  | .stereo _ => .stereo
  | .srgbCapable _ => .srgbCapable
  | .clientApi _ => .clientApi
  | .contextVersionMajor _ => .contextVersionMajor
  | .contextVersionMinor _ => .contextVersionMinor
  | .contextRobustness _ => .contextRobustness
  | .openGlForwardCompat _ => .openGlForwardCompat
  | .openGlDebugContext _ => .openGlDebugContext
  | .openGlProfile _ => .openGlProfile

def value : WindowHint → Int32
  | .resizable v | .visible v | .decorated v | .stereo v | .srgbCapable v
  | .openGlForwardCompat v | .openGlDebugContext v => Flag.code v
  | .redBits v | .greenBits v | .blueBits v | .alphaBits v | .depthBits v | .stencilBits v
  | .accumRedBits v | .accumGreenBits v | .accumBlueBits v | .accumAlphaBits v | .auxBuffers v
  | .samples v | .refreshRate v | .contextVersionMajor v | .contextVersionMinor v => v
  | .clientApi v => v.code
  | .contextRobustness v => v.code
  | .openGlProfile v => v.code

/-- The target's code and the value, as the native library takes them. -/
def raw (h : WindowHint) : Int32 × Int32 :=
  (h.target.code, h.value)

def payload : WindowHint → String
  | .resizable v | .visible v | .decorated v | .stereo v | .srgbCapable v
  | .openGlForwardCompat v | .openGlDebugContext v => if v then "true" else "false"
  | .redBits v | .greenBits v | .blueBits v | .alphaBits v | .depthBits v | .stencilBits v
  | .accumRedBits v | .accumGreenBits v | .accumBlueBits v | .accumAlphaBits v | .auxBuffers v
  | .samples v | .refreshRate v | .contextVersionMajor v | .contextVersionMinor v => toString v.toInt
  | .clientApi v => v.name
  | .contextRobustness v => v.name
  | .openGlProfile v => v.name

def text (h : WindowHint) : String :=
  s!"{h.target.name}({h.payload})"

/-- The hint for an attribute given by name: a flag, a number, or the member with that number as
its code. -/
def ofParts? (variant : String) (flag : Bool) (number : Int32) : Option WindowHint :=
  match variant with
  | "Resizable" => some (.resizable flag)
  | "Visible" => some (.visible flag)
  | "Decorated" => some (.decorated flag)
  | "RedBits" => some (.redBits number)
  | "GreenBits" => some (.greenBits number)
  | "BlueBits" => some (.blueBits number)
  | "AlphaBits" => some (.alphaBits number)
  | "DepthBits" => some (.depthBits number)
  | "StencilBits" => some (.stencilBits number)
  | "AccumRedBits" => some (.accumRedBits number)
  | "AccumGreenBits" => some (.accumGreenBits number)
  | "AccumBlueBits" => some (.accumBlueBits number)
  | "AccumAlphaBits" => some (.accumAlphaBits number)
  | "AuxBuffers" => some (.auxBuffers number)
  | "Samples" => some (.samples number)
  | "RefreshRate" => some (.refreshRate number)
  | "Stereo" => some (.stereo flag)
  | "SrgbCapable" => some (.srgbCapable flag)
  | "ClientApi" => (Coded.ofCode? ClientApi number).map .clientApi
  | "ContextVersionMajor" => some (.contextVersionMajor number)
  | "ContextVersionMinor" => some (.contextVersionMinor number)
  | "ContextRobustness" => (Coded.ofCode? ContextRobustness number).map .contextRobustness
  | "OpenGlForwardCompat" => some (.openGlForwardCompat flag)
  | "OpenGlDebugContext" => some (.openGlDebugContext flag)
  | "OpenGlProfile" => (Coded.ofCode? OpenGlProfile number).map .openGlProfile
  | _ => none

end WindowHint

end Windowing
