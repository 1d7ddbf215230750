import Windowing.Coded

/-!
The attributes of a window and its context, by which hints are given and parameters are read.
-/

namespace Windowing

inductive Attribute where
  | focused | iconified | resizable | visible | decorated | redBits | greenBits | blueBits
  | alphaBits | depthBits | stencilBits | accumRedBits | accumGreenBits | accumBlueBits
  | accumAlphaBits | auxBuffers | stereo | samples | srgbCapable | refreshRate | clientApi
  | contextVersionMajor | contextVersionMinor | contextRevision | contextRobustness
  | openGlForwardCompat | openGlDebugContext | openGlProfile
  deriving DecidableEq, Repr, Inhabited

namespace Attribute

def all : List Attribute :=
  [.focused, .iconified, .resizable, .visible, .decorated, .redBits, .greenBits, .blueBits,
   .alphaBits, .depthBits, .stencilBits, .accumRedBits, .accumGreenBits, .accumBlueBits,
   .accumAlphaBits, .auxBuffers, .stereo, .samples, .srgbCapable, .refreshRate, .clientApi,
   .contextVersionMajor, .contextVersionMinor, .contextRevision, .contextRobustness,
   .openGlForwardCompat, .openGlDebugContext, .openGlProfile]

def code : Attribute → Int32
  | .focused => 0x20001
  | .iconified => 0x20002
  | .resizable => 0x20003
  | .visible => 0x20004
  | .decorated => 0x20005
  | .redBits => 0x21001
  | .greenBits => 0x21002
  | .blueBits => 0x21003
  | .alphaBits => 0x21004
  | .depthBits => 0x21005
  | .stencilBits => 0x21006
  | .accumRedBits => 0x21007
  | .accumGreenBits => 0x21008
  | .accumBlueBits => 0x21009
  | .accumAlphaBits => 0x2100a
  | .auxBuffers => 0x2100b
  | .stereo => 0x2100c
  | .samples => 0x2100d
  | .srgbCapable => 0x2100e
  | .refreshRate => 0x2100f
  | .clientApi => 0x22001
  | .contextVersionMajor => 0x22002
  | .contextVersionMinor => 0x22003
  | .contextRevision => 0x22004
  | .contextRobustness => 0x22005
  | .openGlForwardCompat => 0x22006
  | .openGlDebugContext => 0x22007
  | .openGlProfile => 0x22008

def name : Attribute → String
  | .focused => "Focused"
  | .iconified => "Iconified"
  | .resizable => "Resizable"
  | .visible => "Visible"
  | .decorated => "Decorated"
  | .redBits => "RedBits"
  | .greenBits => "GreenBits"
  | .blueBits => "BlueBits"
  | .alphaBits => "AlphaBits"
  | .depthBits => "DepthBits"
  | .stencilBits => "StencilBits"
  | .accumRedBits => "AccumRedBits"
  | .accumGreenBits => "AccumGreenBits"
  | .accumBlueBits => "AccumBlueBits"
  | .accumAlphaBits => "AccumAlphaBits"
  | .auxBuffers => "AuxBuffers"
  | .stereo => "Stereo"
  | .samples => "Samples"
  | .srgbCapable => "SrgbCapable"
  | .refreshRate => "RefreshRate"
  | .clientApi => "ClientApi"
  | .contextVersionMajor => "ContextVersionMajor"
  | .contextVersionMinor => "ContextVersionMinor"
  | .contextRevision => "ContextRevision"
  | .contextRobustness => "ContextRobustness"
  | .openGlForwardCompat => "OpenGlForwardCompat"
  | .openGlDebugContext => "OpenGlDebugContext"
  | .openGlProfile => "OpenGlProfile"

instance : Coded Attribute where
  all := all
  code := code
  name := name
  mem_all := by intro a; cases a <;> decide
  codes_nodup := by decide +kernel

end Attribute

end Windowing
