import Windowing.Error

/-!
Gamma ramps: a table of 256 intensities for each of three channels, and the ramp that belongs to a
gamma exponent.
-/

namespace Windowing

def rampSize : Nat := 256

abbrev RampChannel := Vector UInt16 rampSize

structure GammaRamp where
  red : RampChannel
  green : RampChannel
  blue : RampChannel
  deriving DecidableEq, Repr

namespace GammaRamp

def zero : GammaRamp :=
  ⟨Vector.replicate rampSize 0, Vector.replicate rampSize 0, Vector.replicate rampSize 0⟩

instance : Inhabited GammaRamp := ⟨zero⟩

/-- The channels in the order in which the native library stores them. -/
def channels (r : GammaRamp) : Vector RampChannel 3 :=
  #v[r.red, r.green, r.blue]

def ofChannels (channels : Vector RampChannel 3) : GammaRamp :=
  ⟨channels[0], channels[1], channels[2]⟩

@[simp] theorem ofChannels_channels (r : GammaRamp) : ofChannels r.channels = r := rfl

def uniform (r : GammaRamp) : Bool :=
  r.red == r.green && r.green == r.blue

def validGamma (gamma : Float32) : Bool :=
  gamma.isFinite && 0 < gamma

def checkGamma (gamma : Float32) : Except Error Unit :=
  if validGamma gamma then .ok () else .error (.invalidGamma gamma)

/-- The intensity at one entry: the entry's share of the table raised to the exponent, scaled to 16
bits, rounded half up and limited to the largest intensity. -/
def entry (exponent : Float) (index : Nat) : UInt16 :=
  let share := index.toFloat / (rampSize - 1).toFloat
  let scaled := Float.pow share exponent * 65535 + 0.5
  (if scaled < 65535 then scaled else 65535).toUInt16

/-- The ramp of a gamma, which is the same on all channels. -/
def ofGamma (gamma : Float32) : Except Error GammaRamp := do
  checkGamma gamma
  let exponent := 1 / gamma.toFloat
  let channel : RampChannel := Vector.ofFn fun index => entry exponent index
  return ⟨channel, channel, channel⟩

/-- The channel with the entries `start`, `start + step` and so on, reduced to 16 bits. -/
def line (start step : Int) : RampChannel :=
  Vector.ofFn fun index => UInt16.ofNat ((start + step * (index.val : Int)) % 65536).toNat

end GammaRamp

end Windowing
