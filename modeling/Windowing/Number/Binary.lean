/-!
Binary floating-point words, taken apart into sign, significand and exponent. A finite word has the
value `significand * 2 ^ (exponent - bias)`, where the exponent field 0 counts as 1 and adds no
leading bit.
-/

namespace Windowing.Number

structure BinaryFormat where
  fractionBits : Nat
  exponentBits : Nat
  bias : Nat
  deriving DecidableEq, Repr

def binary32 : BinaryFormat := ⟨23, 8, 150⟩
def binary64 : BinaryFormat := ⟨52, 11, 1075⟩

/-- The bits of a word: its sign, its biased exponent and its fraction. -/
structure Word where
  negative : Bool
  exponent : Nat
  fraction : Nat
  deriving DecidableEq, Repr

namespace BinaryFormat

def unpack (f : BinaryFormat) (bits : Nat) : Word where
  negative := bits / Nat.pow 2 (f.fractionBits + f.exponentBits) % 2 = 1
  exponent := bits / Nat.pow 2 f.fractionBits % Nat.pow 2 f.exponentBits
  fraction := bits % Nat.pow 2 f.fractionBits

/-- The exponent field that marks infinities and NaNs. -/
def special (f : BinaryFormat) : Nat :=
  Nat.pow 2 f.exponentBits - 1

def significand (f : BinaryFormat) (w : Word) : Nat :=
  if w.exponent = 0 then w.fraction else Nat.pow 2 f.fractionBits + w.fraction

/-- The power of two by which the significand is scaled. -/
def scale (f : BinaryFormat) (w : Word) : Int :=
  (max w.exponent 1 : Nat) - (f.bias : Int)

end BinaryFormat

end Windowing.Number
