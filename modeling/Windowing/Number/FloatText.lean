import Windowing.Number.Shortest

/-!
The text of a floating-point number: its shortest digits, laid out by a `Layout`. The two layouts in
use are `plain`, which is always positional, and `general`, which keeps a fraction and turns to an
exponent for very large and very small magnitudes.
-/

namespace Windowing.Number

structure Layout where
  /-- At least this many digits follow the point. -/
  minPlaces : Nat
  /-- The leading digits' exponents that are written positionally; `none` for all. -/
  positional : Option (Int × Int)
  deriving DecidableEq, Repr

def Layout.plain : Layout := ⟨0, none⟩

/-- Positional from 0.0001 up to, and not including, 10 ^ 16, and with at least one place. -/
def Layout.general : Layout := ⟨1, some (-4, 15)⟩

namespace Decimal

/-- The digits without trailing zeros, and the exponent of the leading one. -/
def leading (d : Decimal) : List Char × Int :=
  let all := Nat.toDigits 10 d.digits
  let kept := (all.reverse.dropWhile (· == '0')).reverse
  (kept, d.exponent + all.length - 1)

def withPoint (whole fraction : List Char) : List Char :=
  if fraction.isEmpty then whole else whole ++ '.' :: fraction

def positional (minPlaces : Nat) (digits : List Char) (exponent : Int) : List Char :=
  let wholeLength := (exponent + 1).toNat
  let padded := List.replicate (-exponent - 1).toNat '0' ++ digits
  let whole := if exponent < 0 then ['0'] else
    digits.take wholeLength ++ List.replicate (wholeLength - digits.length) '0'
  let fraction := if exponent < 0 then padded else digits.drop wholeLength
  withPoint whole (fraction ++ List.replicate (minPlaces - fraction.length) '0')

def scientific (digits : List Char) (exponent : Int) : List Char :=
  withPoint (digits.take 1) (digits.drop 1) ++ 'e' :: (toString exponent).toList

def text (layout : Layout) (d : Decimal) : List Char :=
  let (digits, exponent) := d.leading
  match layout.positional with
  | none => positional layout.minPlaces digits exponent
  | some (low, high) =>
    if low ≤ exponent ∧ exponent ≤ high then positional layout.minPlaces digits exponent
    else scientific digits exponent

end Decimal

/-- The text of the word with the given bits; zero is always positional. -/
def BinaryFormat.text (f : BinaryFormat) (layout : Layout) (bits : Nat) : String :=
  let w := f.unpack bits
  let magnitude :=
    if w.exponent = f.special then
      if w.fraction = 0 then "inf".toList else "NaN".toList
    else if f.significand w = 0 then Decimal.positional layout.minPlaces ['0'] 0
    else (Interval.ofWord f w).shortest.text layout
  let signed := w.negative && !(w.exponent = f.special && w.fraction ≠ 0)
  String.ofList (if signed then '-' :: magnitude else magnitude)

/-- Never with an exponent, and a whole number without a point. -/
def plain32 (x : Float32) : String :=
  binary32.text .plain x.toBits.toNat

def general64 (x : Float) : String :=
  binary64.text .general x.toBits.toNat

end Windowing.Number
