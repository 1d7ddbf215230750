import Windowing.Number.Binary

/-!
The shortest decimal that reads back as a given binary word.

Every finite word is a whole number of units `10 ^ -places`, so its rounding interval, too, is
measured in whole quarters of a unit and all comparisons are exact. For one digit, two digits and so
on, the two neighbours of the value on that decimal grid are tried; the first grid with a neighbour
inside the interval gives the digits, and of two neighbours inside it the nearer one is taken, the
upper one on a tie.
-/

namespace Windowing.Number

/-- `digits * 10 ^ exponent`. -/
structure Decimal where
  digits : Nat
  exponent : Int
  deriving DecidableEq, Repr

/-- A value of `units * 10 ^ -places`, with the distances to the ends of its rounding interval in
quarters of a unit. -/
structure Interval where
  units : Nat
  places : Nat
  below : Nat
  above : Nat
  closed : Bool
  deriving DecidableEq, Repr

def digitCount (n : Nat) : Nat :=
  (Nat.toDigits 10 n).length

namespace Interval

/-- The interval of reals that round to the word; its lower half is narrower at a power of two. -/
def ofWord (f : BinaryFormat) (w : Word) : Interval :=
  let m := f.significand w
  let q := f.scale w
  let unit := if 0 ≤ q then Nat.pow 2 q.toNat else Nat.pow 5 (-q).toNat
  { units := m * unit
    places := (-q).toNat
    below := if w.fraction = 0 ∧ 1 < w.exponent then unit else 2 * unit
    above := 2 * unit
    closed := m % 2 = 0 }

def within (i : Interval) (distance reach : Nat) : Bool :=
  4 * distance < reach || (i.closed && 4 * distance = reach)

/-- The decimal of the grid with `step` units that lies in the interval and is nearest. -/
def onGrid (i : Interval) (step : Nat) : Option Nat :=
  let lower := i.units / step
  let rest := i.units % step
  match i.within rest i.below, i.within (step - rest) i.above with
  | true, true => some (if 2 * rest < step then lower else lower + 1)
  | true, false => some lower
  | false, true => some (lower + 1)
  | false, false => none

def shortest (i : Interval) : Decimal :=
  let length := digitCount i.units
  let search := (List.range length).findSome? fun n =>
    (i.onGrid (Nat.pow 10 (length - 1 - n))).map fun digits =>
      (⟨digits, (length - 1 - n : Nat) - (i.places : Int)⟩ : Decimal)
  search.getD ⟨i.units, -i.places⟩

end Interval

end Windowing.Number
