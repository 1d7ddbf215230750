/-!
Video modes and their order: by color depth, then by area, then by width, height and the red and
green depths. The depth is a checked 32-bit sum, so two modes compare only if both depths fit.
-/

namespace Windowing

structure VideoMode where
  width : Int32
  height : Int32
  redBits : Int32
  greenBits : Int32
  blueBits : Int32
  deriving DecidableEq, Repr, Inhabited

/-- The sum of two words, if it is a word. -/
def checkedAdd (a b : Int32) : Option Int32 :=
  let sum := a.toInt + b.toInt
  if Int32.minValue.toInt ≤ sum ∧ sum ≤ Int32.maxValue.toInt then some (Int32.ofInt sum) else none

theorem checkedAdd_eq_some_iff {a b c : Int32} :
    checkedAdd a b = some c ↔ c.toInt = a.toInt + b.toInt := by
  have hmin : Int32.minValue.toInt = -2147483648 := rfl
  have hmax : Int32.maxValue.toInt = 2147483647 := rfl
  have hc := c.le_toInt
  have hc' := c.toInt_lt
  simp only [checkedAdd, hmin, hmax]
  split
  · rename_i h
    rw [Option.some.injEq, ← Int32.toInt_inj, Int32.toInt_ofInt_of_le (by omega) (by omega)]
    exact eq_comm
  · simp only [reduceCtorEq, false_iff]
    omega

namespace VideoMode

/-- The mode that the native library gives when it has none. -/
def zero : VideoMode := ⟨0, 0, 0, 0, 0⟩

/-- Bits per pixel, unless a sum leaves the 32-bit range. -/
def depth? (m : VideoMode) : Option Int32 := do
  checkedAdd (← checkedAdd m.redBits m.greenBits) m.blueBits

/-- The product of two 32-bit lengths, which always fits 64 bits. -/
def area (m : VideoMode) : Int64 :=
  m.width.toInt64 * m.height.toInt64

theorem toInt_area (m : VideoMode) : m.area.toInt = m.width.toInt * m.height.toInt := by
  have hw := m.width.le_toInt
  have hw' := m.width.toInt_lt
  have hh := m.height.le_toInt
  have hh' := m.height.toInt_lt
  have h : (m.width.toInt * m.height.toInt).natAbs ≤ 2 ^ 31 * 2 ^ 31 := by
    rw [Int.natAbs_mul]
    exact Nat.mul_le_mul (by omega) (by omega)
  simp only [area, Int64.toInt_mul, Int32.toInt_toInt64]
  exact Int.bmod_eq_of_le (by omega) (by omega)

/-- The order of two modes whose depths are given. -/
def compareAt (depthA : Int32) (a : VideoMode) (depthB : Int32) (b : VideoMode) : Ordering :=
  (compare depthA depthB)
    |>.then (compare a.area b.area)
    |>.then (compare a.width b.width)
    |>.then (compare a.height b.height)
    |>.then (compare a.redBits b.redBits)
    |>.then (compare a.greenBits b.greenBits)

def compare? (a b : VideoMode) : Option Ordering := do
  let depthA ← a.depth?
  let depthB ← b.depth?
  return compareAt depthA a depthB b

/-- The order as a partial one, which relates any two modes that compare at all. -/
def partialCompare? (a b : VideoMode) : Option (Option Ordering) :=
  (compare? a b).map some

/-- A depth that overflows is noticed only when a comparison asks for it, so a list of fewer than
two modes always sorts. -/
def sort? (modes : List VideoMode) : Option (List VideoMode) :=
  if modes.length < 2 then some modes
  else do
    let keyed ← modes.mapM fun m => m.depth?.map fun depth => (depth, m)
    let sorted := keyed.mergeSort fun a b => (compareAt a.1 a.2 b.1 b.2).isLE
    return sorted.map (·.2)

def fields (m : VideoMode) : List Int32 :=
  [m.width, m.height, m.redBits, m.greenBits, m.blueBits]

/-- The mode with the given fields; a field that is not given is 0. -/
def ofFields (fields : List Int32) : VideoMode where
  width := fields.getD 0 0
  height := fields.getD 1 0
  redBits := fields.getD 2 0
  greenBits := fields.getD 3 0
  blueBits := fields.getD 4 0

@[simp] theorem ofFields_fields (m : VideoMode) : ofFields m.fields = m := rfl

def text (m : VideoMode) : String :=
  s!"VidMode \x7b width: {m.width.toInt}, height: {m.height.toInt}, red_bits: {m.redBits.toInt}, " ++
    s!"green_bits: {m.greenBits.toInt}, blue_bits: {m.blueBits.toInt} \x7d"

end VideoMode

end Windowing
