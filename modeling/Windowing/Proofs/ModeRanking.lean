import Windowing.VideoMode

/-!
The order of video modes in exact numbers. Two modes compare unless a depth leaves the 32-bit range.
Then they are ranked by depth and by area, both as numbers, with ties broken by width, by height and
by the red and green depths. The blue depth is never compared; it is what the red and green ones leave
of the sum, so modes of the same rank are the same.
-/

namespace Windowing

open Std

/-- Whether a number is a 32-bit word. -/
def FitsWord (n : Int) : Prop :=
  Int32.minValue.toInt ≤ n ∧ n ≤ Int32.maxValue.toInt

instance (n : Int) : Decidable (FitsWord n) :=
  inferInstanceAs (Decidable (_ ∧ _))

theorem checkedAdd_eq_none_iff {a b : Int32} :
    checkedAdd a b = none ↔ ¬FitsWord (a.toInt + b.toInt) := by
  simp [checkedAdd, FitsWord]

theorem compare_toInt32 (a b : Int32) : compare a b = compare a.toInt b.toInt := by
  change compareOfLessAndEq a b = compareOfLessAndEq a.toInt b.toInt
  simp only [compareOfLessAndEq, Int32.lt_iff_toInt_lt, ← Int32.toInt_inj]

theorem compare_toInt64 (a b : Int64) : compare a b = compare a.toInt b.toInt := by
  change compareOfLessAndEq a b = compareOfLessAndEq a.toInt b.toInt
  simp only [compareOfLessAndEq, Int64.lt_iff_toInt_lt, ← Int64.toInt_inj]

namespace VideoMode

variable {a b c m : VideoMode} {depthA depthB : Int32} {o : Ordering}

/-- The color depth as a number. -/
def bits (m : VideoMode) : Int :=
  m.redBits.toInt + m.greenBits.toInt + m.blueBits.toInt

/-- The area as a number. -/
def extent (m : VideoMode) : Int :=
  m.width.toInt * m.height.toInt

/-- A sum on the way to the depth leaves the 32-bit range. -/
def Overflows (m : VideoMode) : Prop :=
  ¬FitsWord (m.redBits.toInt + m.greenBits.toInt) ∨ ¬FitsWord m.bits

instance (m : VideoMode) : Decidable m.Overflows :=
  inferInstanceAs (Decidable (_ ∨ _))

theorem toInt_depth (h : m.depth? = some depthA) : depthA.toInt = m.bits := by
  obtain ⟨sum, first, second⟩ := Option.bind_eq_some_iff.1 h
  rw [checkedAdd_eq_some_iff] at first second
  rw [second, first, bits]

theorem depth?_eq_none_iff : m.depth? = none ↔ m.Overflows := by
  cases first : checkedAdd m.redBits m.greenBits with
  | none => simp [depth?, first, Overflows, ← checkedAdd_eq_none_iff]
  | some sum =>
    have fits : FitsWord (m.redBits.toInt + m.greenBits.toInt) := by
      rw [← Decidable.not_not (p := FitsWord _), ← checkedAdd_eq_none_iff, first]
      nofun
    have rest : sum.toInt + m.blueBits.toInt = m.bits := by
      rw [checkedAdd_eq_some_iff.1 first, bits]
    simp [depth?, first, checkedAdd_eq_none_iff, rest, Overflows, fits]

/-- The 64-bit product of the two lengths is their product as numbers, and within its range. -/
theorem extent_fits (m : VideoMode) : m.area.toInt = m.extent ∧
    Int64.minValue.toInt ≤ m.extent ∧ m.extent ≤ Int64.maxValue.toInt := by
  have exact := toInt_area m
  refine ⟨exact, ?_⟩
  rw [extent, ← exact]
  exact ⟨m.area.minValue_le_toInt, m.area.toInt_le⟩

/-! ### Ranks -/

/-- The order of all modes, also of those whose depth overflows. -/
def rank : VideoMode → VideoMode → Ordering :=
  compareLex (compareOn bits) <| compareLex (compareOn extent) <|
    compareLex (compareOn (·.width)) <| compareLex (compareOn (·.height)) <|
    compareLex (compareOn (·.redBits)) (compareOn (·.greenBits))

instance : TransCmp rank :=
  inferInstanceAs (TransCmp (compareLex (compareOn bits) _))

theorem eq_of_rank (h : rank a b = .eq) : a = b := by
  simp only [rank, compareLex_eq_eq, compareOn, Std.compare_eq_iff_eq] at h
  obtain ⟨sum, -, width, height, red, green⟩ := h
  -- Equal depths with equal red and green parts leave the same blue part.
  have blue : a.blueBits = b.blueBits := by
    rw [bits, bits, red, green] at sum
    exact Int32.toInt_inj.1 (by omega)
  cases a
  cases b
  simp_all

instance : LawfulEqCmp rank where
  compare_self := ReflCmp.compare_self
  eq_of_compare := eq_of_rank

theorem rank_of_bits (deeper : a.bits < b.bits) : rank a b = .lt := by
  simp [rank, compareLex, compareOn, Int.compare_eq_lt.2 deeper]

theorem rank_of_extent (same : a.bits = b.bits) (larger : a.extent < b.extent) :
    rank a b = .lt := by
  simp [rank, compareLex, compareOn, same, Int.compare_eq_lt.2 larger]

theorem compareAt_eq_rank (ha : depthA.toInt = a.bits) (hb : depthB.toInt = b.bits) :
    compareAt depthA a depthB b = rank a b := by
  simp only [compareAt, rank, compareLex, compareOn, compare_toInt32 depthA, compare_toInt64,
    toInt_area, extent, ha, hb, Ordering.then_assoc]

/-- Two modes compare by rank unless the depth of one of them overflows. -/
theorem compare?_eq (a b : VideoMode) :
    compare? a b = if a.Overflows ∨ b.Overflows then none else some (rank a b) := by
  simp only [← depth?_eq_none_iff]
  cases ha : a.depth? with
  | none => simp [compare?, ha]
  | some depthA =>
    cases hb : b.depth? with
    | none => simp [compare?, ha, hb]
    | some depthB =>
      simp [compare?, ha, hb, compareAt_eq_rank (toInt_depth ha) (toInt_depth hb)]

theorem compare?_eq_none_iff : compare? a b = none ↔ a.Overflows ∨ b.Overflows := by
  simp [compare?_eq, Decidable.or_iff_not_imp_left]

theorem compare?_eq_some_iff :
    compare? a b = some o ↔ ¬a.Overflows ∧ ¬b.Overflows ∧ rank a b = o := by
  simp [compare?_eq, and_assoc]

/-- Comparing two modes panics exactly if the depth of one of them overflows, in either direction; the
area never does. All other modes are totally ordered: equal only to themselves, reversed when they
change places, and transitively, with the same order as a partial one. Depth decides first, then the
area. -/
theorem mode_order :
    (∀ a b : VideoMode, (compare? a b = none ↔ a.Overflows ∨ b.Overflows) ∧
      (compare? a b = none ↔ compare? b a = none)) ∧
    (∀ m : VideoMode, m.area.toInt = m.extent ∧
      Int64.minValue.toInt ≤ m.extent ∧ m.extent ≤ Int64.maxValue.toInt) ∧
    (∀ (a b : VideoMode) (o : Ordering), compare? a b = some o → (o = .eq ↔ a = b) ∧
      compare? b a = some o.swap ∧ partialCompare? a b = some (some o) ∧
      (a.bits < b.bits → o = .lt) ∧ (a.bits = b.bits → a.extent < b.extent → o = .lt)) ∧
    ∀ (a b c : VideoMode) (first second : Ordering), compare? a b = some first →
      compare? b c = some second → first.isLE → second.isLE → ∃ both, compare? a c = some both ∧
        both.isLE ∧ (both = .eq → first = .eq ∧ second = .eq) := by
  refine ⟨fun a b => ⟨compare?_eq_none_iff, ?_⟩, extent_fits, fun a b o h => ?_, ?_⟩
  · rw [compare?_eq_none_iff, compare?_eq_none_iff]
    exact Or.comm
  · obtain ⟨ha, hb, rfl⟩ := compare?_eq_some_iff.1 h
    refine ⟨LawfulEqCmp.compare_eq_iff_eq, ?_, by simp [partialCompare?, h], fun deeper => ?_,
      fun same larger => ?_⟩
    · exact compare?_eq_some_iff.2 ⟨hb, ha, OrientedCmp.eq_swap⟩
    · exact rank_of_bits deeper
    · exact rank_of_extent same larger
  · intro a b c first second h h' le le'
    obtain ⟨ha, -, rfl⟩ := compare?_eq_some_iff.1 h
    obtain ⟨-, hc, rfl⟩ := compare?_eq_some_iff.1 h'
    refine ⟨rank a c, compare?_eq_some_iff.2 ⟨ha, hc, rfl⟩, TransCmp.isLE_trans le le', ?_⟩
    intro same
    obtain rfl := eq_of_rank same
    have both : rank a b = .eq := OrientedCmp.isLE_antisymm le le'
    exact ⟨both, OrientedCmp.eq_symm both⟩

/-- A mode of the greatest depth there is. -/
def deepest : VideoMode := ⟨640, 480, 2147483647, 0, 0⟩

/-- The same depth and area, from other parts. -/
def mirrored : VideoMode := ⟨-640, -480, 2147483646, 1, 0⟩

def colorless : VideoMode := ⟨1920, 1080, 0, 0, 0⟩

theorem mode_order_deepest : compare? mirrored deepest = some .lt ∧
    compare? deepest mirrored = some .gt ∧ compare? colorless mirrored = some .lt ∧
    ∃ both, compare? colorless deepest = some both ∧ both.isLE := by
  have near : compare? mirrored deepest = some .lt := by decide +kernel
  have far : compare? colorless mirrored = some .lt := by decide +kernel
  obtain ⟨both, compared, le, -⟩ := mode_order.2.2.2 _ _ _ _ _ far near rfl rfl
  exact ⟨near, (mode_order.2.2.1 _ _ _ near).2.1, far, both, compared, le⟩

end VideoMode

end Windowing
