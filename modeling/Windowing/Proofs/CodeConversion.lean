import Mathlib.Data.List.Chain
import Windowing.Error
import Windowing.Hint
import Windowing.Input
import Windowing.Key
import Windowing.Proofs.ModeSorting

/-!
Conversion of native codes. An integer is converted to a member of an enumeration in one of two ways:
it is compared with the codes, or, if it lies between two bounds, it is taken for a member as it is. The
latter only has a meaning if every integer between the bounds is a code. Whichever way is used, exactly
the codes are converted, and members are sorted as their codes are.
-/

namespace Windowing

open Std

variable {α : Type} [Coded α]

namespace Coded

variable {first last : Int32} {a b : α}

theorem ofCode?_eq_none_iff {c : Int32} : ofCode? α c = none ↔ ¬∃ a : α, code a = c := by
  simp [ofCode?, List.find?_eq_none, mem_all]

instance (c : Int32) : Decidable (∃ a : α, code a = c) :=
  decidable_of_iff (∃ a ∈ (all : List α), code a = c) (by simp [mem_all])

/-- The codes are the integers from the first to the last. -/
structure Consecutive (α : Type) [Coded α] (first last : Int32) : Prop where
  codes : (all : List α).map (fun a => (code a).toInt) =
    (List.range (all : List α).length).map fun k => first.toInt + Int.ofNat k
  last : last.toInt + 1 = first.toInt + (all : List α).length

theorem Consecutive.exists_code_iff (h : Consecutive α first last) (c : Int32) :
    (∃ a : α, code a = c) ↔ first.toInt ≤ c.toInt ∧ c.toInt ≤ last.toInt := by
  have listed : (∃ a : α, code a = c) ↔
      c.toInt ∈ (List.range (all : List α).length).map fun k => first.toInt + Int.ofNat k := by
    rw [← h.codes]
    simp [mem_all, Int32.toInt_inj]
  have bound := h.last
  rw [listed]
  simp only [List.mem_map, List.mem_range]
  constructor
  · rintro ⟨k, below, same⟩
    simp only [Int.ofNat_eq_natCast] at same
    omega
  · rintro ⟨low, high⟩
    refine ⟨(c.toInt - first.toInt).toNat, by omega, ?_⟩
    simp only [Int.ofNat_eq_natCast]
    omega

/-! ### Order -/

def order : α → α → Ordering :=
  compareOn code

instance : TransCmp (@order α _) :=
  inferInstanceAs (TransCmp (compareOn code))

instance : LawfulEqCmp (@order α _) where
  eq_of_compare h := code_injective (compare_eq_iff_eq.1 h)

theorem order_eq (a b : α) : order a b = compare (code a).toInt (code b).toInt :=
  compare_toInt32 _ _

theorem isLE_order : (order a b).isLE ↔ (code a).toInt ≤ (code b).toInt := by
  rw [order_eq, Int.isLE_compare]

/-- Members stand in a list at the places given, and their codes ascend along it. -/
structure Ordered (place : α → ℕ) (members : List α) : Prop where
  places : ∀ a ∈ members, members[place a]? = some a
  ascends : members.IsChain fun a b => (code a).toInt < (code b).toInt

theorem Ordered.order_eq {place : α → ℕ} {members : List α} (h : Ordered place members)
    (ha : a ∈ members) (hb : b ∈ members) : order a b = compare (place a) (place b) := by
  have pairwise : members.Pairwise fun a b => (code a).toInt < (code b).toInt := by
    have trans : IsTrans α fun a b => (code a).toInt < (code b).toInt :=
      ⟨fun _ _ _ => Int.lt_trans⟩
    exact List.isChain_iff_pairwise.1 h.ascends
  have less {a b : α} (ha : a ∈ members) (hb : b ∈ members) (lt : place a < place b) :
      (code a).toInt < (code b).toInt := by
    obtain ⟨inside, at_a⟩ := List.getElem?_eq_some_iff.1 (h.places a ha)
    obtain ⟨inside', at_b⟩ := List.getElem?_eq_some_iff.1 (h.places b hb)
    rw [← at_a, ← at_b]
    exact List.pairwise_iff_getElem.1 pairwise _ _ inside inside' lt
  rw [Coded.order_eq]
  rcases Nat.lt_trichotomy (place a) (place b) with lt | same | gt
  · rw [Int.compare_eq_lt.2 (less ha hb lt), Nat.compare_eq_lt.2 lt]
  · have : a = b := Option.some.inj ((h.places a ha).symm.trans (same ▸ h.places b hb))
    rw [this, Int.compare_eq_eq.2 rfl, Nat.compare_eq_eq.2 rfl]
  · rw [Int.compare_eq_gt.2 (less hb ha gt), Nat.compare_eq_gt.2 gt]

theorem sort_eq (members : List α) :
    sort members = members.mergeSort fun a b => (order a b).isLE := by
  have same : (fun a b : α => decide ((code a).toInt ≤ (code b).toInt)) =
      fun a b => (order a b).isLE := by
    funext a b
    rw [Bool.eq_iff_iff, decide_eq_true_iff, isLE_order]
  rw [sort, same]

theorem sort_perm (members : List α) : (sort members).Perm members := by
  rw [sort_eq]
  exact List.mergeSort_perm _ _

theorem sort_ascends (members : List α) :
    (sort members).Pairwise fun a b => (order a b).isLE := by
  rw [sort_eq]
  exact Sorting.ascends_mergeSort members

/-- Of the integers the codes are left. -/
theorem map_code_filterMap (integers : List Int32) :
    (integers.filterMap (ofCode? α)).map code =
      integers.filter fun v => ∃ a : α, code a = v := by
  induction integers with
  | nil => rfl
  | cons v integers ih =>
    cases found : ofCode? α v with
    | some a =>
      have same := ofCode?_eq_some_iff.1 found
      have kept : decide (∃ a : α, code a = v) = true := decide_eq_true ⟨a, same⟩
      rw [List.filterMap_cons_some found, List.map_cons, ih, same, List.filter_cons, if_pos kept]
    | none =>
      have dropped : ¬decide (∃ a : α, code a = v) = true := by
        simpa using ofCode?_eq_none_iff.1 found
      rw [List.filterMap_cons_none found, ih, List.filter_cons, if_neg dropped]

theorem map_code_sort (integers : List Int32) :
    let codes := (sort (integers.filterMap (ofCode? α))).map code
    codes.Perm (integers.filter fun v => ∃ a : α, code a = v) ∧ codes.Pairwise (· ≤ ·) := by
  constructor
  · rw [← map_code_filterMap]
    exact (sort_perm _).map code
  · refine List.pairwise_map.2 ((sort_ascends _).imp fun le => ?_)
    exact Int32.le_iff_toInt_le.2 (isLE_order.1 le)

end Coded

/-! ### Ways of conversion -/

inductive Conversion (α : Type) where
  | arms (table : List (Int32 × α))
  | range (first last : Int32)

namespace Conversion

/-- The member that an integer is converted to, or the integer if it is left alone. Nothing is known of
the outcome if an integer between the bounds is no code. -/
def convert? : Conversion α → Int32 → Option (Except Int32 α)
  | .arms table, v => some <|
    match table.lookup v with
    | some a => .ok a
    | none => .error v
  | .range first last, v =>
    if first ≤ v ∧ v ≤ last then (Coded.ofCode? α v).map .ok else some (.error v)

/-- There is an arm for each code, or the bounds are those of the codes. -/
def Fits : Conversion α → Prop
  | .arms table => table = Coded.all.map fun a => (Coded.code a, a)
  | .range first last => Coded.Consecutive α first last

theorem lookup_arms (members : List α) (v : Int32) :
    (members.map fun a => (Coded.code a, a)).lookup v = members.find? (Coded.code · == v) := by
  induction members with
  | nil => rfl
  | cons a members ih => rw [List.map_cons, List.lookup_cons, List.find?_cons, ih, BEq.comm]

theorem Fits.between_iff {first last : Int32} (h : (range first last : Conversion α).Fits)
    (v : Int32) : first ≤ v ∧ v ≤ last ↔ ∃ a : α, Coded.code a = v := by
  rw [Coded.Consecutive.exists_code_iff h, Int32.le_iff_toInt_le, Int32.le_iff_toInt_le]

/-- If all codes and no other integers are taken for members, each is converted to the one it is of. -/
theorem Fits.convert?_eq {c : Conversion α} (h : c.Fits) (v : Int32) :
    c.convert? v = some (match Coded.ofCode? α v with
      | some a => .ok a
      | none => .error v) := by
  cases c with
  | arms table =>
    change table = _ at h
    rw [h, convert?, lookup_arms]
    rfl
  | range first last =>
    -- Only here an outcome could be missing; an integer between the bounds is a code.
    rw [convert?]
    cases found : Coded.ofCode? α v with
    | some a =>
      rw [if_pos (h.between_iff v |>.2 ⟨a, Coded.ofCode?_eq_some_iff.1 found⟩)]
      rfl
    | none =>
      have outside := Coded.ofCode?_eq_none_iff.1 found
      rw [if_neg fun between => outside (h.between_iff v |>.1 between)]

end Conversion

theorem MouseButton.consecutive : Coded.Consecutive MouseButton 0 7 := ⟨by decide, by decide⟩

theorem Action.consecutive : Coded.Consecutive Action 0 2 := ⟨by decide, by decide⟩

theorem Joystick.consecutive : Coded.Consecutive Joystick 0 15 := ⟨by decide, by decide⟩

theorem ErrorKind.consecutive : Coded.Consecutive ErrorKind 0x70001 0x70009 :=
  ⟨by decide, by decide⟩

/-- The enumerations that integers are converted to. -/
inductive Enumeration : (α : Type) → [Coded α] → Type where
  | key : Enumeration Key
  | mouseButton : Enumeration MouseButton
  | action : Enumeration Action
  | cursorMode : Enumeration CursorMode
  | joystick : Enumeration Joystick
  | errorKind : Enumeration ErrorKind
  | clientApi : Enumeration ClientApi
  | contextRobustness : Enumeration ContextRobustness
  | openGlProfile : Enumeration OpenGlProfile

namespace Enumeration

def conversion : Enumeration α → Conversion α
  | .key => .arms (Key.all.map fun key => (key.code, key))
  | .mouseButton => .range 0 7
  | .action => .range 0 2
  | .cursorMode => .arms [(0x34001, .normal), (0x34002, .hidden), (0x34003, .captured)]
  | .joystick => .range 0 15
  | .errorKind => .range 0x70001 0x70009
  | .clientApi => .arms [(0x30001, .openGl), (0x30002, .openGlEs)]
  | .contextRobustness =>
    .arms [(0, .none), (0x31001, .noResetNotification), (0x31002, .loseContextOnReset)]
  | .openGlProfile => .arms [(0, .any), (0x32001, .core), (0x32002, .compat)]

theorem conversion_fits (E : Enumeration α) : E.conversion.Fits := by
  cases E with
  | key | cursorMode | clientApi | contextRobustness | openGlProfile => rfl
  | mouseButton => exact MouseButton.consecutive
  | action => exact Action.consecutive
  | joystick => exact Joystick.consecutive
  | errorKind => exact ErrorKind.consecutive

theorem converts (E : Enumeration α) (v : Int32) :
    ∃ outcome, E.conversion.convert? v = some outcome ∧
      outcome.toOption = Coded.ofCode? α v ∧ (∀ a, outcome = .ok a ↔ Coded.code a = v) ∧
      ∀ u, outcome = .error u ↔ u = v ∧ ∀ a : α, Coded.code a ≠ v := by
  refine ⟨_, E.conversion_fits.convert?_eq v, ?_⟩
  cases found : Coded.ofCode? α v with
  | some a =>
    have same := Coded.ofCode?_eq_some_iff.1 found
    refine ⟨rfl, fun b => ⟨?_, fun h => ?_⟩, fun u => ⟨nofun, fun none => absurd same (none.2 a)⟩⟩
    · rintro ⟨⟩
      exact same
    · rw [Coded.code_injective (same.trans h.symm)]
  | none =>
    have none : ∀ a : α, Coded.code a ≠ v := fun a h => Coded.ofCode?_eq_none_iff.1 found ⟨a, h⟩
    exact ⟨rfl, fun a => ⟨nofun, fun h => absurd h (none a)⟩, fun u => by simp [none, eq_comm]⟩

/-- The members to which integers are converted, without the integers that are left alone. -/
def converted (E : Enumeration α) (integers : List Int32) : List α :=
  integers.filterMap fun v => (E.conversion.convert? v).bind Except.toOption

theorem converted_eq (E : Enumeration α) (integers : List Int32) :
    E.converted integers = integers.filterMap (Coded.ofCode? α) := by
  have same : (fun v => (E.conversion.convert? v).bind Except.toOption) = Coded.ofCode? α := by
    funext v
    obtain ⟨outcome, converts, same, -⟩ := E.converts v
    rw [converts, ← same]
    rfl
  rw [converted, same]

theorem sorts (E : Enumeration α) {sort : List α → Sorting α} (known : Sorting.Sorts sort)
    (integers : List Int32) : (sort (E.converted integers)).answer Coded.order =
      Coded.sort (integers.filterMap (Coded.ofCode? α)) := by
  have perm := known.perm Coded.order (E.converted integers)
  rw [← E.converted_eq]
  exact Sorting.eq_of_ascends (perm.trans (Coded.sort_perm _).symm)
    (known.ascends Coded.order (E.converted integers)) (Coded.sort_ascends _)

end Enumeration

/-! ### Declaration -/

theorem MouseButton.ordered : Coded.Ordered MouseButton.ctorIdx Coded.all :=
  ⟨by decide, by decide⟩

theorem Action.ordered : Coded.Ordered Action.ctorIdx Coded.all := ⟨by decide, by decide⟩

theorem Joystick.ordered : Coded.Ordered Joystick.ctorIdx Coded.all := ⟨by decide, by decide⟩

/-- The unknown key is the last of the keys that are declared. -/
theorem Key.ordered : Coded.Ordered Key.ctorIdx Key.all.dropLast :=
  ⟨by decide +kernel, by decide +kernel⟩

theorem Key.mem_of_known {key : Key} (known : key ≠ .unknown) : key ∈ Key.all.dropLast := by
  have all : ∀ key ∈ Key.all, key ≠ .unknown → key ∈ Key.all.dropLast := by decide +kernel
  exact all key (Coded.mem_all key) known

theorem Key.unknown_least (key : Key) (known : key ≠ .unknown) :
    Coded.order .unknown key = .lt ∧ key.ctorIdx < Key.unknown.ctorIdx := by
  have all : ∀ key ∈ Key.all, key ≠ .unknown →
      Coded.order .unknown key = .lt ∧ key.ctorIdx < Key.unknown.ctorIdx := by
    decide +kernel
  exact all key (Coded.mem_all key) known

/-- Every integer is converted with a known outcome: a code to the member whose it is, any other integer
not at all. So members have different codes, and the bounds within which integers are taken for members
are those of the codes. Members are in the order of their codes, which is the order of their declaration
but for the unknown key: it is declared last and the least. Whichever sort is used, the members to which
a list of integers is converted are sorted so that their codes ascend, and they are those of the list,
each as often as it is there. -/
theorem enumeration_conversion :
    (∀ {α : Type} [Coded α] (E : Enumeration α),
      (∀ v, ∃ outcome, E.conversion.convert? v = some outcome ∧
        outcome.toOption = Coded.ofCode? α v ∧ (∀ a, outcome = .ok a ↔ Coded.code a = v) ∧
        ∀ u, outcome = .error u ↔ u = v ∧ ∀ a : α, Coded.code a ≠ v) ∧
      (∀ a b : α, Coded.code a = Coded.code b → a = b) ∧
      (∀ first last, E.conversion = .range first last →
        ∀ v, first ≤ v ∧ v ≤ last ↔ ∃ a : α, Coded.code a = v) ∧
      (∀ a b : α, Coded.order a b = compare (Coded.code a).toInt (Coded.code b).toInt) ∧
      ∀ sort : List α → Sorting α, Sorting.Sorts sort → ∀ integers : List Int32,
        let sorted := (sort (E.converted integers)).answer Coded.order
        sorted = Coded.sort (integers.filterMap (Coded.ofCode? α)) ∧
        (sorted.map Coded.code).Perm (integers.filter fun v => ∃ a : α, Coded.code a = v) ∧
        (sorted.map Coded.code).Pairwise (· ≤ ·)) ∧
    (∀ a b : MouseButton, Coded.order a b = compare a.ctorIdx b.ctorIdx) ∧
    (∀ a b : Action, Coded.order a b = compare a.ctorIdx b.ctorIdx) ∧
    (∀ a b : Joystick, Coded.order a b = compare a.ctorIdx b.ctorIdx) ∧
    (∀ key other : Key, key ≠ .unknown → other ≠ .unknown →
      Coded.order key other = compare key.ctorIdx other.ctorIdx) ∧
    ∀ key : Key, key ≠ .unknown →
      Coded.order .unknown key = .lt ∧ key.ctorIdx < Key.unknown.ctorIdx := by
  refine ⟨fun {α} _ E => ⟨E.converts, fun _ _ => Coded.code_injective, ?_, Coded.order_eq, ?_⟩,
    fun a b => MouseButton.ordered.order_eq (Coded.mem_all a) (Coded.mem_all b),
    fun a b => Action.ordered.order_eq (Coded.mem_all a) (Coded.mem_all b),
    fun a b => Joystick.ordered.order_eq (Coded.mem_all a) (Coded.mem_all b),
    fun _ _ known known' => Key.ordered.order_eq (Key.mem_of_known known) (Key.mem_of_known known'),
    Key.unknown_least⟩
  · intro first last ranged
    have fits := E.conversion_fits
    rw [ranged] at fits
    exact fits.between_iff
  · intro sort known integers sorted
    have same : sorted = Coded.sort (integers.filterMap (Coded.ofCode? α)) := E.sorts known integers
    rw [same]
    exact ⟨rfl, Coded.map_code_sort integers⟩

/-- Insertion sorts keys, of which some are not known and some are no keys. -/
theorem enumeration_conversion_keys :
    Sorting.Sorts (Sorting.insertion : List Key → Sorting Key) ∧
    (Sorting.insertion (Enumeration.key.converted [348, 33, -1, 32, 349, -1])).answer Coded.order =
      [.unknown, .unknown, .space, .menu] ∧
    ([.unknown, .unknown, .space, .menu] : List Key) =
      Coded.sort ([348, 33, -1, 32, 349, -1].filterMap (Coded.ofCode? Key)) ∧
    (∀ v : Int32, 0x70001 ≤ v ∧ v ≤ 0x70009 ↔ ∃ kind : ErrorKind, Coded.code kind = v) ∧
    Key.space ≠ .unknown ∧ Key.menu ≠ .unknown ∧
    Coded.order Key.space Key.menu = compare Key.space.ctorIdx Key.menu.ctorIdx ∧
    Coded.order Key.unknown Key.space = .lt := by
  obtain ⟨enumerations, -, -, -, declared, least⟩ := enumeration_conversion
  have sorted : (Sorting.insertion (Enumeration.key.converted [348, 33, -1, 32, 349, -1])).answer
      Coded.order = [.unknown, .unknown, .space, .menu] := by decide +kernel
  have same := ((enumerations .key).2.2.2.2 _ Sorting.sorts_insertion [348, 33, -1, 32, 349, -1]).1
  rw [sorted] at same
  exact ⟨Sorting.sorts_insertion, sorted, same,
    (enumerations .errorKind).2.2.1 0x70001 0x70009 rfl, by decide, by decide,
    declared _ _ (by decide) (by decide), (least .space (by decide)).1⟩

end Windowing
