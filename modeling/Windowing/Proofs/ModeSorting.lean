import Windowing.Proofs.ModeRanking

/-!
Sorting by a comparison that may panic. A sort knows its elements only by comparing them, so all that
matters of it is which two it compares next; its run ends with the first comparison that panics.
Whatever the sort, a list of video modes then has the same outcome, which depends on its modes alone
and not on their order.
-/

namespace Windowing

open Std

/-- A sort as far as it has come: it compares two elements next, or it is done. -/
inductive Sorting (α : Type) where
  | done (sorted : List α)
  | ask (a b : α) (next : Ordering → Sorting α)

namespace Sorting

variable {α : Type} {cmp : α → α → Ordering} {compare? : α → α → Option Ordering} {x y : α}
  {xs ys : List α}

/-- The sorted list, unless a comparison panics. -/
def run (compare? : α → α → Option Ordering) : Sorting α → Option (List α)
  | done sorted => some sorted
  | ask a b next =>
    match compare? a b with
    | some o => (next o).run compare?
    | none => none

/-- The list that is sorted by comparisons of which none panics. -/
def answer (cmp : α → α → Ordering) : Sorting α → List α
  | done sorted => sorted
  | ask a b next => (next (cmp a b)).answer cmp

/-- The elements that are compared meanwhile. -/
def asked (cmp : α → α → Ordering) : Sorting α → List α
  | done _ => []
  | ask a b next => a :: b :: (next (cmp a b)).asked cmp

/-- A run panics as soon as an element is compared that panics in every comparison. -/
theorem run_eq {bad : α → Prop} [DecidablePred bad]
    (h : ∀ a b, compare? a b = if bad a ∨ bad b then none else some (cmp a b)) (s : Sorting α) :
    s.run compare? = if ∃ x ∈ s.asked cmp, bad x then none else some (s.answer cmp) := by
  induction s with
  | done sorted => simp [run, asked, answer]
  | ask a b next ih =>
    rw [run, h]
    by_cases ha : bad a
    · simp [asked, ha]
    by_cases hb : bad b
    · simp [asked, hb]
    simp [ih, asked, answer, ha, hb]

/-- What is known of the sort in use: a list of fewer than two elements is sorted as it is; in a longer
one exactly its elements are compared, each at least once; and under a total order the outcome has the
elements of the list in ascending order. -/
structure Sorts (sort : List α → Sorting α) : Prop where
  short : ∀ xs, xs.length < 2 → sort xs = done xs
  asks : ∀ (cmp : α → α → Ordering) [TransCmp cmp] [LawfulEqCmp cmp] (xs), 2 ≤ xs.length →
    ∀ x, x ∈ (sort xs).asked cmp ↔ x ∈ xs
  perm : ∀ (cmp : α → α → Ordering) [TransCmp cmp] [LawfulEqCmp cmp] (xs),
    ((sort xs).answer cmp).Perm xs
  ascends : ∀ (cmp : α → α → Ordering) [TransCmp cmp] [LawfulEqCmp cmp] (xs),
    ((sort xs).answer cmp).Pairwise fun a b => (cmp a b).isLE

theorem ascends_mergeSort [TransCmp cmp] (xs : List α) :
    (xs.mergeSort fun a b => (cmp a b).isLE).Pairwise fun a b => (cmp a b).isLE := by
  refine List.pairwise_mergeSort (fun _ _ _ => TransCmp.isLE_trans) (fun a b => ?_) xs
  have swap : cmp b a = (cmp a b).swap := OrientedCmp.eq_swap
  cases h : cmp a b <;> simp [swap, h]

/-- There is only one list of the same elements in ascending order. -/
theorem eq_of_ascends [TransCmp cmp] [LawfulEqCmp cmp] (perm : xs.Perm ys)
    (hx : xs.Pairwise fun a b => (cmp a b).isLE) (hy : ys.Pairwise fun a b => (cmp a b).isLE) :
    xs = ys := by
  refine List.Perm.eq_of_pairwise (fun a b _ _ le ge => ?_) hx hy perm
  exact LawfulEqCmp.eq_of_compare (OrientedCmp.isLE_antisymm le ge)

/-! ### Insertion -/

/-- Puts an element into a list that has the greatest one first. -/
def put (x : α) : List α → (List α → Sorting α) → Sorting α
  | [], next => next [x]
  | y :: ys, next => ask x y fun o =>
    if o = .lt then put x ys fun zs => next (y :: zs) else next (x :: y :: ys)

/-- Puts the elements of a list into another one, which has the greatest one first. -/
def putAll (sorted : List α) : List α → Sorting α
  | [] => done sorted.reverse
  | x :: xs => put x sorted fun sorted => putAll sorted xs

/-- The sort by insertion. -/
def insertion (xs : List α) : Sorting α :=
  putAll [] xs

/-- Where an element is put. -/
def place (cmp : α → α → Ordering) (x : α) : List α → List α
  | [] => [x]
  | y :: ys => if cmp x y = .lt then y :: place cmp x ys else x :: y :: ys

theorem answer_put (next : List α → Sorting α) :
    (put x ys next).answer cmp = (next (place cmp x ys)).answer cmp := by
  induction ys generalizing next with
  | nil => rfl
  | cons y ys ih => by_cases h : cmp x y = .lt <;> simp [put, answer, place, h, ih]

theorem place_perm : (place cmp x ys).Perm (x :: ys) := by
  induction ys with
  | nil => rfl
  | cons y ys ih =>
    by_cases h : cmp x y = .lt
    · rw [place, if_pos h]
      exact (ih.cons y).trans (.swap x y ys)
    · rw [place, if_neg h]

theorem place_descends [TransCmp cmp] (h : ys.Pairwise fun a b => (cmp b a).isLE) :
    (place cmp x ys).Pairwise fun a b => (cmp b a).isLE := by
  induction ys with
  | nil => simp [place]
  | cons y ys ih =>
    obtain ⟨least, rest⟩ := List.pairwise_cons.1 h
    by_cases less : cmp x y = .lt
    · rw [place, if_pos less, List.pairwise_cons]
      refine ⟨fun z hz => ?_, ih rest⟩
      rcases List.mem_cons.1 (place_perm.mem_iff.1 hz) with rfl | hz
      · simp [less]
      · exact least z hz
    · have le : (cmp y x).isLE := by
        have swap : cmp y x = (cmp x y).swap := OrientedCmp.eq_swap
        cases h : cmp x y <;> simp_all
      rw [place, if_neg less, List.pairwise_cons]
      refine ⟨fun z hz => ?_, h⟩
      rcases List.mem_cons.1 hz with rfl | hz
      · exact le
      · exact TransCmp.isLE_trans (least z hz) le

/-- The element is compared with the greatest one first, and with no other that is not there. -/
theorem asked_put (cmp : α → α → Ordering) (x : α) (ys : List α) (next : List α → Sorting α) :
    ∃ seen, (put x ys next).asked cmp = seen ++ (next (place cmp x ys)).asked cmp ∧
    (∀ z ∈ seen, z ∈ x :: ys) ∧ ∀ y ∈ ys.head?, x ∈ seen ∧ y ∈ seen := by
  induction ys generalizing next with
  | nil => exact ⟨[], rfl, by simp, by simp⟩
  | cons y ys ih =>
    by_cases h : cmp x y = .lt
    · obtain ⟨seen, asked, known, -⟩ := ih fun zs => next (y :: zs)
      refine ⟨x :: y :: seen, ?_, fun z hz => ?_, by simp⟩
      · simp [put, Sorting.asked, place, h, asked]
      · have := known z
        simp only [List.mem_cons] at hz this ⊢
        grind
    · exact ⟨[x, y], by simp [put, Sorting.asked, place, h], by simp, by simp⟩

theorem answer_putAll [TransCmp cmp] (h : ys.Pairwise fun a b => (cmp b a).isLE) :
    ((putAll ys xs).answer cmp).Perm (ys ++ xs) ∧
      ((putAll ys xs).answer cmp).Pairwise fun a b => (cmp a b).isLE := by
  induction xs generalizing ys with
  | nil => simpa [putAll, answer, List.reverse_perm, List.pairwise_reverse] using h
  | cons x xs ih =>
    obtain ⟨perm, ascends⟩ := ih (place_descends (x := x) h)
    rw [putAll, answer_put]
    refine ⟨perm.trans ?_, ascends⟩
    exact (place_perm.append_right xs).trans List.perm_middle.symm

theorem mem_of_asked_putAll (h : x ∈ (putAll ys xs).asked cmp) : x ∈ ys ++ xs := by
  induction xs generalizing ys with
  | nil => cases h
  | cons y xs ih =>
    obtain ⟨seen, asked, known, -⟩ := asked_put cmp y ys (putAll · xs)
    rw [putAll, asked, List.mem_append] at h
    rcases h with h | h
    · have := known x h
      simp only [List.mem_cons, List.mem_append] at this ⊢
      grind
    · have := ih h
      simp only [List.mem_append, List.mem_cons, place_perm.mem_iff] at this ⊢
      grind

/-- With an element that is there already, every element that is put is compared. -/
theorem asked_putAll (there : ys ≠ []) : ∀ x ∈ xs, x ∈ (putAll ys xs).asked cmp := by
  induction xs generalizing ys with
  | nil => simp
  | cons x xs ih =>
    obtain ⟨seen, asked, -, first⟩ := asked_put cmp x ys (putAll · xs)
    obtain ⟨y, ys, rfl⟩ := List.exists_cons_of_ne_nil there
    have filled : place cmp x (y :: ys) ≠ [] := fun h => by
      have size : (place cmp x (y :: ys)).length = (x :: y :: ys).length := place_perm.length_eq
      simp [h] at size
    intro z hz
    rw [putAll, asked, List.mem_append]
    rcases List.mem_cons.1 hz with rfl | hz
    · exact .inl (first y rfl).1
    · exact .inr (ih filled z hz)

theorem sorts_insertion : Sorts (insertion : List α → Sorting α) where
  short xs h := by
    match xs, h with
    | [], _ | [_], _ => rfl
  asks cmp _ _ xs h x := by
    refine ⟨fun hx => by simpa using mem_of_asked_putAll hx, fun hx => ?_⟩
    match xs, h with
    | a :: b :: xs, _ =>
      have rest : ∀ z ∈ b :: xs, z ∈ (insertion (a :: b :: xs)).asked cmp :=
        asked_putAll (List.cons_ne_nil a [])
      rcases List.mem_cons.1 hx with rfl | hx
      · simp [insertion, putAll, put, asked]
      · exact rest x hx
  perm cmp _ _ xs := (answer_putAll .nil).1
  ascends cmp _ _ xs := (answer_putAll .nil).2

end Sorting

/-! ### Video modes -/

namespace VideoMode

variable {modes others sorted : List VideoMode}

/-- A list of modes can be given its depths unless one of them overflows. -/
theorem keyed (modes : List VideoMode) :
    match modes.mapM fun m => m.depth?.map fun depth => (depth, m) with
    | some keyed => (∀ m ∈ modes, ¬m.Overflows) ∧
        (∀ k ∈ keyed, k.1.toInt = k.2.bits) ∧ keyed.map (·.2) = modes
    | none => ∃ m ∈ modes, m.Overflows := by
  induction modes with
  | nil => simp
  | cons m modes ih =>
    rw [List.mapM_cons]
    cases known : m.depth? with
    | none => exact ⟨m, List.mem_cons_self, depth?_eq_none_iff.1 known⟩
    | some depth =>
      have fits : ¬m.Overflows := by
        rw [← depth?_eq_none_iff, known]
        nofun
      cases rest : modes.mapM fun m => m.depth?.map fun depth => (depth, m) with
      | none =>
        simp only [rest] at ih
        obtain ⟨bad, there, overflows⟩ := ih
        exact ⟨bad, List.mem_cons_of_mem _ there, overflows⟩
      | some keyed =>
        simp only [rest] at ih
        obtain ⟨fit, exact, same⟩ := ih
        exact ⟨List.forall_mem_cons.2 ⟨fits, fit⟩,
          List.forall_mem_cons.2 ⟨toInt_depth known, exact⟩, by simp [same]⟩

/-- The modes in the order of their ranks. -/
def ranked (modes : List VideoMode) : List VideoMode :=
  modes.mergeSort fun a b => (rank a b).isLE

theorem ranked_perm (modes : List VideoMode) : (ranked modes).Perm modes :=
  List.mergeSort_perm _ _

theorem ranked_ascends (modes : List VideoMode) :
    (ranked modes).Pairwise fun a b => (rank a b).isLE :=
  Sorting.ascends_mergeSort modes

theorem eq_ranked (perm : sorted.Perm modes) (ascends : sorted.Pairwise fun a b => (rank a b).isLE) :
    sorted = ranked modes :=
  Sorting.eq_of_ascends (perm.trans (ranked_perm modes).symm) ascends (ranked_ascends modes)

theorem sort?_eq (modes : List VideoMode) : sort? modes =
    if 2 ≤ modes.length ∧ ∃ m ∈ modes, m.Overflows then none else some (ranked modes) := by
  by_cases short : modes.length < 2
  · have same : ranked modes = modes := by
      match modes, short with
      | [], _ | [_], _ => simp [ranked]
    rw [sort?, if_pos short, if_neg (by omega), same]
  · have known := keyed modes
    rw [sort?, if_neg short]
    cases all : modes.mapM fun m => m.depth?.map fun depth => (depth, m) with
    | none =>
      rw [all] at known
      rw [if_pos ⟨by omega, known⟩]
      rfl
    | some keyed =>
      simp only [all] at known
      obtain ⟨fit, exact, same⟩ := known
      have fits : ¬∃ m ∈ modes, m.Overflows := fun ⟨m, there, bad⟩ => fit m there bad
      have sorted : (keyed.mergeSort fun a b => (compareAt a.1 a.2 b.1 b.2).isLE).map (·.2) =
          ranked modes := by
        rw [ranked, ← same]
        exact List.map_mergeSort fun a ha b hb => by
          rw [compareAt_eq_rank (exact a ha) (exact b hb)]
      rw [if_neg fun bad => fits bad.2, ← sorted]
      rfl

/-- Where no comparison panics, none says that a mode is greater than a later one. -/
theorem ranked_compares (fits : ¬(2 ≤ modes.length ∧ ∃ m ∈ modes, m.Overflows)) :
    (ranked modes).Pairwise fun a b => ∃ o, compare? a b = some o ∧ o.isLE := by
  by_cases short : modes.length < 2
  · match modes, short with
    | [], _ | [_], _ => simp [ranked]
  · have fit : ∀ m ∈ ranked modes, ¬m.Overflows := fun m there bad =>
      fits ⟨by omega, m, (ranked_perm modes).mem_iff.1 there, bad⟩
    refine (ranked_ascends modes).imp_of_mem fun ha hb le => ?_
    exact ⟨_, compare?_eq_some_iff.2 ⟨fit _ ha, fit _ hb, rfl⟩, le⟩

/-- Whichever sort is used, it panics exactly if there are two modes to compare and the depth of some
mode overflows. Otherwise its outcome has the same modes, none greater than a later one, and it is the
same for every order in which the modes are given. -/
theorem mode_sort {sort : List VideoMode → Sorting VideoMode} (known : Sorting.Sorts sort)
    (modes : List VideoMode) :
    (sort modes).run compare? = sort? modes ∧
    (sort? modes = none ↔ 2 ≤ modes.length ∧ ∃ m ∈ modes, m.Overflows) ∧
    (∀ sorted ∈ sort? modes, sorted.Perm modes ∧
      sorted.Pairwise fun a b => ∃ o, compare? a b = some o ∧ o.isLE) ∧
    ∀ others : List VideoMode, others.Perm modes → sort? others = sort? modes := by
  refine ⟨?_, by simp [sort?_eq], fun sorted h => ?_, fun others perm => ?_⟩
  · have outcome : (sort modes).answer rank = ranked modes :=
      eq_ranked (known.perm rank modes) (known.ascends rank modes)
    rw [Sorting.run_eq compare?_eq, outcome, sort?_eq]
    by_cases short : modes.length < 2
    · rw [known.short modes short, if_neg (by simp [Sorting.asked]), if_neg (by omega)]
    · simp only [known.asks rank modes (by omega), show 2 ≤ modes.length by omega, true_and]
  · have fits : ¬(2 ≤ modes.length ∧ ∃ m ∈ modes, m.Overflows) := fun bad => by
      rw [sort?_eq, if_pos bad] at h
      cases h
    rw [sort?_eq, if_neg fits] at h
    cases h
    exact ⟨ranked_perm modes, ranked_compares fits⟩
  · have same : ranked others = ranked modes :=
      eq_ranked ((ranked_perm others).trans perm) (ranked_ascends others)
    simp only [sort?_eq, same, perm.length_eq, perm.mem_iff]

/-- Insertion sorts modes that differ in their red and green depths and in the signs of their lengths
only. -/
theorem mode_sort_insertion :
    Sorting.Sorts (Sorting.insertion : List VideoMode → Sorting VideoMode) ∧
    (Sorting.insertion [deepest, mirrored, colorless]).run compare? =
      some [colorless, mirrored, deepest] ∧
    sort? [mirrored, colorless, deepest] = some [colorless, mirrored, deepest] := by
  obtain ⟨same, -, -, canonical⟩ := mode_sort Sorting.sorts_insertion [deepest, mirrored, colorless]
  have sorted : (Sorting.insertion [deepest, mirrored, colorless]).run compare? =
      some [colorless, mirrored, deepest] := by decide +kernel
  have perm : [mirrored, colorless, deepest].Perm [deepest, mirrored, colorless] := by decide +kernel
  exact ⟨Sorting.sorts_insertion, sorted, (canonical _ perm).trans (same.symm.trans sorted)⟩

end VideoMode

end Windowing
