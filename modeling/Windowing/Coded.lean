/-!
Enumerations whose members carry distinct 32-bit native codes.

A native library hands out plain integers; an instance of `Coded` lists the members, their codes and
their printed names. Reading a code back is a search of that list, so it accepts exactly the codes
of members (`ofCode?_eq_some_iff`), and sorting by code is canonical.
-/

namespace Windowing

class Coded (α : Type) where
  all : List α
  code : α → Int32
  name : α → String
  mem_all : ∀ a, a ∈ all
  codes_nodup : (all.map code).Nodup

namespace Coded

variable {α : Type} [Coded α]

/-- The member with the given code, if there is one. -/
def ofCode? (α : Type) [Coded α] (c : Int32) : Option α :=
  (all : List α).find? fun a => code a == c

/-- Members in ascending order of code, equal ones in their given order. -/
def sort (xs : List α) : List α :=
  xs.mergeSort fun a b => decide ((code a).toInt ≤ (code b).toInt)

theorem code_injective {a b : α} (h : code a = code b) : a = b := by
  have key : ∀ xs : List α, (xs.map code).Nodup → a ∈ xs → b ∈ xs → a = b := by
    intro xs hxs ha hb
    induction xs with
    | nil => cases ha
    | cons x xs ih =>
      simp only [List.map_cons, List.nodup_cons, List.mem_map, not_exists, not_and] at hxs
      rcases List.mem_cons.1 ha with rfl | ha' <;> rcases List.mem_cons.1 hb with rfl | hb'
      · rfl
      · exact absurd h.symm (hxs.1 b hb')
      · exact absurd h (hxs.1 a ha')
      · exact ih hxs.2 ha' hb'
  exact key all codes_nodup (mem_all a) (mem_all b)

theorem ofCode?_eq_some_iff {c : Int32} {a : α} : ofCode? α c = some a ↔ code a = c := by
  constructor
  · intro h
    simpa using List.find?_some h
  · intro h
    cases hf : ofCode? α c with
    | none =>
      have := List.find?_eq_none.1 hf a (mem_all a)
      simp [h] at this
    | some b =>
      have hb : code b = c := by simpa using List.find?_some hf
      rw [code_injective (hb.trans h.symm)]

end Coded

end Windowing
