/-!
Numbered records, of which each has a default until it is set. A record keeps its place when it is
set again, so setting what is there already changes nothing.
-/

namespace Windowing

structure Registry (α : Type) where
  entries : List (Nat × α) := []

namespace Registry

variable {α : Type}

def get [Inhabited α] (r : Registry α) (k : Nat) : α :=
  (r.entries.lookup k).getD default

def setEntry (k : Nat) (a : α) : List (Nat × α) → List (Nat × α)
  | [] => [(k, a)]
  | e :: rest => if e.1 = k then (k, a) :: rest else e :: setEntry k a rest

def set (r : Registry α) (k : Nat) (a : α) : Registry α :=
  ⟨setEntry k a r.entries⟩

def erase (r : Registry α) (k : Nat) : Registry α :=
  ⟨r.entries.filter fun e => e.1 != k⟩

theorem lookup_setEntry_self (k : Nat) (a : α) (entries : List (Nat × α)) :
    (setEntry k a entries).lookup k = some a := by
  induction entries with
  | nil => simp [setEntry]
  | cons e rest ih =>
    by_cases h : e.1 = k
    · simp [setEntry, h]
    · have hk : (k == e.1) = false := beq_eq_false_iff_ne.2 (Ne.symm h)
      rw [setEntry, if_neg h, List.lookup_cons, hk]
      exact ih

theorem lookup_setEntry_of_ne {j k : Nat} (h : j ≠ k) (a : α) (entries : List (Nat × α)) :
    (setEntry k a entries).lookup j = entries.lookup j := by
  induction entries with
  | nil => rw [setEntry, List.lookup_cons, beq_eq_false_iff_ne.2 h]
  | cons e rest ih =>
    by_cases he : e.1 = k
    · have hk : (j == e.1) = false := beq_eq_false_iff_ne.2 (he ▸ h)
      rw [setEntry, if_pos he, List.lookup_cons, List.lookup_cons, hk, beq_eq_false_iff_ne.2 h]
    · rw [setEntry, if_neg he, List.lookup_cons, List.lookup_cons, ih]

theorem setEntry_setEntry (k : Nat) (a b : α) (entries : List (Nat × α)) :
    setEntry k b (setEntry k a entries) = setEntry k b entries := by
  induction entries with
  | nil => simp [setEntry]
  | cons e rest ih =>
    by_cases h : e.1 = k
    · simp [setEntry, h]
    · simp [setEntry, h, ih]

@[simp] theorem set_set (r : Registry α) (k : Nat) (a b : α) :
    (r.set k a).set k b = r.set k b := by
  simp [set, setEntry_setEntry]

variable [Inhabited α]

@[simp] theorem get_set_self (r : Registry α) (k : Nat) (a : α) : (r.set k a).get k = a := by
  simp [get, set, lookup_setEntry_self]

theorem get_set_of_ne (r : Registry α) {j k : Nat} (h : j ≠ k) (a : α) :
    (r.set k a).get j = r.get j := by
  simp [get, set, lookup_setEntry_of_ne h]

@[simp] theorem get_erase_self (r : Registry α) (k : Nat) : (r.erase k).get k = default := by
  have key : ∀ entries : List (Nat × α), (entries.filter fun e => e.1 != k).lookup k = none := by
    intro entries
    rw [List.lookup_eq_none_iff]
    intro e he
    have hne : e.1 ≠ k := by simpa using (List.mem_filter.1 he).2
    simpa using hne.symm
  simp [get, erase, key]

theorem get_erase_of_ne (r : Registry α) {j k : Nat} (h : j ≠ k) :
    (r.erase k).get j = r.get j := by
  have key : ∀ entries : List (Nat × α),
      (entries.filter fun e => e.1 != k).lookup j = entries.lookup j := by
    intro entries
    induction entries with
    | nil => rfl
    | cons e rest ih =>
      by_cases he : e.1 = k
      · have hk : (j == e.1) = false := beq_eq_false_iff_ne.2 (he ▸ h)
        rw [List.filter_cons_of_neg (by simp [he]), List.lookup_cons, hk]
        exact ih
      · rw [List.filter_cons_of_pos (by simp [he]), List.lookup_cons, List.lookup_cons, ih]
  simp [get, erase, key]

end Registry

end Windowing
