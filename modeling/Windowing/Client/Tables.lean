import Windowing.Process

/-!
A client's tables of handles. A new handle gets the next slot; taking a handle out leaves its slot
empty for good.
-/

namespace Windowing.Client

/-- The handle in a slot, if there is one. -/
def occupant {α : Type} (table : List (Option α)) (slot : Nat) : Option α :=
  (table[slot]?).join

def addLibrary (l : Library) : M Nat := do
  let slot := (← getTables).libraries.length
  modifyTables fun t => { t with libraries := t.libraries ++ [some l] }
  return slot

def addWindow (w : Window) : M Nat := do
  let slot := (← getTables).windows.length
  modifyTables fun t => { t with windows := t.windows ++ [some w] }
  return slot

def addMonitor (m : Monitor) : M Nat := do
  let slot := (← getTables).monitors.length
  modifyTables fun t => { t with monitors := t.monitors ++ [some m] }
  return slot

def addContext (c : Context) (origin : Nat) : M Nat := do
  let slot := (← getTables).contexts.length
  modifyTables fun t => { t with contexts := t.contexts ++ [some (c, origin)] }
  return slot

def takeLibrary (slot : Nat) : M (Option Library) := do
  let l := occupant (← getTables).libraries slot
  modifyTables fun t => { t with libraries := t.libraries.set slot none }
  return l

def takeWindow (slot : Nat) : M (Option Window) := do
  let w := occupant (← getTables).windows slot
  modifyTables fun t => { t with windows := t.windows.set slot none }
  return w

def takeMonitor (slot : Nat) : M (Option Monitor) := do
  let m := occupant (← getTables).monitors slot
  modifyTables fun t => { t with monitors := t.monitors.set slot none }
  return m

def takeContext (slot : Nat) : M (Option (Context × Nat)) := do
  let c := occupant (← getTables).contexts slot
  modifyTables fun t => { t with contexts := t.contexts.set slot none }
  return c

/-- Whether a context in the tables was lent from the window slot. -/
def lendsFrom (t : Tables) (slot : Nat) : Bool :=
  t.contexts.any fun c => (c.map (·.2)) == some slot

end Windowing.Client
