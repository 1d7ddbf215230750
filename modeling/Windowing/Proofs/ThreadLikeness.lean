import Windowing.Proofs.HistoryGrowth
import Mathlib.Data.List.Forall2
import Mathlib.Data.Option.Basic

/-!
Likeness of programs and threads. Two programs are alike if they carry out the same operations; the
scripts of the native library may differ, and so may what other threads do. Two threads are alike if
nothing tells them apart but the contexts that they have: they have the same locals and the same
handles in the same slots. What happened on them is compared entry by entry, and the first entries
that differ should show something that is not their own.
-/

namespace Windowing

open Native Client

variable {hs hs' common common' later later' : List Happening} {last : Option Happening}

/-! ### Programs -/

namespace Client

mutual

/-- The same operation of the thread. What it runs on another thread may be something else. -/
inductive Op.Like : Op → Op → Prop where
  | small {op : Op} (h : op.small = true) : Op.Like op op
  | onThread (steps steps' : List Step) : Op.Like (.onThread steps) (.onThread steps')
  | pump (slot : Nat) (kind : PumpKind) {reactions reactions' : Handler}
      (h : List.Forall₂ (List.Forall₂ Step.Like) reactions reactions') :
      Op.Like (.pump slot kind reactions) (.pump slot kind reactions')

/-- The native library may follow another script. -/
inductive Step.Like : Step → Step → Prop where
  | mk (script script' : Script) {op op' : Op} (h : Op.Like op op') :
      Step.Like (.mk script op) (.mk script' op')

end

/-- Handlers that react alike. -/
abbrev Handler.Like : Handler → Handler → Prop :=
  List.Forall₂ (List.Forall₂ Step.Like)

end Client

/-! ### Threads -/

/-- A window but for its key, which counts the windows of all threads. -/
def Window.keyless (w : Window) : Window := { w with key := 0 }

/-- The same tables but for contexts and the keys of windows. -/
structure Tables.Akin (t t' : Tables) : Prop where
  libraries : t.libraries = t'.libraries
  windows : t.windows.map (Option.map Window.keyless) =
    t'.windows.map (Option.map Window.keyless)
  monitors : t.monitors = t'.monitors
  pumping : t.pumping = t'.pumping

structure Locals.Akin (s s' : Locals) : Prop where
  pending : s.pending = s'.pending
  handler : Option.Rel Handler.Like s.handler s'.handler
  dispatching : s.dispatching = s'.dispatching
  panic : s.panic = s'.panic
  deferred : s.deferred = s'.deferred

structure Thread.Akin (t t' : Thread) : Prop where
  locals : t.locals.Akin t'.locals
  tables : t.tables.Akin t'.tables
  spawned : t.spawned = t'.spawned

theorem Locals.Akin.dropReason {s s' : Locals} (h : s.Akin s') : s.dropReason = s'.dropReason := by
  have rel : ∀ {a b : Option Handler}, Option.Rel Handler.Like a b → a.isNone = b.isNone :=
    fun rel => by cases rel <;> rfl
  have installed := rel h.handler
  rw [Locals.dropReason, Locals.dropReason, installed, h.panic, h.dispatching]

theorem occupant_map {α β : Type} (f : α → β) (table : List (Option α)) (slot : Nat) :
    occupant (table.map (Option.map f)) slot = (occupant table slot).map f := by
  rw [occupant, occupant, List.getElem?_map]
  cases table[slot]? <;> rfl

namespace Tables.Akin

variable {t t' : Tables}

theorem refl (t : Tables) : t.Akin t := ⟨rfl, rfl, rfl, rfl⟩

theorem occupant_windows (h : t.Akin t') (slot : Nat) :
    (occupant t.windows slot).map Window.keyless =
      (occupant t'.windows slot).map Window.keyless := by
  rw [← occupant_map, h.windows, occupant_map]

/-- Two threads of the same tables have as many handles. -/
theorem length_handles (h : t.Akin t') : t.handles.length = t'.handles.length := by
  have count : ∀ table : List (Option Window), (table.filterMap id).length =
      ((table.map (Option.map Window.keyless)).filterMap id).length := by
    intro table
    induction table with
    | nil => rfl
    | cons head rest ih => cases head <;> simpa using ih
  simp only [handles, List.length_append, List.length_map, h.libraries, h.monitors,
    count t.windows, h.windows, ← count t'.windows]

end Tables.Akin

/-- Threads that have not done anything are alike. -/
theorem Thread.Akin.fresh : Thread.Akin {} {} := ⟨⟨rfl, .none, rfl, rfl, rfl⟩, .refl _, rfl⟩

/-! ### What happened -/

def Handle.keyless : Handle → Handle
  | .window w => .window w.keyless
  | .context c => .context { c with key := 0 }
  | h => h

/-- What happened, but for the keys of windows. -/
def Happening.outline : Happening → Happening
  | .obtained h => .obtained h.keyless
  | .dropped h => .dropped h.keyless
  | h => h

/-- The same happened. -/
def Same (hs hs' : List Happening) : Prop :=
  hs.map Happening.outline = hs'.map Happening.outline

/-- What the native library decides while it is called. -/
def Happening.foreign : Happening → Bool
  | .invoked _ | .returned _ _ => true
  | _ => false

/-- What a step on a context may begin with. -/
def Happening.usesContext : Happening → Bool
  | .dropped (.context _) | .called (.makeContextCurrent _) | .called (.swapBuffers _)
  | .stepEnded (.answered (.pointer _)) | .stepEnded (.refused .noContext)
  | .stepEnded (.refused .unknownOperation) => true
  | _ => false

/-- What a window does with a context that it has not lent. -/
def Happening.needsContext : Happening → Bool
  | .called (.makeContextCurrent _) | .called (.swapBuffers _) | .obtained (.context _) => true
  | _ => false

/-- What follows, at the end of a thread, the drop of its contexts. -/
def Happening.afterContexts : Happening → Bool
  | .dropped _ | .threadEnded _ => true
  | _ => false

/-- Two entries, each after the same entries with the same last one, of which the difference comes
from the native library or shows what threads share: the lock, which contexts are lent and which of
them a thread has been left with, and how another thread ended. -/
inductive Shows (last : Option Happening) : Happening → Happening → Prop where
  | native {x y : Happening} (hx : x.foreign = true) (hy : y.foreign = true) : Shows last x y
  | locked : Shows last (.stepEnded (.refused .wouldDeadlock)) (.called .setErrorCallback)
  | blocked : Shows last (.stepEnded (.tryInitFailed .wouldBlock)) (.called .setErrorCallback)
  | lent {y : Happening} (hy : y.needsContext = true) :
      Shows last (.stepEnded (.failed .contextLent)) y
  | lends (w : Window) : Shows last (.stepEnded (.refused .contextHeld)) (.dropped (.window w))
  | lendsNothing :
      Shows last (.stepEnded (.refused .contextHeld)) (.stepEnded (.refused .noWindow))
  | context {x y : Happening} (began : last = some .stepStarted) (hx : x.usesContext = true)
      (hy : y.usesContext = true) : Shows last x y
  | slot {c : Context} {i j : Nat} (obtained : last = some (.obtained (.context c))) :
      Shows last (.stepEnded (.answered (.slot i))) (.stepEnded (.answered (.slot j)))
  | joined (panic panic' : Option String) :
      Shows last (.stepEnded (.joined panic)) (.stepEnded (.joined panic'))
  | left {c : Context} {y : Happening} (hy : y.afterContexts = true) :
      Shows last (.dropped (.context c)) y

/-- The same happened up to two entries that differ by what is not the thread's own. -/
def Parts (hs hs' : List Happening) : Prop :=
  ∃ common common' x y later later', hs = common ++ x :: later ∧ hs' = common' ++ y :: later' ∧
    Same common common' ∧ x.outline ≠ y.outline ∧
    (Shows common.getLast? x y ∨ Shows common.getLast? y x)

theorem Shows.of_none {x y : Happening} (h : Shows none x y) (last : Option Happening) :
    Shows last x y := by
  cases h with
  | native hx hy => exact .native hx hy
  | locked => exact .locked
  | blocked => exact .blocked
  | lent hy => exact .lent hy
  | lends w => exact .lends w
  | lendsNothing => exact .lendsNothing
  | joined a b => exact .joined a b
  | left hy => exact .left hy
  | context began | slot began => cases began

theorem Same.refl (hs : List Happening) : Same hs hs := rfl

theorem Same.append (h : Same common common') (h' : Same later later') :
    Same (common ++ later) (common' ++ later') := by
  simp only [Same, List.map_append] at *
  rw [h, h']

namespace Parts

theorem here {x y : Happening} (hne : x.outline ≠ y.outline) (hs : Shows none x y ∨ Shows none y x) :
    Parts (x :: later) (y :: later') :=
  ⟨[], [], x, y, later, later', rfl, rfl, rfl, hne, hs⟩

theorem append (h : Parts hs hs') (later later' : List Happening) :
    Parts (hs ++ later) (hs' ++ later') := by
  obtain ⟨common, common', x, y, rest, rest', rfl, rfl, same, hne, hs⟩ := h
  exact ⟨common, common', x, y, rest ++ later, rest' ++ later', by simp, by simp, same, hne, hs⟩

theorem prepend (same : Same common common') (h : Parts hs hs') :
    Parts (common ++ hs) (common' ++ hs') := by
  obtain ⟨first, first', x, y, rest, rest', rfl, rfl, same', hne, shows⟩ := h
  refine ⟨common ++ first, common' ++ first', x, y, rest, rest', by simp, by simp,
    same.append same', hne, ?_⟩
  rcases first.eq_nil_or_concat with rfl | ⟨init, e, rfl⟩
  · exact shows.imp (.of_none · _) (.of_none · _)
  · simpa [← List.append_assoc] using shows

/-- Threads that part do not do the same. -/
theorem not_same (h : Parts hs hs') : ¬ Same hs hs' := by
  obtain ⟨common, common', x, y, later, later', rfl, rfl, same, hne, -⟩ := h
  intro whole
  rw [Same, List.map_append, List.map_append] at whole
  have rest := List.append_cancel_left (same ▸ whole)
  exact hne (List.cons_eq_cons.1 rest).1

end Parts

end Windowing
