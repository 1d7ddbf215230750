import Windowing.Proofs.HandleOwnership

/-!
Slots of handles. A handle that is obtained goes into a slot of its owner's tables, and one that is
dropped is taken out of its slot first. A thread that has nothing in its slots is refused every
operation on a handle.
-/

namespace Windowing

open Native Client

variable {α : Type} {native : Backend} {o : Option Pause} {p : Process} {w : Watch} {l : Ledger}

theorem set_none {table : List (Option α)} {slot : Nat} (h : occupant table slot = none) :
    table.set slot none = table := by
  induction table generalizing slot with
  | nil => rfl
  | cons head rest ih =>
    cases slot with
    | zero =>
      have hhead : head = none := by simpa [occupant] using h
      rw [hhead, List.set_cons_zero]
    | succ slot =>
      have hrest : occupant rest slot = none := by simpa [occupant] using h
      rw [List.set_cons_succ, ih hrest]

theorem filterMap_add (table : List (Option α)) (a : α) :
    ((table ++ [some a]).filterMap id).Perm (a :: table.filterMap id) := by
  rw [List.filterMap_append]
  exact List.perm_append_singleton _ _

theorem occupant_eq_none {table : List (Option α)} (h : table.filterMap id = []) (slot : Nat) :
    occupant table slot = none := by
  cases hocc : occupant table slot with
  | none => rfl
  | some a =>
    have hmem := (filterMap_set hocc).mem_iff.2 (List.mem_cons_self (a := a))
    rw [h] at hmem
    cases hmem

namespace Tables

variable {t : Tables} {slot : Nat}

theorem handles_library {x : Library} (h : occupant t.libraries slot = some x) :
    t.handles.Perm (.library x :: { t with libraries := t.libraries.set slot none }.handles) :=
  (((filterMap_set h).map Handle.library).append_right _).append_right _

theorem handles_window {x : Window} (h : occupant t.windows slot = some x) :
    t.handles.Perm (.window x :: { t with windows := t.windows.set slot none }.handles) :=
  ((((filterMap_set h).map Handle.window).append_left _).trans List.perm_middle).append_right _

theorem handles_monitor {x : Monitor} (h : occupant t.monitors slot = some x) :
    t.handles.Perm (.monitor x :: { t with monitors := t.monitors.set slot none }.handles) :=
  (((filterMap_set h).map Handle.monitor).append_left _).trans List.perm_middle

theorem handles_add_library (x : Library) :
    { t with libraries := t.libraries ++ [some x] }.handles.Perm (.library x :: t.handles) :=
  (((filterMap_add _ x).map Handle.library).append_right _).append_right _

theorem handles_add_window (x : Window) :
    { t with windows := t.windows ++ [some x] }.handles.Perm (.window x :: t.handles) :=
  ((((filterMap_add _ x).map Handle.window).append_left _).trans List.perm_middle).append_right _

theorem handles_add_monitor (x : Monitor) :
    { t with monitors := t.monitors ++ [some x] }.handles.Perm (.monitor x :: t.handles) :=
  (((filterMap_add _ x).map Handle.monitor).append_left _).trans List.perm_middle

end Tables

theorem Thread.Bare.occupants {t : Thread} (h : t.Bare) (slot : Nat) :
    occupant t.tables.libraries slot = none ∧ occupant t.tables.windows slot = none ∧
      occupant t.tables.monitors slot = none := by
  have handles := h.handles
  simp only [Tables.handles, List.append_eq_nil_iff, List.map_eq_nil_iff] at handles
  exact ⟨occupant_eq_none handles.1.1 slot, occupant_eq_none handles.1.2 slot,
    occupant_eq_none handles.2 slot⟩

/-- The current thread either has nothing, or it owns the initialization. -/
theorem Standing.owner (hs : Standing p o) (ho : ∀ x ∈ o, x.owner ≠ p.current) :
    p.here.Bare ∨ o = none ∧ ∃ l, Kept p.current l p := by
  cases hs with
  | free hf => exact .inl (hf.bare _)
  | paused x running guarded reads => exact .inl (guarded.others _ (Ne.symm (ho x rfl)))
  | kept hk =>
    rename_i owner l
    by_cases howner : owner = p.current
    · exact .inr ⟨rfl, l, howner ▸ hk⟩
    · exact .inl (hk.guarded.others _ (Ne.symm howner))

theorem Kept.desk (hk : Kept p.current l p) (hp : AllCalm p) (hw : AtWork p w) :
    OwnerMidOperation p.current w p.here l [] p :=
  ⟨⟨hp, hw.sight, hw.clear, hw.stage_ne, rfl, .rfl, hk.guarded⟩, hk.reads, hk.alive, hk.held,
    hk.account⟩

theorem Standing.here (hs : Standing p o) (hp : AllCalm p) (hw : AtWork p w)
    (ho : ∀ x ∈ o, x.owner ≠ p.current) :
    p.here.Bare ∨ o = none ∧ ∃ l, OwnerMidOperation p.current w p.here l [] p :=
  (hs.owner ho).imp id fun ⟨hn, l, hk⟩ => ⟨hn, l, hk.desk hp hw⟩

/-- A handle is taken out of its slot. -/
theorem OwnerMidOperation.take {v : ThreadId} (h : OwnerMidOperation v w p.here l [] p)
    (f : Tables → Tables)
    {handle : Handle} (hperm : p.tables.handles.Perm (handle :: (f p.tables).handles))
    (hpump : p.locals.handler.isSome = true → ∃ slot, (f p.tables).pumping = some slot ∧
      (occupant (f p.tables).libraries slot).isSome = true) :
    OwnerMidOperation v w { p.here with tables := f p.tables } l [handle]
      (final (modifyTables f) p) := by
  have held : l.held.Perm (handle :: (f p.tables).handles) := by
    have held := h.account.held
    rw [List.append_nil] at held
    exact held.trans hperm
  exact h.tables f .rfl ⟨held.trans (List.perm_append_singleton _ _).symm, h.account.owing,
    h.account.busy, h.account.deferred, hpump⟩

/-- Emptying an empty slot changes nothing. -/
theorem Standing.untaken (hs : Standing p o) {f : Tables → Tables} (hf : f p.tables = p.tables) :
    Standing (final (modifyTables f) p) o := by
  refine hs.same (sameBooks_setHere p ?_)
  rw [hf]
  exact .rfl

/-! ### Emptying slots -/

theorem final_clearWindow_none {slot : Nat} (h : occupant p.tables.windows slot = none) :
    final (clearWindow native slot) p =
      final (modifyTables fun t => { t with windows := t.windows.set slot none }) p := by
  simp [clearWindow, takeWindow, h]

theorem final_clearWindow_some {slot : Nat} {x : Window}
    (h : occupant p.tables.windows slot = some x) :
    final (clearWindow native slot) p = final (x.drop native)
      (final (modifyTables fun t => { t with windows := t.windows.set slot none }) p) := by
  simp [clearWindow, takeWindow, h]

theorem final_clearMonitor_none {slot : Nat} (h : occupant p.tables.monitors slot = none) :
    final (clearMonitor native slot) p =
      final (modifyTables fun t => { t with monitors := t.monitors.set slot none }) p := by
  simp [clearMonitor, takeMonitor, h]

theorem final_clearMonitor_some {slot : Nat} {x : Monitor}
    (h : occupant p.tables.monitors slot = some x) :
    final (clearMonitor native slot) p = final (x.drop native)
      (final (modifyTables fun t => { t with monitors := t.monitors.set slot none }) p) := by
  simp [clearMonitor, takeMonitor, h]

theorem final_clearLibrary_none {slot : Nat} (h : occupant p.tables.libraries slot = none) :
    final (clearLibrary native slot) p =
      final (modifyTables fun t => { t with libraries := t.libraries.set slot none }) p := by
  simp [clearLibrary, takeLibrary, h]

theorem final_clearLibrary_some {slot : Nat} {x : Library}
    (h : occupant p.tables.libraries slot = some x) :
    final (clearLibrary native slot) p = final (x.drop native)
      (final (modifyTables fun t => { t with libraries := t.libraries.set slot none }) p) := by
  simp [clearLibrary, takeLibrary, h]

section Clearing

variable (hm : LibraryKeepsBooks native) (hp : AllCalm p) (hw : AtWork p w)
  (ho : ∀ x ∈ o, x.owner ≠ p.current)
  (hs : Standing p o) (slot : Nat)

include hm hp hw ho hs

theorem Standing.clearWindow : Standing (final (clearWindow native slot) p) o ∧
    SameHandles { p.tables with windows := p.tables.windows.set slot none }
      (final (clearWindow native slot) p).tables := by
  let taken : Tables → Tables := fun t => { t with windows := t.windows.set slot none }
  cases hocc : occupant p.tables.windows slot with
  | none =>
    rw [final_clearWindow_none hocc]
    refine ⟨hs.untaken ?_, by rw [tables_modifyTables]; exact ⟨rfl, rfl, rfl⟩⟩
    simp only [set_none hocc]
  | some x =>
    rw [final_clearWindow_some hocc]
    rcases hs.here hp hw ho with bare | ⟨rfl, l, desk⟩
    · have absent := (bare.occupants slot).2.1
      rw [show occupant p.here.tables.windows slot = some x from hocc] at absent
      cases absent
    · have away := desk.take taken (Tables.handles_window hocc) desk.account.pumping
      rcases hw.place with hstage | ⟨rfl, -⟩
      · exact (away.deferWindow hm hstage).symm
      · exact (away.destroyWindow hm rfl).symm

theorem Standing.clearMonitor : Standing (final (clearMonitor native slot) p) o ∧
    SameHandles { p.tables with monitors := p.tables.monitors.set slot none }
      (final (clearMonitor native slot) p).tables := by
  let taken : Tables → Tables := fun t => { t with monitors := t.monitors.set slot none }
  cases hocc : occupant p.tables.monitors slot with
  | none =>
    rw [final_clearMonitor_none hocc]
    refine ⟨hs.untaken ?_, by rw [tables_modifyTables]; exact ⟨rfl, rfl, rfl⟩⟩
    simp only [set_none hocc]
  | some x =>
    rw [final_clearMonitor_some hocc]
    rcases hs.here hp hw ho with bare | ⟨rfl, l, desk⟩
    · have absent := (bare.occupants slot).2.2
      rw [show occupant p.here.tables.monitors slot = some x from hocc] at absent
      cases absent
    · have away := desk.take taken (Tables.handles_monitor hocc) desk.account.pumping
      exact ((away.giveUp hm rfl rfl).imp SameBook.sameHandles id).symm

/-- A library may go while no pump needs it. -/
theorem Standing.clearLibrary
    (hfree : p.locals.handler.isSome = true → p.tables.pumping ≠ some slot) :
    Standing (final (clearLibrary native slot) p) o ∧
      SameHandles { p.tables with libraries := p.tables.libraries.set slot none }
        (final (clearLibrary native slot) p).tables := by
  let taken : Tables → Tables := fun t => { t with libraries := t.libraries.set slot none }
  cases hocc : occupant p.tables.libraries slot with
  | none =>
    rw [final_clearLibrary_none hocc]
    refine ⟨hs.untaken ?_, by rw [tables_modifyTables]; exact ⟨rfl, rfl, rfl⟩⟩
    simp only [set_none hocc]
  | some x =>
    rw [final_clearLibrary_some hocc]
    rcases hs.here hp hw ho with bare | ⟨rfl, l, desk⟩
    · have absent := (bare.occupants slot).1
      rw [show occupant p.here.tables.libraries slot = some x from hocc] at absent
      cases absent
    · have away := desk.take taken (Tables.handles_library hocc) fun installed => by
        obtain ⟨other, hother, hlib⟩ := desk.account.pumping installed
        have hne : slot ≠ other := fun heq => hfree installed (heq ▸ hother)
        refine ⟨other, hother, ?_⟩
        simp only [taken, occupant, List.getElem?_set_ne hne]
        exact hlib
      exact ((away.giveUp hm rfl rfl).imp SameBook.sameHandles id).symm

end Clearing

end Windowing
