import Windowing.Proofs.InitializationStart

/-!
Pumps and the books. A pump needs a library in its slot, so it runs on the thread that owns the
initialization. What its handler drops waits in the books, and is destroyed before the pump ends.
-/

namespace Windowing

open Native Client

variable {native : Backend} {v : ThreadId} {w : Watch} {t : Thread} {l : Ledger} {n : Nat}
  {p : Process} {o : Option Pause}

/-- A change of the owner between its operations. -/
theorem Kept.setHere (hk : Kept p.current l p) (ha : Account l t []) :
    Kept p.current l (p.setHere t) where
  guarded := by
    refine ⟨hk.guarded.locked, hk.guarded.holders, fun u hu => ?_⟩
    rw [Process.setHere, Registry.get_set_of_ne _ hu]
    exact hk.guarded.others u hu
  reads := ⟨hk.reads.ledger, hk.reads.urgent, hk.reads.owner⟩
  alive := hk.alive
  held := hk.held
  account := by
    rw [Process.setHere, Registry.get_set_self]
    exact ha

theorem UnderLock.destroyAll (hm : LibraryKeepsBooks native) (doomed : List Pointer)
    (h : UnderLock v w t n p)
    (hl : p.ledger = some l) (alive : l.phase = .alive v) (owing : l.owing = doomed)
    (busy : l.busy = false) (hu : l.urgent = none) :
    UnderLock v w t n (final (doomed.forM fun pointer => Window.destroy native pointer) p) ∧
      (final (doomed.forM fun pointer => Window.destroy native pointer) p).ledger =
        some { l with owing := [] } := by
  induction doomed generalizing l p with
  | nil =>
    obtain ⟨phase, held, waiting, running, created, urgent⟩ := l
    have none : waiting = [] := owing
    subst none
    exact ⟨h, hl⟩
  | cons pointer rest ih =>
    obtain ⟨base, ledger⟩ := h.destroy hm hl alive owing busy (.inl hu)
    have later := ih base ledger alive rfl busy rfl
    have cleared : { l with owing := [], urgent := none } = { l with owing := [] } := by rw [hu]
    exact ⟨later.1, later.2.trans (congrArg some cleared)⟩

/-- A handler is installed only on the thread that owns the initialization. -/
theorem Standing.installed (hs : Standing p o) (ho : ∀ x ∈ o, x.owner ≠ p.current)
    (installed : p.locals.handler.isSome = true) : o = none ∧ ∃ l, Kept p.current l p := by
  refine (hs.owner ho).resolve_left fun bare => ?_
  rw [show p.locals.handler = none from bare.handler] at installed
  cases installed

/-- The owner installs a handler; its library is in the slot whose pump runs. -/
theorem Kept.install (hk : Kept p.current l p) (handler : Handler) {slot : Nat}
    (hslot : p.tables.pumping = some slot)
    (hlib : (occupant p.tables.libraries slot).isSome = true) :
    Standing (final takeError
      (final (modifyLocals fun s => { s with handler := some handler }) p)) none := by
  have account : Account l { p.here with locals := { p.locals with handler := some handler } } [] :=
    ⟨hk.account.held, hk.account.owing, hk.account.busy, fun hn => (by cases hn),
      fun _ => ⟨slot, hslot, hlib⟩⟩
  exact (Standing.kept (hk.setHere account)).setPending none

/-- The native call of a pump begins to look for events. -/
theorem View.pumps {call : Call} (hcall : call.pumps = true) (view : View p {} .listening) :
    Sight (p.note (.called call)) { stage := .listening, frames := [(call, none)] } :=
  view.note (by simp [Watch.step, hcall])

theorem Native.Call.neutral_of_pumps {call : Call} (h : call.pumps = true) :
    call.neutral = true := by
  cases call <;> first | rfl | cases h

/-- The native call of a pump is the owner's, whose handler waits. -/
theorem pumped_standing (hm : LibraryKeepsBooks native) {call : Call} (hcall : call.pumps = true)
    (handler : Handler) (hp : AllCalm p) (hw : AtWork p {}) (hk : Kept p.current l p) {slot : Nat}
    (hslot : p.tables.pumping = some slot)
    (hlib : (occupant p.tables.libraries slot).isSome = true) :
    Standing (final (checked (native call)).run
      (final (modifyLocals fun s => { s with handler := some handler }) p)) none := by
  obtain ⟨calm, view⟩ := ClientStaysCalm.installed_view hp hw handler
  have returned := hm.neutral call none _ _ (Native.Call.neutral_of_pumps hcall) calm
    (view.pumps hcall) ⟨rfl, rfl⟩ (fun _ hx => by cases hx) (hk.install handler hslot hlib)
  rw [final_checked]
  exact (returned.setPending none).setPending _

/-- A thread without its handler and what that left behind. -/
def Process.withoutHandler (p : Process) : Process :=
  p.setHere { p.here with locals := { p.locals with handler := none, deferred := [] } }

theorem final_takeDeferred (p : Process) :
    final takeDeferred (final (modifyLocals fun s => { s with handler := none }) p) =
      p.withoutHandler := by
  simp [takeDeferred, final_modifyLocals, Process.locals, Process.withoutHandler]

/-- After the native call the handler goes, and what it left to destroy is destroyed. -/
theorem final_processEvents (call : Call) (handler : Handler) {q : Process}
    (hq : final (checked (native call)).run
      (final (modifyLocals fun s => { s with handler := some handler }) p) = q) :
    final (processEvents native call handler) p =
      final (q.locals.deferred.forM fun pointer => Window.destroy native pointer)
        q.withoutHandler := by
  simp only [processEvents, final_bind, hq, final_takeDeferred]
  simp [takeDeferred, final_modifyLocals, Process.locals]

theorem Kept.withoutHandler (hk : Kept p.current l p) (hp : AllCalm p.withoutHandler)
    (view : View p.withoutHandler {} .outside) :
    UnderLock p.current {} p.withoutHandler.here l.held.length p.withoutHandler := by
  refine ⟨hp, view, ⟨rfl, rfl⟩, by decide, rfl, .rfl, hk.guarded.locked, hk.guarded.holders,
    fun u hu => ?_⟩
  rw [Process.withoutHandler, Process.setHere, Registry.get_set_of_ne _ hu]
  exact hk.guarded.others u hu

/-- After the native call of a pump the books are settled and the handler is gone. -/
theorem processEvents_desk (hm : LibraryKeepsBooks native) {call : Call} (hcall : call.pumps = true)
    (handler : Handler) (hp : AllCalm p) (hw : AtWork p {}) (hk : Kept p.current l p) {slot : Nat}
    (hslot : p.tables.pumping = some slot)
    (hlib : (occupant p.tables.libraries slot).isSome = true) :
    ∃ t l, t.locals.handler = none ∧
      OwnerMidOperation p.current {} t l [] (final (processEvents native call handler) p) := by
  obtain ⟨calm, stage, hstage, view⟩ := ClientStaysCalm.pumped_view hm.callsBack hcall handler hp hw
  have standing := pumped_standing hm hcall handler hp hw hk hslot hlib
  have hcurrent : (final (checked (native call)).run
      (final (modifyLocals fun s => { s with handler := some handler }) p)).current = p.current :=
    (Confined.closed.checked (hm.confined call) _).current
  generalize hq : final (checked (native call)).run
    (final (modifyLocals fun s => { s with handler := some handler }) p) = q
    at calm view standing hcurrent
  rw [final_processEvents call handler hq, ← hcurrent]
  have waits : q.locals.handler.isSome = true :=
    view.fits.handler.2 (by rcases hstage with rfl | rfl <;> decide)
  have quiet : q.locals.dispatching = false := by
    rcases hstage with rfl | rfl <;> simpa using view.fits.dispatching
  obtain ⟨-, l', kept⟩ := standing.installed (fun _ hx => by cases hx) waits
  obtain ⟨calm', view'⟩ := ClientStaysCalm.removed_view calm view hstage
  rw [final_takeDeferred] at calm' view'
  have busy : l'.busy = false := kept.account.busy.trans quiet
  obtain ⟨base, ledger⟩ := (kept.withoutHandler calm' view').destroyAll hm q.locals.deferred
    kept.reads.ledger kept.alive kept.account.owing busy kept.reads.urgent
  have here : q.withoutHandler.here =
      { q.here with locals := { q.locals with handler := none, deferred := [] } } :=
    Process.here_setHere _ _
  have removed : q.withoutHandler.here.locals.handler = none := by rw [here]
  refine ⟨_, { l' with owing := [] }, removed, base, ⟨ledger, kept.reads.urgent, kept.reads.owner⟩,
    kept.alive, kept.held, ?_⟩
  rw [here]
  exact ⟨kept.account.held, rfl, kept.account.busy, fun _ => rfl, fun hs => by cases hs⟩

theorem final_runPump (slot : Nat) (kind : PumpKind) (handler : Handler)
    (h : (occupant p.tables.libraries slot).isSome = true) :
    final (runPump native slot kind handler) p =
      final (modifyTables fun now => { now with pumping := p.tables.pumping })
        (final (pump native kind handler).run
          (final (modifyTables fun t => { t with pumping := some slot }) p)) := by
  have found : (occupant p.tables.libraries slot).isNone = false := by
    simpa using h
  simp only [runPump, final_bind, result_getTables, final_getTables, found, Bool.false_eq_true,
    ↓reduceIte]
  rcases result (pump native kind handler).run
    (final (modifyTables fun t => { t with pumping := some slot }) p) with message | (e | _) <;> rfl

/-- A pump that is over leaves the slot of its library to itself. -/
theorem OwnerMidOperation.leavePump (h : OwnerMidOperation v {} t l [] p)
    (removed : t.locals.handler = none)
    (outer : Option Nat) :
    Standing (final (modifyTables fun now => { now with pumping := outer }) (final takePanic p))
      none := by
  have fits := h.base.sight.fits
  have calmed : OwnerMidOperation v {} t l [] (final takePanic p) :=
    ⟨h.base.setHere (h.base.book.trans ⟨rfl, rfl, rfl, rfl, rfl, rfl, rfl⟩)
        ⟨fits.handler, fits.dispatching, by simp⟩,
      ⟨h.reads.ledger, h.reads.urgent, h.reads.owner⟩, h.alive, h.held, h.account⟩
  have book := calmed.base.book
  let t' : Thread := { t with tables := { t.tables with pumping := outer } }
  have same : SameBook t' { (final takePanic p).here with
      tables := { (final takePanic p).tables with pumping := outer } } :=
    ⟨book.libraries, book.windows, book.monitors, rfl, book.handler, book.dispatching, book.deferred⟩
  have account : Account l t' [] :=
    ⟨h.account.held, h.account.owing, h.account.busy, h.account.deferred, fun installed => by
      rw [show t'.locals.handler = none from removed] at installed
      cases installed⟩
  exact (calmed.tables (fun now => { now with pumping := outer }) same account).standing

/-- A pump of the owner is about to run. -/
structure Pumps (slot : Nat) (l : Ledger) (p : Process) : Prop where
  calm : AllCalm p
  work : AtWork p {}
  kept : Kept p.current l p
  pumping : p.tables.pumping = some slot
  library : (occupant p.tables.libraries slot).isSome = true

/-- The owner, outside its handler, has a library and is about to pump. -/
theorem AtWork.pumps (hw : AtWork p w) (hp : AllCalm p) (ho : ∀ x ∈ o, x.owner ≠ p.current)
    (hs : Standing p o) {slot : Nat} (hocc : (occupant p.tables.libraries slot).isSome = true)
    (quiet : ¬p.locals.dispatching = true) : o = none ∧ w = {} ∧
      ∃ l, Pumps slot l (final (modifyTables fun t => { t with pumping := some slot }) p) := by
  obtain ⟨rfl, l, kept⟩ := (hs.owner ho).resolve_left fun bare => by
    have absent : occupant p.tables.libraries slot = none := (bare.occupants slot).1
    rw [absent] at hocc
    cases hocc
  obtain ⟨rfl, -⟩ := hw.outside quiet
  have absent : p.locals.handler = none := by simpa using hw.sight.fits.handler
  obtain ⟨calm, work⟩ := ClientStaysCalm.keepsHandler
    (.tables fun t => { t with pumping := some slot }) p _ hp hw
  refine ⟨rfl, rfl, l, calm, work, kept.setHere ⟨kept.account.held, kept.account.owing,
    kept.account.busy, kept.account.deferred, fun installed => ?_⟩, ?_, ?_⟩
  · rw [show p.here.locals.handler = none from absent] at installed
    cases installed
  · rw [tables_modifyTables]
  · rw [tables_modifyTables]
    exact hocc

theorem runPump_clientKeepsBooks (hm : LibraryKeepsBooks native) (slot : Nat) (kind : PumpKind)
    (handler : Handler) :
    ClientKeepsBooks (runPump native slot kind handler) := by
  intro o p w hp hw ho hs
  by_cases hocc : (occupant p.tables.libraries slot).isSome = true
  · rw [final_runPump slot kind handler hocc]
    let entered := final (modifyTables fun t => { t with pumping := some slot }) p
    change Standing (final (modifyTables fun now => { now with pumping := p.tables.pumping })
      (final (pump native kind handler).run entered)) o
    have locals : entered.locals = p.locals := locals_modifyTables _ p
    by_cases busy : p.locals.dispatching = true
    · rw [final_pump_refused (locals ▸ busy)]
      have restored : final (modifyTables fun now => { now with pumping := p.tables.pumping })
          entered = p.setHere p.here := by
        simp [entered, final_modifyTables, Process.tables]
      rw [restored]
      exact hs.same (sameBooks_setHere p .rfl)
    · obtain ⟨rfl, rfl, l, pumps⟩ := hw.pumps hp ho hs hocc busy
      have hkind : kind.call.pumps = true := by cases kind <;> rfl
      obtain ⟨t, l', removed, desk⟩ := processEvents_desk hm hkind handler pumps.calm pumps.work
        pumps.kept pumps.pumping pumps.library
      rw [final_pump (locals ▸ busy)]
      exact desk.leavePump removed _
  · have refused : final (runPump native slot kind handler) p = p := by
      simp [runPump, Option.not_isSome_iff_eq_none.1 hocc]
    rw [refused]
    exact hs

end Windowing
