import Windowing.Proofs.LedgerKeeping

/-!
What the owner of the initialization does with its handles, step by step: each is obtained, put into
a slot, taken out and dropped, and the books follow.
-/

namespace Windowing

open Native Client

variable {α β ε : Type} {native : Backend}

/-- A thread is in the middle of an operation under the lock: `t` is its state, but for what the
books do not show. -/
structure UnderLock (v : ThreadId) (w : Watch) (t : Thread) (holders : Nat) (p : Process) : Prop where
  calm : AllCalm p
  sight : Sight p w
  clear : w.Clear
  stage : w.stage ≠ .listening
  current : p.current = v
  book : SameBook t p.here
  guarded : Guarded v holders p

/-- The owner is in the middle of an operation, with some handles on their way. -/
structure OwnerMidOperation (v : ThreadId) (w : Watch) (t : Thread) (l : Ledger)
    (flying : List Handle)
    (p : Process) : Prop where
  base : UnderLock v w t l.held.length p
  reads : Reads v l p
  alive : l.phase = .alive v
  held : l.held ≠ []
  account : Account l t flying

section UnderLock

variable {v : ThreadId} {w : Watch} {t t' : Thread} {l l' : Ledger} {n : Nat} {p : Process}
  {flying : List Handle}

/-- The paused books of the current thread. -/
theorem UnderLock.paused (h : UnderLock v w t n p) (hr : Reads v l p) : Standing p (some ⟨v, l, n⟩) :=
  .paused ⟨v, l, n⟩ (h.current ▸ h.sight.running) h.guarded hr

theorem UnderLock.unaffected (h : UnderLock v w t n p) (hr : Reads v l p) {m : M α}
    (hm : BooksUnaffected m) :
    UnderLock v w t n (final m p) ∧ Reads v l (final m p) := by
  obtain ⟨hq, hw, -⟩ := hm.keepsHandler p w h.calm h.sight h.clear h.stage
  have book := hm.book p w h.calm h.sight h.clear h.stage
  have standing := hm.standing _ p w h.calm h.sight h.clear h.stage (h.paused hr)
  cases standing with
  | paused _ _ guarded reads =>
    exact ⟨⟨hq, hw, h.clear, h.stage, (hm.confined p).current.trans h.current, h.book.trans book,
      guarded⟩, reads⟩

theorem OwnerMidOperation.unaffected (h : OwnerMidOperation v w t l flying p) {m : M α}
    (hm : BooksUnaffected m) :
    OwnerMidOperation v w t l flying (final m p) := by
  obtain ⟨base, reads⟩ := h.base.unaffected h.reads hm
  exact ⟨base, reads, h.alive, h.held, h.account⟩

theorem UnderLock.setHere (h : UnderLock v w t n p) {u : Thread} (hu : SameBook t' u)
    (hf : w.stage.Fits u.locals) : UnderLock v w t' n (p.setHere u) where
  calm := allCalm_setHere h.calm h.sight.running u
  sight := h.sight.setHere hf
  clear := h.clear
  stage := h.stage
  current := h.current
  book := by rw [Process.here_setHere]; exact hu
  guarded := by
    refine ⟨h.guarded.locked, h.guarded.holders, fun x hx => ?_⟩
    have hne : x ≠ p.current := h.current ▸ hx
    rw [Process.setHere, Registry.get_set_of_ne _ hne]
    exact h.guarded.others x hx

theorem UnderLock.setPending (h : UnderLock v w t n p) (e : Option Error) :
    UnderLock v w t n (final (setPending e) p) :=
  h.setHere (h.book.trans ⟨rfl, rfl, rfl, rfl, rfl, rfl, rfl⟩)
    ⟨h.sight.fits.handler, h.sight.fits.dispatching, h.sight.fits.panic⟩

theorem UnderLock.note (h : UnderLock v w t n p) {e : Happening} (he : e.still = true) :
    UnderLock v w t n (p.note e) where
  calm := allCalm_note h.calm h.sight.running e
  sight := h.sight.note (Watch.step_still h.clear he)
  clear := h.clear
  stage := h.stage
  current := h.current
  book := h.book
  guarded := ⟨h.guarded.locked, h.guarded.holders, h.guarded.others⟩

/-- The owner's own call, of which the books show the beginning and the end. -/
theorem UnderLock.call (hm : LibraryKeepsBooks native) (h : UnderLock v w t n p) {call : Call}
    (hpumps : call.pumps = false) {before : Ledger} (hl : p.ledger = some before)
    (hstep : before.step ⟨v, .called call⟩ = some l) (hu : l.urgent = none)
    (ho : ∀ u, l.phase.owner = some u → u = v) :
    UnderLock v w t n (final (native call) p) ∧
      (final (native call) p).ledger = l.step ⟨v, .returned call (result (native call) p)⟩ := by
  have start : w.step (.called call) =
      some { w with armed := none, frames := (call, w.frame call) :: w.frames } := by
    simp [Watch.step, hpumps, h.clear.owed, h.clear.armed]
  have called : Sight (p.note (.called call))
      { w with armed := none, frames := (call, w.frame call) :: w.frames } := h.sight.note start
  have paused : Standing (p.note (.called call)) (some ⟨v, l, n⟩) := by
    refine .paused ⟨v, l, n⟩ (h.current ▸ h.sight.running)
      ⟨h.guarded.locked, h.guarded.holders, h.guarded.others⟩ ⟨?_, hu, ho⟩
    rw [ledger_note, hl, h.current]
    exact hstep
  obtain ⟨guarded, ledger⟩ := hm.own call ⟨v, l, n⟩ p _ h.calm called ⟨rfl, h.clear.owed⟩ h.stage
    h.current.symm paused
  obtain ⟨hq, w', hw', heard⟩ := hm.callsBack.onlyCallbacks hpumps p w h.calm h.sight h.clear
  rw [heard.eq h.clear h.stage] at hw'
  have book := (heard.aside h.stage).2.book
  exact ⟨⟨hq, hw', h.clear, h.stage, (hm.confined call p).current.trans h.current,
    h.book.trans book, guarded⟩, ledger⟩

/-- The same of a checked call. -/
theorem UnderLock.checked (hm : LibraryKeepsBooks native) (h : UnderLock v w t n p) {call : Call}
    (hpumps : call.pumps = false) {before : Ledger} (hl : p.ledger = some before)
    (hstep : before.step ⟨v, .called call⟩ = some l) (hu : l.urgent = none)
    (ho : ∀ u, l.phase.owner = some u → u = v) :
    UnderLock v w t n (final (Windowing.checked (native call)).run p) ∧
      (final (Windowing.checked (native call)).run p).ledger =
        l.step ⟨v, .returned call (result (native call) (final takeError p))⟩ := by
  obtain ⟨base, ledger⟩ := (h.setPending none).call hm hpumps hl hstep hu ho
  rw [final_checked]
  exact ⟨(base.setPending none).setPending _, ledger⟩

end UnderLock

/-! ### Obtaining -/

section Obtaining

variable {v : ThreadId} {w : Watch} {t t' : Thread} {l : Ledger} {n n' : Nat} {p q : Process}
  {flying flying' : List Handle}

theorem UnderLock.shared (h : UnderLock v w t n p) (same : SameThreads p q) (locked : q.locked = true)
    (holders : q.holders = n') : UnderLock v w t n' q where
  calm := same.allCalm h.calm
  sight := same.view h.sight
  clear := h.clear
  stage := h.stage
  current := same.current.trans h.current
  book := same.here ▸ h.book
  guarded := ⟨locked, holders, fun u hu => same.threads ▸ h.guarded.others u hu⟩

/-- A new handle, of a window only if the window was just created, is on its way. -/
theorem OwnerMidOperation.obtain (h : OwnerMidOperation v w t l flying p) {handle : Handle}
    (hh : handle.holds = true)
    (hc : ∀ x ∈ handle.window?, l.created = some x.pointer) (same : SameThreads p q)
    (locked : q.locked = p.locked) (holders : q.holders = p.holders + 1) :
    OwnerMidOperation v w t { l with held := handle :: l.held, created := none } (handle :: flying)
      (q.note (.obtained handle)) := by
  have base : UnderLock v w t (l.held.length + 1) q :=
    h.base.shared same (locked.trans h.base.guarded.locked)
      (holders.trans (by rw [h.base.guarded.holders]))
  have step : l.step ⟨v, .obtained handle⟩ =
      some { l with held := handle :: l.held, created := none } := by
    rw [Ledger.step_eq_advance h.reads.urgent]
    simp [Ledger.advance.eq_def, hh, h.alive, h.held]
    exact hc
  refine ⟨base.note rfl, ⟨?_, h.reads.urgent, h.reads.owner⟩, h.alive, by simp, ?_⟩
  · rw [ledger_note, Process.ledger, same.history, ← Process.ledger, h.reads.ledger, base.current]
    exact step
  · exact ⟨(h.account.held.cons handle).trans List.perm_middle.symm, h.account.owing,
      h.account.busy, h.account.deferred, h.account.pumping⟩

/-- A change of the owner's tables. -/
theorem OwnerMidOperation.tables (h : OwnerMidOperation v w t l flying p) (f : Tables → Tables)
    (hb : SameBook t' { p.here with tables := f p.tables }) (ha : Account l t' flying') :
    OwnerMidOperation v w t' l flying' (final (modifyTables f) p) :=
  ⟨h.base.setHere hb h.base.sight.fits, ⟨h.reads.ledger, h.reads.urgent, h.reads.owner⟩, h.alive,
    h.held, ha⟩

/-- At the end of an operation nothing is on its way. -/
theorem OwnerMidOperation.standing (h : OwnerMidOperation v w t l [] p) : Standing p none := by
  refine Standing.kept ⟨h.base.guarded, h.reads, h.alive, h.held, ?_⟩
  have book := h.base.book
  rw [Process.here, h.base.current] at book
  exact h.account.same book

theorem filterMap_set {table : List (Option α)} {slot : Nat} {a : α}
    (h : occupant table slot = some a) :
    (table.filterMap id).Perm (a :: (table.set slot none).filterMap id) := by
  induction table generalizing slot with
  | nil => simp [occupant] at h
  | cons head rest ih =>
    cases slot with
    | zero =>
      have hhead : head = some a := by simpa [occupant] using h
      simp [hhead]
    | succ slot =>
      have hrest : occupant rest slot = some a := by simpa [occupant] using h
      cases head with
      | none => simpa using ih hrest
      | some b => simpa using ((ih hrest).cons b).trans (List.Perm.swap _ _ _)

end Obtaining

/-! ### Giving up -/

section Giving

variable {v : ThreadId} {w : Watch} {t : Thread} {l : Ledger} {p : Process}

/-- When nothing is alive, the owner has nothing left. -/
theorem Account.bare (h : Account l t []) (hl : l.held = []) : t.Bare := by
  have handles : t.tables.handles = [] := by
    have held := h.held
    rw [hl, List.append_nil] at held
    exact held.symm.eq_nil
  have handler : t.locals.handler = none := by
    cases hh : t.locals.handler with
    | none => rfl
    | some handler =>
      obtain ⟨slot, -, hlib⟩ := h.pumping (by simp [hh])
      obtain ⟨lib, hlib⟩ := Option.isSome_iff_exists.1 hlib
      have hmem : lib ∈ t.tables.libraries.filterMap id :=
        (filterMap_set hlib).mem_iff.2 List.mem_cons_self
      have habsent : t.tables.libraries.filterMap id = [] := by
        simp only [Tables.handles, List.append_eq_nil_iff, List.map_eq_nil_iff] at handles
        exact handles.1.1
      rw [habsent] at hmem
      cases hmem
  exact ⟨handles, handler, h.deferred handler⟩

/-- The lock is given back when nothing is initialized and its owner has nothing left. -/
theorem UnderLock.unlock {n : Nat} (h : UnderLock v w t n p) (hl : p.ledger = some {})
    (bare : t.Bare) :
    SameBook t (final unlock p).here ∧ Standing (final unlock p) none := by
  have free : Free (final Windowing.unlock p) := by
    refine ⟨hl, rfl, fun u => ?_⟩
    by_cases hu : u = v
    · have book := h.book
      rw [Process.here, h.current] at book
      exact hu ▸ bare.same book
    · exact h.guarded.others u hu
  exact ⟨h.book, .free free⟩

theorem UnderLock.terminate (hm : LibraryKeepsBooks native) {n : Nat} (h : UnderLock v w t n p)
    (hl : p.ledger = some l)
    (alive : l.phase = .alive v) (held : l.held = []) (account : Account l t [])
    (hu : l.urgent = none ∨ l.urgent = some ⟨v, .called .terminate⟩) :
    SameBook t (final (terminate native) p).here ∧ Standing (final (terminate native) p) none := by
  have bare := account.bare held
  have owing : l.owing = [] := account.owing.trans bare.deferred
  have busy : l.busy = false := by
    have outside := h.sight.fits.outside (h.book.handler_none.2 bare.handler)
    have quiet : p.locals.dispatching = false := by simpa [outside] using h.sight.fits.dispatching
    exact account.busy.trans (h.book.dispatching.symm.trans quiet)
  have step : l.step ⟨v, .called .terminate⟩ = some { phase := .ending v } := by
    simp [Ledger.step, Ledger.advance.eq_def, hu, alive, held, owing, busy]
  obtain ⟨base, ledger⟩ := h.checked hm rfl hl step rfl fun u hou => (Option.some.inj hou).symm
  have returned : ∀ reply : Reply, Ledger.step { phase := .ending v }
      ⟨v, .returned .terminate reply⟩ = some {} := fun reply => by
    simp [Ledger.step, Ledger.advance.eq_def]
  rw [returned] at ledger
  simp only [Windowing.terminate, final_bind]
  cases result (Windowing.checked (native .terminate)).run p with
  | ok reply => exact base.unlock ledger bare
  | error e =>
    have logged := base.note (e := .logged (.terminateFailed e)) rfl
    refine logged.unlock ?_ bare
    rw [ledger_note, ledger]
    rfl

theorem final_release (p : Process) : final (release native) p =
    if p.holders - 1 = 0 then final (terminate native) { p with holders := p.holders - 1 }
    else { p with holders := p.holders - 1 } := by
  by_cases h : p.holders - 1 = 0 <;> simp [release, h]

/-- What the owner gives up after it dropped a handle: the native library is terminated if nothing
is alive any more, and only then. -/
theorem UnderLock.release (hm : LibraryKeepsBooks native) (h : UnderLock v w t (l.held.length + 1) p)
    (hl : p.ledger = some l) (alive : l.phase = .alive v) (account : Account l t [])
    (hu : l.urgent = none ∨ l.held = [] ∧ l.urgent = some ⟨v, .called .terminate⟩) :
    SameBook t (final (release native) p).here ∧ Standing (final (release native) p) none := by
  have left : UnderLock v w t l.held.length { p with holders := p.holders - 1 } :=
    h.shared ⟨rfl, rfl, rfl⟩ h.guarded.locked (by rw [h.guarded.holders]; rfl)
  have held_iff : p.holders - 1 = 0 ↔ l.held = [] := by
    rw [h.guarded.holders, Nat.add_sub_cancel, List.length_eq_zero_iff]
  rw [final_release]
  by_cases hheld : l.held = []
  · rw [if_pos (held_iff.2 hheld)]
    exact left.terminate hm hl alive hheld account (hu.imp id And.right)
  · rw [if_neg fun hz => hheld (held_iff.1 hz)]
    have urgent : l.urgent = none := hu.resolve_right fun hz => hheld hz.1
    have owner : ∀ u, l.phase.owner = some u → u = v := fun u hou => by
      rw [alive] at hou
      exact (Option.some.inj hou).symm
    have desk : OwnerMidOperation v w t l [] { p with holders := p.holders - 1 } :=
      ⟨left, ⟨hl, urgent, owner⟩, alive, hheld, account⟩
    exact ⟨left.book, desk.standing⟩

/-- The books after the owner dropped a handle. -/
def Ledger.dropped (l : Ledger) (v : ThreadId) (handle : Handle) : Ledger :=
  { l with
    held := l.held.erase handle
    owing := l.owing ++ handle.window?.toList.map (·.pointer)
    urgent := l.sequel v handle }

/-- A handle that was taken out of its slot is dropped. -/
theorem OwnerMidOperation.drop {handle : Handle} (h : OwnerMidOperation v w t l [handle] p)
    (hh : handle.holds = true) :
    (p.note (.dropped handle)).ledger = some (l.dropped v handle) ∧
      UnderLock v w t ((l.dropped v handle).held.length + 1) (p.note (.dropped handle)) ∧
      (l.dropped v handle).held.Perm (t.tables.handles ++ []) := by
  have held : l.held.Perm (handle :: t.tables.handles) :=
    h.account.held.trans List.perm_append_comm
  have hmem : handle ∈ l.held := held.mem_iff.2 List.mem_cons_self
  have step : l.step ⟨v, .dropped handle⟩ = some (l.dropped v handle) := by
    rw [Ledger.step_eq_advance h.reads.urgent]
    simp [Ledger.advance.eq_def, hh, h.alive, hmem, Ledger.dropped]
  have hlength : (l.dropped v handle).held.length + 1 = l.held.length := by
    have pos := List.length_pos_of_mem hmem
    have shorter := List.length_erase_of_mem hmem
    simp only [Ledger.dropped]
    omega
  refine ⟨?_, hlength ▸ h.base.note rfl, ?_⟩
  · rw [ledger_note, h.reads.ledger, h.base.current]
    exact step
  · have erased := held.erase handle
    rwa [List.erase_cons_head, ← List.append_nil t.tables.handles] at erased

/-- The drop of a library or a monitor. -/
theorem OwnerMidOperation.giveUp (hm : LibraryKeepsBooks native) {handle : Handle}
    (h : OwnerMidOperation v w t l [handle] p)
    (hh : handle.holds = true) (hw : handle.window? = none) :
    SameBook t (final (do note (.dropped handle); release native) p).here ∧
      Standing (final (do note (.dropped handle); release native) p) none := by
  obtain ⟨ledger, base, held⟩ := h.drop hh
  have account : Account (l.dropped v handle) t [] := by
    refine ⟨held, ?_, h.account.busy, h.account.deferred, h.account.pumping⟩
    simpa [Ledger.dropped, hw] using h.account.owing
  refine base.release hm ledger h.alive account ?_
  simp only [Ledger.dropped, Ledger.sequel, hw]
  by_cases hheld : l.held.erase handle = []
  · exact .inr ⟨hheld, if_pos hheld⟩
  · exact .inl (if_neg hheld)

/-- Outside handlers a window is destroyed at once. -/
theorem UnderLock.destroy (hm : LibraryKeepsBooks native) {n : Nat} (h : UnderLock v w t n p)
    {pointer : Pointer}
    {rest : List Pointer} (hl : p.ledger = some l) (alive : l.phase = .alive v)
    (owing : l.owing = pointer :: rest) (busy : l.busy = false)
    (hu : l.urgent = none ∨ l.urgent = some ⟨v, .called (.destroyWindow pointer)⟩) :
    UnderLock v w t n (final (Window.destroy native pointer) p) ∧
      (final (Window.destroy native pointer) p).ledger =
        some { l with owing := rest, urgent := none } := by
  have step : l.step ⟨v, .called (.destroyWindow pointer)⟩ =
      some { l with owing := rest, urgent := none } := by
    simp [Ledger.step, Ledger.advance.eq_def, hu, alive, owing, busy]
  have owner : ∀ u, l.phase.owner = some u → u = v := fun u hou => by
    rw [alive] at hou
    exact (Option.some.inj hou).symm
  obtain ⟨base, ledger⟩ := h.checked hm rfl hl step rfl owner
  have returned : ∀ reply : Reply, Ledger.step { l with owing := rest, urgent := none }
      ⟨v, .returned (.destroyWindow pointer) reply⟩ =
      some { l with owing := rest, urgent := none } := fun reply => by
    simp [Ledger.step, Ledger.advance.eq_def]
  rw [returned] at ledger
  simp only [Window.destroy, final_bind]
  cases result (Windowing.checked (native (.destroyWindow pointer))).run p with
  | ok reply => exact ⟨base, ledger⟩
  | error e =>
    refine ⟨base.note rfl, (ledger_note _ _).trans ?_⟩
    rw [ledger]
    exact Ledger.step_neutral rfl rfl

theorem final_drop_deferred {x : Window} (h : p.locals.dispatching = true) :
    final (x.drop native) p = final (release native)
      ((final (modifyLocals fun s => { s with deferred := s.deferred ++ [x.pointer] })
        (p.note (.dropped (.window x)))).note (.logged (.destructionDeferred x.id))) := by
  simp [Window.drop, log, h]

theorem final_drop_destroyed {x : Window} (h : p.locals.dispatching = false) :
    final (x.drop native) p = final (release native)
      (final (Window.destroy native x.pointer) (p.note (.dropped (.window x)))) := by
  simp [Window.drop, h]

/-- A window that is dropped in a handler waits for the end of the pump. -/
theorem OwnerMidOperation.deferWindow (hm : LibraryKeepsBooks native) {x : Window}
    (h : OwnerMidOperation v w t l [.window x] p)
    (hs : w.stage = .handling) : SameHandles t.tables (final (x.drop native) p).tables ∧
      Standing (final (x.drop native) p) none := by
  obtain ⟨ledger, base, held⟩ := h.drop rfl
  have fits := h.base.sight.fits
  have book := h.base.book
  have busy : p.locals.dispatching = true := fits.dispatching.2 hs
  have lbusy : l.busy = true := (h.account.busy.trans book.dispatching.symm).trans busy
  have installed : t.locals.handler.isSome = true := by
    rw [← book.handler]
    exact fits.handler.2 (by rw [hs]; decide)
  have urgent : (l.dropped v (.window x)).urgent = none := by
    simp [Ledger.dropped, Ledger.sequel, Handle.window?, lbusy]
  let t' : Thread :=
    { t with locals := { t.locals with deferred := t.locals.deferred ++ [x.pointer] } }
  have deferred : UnderLock v w t' ((l.dropped v (.window x)).held.length + 1)
      (final (modifyLocals fun s => { s with deferred := s.deferred ++ [x.pointer] })
        (p.note (.dropped (.window x)))) :=
    base.setHere ⟨book.libraries, book.windows, book.monitors, book.pumping, book.handler,
      book.dispatching, congrArg (· ++ [x.pointer]) book.deferred⟩
      ⟨fits.handler, fits.dispatching, fits.panic⟩
  have account : Account (l.dropped v (.window x)) t' [] :=
    ⟨held, congrArg (· ++ [x.pointer]) h.account.owing, h.account.busy,
      fun hn => absurd hn (Option.isSome_iff_ne_none.1 installed), h.account.pumping⟩
  have logged := deferred.note (e := .logged (.destructionDeferred x.id)) rfl
  have noted : ((final (modifyLocals fun s => { s with deferred := s.deferred ++ [x.pointer] })
      (p.note (.dropped (.window x)))).note (.logged (.destructionDeferred x.id))).ledger =
        some (l.dropped v (.window x)) := by
    refine (ledger_note _ _).trans ?_
    change ((p.note (.dropped (.window x))).ledger.bind _) = _
    rw [ledger]
    exact Ledger.step_neutral urgent rfl
  rw [final_drop_deferred busy]
  obtain ⟨same, standing⟩ := logged.release hm noted h.alive account (.inl urgent)
  exact ⟨⟨same.libraries, same.windows, same.monitors⟩, standing⟩

/-- What the books show of a window that is dropped outside handlers, until it is destroyed. -/
theorem OwnerMidOperation.dropsOutside {x : Window} (h : OwnerMidOperation v w t l [.window x] p)
    (hs : w.stage = .outside) :
    t.locals.handler = none ∧ (l.dropped v (.window x)).owing = [x.pointer] ∧
      (l.dropped v (.window x)).busy = false ∧
      (l.dropped v (.window x)).urgent = some ⟨v, .called (.destroyWindow x.pointer)⟩ := by
  have fits := h.base.sight.fits
  have book := h.base.book
  have idle : p.locals.dispatching = false := by simpa [hs] using fits.dispatching
  have lbusy : l.busy = false := (h.account.busy.trans book.dispatching.symm).trans idle
  have absent : t.locals.handler = none :=
    book.handler_none.1 (by simpa [hs] using fits.handler : p.locals.handler = none)
  refine ⟨absent, ?_, lbusy, ?_⟩
  · simp [Ledger.dropped, Handle.window?, h.account.owing, h.account.deferred absent]
  · simp [Ledger.dropped, Ledger.sequel, Handle.window?, lbusy]

/-- A window that is dropped outside handlers is destroyed before its hold is given up. -/
theorem OwnerMidOperation.destroys (hm : LibraryKeepsBooks native) {x : Window}
    (h : OwnerMidOperation v w t l [.window x] p)
    (hs : w.stage = .outside) :
    UnderLock v w t ((l.dropped v (.window x)).held.length + 1)
      (final (Window.destroy native x.pointer) (p.note (.dropped (.window x)))) ∧
    (final (Window.destroy native x.pointer) (p.note (.dropped (.window x)))).ledger =
      some { l.dropped v (.window x) with owing := [], urgent := none } := by
  obtain ⟨ledger, base, -⟩ := h.drop rfl
  obtain ⟨-, owing, lbusy, urgent⟩ := h.dropsOutside hs
  exact base.destroy hm ledger h.alive owing lbusy (.inr urgent)

/-- A window that is dropped outside handlers is destroyed. -/
theorem OwnerMidOperation.destroyWindow (hm : LibraryKeepsBooks native) {x : Window}
    (h : OwnerMidOperation v w t l [.window x] p)
    (hs : w.stage = .outside) : SameHandles t.tables (final (x.drop native) p).tables ∧
      Standing (final (x.drop native) p) none := by
  obtain ⟨-, -, held⟩ := h.drop rfl
  obtain ⟨absent, -, -, -⟩ := h.dropsOutside hs
  obtain ⟨destroyed, ledger'⟩ := h.destroys hm hs
  have idle : p.locals.dispatching = false := by simpa [hs] using h.base.sight.fits.dispatching
  have account : Account { l.dropped v (.window x) with owing := [], urgent := none } t [] :=
    ⟨held, (h.account.deferred absent).symm, h.account.busy, h.account.deferred,
      h.account.pumping⟩
  rw [final_drop_destroyed idle]
  exact (UnderLock.release (l := { l.dropped v (.window x) with owing := [], urgent := none })
    hm destroyed ledger' h.alive account (.inl rfl)).imp SameBook.sameHandles id

end Giving

end Windowing
