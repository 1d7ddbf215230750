import Windowing.Proofs.InitializationLedger
import Windowing.Proofs.WatchedRuns

/-!
Custody of the initialization: how the books and the process agree. Either no thread has a handle,
or one thread has all that are alive, in its tables. While that thread waits in the middle of an
operation, some handles may be in neither place; then the books stand still until it goes on.
-/

namespace Windowing

open Native Client

/-- The handles in a thread's tables that hold the initialization. -/
def Tables.handles (t : Tables) : List Handle :=
  (t.libraries.filterMap id).map .library ++ (t.windows.filterMap id).map .window ++
    (t.monitors.filterMap id).map .monitor

/-- A thread without a handle or a pump. -/
structure Thread.Bare (t : Thread) : Prop where
  handles : t.tables.handles = []
  handler : t.locals.handler = none
  deferred : t.locals.deferred = []

/-- Two threads that the books do not tell apart. -/
structure SameBook (a b : Thread) : Prop where
  libraries : b.tables.libraries = a.tables.libraries
  windows : b.tables.windows = a.tables.windows
  monitors : b.tables.monitors = a.tables.monitors
  pumping : b.tables.pumping = a.tables.pumping
  handler : b.locals.handler.isSome = a.locals.handler.isSome
  dispatching : b.locals.dispatching = a.locals.dispatching
  deferred : b.locals.deferred = a.locals.deferred

/-- The same handles in the same slots, but for contexts. -/
structure SameHandles (a b : Tables) : Prop where
  libraries : b.libraries = a.libraries
  windows : b.windows = a.windows
  monitors : b.monitors = a.monitors

theorem SameBook.sameHandles {a b : Thread} (h : SameBook a b) : SameHandles a.tables b.tables :=
  ⟨h.libraries, h.windows, h.monitors⟩

/-- The books agree with their owner's state, but for the handles that are on their way to or from
its tables. A pump keeps its library in its slot. -/
structure Account (l : Ledger) (t : Thread) (flying : List Handle) : Prop where
  held : l.held.Perm (t.tables.handles ++ flying)
  owing : l.owing = t.locals.deferred
  busy : l.busy = t.locals.dispatching
  deferred : t.locals.handler = none → t.locals.deferred = []
  pumping : t.locals.handler.isSome = true →
    ∃ slot, t.tables.pumping = some slot ∧ (occupant t.tables.libraries slot).isSome = true

/-- One thread has the lock, and no other has a handle. -/
structure Guarded (owner : ThreadId) (holders : Nat) (p : Process) : Prop where
  locked : p.locked = true
  holders : p.holders = holders
  others : ∀ u, u ≠ owner → (p.threads.get u).Bare

/-- The books of a process, which no thread but the owner is in. -/
structure Reads (owner : ThreadId) (l : Ledger) (p : Process) : Prop where
  ledger : p.ledger = some l
  urgent : l.urgent = none
  owner : ∀ u, l.phase.owner = some u → u = owner

/-- All handles that are alive are in their owner's tables. -/
structure Kept (owner : ThreadId) (l : Ledger) (p : Process) : Prop where
  guarded : Guarded owner l.held.length p
  reads : Reads owner l p
  alive : l.phase = .alive owner
  held : l.held ≠ []
  account : Account l (p.threads.get owner) []

/-- Nothing is initialized. -/
structure Free (p : Process) : Prop where
  ledger : p.ledger = some {}
  locked : p.locked = false
  bare : ∀ u, (p.threads.get u).Bare

/-- The books while their owner waits in the middle of an operation. -/
structure Pause where
  owner : ThreadId
  ledger : Ledger
  holders : Nat

/-- How books and process agree between the operations of the owner, or during one. -/
inductive Standing (p : Process) : Option Pause → Prop where
  | free (h : Free p) : Standing p none
  | kept {owner : ThreadId} {l : Ledger} (h : Kept owner l p) : Standing p none
  | paused (o : Pause) (running : o.owner ∈ p.running) (guarded : Guarded o.owner o.holders p)
    (reads : Reads o.owner o.ledger p) : Standing p (some o)

theorem SameBook.rfl {t : Thread} : SameBook t t :=
  ⟨Eq.refl _, Eq.refl _, Eq.refl _, Eq.refl _, Eq.refl _, Eq.refl _, Eq.refl _⟩

theorem SameBook.trans {a b c : Thread} (h : SameBook a b) (h' : SameBook b c) : SameBook a c :=
  ⟨h'.libraries.trans h.libraries, h'.windows.trans h.windows, h'.monitors.trans h.monitors,
    h'.pumping.trans h.pumping, h'.handler.trans h.handler, h'.dispatching.trans h.dispatching,
    h'.deferred.trans h.deferred⟩

theorem SameBook.handles {a b : Thread} (h : SameBook a b) :
    b.tables.handles = a.tables.handles := by
  rw [Tables.handles, h.libraries, h.windows, h.monitors, Tables.handles]

theorem SameBook.handler_none {a b : Thread} (h : SameBook a b) :
    b.locals.handler = none ↔ a.locals.handler = none := by
  rw [← Option.isNone_iff_eq_none, ← Option.isNone_iff_eq_none, ← Option.not_isSome,
    ← Option.not_isSome, h.handler]

theorem Thread.Bare.same {a b : Thread} (hb : a.Bare) (h : SameBook a b) : b.Bare :=
  ⟨h.handles.trans hb.handles, h.handler_none.2 hb.handler, h.deferred.trans hb.deferred⟩

theorem Account.same {l : Ledger} {a b : Thread} {flying : List Handle} (ha : Account l a flying)
    (h : SameBook a b) : Account l b flying where
  held := h.handles ▸ ha.held
  owing := ha.owing.trans h.deferred.symm
  busy := ha.busy.trans h.dispatching.symm
  deferred hn := h.deferred.trans (ha.deferred (h.handler_none.1 hn))
  pumping hs := by
    obtain ⟨slot, hslot, hlib⟩ := ha.pumping (h.handler ▸ hs)
    exact ⟨slot, h.pumping.trans hslot, h.libraries ▸ hlib⟩

/-- Nothing that the books show has changed. -/
structure SameBooks (p q : Process) : Prop where
  running : ∀ t ∈ p.running, t ∈ q.running
  threads : ∀ t, SameBook (p.threads.get t) (q.threads.get t)
  locked : q.locked = p.locked
  holders : q.holders = p.holders
  ledger : ∀ l, p.ledger = some l → l.urgent = none → q.ledger = some l

section Same

variable {p q : Process} {v : ThreadId} {l : Ledger} {n : Nat} {o : Option Pause}

theorem Guarded.same (h : SameBooks p q) (hp : Guarded v n p) : Guarded v n q :=
  ⟨h.locked.trans hp.locked, h.holders.trans hp.holders,
    fun u hu => (hp.others u hu).same (h.threads u)⟩

theorem Reads.same (h : SameBooks p q) (hp : Reads v l p) : Reads v l q :=
  ⟨h.ledger l hp.ledger hp.urgent, hp.urgent, hp.owner⟩

theorem Standing.same (h : SameBooks p q) (hp : Standing p o) : Standing q o := by
  cases hp with
  | free hf =>
    exact .free ⟨h.ledger _ hf.ledger rfl, h.locked.trans hf.locked,
      fun u => (hf.bare u).same (h.threads u)⟩
  | kept hk =>
    exact .kept ⟨hk.guarded.same h, hk.reads.same h, hk.alive, hk.held,
      hk.account.same (h.threads _)⟩
  | paused o running guarded reads =>
    exact .paused o (h.running _ running) (guarded.same h) (reads.same h)

theorem Alike.sameBooks (h : Alike p q) : SameBooks p q where
  running _ ht := h.running ▸ ht
  threads _ := h.threads ▸ .rfl
  locked := h.locked
  holders := h.holders
  ledger l hl _ := by rw [Process.ledger, h.history]; exact hl

theorem sameBooks_noted (p : Process) {h : Happening}
    (hstep : ∀ l, p.ledger = some l → l.urgent = none → l.step ⟨p.current, h⟩ = some l) :
    SameBooks p (p.note h) where
  running _ ht := ht
  threads _ := .rfl
  locked := rfl
  holders := rfl
  ledger l hl hu := by
    rw [ledger_note, hl]
    exact hstep l hl hu

theorem sameBooks_note (p : Process) {h : Happening} (hn : h.neutral = true) :
    SameBooks p (p.note h) :=
  sameBooks_noted p fun _ _ hu => Ledger.step_neutral hu hn

theorem sameBooks_setHere (p : Process) {t : Thread} (h : SameBook p.here t) :
    SameBooks p (p.setHere t) where
  running _ ht := ht
  threads u := by
    by_cases hu : u = p.current
    · subst hu
      rw [Process.setHere, Registry.get_set_self]
      exact h
    · rw [Process.setHere, Registry.get_set_of_ne _ hu]
      exact .rfl
  locked := rfl
  holders := rfl
  ledger _ hl _ := hl

theorem Standing.setPending (hp : Standing p o) (e : Option Error) :
    Standing (final (setPending e) p) o :=
  hp.same (sameBooks_setHere p ⟨rfl, rfl, rfl, rfl, rfl, rfl, rfl⟩)

theorem sameBooks_push (p : Process) (t : ThreadId) :
    SameBooks p { p with running := t :: p.running } where
  running _ ht := List.mem_cons_of_mem _ ht
  threads _ := .rfl
  locked := rfl
  holders := rfl
  ledger _ hl _ := hl

end Same

end Windowing
