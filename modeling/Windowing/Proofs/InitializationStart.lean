import Windowing.Proofs.HandleCreation

/-!
How an initialization begins. The lock is taken before the native library is initialized, and if
that fails, or an error was reported meanwhile, it is free again at the end.
-/

namespace Windowing

open Native Client

variable {native : Backend} {v : ThreadId} {w : Watch} {t : Thread} {n : Nat} {p : Process}

/-- A thread has the lock, and has not initialized anything yet. -/
structure Outset (v : ThreadId) (w : Watch) (t : Thread) (n : Nat) (p : Process) : Prop where
  base : UnderLock v w t n p
  ledger : p.ledger = some {}

theorem Outset.unaffected {α : Type} {m : M α} (hm : BooksUnaffected m) (h : Outset v w t n p) :
    Outset v w t n (final m p) := by
  have reads : Reads v {} p := ⟨h.ledger, rfl, fun _ hu => by cases hu⟩
  obtain ⟨base, reads⟩ := h.base.unaffected reads hm
  exact ⟨base, reads.ledger⟩

theorem BooksUnaffected.outset {α : Type} {m : M α} (hm : BooksUnaffected m) :
    Triple (Outset v w t n) m fun _ => Outset v w t n := fun _ h => h.unaffected hm

/-- A thread that begins an initialization has no handle and runs no handler. -/
structure Thread.Ready (t : Thread) : Prop extends t.Bare where
  dispatching : t.locals.dispatching = false

theorem Thread.Ready.account (h : t.Ready) (owner : ThreadId) :
    Account { phase := .alive owner, held := [.library {}] } t [.library {}] where
  held := by rw [h.handles]; exact .rfl
  owing := h.deferred.symm
  busy := h.dispatching.symm
  deferred _ := h.deferred
  pumping hs := by simp [h.handler] at hs

/-- The owner has the first handle, on its way, and nothing else. -/
def First (v : ThreadId) (w : Watch) (t : Thread) (p : Process) : Prop :=
  ∃ l, OwnerMidOperation v w t l [.library {}] p

theorem BooksUnaffected.first {α : Type} {m : M α} (hm : BooksUnaffected m) :
    Triple (First v w t) m fun _ => First v w t := by
  rintro p ⟨l, desk⟩
  exact ⟨l, desk.unaffected hm⟩

/-- The first handle comes right after the native initialization. -/
theorem initialized_first (ready : t.Ready) (h : UnderLock v w t n p)
    (hl : p.ledger = some { phase := .started v, urgent := some ⟨v, .obtained (.library {})⟩ }) :
    First v w t
      (final (do modify fun p => { p with holders := 1 }; note (.obtained (.library {}))) p) := by
  have counted : UnderLock v w t 1 { p with holders := 1 } :=
    h.shared ⟨rfl, rfl, rfl⟩ h.guarded.locked rfl
  have step : Ledger.step { phase := .started v, urgent := some ⟨v, .obtained (.library {})⟩ }
      ⟨v, .obtained (.library {})⟩ = some { phase := .alive v, held := [.library {}] } := by
    simp [Ledger.step, Ledger.advance.eq_def, Handle.holds]
  have ledger : (final (do modify fun p => { p with holders := 1 }; note (.obtained (.library {})))
      p).ledger = some { phase := .alive v, held := [.library {}] } := by
    change (Process.note { p with holders := 1 } (.obtained (.library {}))).ledger = _
    rw [ledger_note, counted.current]
    change p.ledger.bind _ = _
    rw [hl]
    exact step
  have noted := counted.note (e := .obtained (.library {})) rfl
  exact ⟨{ phase := .alive v, held := [.library {}] }, noted, ⟨ledger, rfl,
    fun u hu => (Option.some.inj hu).symm⟩, rfl, by simp, ready.account v⟩

/-- What an attempt to initialize leaves: the first handle on its way, or the lock free and no
handle. -/
def Begun {ε : Type} (v : ThreadId) (w : Watch) (outcome : Except ε Library) (p : Process) : Prop :=
  match outcome with
  | .ok library => Busy v w [.library library] none p
  | .error _ => Standing p none ∧ p.tables.handles = []

/-- An error that was reported meanwhile ends an initialization right after its beginning. -/
theorem first_begun (hm : LibraryKeepsBooks native) (ready : t.Ready) :
    Triple (First v w t) (do
      let _ ← native .setMonitorCallback
      match ← takeError with
      | some e =>
        Library.drop native {}
        return .error ⟨e⟩
      | none =>
        log (.initialized (← Library.versionString native))
        return .ok {}) (Begun (ε := InitError) v w) := by
  refine .bind (BooksUnaffected.call hm rfl rfl).first fun _ => ?_
  refine .bind BooksUnaffected.takeError.first fun e => ?_
  cases e with
  | some e =>
    rintro p ⟨l, desk⟩
    obtain ⟨book, standing⟩ := desk.giveUp hm rfl rfl
    exact ⟨standing, book.handles.trans ready.handles⟩
  | none =>
    have version : BooksUnaffected (Library.versionString native) :=
      .composed (fun _ _ => .quiet hm) versionString_tells.telling
    exact .bind version.first fun _ => .bind (BooksUnaffected.note rfl rfl).first fun _ =>
      .pure fun _ ⟨l, desk⟩ => ⟨t, l, desk, by simp⟩

/-- The native initialization succeeds, or the books are as they were. -/
theorem Outset.initialize (hm : LibraryKeepsBooks native) (h : Outset v w t n p) :
    UnderLock v w t n (final (native .init) p) ∧ (final (native .init) p).ledger = some
      (if Flag.isSet (result (native .init) p).value then
        { phase := .started v, urgent := some ⟨v, .obtained (.library {})⟩ } else {}) := by
  have begin : Ledger.step {} ⟨v, .called .init⟩ = some { phase := .starting v } := by
    simp [Ledger.step, Ledger.advance.eq_def]
  have unpumped : Call.pumps .init = false := rfl
  obtain ⟨base, ledger⟩ := h.base.call hm unpumped h.ledger begin rfl
    fun u hu => (Option.some.inj hu).symm
  refine ⟨base, ledger.trans ?_⟩
  by_cases success : Flag.isSet (result (native .init) p).value = true <;>
    simp [Ledger.step, Ledger.advance.eq_def, success]

theorem start_begun (hm : LibraryKeepsBooks native) (ready : t.Ready) :
    Triple (Outset v w t n) (Library.start native) (Begun v w) := by
  refine .bind (BooksUnaffected.call hm rfl rfl).outset fun _ => ?_
  refine .bind BooksUnaffected.takeError.outset fun _ p hp => ?_
  obtain ⟨base, ledger⟩ := hp.initialize hm
  rw [result_bind, final_bind]
  generalize result (native .init) p = reply at ledger ⊢
  generalize final (native .init) p = q at base ledger ⊢
  by_cases success : Flag.isSet reply.value = true
  · rw [if_pos success] at ledger ⊢
    exact first_begun hm ready _ (initialized_first ready base ledger)
  · rw [if_neg success] at ledger ⊢
    have failed : Outset v w t n (final takeError q) := Outset.unaffected .takeError ⟨base, ledger⟩
    obtain ⟨book, standing⟩ := failed.base.unlock failed.ledger ready.toBare
    exact ⟨standing, book.handles.trans ready.handles⟩

/-- A thread that takes the lock while it is free has no handle. -/
theorem AtWork.outset {o : Option Pause} (hw : AtWork p w) (hp : AllCalm p) (hs : Standing p o)
    (free : p.locked = false) :
    o = none ∧ p.here.Ready ∧ Outset p.current w p.here p.holders p.withLock := by
  cases hs with
  | kept hk =>
    rw [hk.guarded.locked] at free
    cases free
  | paused x running guarded reads =>
    rw [guarded.locked] at free
    cases free
  | free hf =>
    have bare : p.here.Bare := hf.bare _
    have outside : w.stage = .outside := hw.sight.fits.outside bare.handler
    have quiet : p.locals.dispatching = false := by simpa [outside] using hw.sight.fits.dispatching
    have locked := SameThreads.withLock p
    exact ⟨rfl, ⟨bare, quiet⟩, ⟨locked.allCalm hp, locked.view hw.sight, hw.clear, hw.stage_ne, rfl,
      .rfl, rfl, rfl, fun u _ => hf.bare u⟩, hf.ledger⟩

/-- An initialization begins while the lock is free. -/
theorem init_begun (hm : LibraryKeepsBooks native) {o : Option Pause} (hp : AllCalm p)
    (hw : AtWork p w)
    (hs : Standing p o) (free : p.locked = false) :
    o = none ∧ Begun p.current w (result (Library.init native) p) (final (Library.init native) p) :=
      by
  obtain ⟨none, ready, outset⟩ := hw.outset hp hs free
  rw [Library.result_init, Library.final_init]
  exact ⟨none, start_begun hm ready _ outset⟩

/-- The books are kept, and if the outcome is a failed initialization, the thread has no handle. -/
def Settles (m : M Outcome) : Prop :=
  ∀ o p w, AllCalm p → AtWork p w → (∀ x ∈ o, x.owner ≠ p.current) → Standing p o →
    Standing (final m p) o ∧
      ((result m p).uninitialized = true → (final m p).tables.handles = [])

theorem Settles.clientKeepsBooks {m : M Outcome} (h : Settles m) : ClientKeepsBooks m :=
  fun o p w hp hw ho hs => (h o p w hp hw ho hs).1

theorem runInit_settles (hm : LibraryKeepsBooks native) : Settles (runInit native) := by
  intro o p w hp hw ho hs
  cases locked : p.locked with
  | true =>
    rw [result, final, runInit_locked native locked]
    exact ⟨hs, fun hu => by cases hu⟩
  | false =>
    obtain ⟨rfl, begun⟩ := init_begun hm hp hw hs locked
    rw [result, final, runInit_unlocked native locked, ← result, ← final, result_bind, final_bind]
    generalize result (Library.init native) p = outcome at begun ⊢
    cases outcome with
    | error e => exact ⟨begun.1, fun _ => begun.2⟩
    | ok library => exact ⟨(addLibrary_busy library _ begun).standing, fun hu => by cases hu⟩

theorem runTryInit_settles (hm : LibraryKeepsBooks native) : Settles (runTryInit native) := by
  intro o p w hp hw ho hs
  cases locked : p.locked with
  | true =>
    rw [result, final, runTryInit_locked native locked]
    exact ⟨hs, fun hu => by cases hu⟩
  | false =>
    obtain ⟨rfl, begun⟩ := init_begun hm hp hw hs locked
    rw [result, final, runTryInit_unlocked native locked, ← result, ← final, result_bind, final_bind]
    generalize result (Library.init native) p = outcome at begun ⊢
    cases outcome with
    | error e => exact ⟨begun.1, fun _ => begun.2⟩
    | ok library => exact ⟨(addLibrary_busy library _ begun).standing, fun hu => by cases hu⟩

end Windowing
