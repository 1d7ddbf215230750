import Windowing.Proofs.HistoryLedger

/-!
What an entry does to the books. Every entry that has a successor is one of a few postings, each with
its condition; what whole histories do to the books is read off them.
-/

namespace Windowing

open Native Client

/-- Everything that an entry of a thread can do to the books. -/
inductive Posting (l : Ledger) (t : ThreadId) : Happening → Ledger → Prop where
  | neutral {h : Happening} (hn : h.neutral = true) : Posting l t h l
  | creating {width height : Int32} {title : Text.Bytes} {monitor share : Pointer} :
    Posting l t (.called (.createWindow width height title monitor share)) l
  | initCalled (idle : l.phase = .idle) : Posting l t (.called .init) { phase := .starting t }
  | initialized {reply : Reply} (starting : l.phase = .starting t)
    (success : Flag.isSet reply.value = true) : Posting l t (.returned .init reply)
      { phase := .started t, urgent := some ⟨t, .obtained (.library {})⟩ }
  | uninitialized {reply : Reply} (starting : l.phase = .starting t)
    (failure : Flag.isSet reply.value = false) : Posting l t (.returned .init reply) {}
  | terminate (alive : l.phase = .alive t) (held : l.held = []) (owing : l.owing = [])
    (busy : l.busy = false) : Posting l t (.called .terminate) { phase := .ending t }
  | terminated {reply : Reply} (ending : l.phase = .ending t) :
    Posting l t (.returned .terminate reply) {}
  | created {width height : Int32} {title : Text.Bytes} {monitor share : Pointer} {reply : Reply}
    (alive : l.phase = .alive t) :
    Posting l t (.returned (.createWindow width height title monitor share) reply)
      { l with created := if reply.pointer = null then none else some reply.pointer }
  | destroy {pointer : Pointer} (alive : l.phase = .alive t) (busy : l.busy = false)
    (owing : l.owing.head? = some pointer) :
    Posting l t (.called (.destroyWindow pointer)) { l with owing := l.owing.tail }
  | destroyed {pointer : Pointer} {reply : Reply} :
    Posting l t (.returned (.destroyWindow pointer) reply) l
  | first (started : l.phase = .started t) :
    Posting l t (.obtained (.library {})) { phase := .alive t, held := [.library {}] }
  | obtain {h : Handle} (holds : h.holds = true) (alive : l.phase = .alive t) (held : l.held ≠ [])
    (created : ∀ w ∈ h.window?, l.created = some w.pointer) :
    Posting l t (.obtained h) { l with held := h :: l.held, created := none }
  | drop {h : Handle} (holds : h.holds = true) (alive : l.phase = .alive t) (held : h ∈ l.held) :
    Posting l t (.dropped h) (l.dropped t h)
  | handling {time : Float} {event : Event} (alive : l.phase = .alive t) (held : l.held ≠ [])
    (busy : l.busy = false) : Posting l t (.handling time event) { l with busy := true }
  | handled {panic : Option String} (alive : l.phase = .alive t) (held : l.held ≠ [])
    (busy : l.busy = true) : Posting l t (.handled panic) { l with busy := false }
  | boundary {h : Happening} (hb : h.boundary = true) (settled : l.Settled t)
    (honest : h.uninitialized = true → l.phase.owner ≠ some t) : Posting l t h l

variable {l l' : Ledger} {t : ThreadId}

namespace Ledger

theorem posting_neutral {h : Happening} (hn : h.neutral = true) (hstep : l.advance t h = some l') :
    Posting l t h l' := by
  cases (Ledger.advance_neutral hn).symm.trans hstep
  exact .neutral hn

theorem posting_called {call : Call} (hstep : l.advance t (.called call) = some l') :
    Posting l t (.called call) l' := by
  cases call with
  | init =>
    simp only [Ledger.advance.eq_def, Option.ite_none_right_eq_some, Option.some.injEq] at hstep
    obtain ⟨idle, rfl⟩ := hstep
    exact .initCalled idle
  | terminate =>
    simp only [Ledger.advance.eq_def, Option.ite_none_right_eq_some, Option.some.injEq] at hstep
    obtain ⟨⟨alive, held, owing, busy⟩, rfl⟩ := hstep
    exact .terminate alive held owing busy
  | createWindow =>
    cases hstep
    exact .creating
  | destroyWindow pointer =>
    simp only [Ledger.advance.eq_def, Option.ite_none_right_eq_some, Option.some.injEq] at hstep
    obtain ⟨⟨alive, busy, owing⟩, rfl⟩ := hstep
    exact .destroy alive busy owing
  | _ => exact posting_neutral rfl hstep

theorem posting_returned {call : Call} {reply : Reply}
    (hstep : l.advance t (.returned call reply) = some l') :
    Posting l t (.returned call reply) l' := by
  cases call with
  | init =>
    simp only [Ledger.advance.eq_def, Option.ite_none_left_eq_some, Decidable.not_not] at hstep
    obtain ⟨starting, hstep⟩ := hstep
    cases success : Flag.isSet reply.value with
    | true =>
      simp only [success, if_true, Option.some.injEq] at hstep
      exact hstep ▸ .initialized starting success
    | false =>
      simp only [success, Bool.false_eq_true, if_false, Option.some.injEq] at hstep
      exact hstep ▸ .uninitialized starting success
  | terminate =>
    simp only [Ledger.advance.eq_def, Option.ite_none_right_eq_some, Option.some.injEq] at hstep
    obtain ⟨ending, rfl⟩ := hstep
    exact .terminated ending
  | createWindow =>
    simp only [Ledger.advance.eq_def, Option.ite_none_right_eq_some, Option.some.injEq] at hstep
    obtain ⟨alive, rfl⟩ := hstep
    exact .created alive
  | destroyWindow pointer =>
    cases hstep
    exact .destroyed
  | _ => exact posting_neutral rfl hstep

theorem posting_obtained {x : Handle} (hstep : l.advance t (.obtained x) = some l') :
    Posting l t (.obtained x) l' := by
  cases holds : x.holds with
  | false => exact posting_neutral (by simp [Happening.neutral, holds]) hstep
  | true =>
    simp only [Ledger.advance.eq_def, holds, Bool.true_eq_false, if_false] at hstep
    by_cases hfirst : l.phase = .started t ∧ x = .library {}
    · obtain ⟨started, rfl⟩ := hfirst
      rw [if_pos ⟨started, rfl⟩] at hstep
      cases hstep
      exact .first started
    · simp only [if_neg hfirst, Option.ite_none_right_eq_some, Option.some.injEq] at hstep
      obtain ⟨⟨alive, held, created⟩, rfl⟩ := hstep
      exact .obtain holds alive held created

theorem posting_dropped {x : Handle} (hstep : l.advance t (.dropped x) = some l') :
    Posting l t (.dropped x) l' := by
  cases holds : x.holds with
  | false => exact posting_neutral (by simp [Happening.neutral, holds]) hstep
  | true =>
    simp only [Ledger.advance.eq_def, holds, Bool.true_eq_false, if_false,
      Option.ite_none_right_eq_some, Option.some.injEq] at hstep
    obtain ⟨⟨alive, held⟩, rfl⟩ := hstep
    exact .drop holds alive held

/-- There is no other way for an entry to have a successor. -/
theorem posting {h : Happening} (hstep : l.advance t h = some l') : Posting l t h l' := by
  cases h with
  | called call => exact posting_called hstep
  | returned call reply => exact posting_returned hstep
  | invoked callback | logged log => exact posting_neutral rfl hstep
  | obtained x => exact posting_obtained hstep
  | dropped x => exact posting_dropped hstep
  | handling time event =>
    simp only [advance.eq_def, Option.ite_none_right_eq_some, Option.some.injEq] at hstep
    obtain ⟨⟨alive, held, busy⟩, rfl⟩ := hstep
    exact .handling alive held busy
  | handled panic =>
    simp only [advance.eq_def, Option.ite_none_right_eq_some, Option.some.injEq] at hstep
    obtain ⟨⟨alive, held, busy⟩, rfl⟩ := hstep
    exact .handled alive held busy
  | stepStarted | threadEnded panic =>
    simp only [advance.eq_def, Option.ite_none_right_eq_some, Option.some.injEq] at hstep
    obtain ⟨settled, rfl⟩ := hstep
    exact .boundary rfl settled fun hu => by cases hu
  | stepEnded outcome =>
    simp only [advance.eq_def, Option.ite_none_right_eq_some, Option.some.injEq] at hstep
    obtain ⟨⟨settled, honest⟩, rfl⟩ := hstep
    exact .boundary rfl settled honest

theorem posting_of_step {e : Entry} (h : l.step e = some l') :
    (l.urgent = none ∨ l.urgent = some e) ∧
      Posting { l with urgent := none } e.thread e.what l' := by
  simp only [step, Option.ite_none_right_eq_some] at h
  exact ⟨h.1, posting h.2⟩

/-- Reads what happens next. -/
def run (l : Ledger) (entries : List Entry) : Option Ledger :=
  entries.foldlM step l

theorem run_cons {e : Entry} {rest : List Entry} :
    l.run (e :: rest) = some l' ↔ ∃ m, l.step e = some m ∧ m.run rest = some l' := by
  simp [run, Option.bind_eq_some_iff]

theorem run_append {first rest : List Entry} :
    l.run (first ++ rest) = some l' ↔ ∃ m, l.run first = some m ∧ m.run rest = some l' := by
  simp [run, Option.bind_eq_some_iff]

theorem read_eq_run (history : List Entry) : read history = run {} history.reverse := by
  rw [run, List.foldlM_reverse]
  induction history with
  | nil => rfl
  | cons e older ih =>
    rw [read, ih, List.foldrM_cons]
    rfl

/-- The books between the steps of all threads. -/
def AtRest (l : Ledger) : Prop :=
  l = {} ∨ (∃ t, l.phase = .alive t) ∧ l.held ≠ [] ∧ l.owing = [] ∧ l.urgent = none

/-- What must happen next happens next. -/
theorem run_urgent {final : Ledger} {e : Entry} {entries : List Entry}
    (hrun : l.run entries = some final) (urgent : l.urgent = some e) (rest : final.AtRest) :
    ∃ later, entries = e :: later := by
  cases entries with
  | nil =>
    cases hrun
    rcases rest with rfl | ⟨-, -, -, none⟩
    · cases urgent
    · rw [urgent] at none
      cases none
  | cons first later =>
    obtain ⟨m, hstep, -⟩ := run_cons.1 hrun
    rcases (posting_of_step hstep).1 with none | same
    · rw [urgent] at none
      cases none
    · exact ⟨later, by rw [Option.some.inj (urgent.symm.trans same)]⟩

end Ledger

/-- The history of every session can be read, and at its end the books are at rest. -/
theorem Session.books (s : Session) : ∃ l, Ledger.run {} s.history = some l ∧ l.AtRest := by
  obtain ⟨rest, empty⟩ := s.body_rest
  have read : Ledger.run {} s.history = (final s.body s.start).ledger := by
    rw [Session.history, Process.ledger, Ledger.read_eq_run]
    rfl
  rw [read]
  have standing := rest.standing
  generalize hq : final s.body s.start = q at rest empty standing
  cases standing with
  | free hf => exact ⟨_, hf.ledger, .inl rfl⟩
  | kept hk =>
    rename_i owner l
    have hne : owner ≠ q.current := by
      rintro rfl
      exact hk.handles_ne empty
    have running : q.running = [0] := hq ▸ (s.body_staysCalm.2 s.start).running
    have absent : owner ∉ q.running := by
      rw [running, List.mem_singleton, ← rest.current]
      exact hne
    have idle := (rest.calm owner absent).idle
    exact ⟨l, hk.reads.ledger, .inr ⟨⟨owner, hk.alive⟩, hk.held,
      hk.account.owing.trans (hk.account.deferred idle.handler), hk.reads.urgent⟩⟩

end Windowing
