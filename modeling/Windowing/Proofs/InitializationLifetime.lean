import Windowing.Proofs.LedgerPostings

/-!
The life of an initialization. It is held by its handles, from the first, which comes right after the
native initialization, to the last. When the last one is dropped the native library is terminated, by
the same thread and before that thread does anything else, and no thread initializes it before that
is done.
-/

namespace Windowing

open Native Client

/-- The handles that are alive after an entry. -/
def Happening.survivors (hs : List Handle) : Happening → List Handle
  | .obtained h => if h.holds then h :: hs else hs
  | .dropped h => if h.holds then hs.erase h else hs
  | _ => hs

/-- The handles that are alive after some entries, if the given ones were alive before. -/
def survivors (hs : List Handle) (entries : List Entry) : List Handle :=
  entries.foldl (fun hs e => e.what.survivors hs) hs

/-- A handle that holds the initialization is obtained or dropped. -/
def Happening.holding : Happening → Bool
  | .obtained h | .dropped h => h.holds
  | _ => false

/-- Nothing begins or ends an initialization. -/
def Quietly (entries : List Entry) : Prop :=
  ∀ e ∈ entries, e.what ≠ .called .init ∧ e.what ≠ .called .terminate

/-- At least one handle is alive after each of the entries. Only the given thread obtains and drops
handles. -/
structure Lasting (t : ThreadId) (hs : List Handle) (entries : List Entry) : Prop where
  alive : ∀ first rest, entries = first ++ rest → first ≠ [] → survivors hs first ≠ []
  owner : ∀ e ∈ entries, e.what.holding = true → e.thread = t
  quiet : Quietly entries

/-- The given thread is in the middle of an operation, and no handle is obtained or dropped. -/
structure Meanwhile (t : ThreadId) (entries : List Entry) : Prop where
  handles : ∀ e ∈ entries, e.what.holding = false
  prompt : ∀ e ∈ entries, e.thread = t → e.what.boundary = false
  quiet : Quietly entries

/-- What the drop of the last handle still does before the native library is terminated: a window is
destroyed. -/
def Closing (t : ThreadId) (h : Handle) (entries : List Entry) : Prop :=
  match h.window? with
  | some w => entries.head? = some ⟨t, .called (.destroyWindow w.pointer)⟩ ∧ Meanwhile t entries
  | none => entries = []

/-- What may come after a successful native initialization: handles are alive to the end, or until the
last one is dropped. Then the native library is terminated, once. -/
inductive Lifetime (t : ThreadId) (hs : List Handle) : List Entry → Prop where
  | lasting {entries : List Entry} (h : Lasting t hs entries) (alive : survivors hs entries ≠ []) :
    Lifetime t hs entries
  | ended {life closing ending rest : List Entry} {h : Handle} {reply : Reply}
    (alive : Lasting t hs life) (last : survivors hs (life ++ [⟨t, .dropped h⟩]) = [])
    (closes : Closing t h closing) (ends : Meanwhile t ending)
    (once : ∀ e ∈ rest.takeWhile (·.what != .called .init), e.what ≠ .called .terminate) :
    Lifetime t hs (life ++ ⟨t, .dropped h⟩ :: (closing ++ ⟨t, .called .terminate⟩ ::
      (ending ++ ⟨t, .returned .terminate reply⟩ :: rest)))

/-! ### Single entries -/

/-- Handles are alive, and windows wait to be destroyed, only while an initialization lives. -/
def Ledger.Tidy (l : Ledger) : Prop :=
  (∃ t, l.phase = .alive t) ∨ l.held = [] ∧ l.owing = []

variable {l l' final : Ledger} {t u : ThreadId} {what : Happening} {hs : List Handle} {e : Entry}
  {entries : List Entry}

theorem survivors_cons (hs : List Handle) (e : Entry) (rest : List Entry) :
    survivors hs (e :: rest) = survivors (e.what.survivors hs) rest := rfl

theorem survivors_of_not_holding (h : what.holding = false) (hs : List Handle) :
    what.survivors hs = hs := by
  cases what with
  | obtained h' | dropped h' =>
    have hh : h'.holds = false := h
    exact if_neg (by simp [hh])
  | _ => rfl

theorem holding_of_neutral (h : what.neutral = true) : what.holding = false := by
  cases what with
  | obtained h' | dropped h' => simpa [Happening.neutral, Happening.holding] using h
  | _ => rfl

theorem holding_of_boundary (h : what.boundary = true) : what.holding = false := by
  cases what <;> first | rfl | cases h

/-- The books list the handles that are alive. -/
theorem Posting.held (h : Posting l u what l') (tidy : l.Tidy) :
    l'.held = what.survivors l.held ∧ l'.Tidy := by
  have empty : (∀ v, l.phase ≠ .alive v) → l.held = [] := fun hne =>
    (tidy.resolve_left fun ⟨v, hv⟩ => hne v hv).1
  cases h with
  | neutral hn => exact ⟨(survivors_of_not_holding (holding_of_neutral hn) _).symm, tidy⟩
  | boundary hb => exact ⟨(survivors_of_not_holding (holding_of_boundary hb) _).symm, tidy⟩
  | creating | destroyed => exact ⟨rfl, tidy⟩
  | initCalled idle => exact ⟨(empty fun v => by simp [idle]).symm, .inr ⟨rfl, rfl⟩⟩
  | initialized starting | uninitialized starting =>
    exact ⟨(empty fun v => by simp [starting]).symm, .inr ⟨rfl, rfl⟩⟩
  | terminate alive held => exact ⟨held.symm, .inr ⟨rfl, rfl⟩⟩
  | terminated ending => exact ⟨(empty fun v => by simp [ending]).symm, .inr ⟨rfl, rfl⟩⟩
  | created alive | destroy alive | handling alive | handled alive =>
    exact ⟨rfl, .inl ⟨u, alive⟩⟩
  | first started =>
    rw [empty fun v => by simp [started]]
    exact ⟨rfl, .inl ⟨u, rfl⟩⟩
  | obtain holds alive => exact ⟨(if_pos holds).symm, .inl ⟨u, alive⟩⟩
  | drop holds alive => exact ⟨(if_pos holds).symm, .inl ⟨u, alive⟩⟩

/-- While handles may be alive, an entry ends that, or keeps the initialization alive. -/
theorem Posting.of_alive (h : Posting l u what l') (alive : l.phase = .alive t) :
    (u = t ∧ what = .called .terminate ∧ l.held = [] ∧ l' = { phase := .ending t }) ∨
      l'.phase = .alive t ∧ what ≠ .called .init ∧ what ≠ .called .terminate ∧
        (what.holding = true → u = t ∧ l.held ≠ []) ∧
        (what.boundary = true → u = t → l.held ≠ []) := by
  have same : ∀ {v}, l.phase = .alive v → v = t := fun hv => Phase.alive.inj (hv.symm.trans alive)
  cases h with
  | neutral hn =>
    refine .inr ⟨alive, ?_, ?_, fun hh => ?_, fun hb => ?_⟩
    · rintro rfl
      cases hn
    · rintro rfl
      cases hn
    · rw [holding_of_neutral hn] at hh
      cases hh
    · cases what <;> first | cases hn; done | cases hb
  | boundary hb settled =>
    refine .inr ⟨alive, ?_, ?_, fun hh => ?_, fun _ hu => ?_⟩
    · rintro rfl
      cases hb
    · rintro rfl
      cases hb
    · rw [holding_of_boundary hb] at hh
      cases hh
    · exact (settled (by rw [alive, hu]; rfl)).2.1
  | creating | destroyed =>
    exact .inr ⟨alive, by simp, by simp, by simp [Happening.holding], by simp [Happening.boundary]⟩
  | initCalled other | initialized other | uninitialized other | terminated other | first other =>
    rw [alive] at other
    cases other
  | terminate other held =>
    exact .inl ⟨same other, rfl, held, by rw [same other]⟩
  | created other | destroy other | handling other | handled other =>
    exact .inr ⟨alive, by simp, by simp, by simp [Happening.holding], by simp [Happening.boundary]⟩
  | obtain holds other held =>
    exact .inr ⟨alive, by simp, by simp, fun _ => ⟨same other, held⟩, by simp [Happening.boundary]⟩
  | drop holds other held =>
    exact .inr ⟨alive, by simp, by simp, fun _ => ⟨same other, List.ne_nil_of_mem held⟩,
      by simp [Happening.boundary]⟩

/-- Only a drop leaves no handle alive. -/
theorem dropped_of_survivors (h : what.survivors hs = []) (hne : hs ≠ []) :
    ∃ x, what = .dropped x ∧ x.holds = true := by
  cases what with
  | dropped x =>
    cases hx : x.holds with
    | true => exact ⟨x, rfl, hx⟩
    | false => exact absurd (by simpa [Happening.survivors, hx] using h) hne
  | obtained x => cases hx : x.holds <;> simp [Happening.survivors, hx, hne] at h
  | _ => exact absurd h hne

theorem Posting.of_dropped {x : Handle} (h : Posting l u (.dropped x) l') (holds : x.holds = true) :
    l.phase = .alive u ∧ x ∈ l.held ∧ l' = l.dropped u x := by
  cases h with
  | neutral hn => simp [Happening.neutral, holds] at hn
  | boundary hb => cases hb
  | drop _ alive held => exact ⟨alive, held, rfl⟩

theorem Posting.of_terminate (h : Posting l u (.called .terminate) l') :
    l.phase = .alive u ∧ l.held = [] ∧ l.busy = false := by
  cases h with
  | neutral hn => cases hn
  | boundary hb => cases hb
  | terminate alive held _ busy => exact ⟨alive, held, busy⟩

theorem Posting.of_obtained_first (h : Posting l u (.obtained (.library {})) l')
    (started : l.phase = .started u) : l' = { phase := .alive u, held := [.library {}] } := by
  cases h with
  | neutral hn => cases hn
  | boundary hb => cases hb
  | first => rfl
  | obtain _ alive =>
    rw [started] at alive
    cases alive

/-- A step that could not initialize does not end before the initialization that it began. -/
theorem Posting.of_stepEnded {outcome : Outcome} (h : Posting l u (.stepEnded outcome) l')
    (failed : outcome.uninitialized = true) : l.phase.owner ≠ some u := by
  cases h with
  | neutral hn => cases hn
  | boundary _ _ honest => exact honest failed

/-- Handlers begin and end while handles are alive. -/
theorem Posting.busy_of_empty (h : Posting l u what l') (empty : l.held = [])
    (continues : what ≠ .called .terminate) (alive : l.phase = .alive t) : l'.busy = l.busy := by
  cases h with
  | handling _ held | handled _ held => exact absurd empty held
  | terminate => exact absurd rfl continues
  | drop _ _ held =>
    rw [empty] at held
    cases held
  | initCalled other | initialized other | uninitialized other | terminated other | first other =>
    rw [alive] at other
    cases other
  | _ => rfl

theorem Posting.of_idle (h : Posting l u what l') (idle : l.phase = .idle)
    (hinit : what ≠ .called .init) : l'.phase = .idle ∧ what ≠ .called .terminate := by
  cases h with
  | neutral hn =>
    refine ⟨idle, ?_⟩
    rintro rfl
    cases hn
  | boundary hb =>
    refine ⟨idle, ?_⟩
    rintro rfl
    cases hb
  | creating | destroyed => exact ⟨idle, by simp⟩
  | initCalled => exact absurd rfl hinit
  | initialized other | uninitialized other | terminated other | first other | terminate other
  | created other | destroy other | handling other | handled other | obtain _ other
  | drop _ other =>
    rw [idle] at other
    cases other

theorem Posting.of_started (h : Posting l u what l') (started : l.phase = .started t) :
    l'.phase = .started t ∨ l'.phase = .alive t := by
  cases h with
  | neutral | boundary | creating | destroyed => exact .inl started
  | first other => exact .inr (congrArg Phase.alive (Phase.started.inj (other.symm.trans started)))
  | initCalled other | initialized other | uninitialized other | terminated other | terminate other
  | created other | destroy other | handling other | handled other | obtain _ other
  | drop _ other =>
    rw [started] at other
    cases other

theorem Posting.of_returned_init {reply : Reply} (h : Posting l u (.returned .init reply) l')
    (success : Flag.isSet reply.value = true) :
    l' = { phase := .started u, urgent := some ⟨u, .obtained (.library {})⟩ } := by
  cases h with
  | neutral hn => cases hn
  | boundary hb => cases hb
  | initialized => rfl
  | uninitialized _ failure =>
    rw [success] at failure
    cases failure

theorem Posting.of_ending (h : Posting l u what l') (ending : l.phase = .ending t) :
    (u = t ∧ (∃ reply, what = .returned .terminate reply) ∧ l' = {}) ∨
      l'.phase = .ending t ∧ what ≠ .called .init ∧ what ≠ .called .terminate ∧
        what.holding = false ∧ (u = t → what.boundary = false) := by
  cases h with
  | neutral hn =>
    refine .inr ⟨ending, ?_, ?_, holding_of_neutral hn, fun _ => ?_⟩
    · rintro rfl
      cases hn
    · rintro rfl
      cases hn
    · cases what <;> first | rfl | cases hn
  | boundary hb settled =>
    refine .inr ⟨ending, ?_, ?_, holding_of_boundary hb, fun hu => ?_⟩
    · rintro rfl
      cases hb
    · rintro rfl
      cases hb
    · have alive := (settled (by rw [ending, hu]; rfl)).1
      rw [ending] at alive
      cases alive
  | creating | destroyed => exact .inr ⟨ending, by simp, by simp, rfl, fun _ => rfl⟩
  | terminated other =>
    have same : t = u := Phase.ending.inj (ending.symm.trans other)
    exact .inl ⟨same.symm, ⟨_, rfl⟩, rfl⟩
  | initCalled other | initialized other | uninitialized other | first other | terminate other
  | created other | destroy other | handling other | handled other | obtain _ other
  | drop _ other =>
    rw [ending] at other
    cases other

/-! ### Stretches of entries -/

theorem Quietly.cons (h : e.what ≠ .called .init ∧ e.what ≠ .called .terminate)
    (rest : Quietly entries) : Quietly (e :: entries) := by
  intro x hx
  rcases List.mem_cons.1 hx with rfl | hx
  · exact h
  · exact rest x hx

theorem Meanwhile.nil : Meanwhile t [] := ⟨by simp, by simp, by simp [Quietly]⟩

theorem Meanwhile.cons (handles : e.what.holding = false)
    (prompt : e.thread = t → e.what.boundary = false)
    (quiet : e.what ≠ .called .init ∧ e.what ≠ .called .terminate) (rest : Meanwhile t entries) :
    Meanwhile t (e :: entries) where
  handles x hx := by
    rcases List.mem_cons.1 hx with rfl | hx
    · exact handles
    · exact rest.handles x hx
  prompt x hx := by
    rcases List.mem_cons.1 hx with rfl | hx
    · exact prompt
    · exact rest.prompt x hx
  quiet := rest.quiet.cons quiet

theorem Lasting.nil : Lasting t hs [] where
  alive first rest h hne := absurd (List.append_eq_nil_iff.1 h.symm).1 hne
  owner := by simp
  quiet := by simp [Quietly]

theorem Lasting.cons (alive : e.what.survivors hs ≠ [])
    (owner : e.what.holding = true → e.thread = t)
    (quiet : e.what ≠ .called .init ∧ e.what ≠ .called .terminate)
    (rest : Lasting t (e.what.survivors hs) entries) : Lasting t hs (e :: entries) where
  alive first later h hne := by
    cases first with
    | nil => exact absurd rfl hne
    | cons x first =>
      obtain ⟨rfl, htail⟩ := List.cons.inj h
      rw [survivors_cons]
      cases first with
      | nil => exact alive
      | cons y first => exact rest.alive _ later htail (by simp)
  owner x hx := by
    rcases List.mem_cons.1 hx with rfl | hx
    · exact owner
    · exact rest.owner x hx
  quiet := rest.quiet.cons quiet

theorem Lifetime.cons (alive : e.what.survivors hs ≠ [])
    (owner : e.what.holding = true → e.thread = t)
    (quiet : e.what ≠ .called .init ∧ e.what ≠ .called .terminate)
    (rest : Lifetime t (e.what.survivors hs) entries) : Lifetime t hs (e :: entries) := by
  cases rest with
  | lasting h survive => exact .lasting (h.cons alive owner quiet) survive
  | ended life last closes ends once =>
    exact .ended (life.cons alive owner quiet) last closes ends once

/-- While nothing is initialized, nothing is terminated. -/
theorem run_idle (hrun : l.run entries = some final) (idle : l.phase = .idle) :
    ∀ e ∈ entries.takeWhile (·.what != .called .init), e.what ≠ .called .terminate := by
  induction entries generalizing l with
  | nil => simp
  | cons e rest ih =>
    obtain ⟨m, hstep, hrest⟩ := Ledger.run_cons.1 hrun
    by_cases hinit : e.what = .called .init
    · simp [hinit]
    · have posting := (Ledger.posting_of_step hstep).2
      have same : m.phase = .idle ∧ e.what ≠ .called .terminate := posting.of_idle idle hinit
      rw [List.takeWhile_cons_of_pos (by simpa using hinit)]
      intro x hx
      rcases List.mem_cons.1 hx with rfl | hx
      · exact same.2
      · exact ih hrest same.1 x hx

/-- A native termination returns, and nothing happens to the initialization before that. -/
theorem run_ending (hrun : l.run entries = some final) (ending : l.phase = .ending t)
    (rest : final.AtRest) : ∃ during reply later,
      entries = during ++ ⟨t, .returned .terminate reply⟩ :: later ∧ Meanwhile t during ∧
        ∀ e ∈ later.takeWhile (·.what != .called .init), e.what ≠ .called .terminate := by
  induction entries generalizing l with
  | nil =>
    cases hrun
    rcases rest with rfl | ⟨⟨u, alive⟩, -⟩
    · cases ending
    · rw [ending] at alive
      cases alive
  | cons e entries ih =>
    obtain ⟨m, hstep, hrest⟩ := Ledger.run_cons.1 hrun
    obtain ⟨u, what⟩ := e
    rcases (Ledger.posting_of_step hstep).2.of_ending ending with
      ⟨rfl, ⟨reply, rfl⟩, rfl⟩ | ⟨phase, hinit, hterminate, holding, prompt⟩
    · exact ⟨[], reply, entries, rfl, .nil, run_idle hrest rfl⟩
    · obtain ⟨during, reply, later, rfl, meanwhile, once⟩ := ih hrest phase
      exact ⟨_ :: during, reply, later, rfl, meanwhile.cons holding prompt ⟨hinit, hterminate⟩, once⟩

/-- When the last handle is gone, the native library is terminated. -/
theorem run_emptied (hrun : l.run entries = some final) (alive : l.phase = .alive t)
    (empty : l.held = []) (rest : final.AtRest) : l.busy = false ∧ ∃ closing later,
      entries = closing ++ ⟨t, .called .terminate⟩ :: later ∧ Meanwhile t closing ∧
        Ledger.run { phase := .ending t } later = some final := by
  induction entries generalizing l with
  | nil =>
    cases hrun
    rcases rest with rfl | ⟨-, held, -⟩
    · cases alive
    · exact absurd empty held
  | cons e entries ih =>
    obtain ⟨m, hstep, hrest⟩ := Ledger.run_cons.1 hrun
    have posting := (Ledger.posting_of_step hstep).2
    obtain ⟨u, what⟩ := e
    rcases posting.of_alive alive with
      ⟨rfl, rfl, -, rfl⟩ | ⟨phase, hinit, hterminate, holding, boundary⟩
    · exact ⟨posting.of_terminate.2.2, [], entries, rfl, .nil, hrest⟩
    · have unheld : what.holding = false := by
        cases hh : what.holding with
        | false => rfl
        | true => exact absurd empty (holding hh).2
      have empty' : m.held = [] := by
        rw [(posting.held (.inl ⟨t, alive⟩)).1, survivors_of_not_holding unheld]
        exact empty
      have unbounded : u = t → what.boundary = false := fun hu => by
        cases hb : what.boundary with
        | false => rfl
        | true => exact absurd empty (boundary hb hu)
      obtain ⟨busy, closing, later, rfl, meanwhile, hlater⟩ := ih hrest phase empty'
      exact ⟨(posting.busy_of_empty empty hterminate alive).symm.trans busy, _ :: closing, later, rfl,
        meanwhile.cons unheld unbounded ⟨hinit, hterminate⟩, hlater⟩

/-- The drop of the last handle does what is urgent and no more. -/
theorem closes_of_urgent {h : Handle} {closing later : List Entry}
    (hrun : (l.dropped t h).run (closing ++ ⟨t, .called .terminate⟩ :: later) = some final)
    (busy : (l.dropped t h).busy = false) (last : (l.dropped t h).held = [])
    (meanwhile : Meanwhile t closing) (rest : final.AtRest) : Closing t h closing := by
  simp only [Ledger.dropped] at busy last
  unfold Closing
  split
  next w hw =>
    have urgent : (l.dropped t h).urgent = some ⟨t, .called (.destroyWindow w.pointer)⟩ := by
      simp [Ledger.dropped, Ledger.sequel, hw, busy]
    obtain ⟨after, hafter⟩ := Ledger.run_urgent hrun urgent rest
    refine ⟨?_, meanwhile⟩
    cases closing with
    | nil => cases hafter
    | cons e closing => exact congrArg some (List.cons.inj hafter).1
  next hw =>
    have urgent : (l.dropped t h).urgent = some ⟨t, .called .terminate⟩ := by
      simp [Ledger.dropped, Ledger.sequel, hw, last]
    obtain ⟨after, hafter⟩ := Ledger.run_urgent hrun urgent rest
    cases closing with
    | nil => rfl
    | cons e closing =>
      cases hafter
      exact absurd rfl (meanwhile.quiet _ List.mem_cons_self).2

/-- While handles are alive, the initialization lasts, or it ends with the last of them. -/
theorem run_held (hrun : l.run entries = some final) (alive : l.phase = .alive t)
    (held : l.held ≠ []) (rest : final.AtRest) : Lifetime t l.held entries := by
  induction entries generalizing l with
  | nil => exact .lasting .nil held
  | cons e entries ih =>
    obtain ⟨m, hstep, hrest⟩ := Ledger.run_cons.1 hrun
    obtain ⟨u, what⟩ := e
    have posting := (Ledger.posting_of_step hstep).2
    rcases posting.of_alive alive with
      ⟨-, -, empty, -⟩ | ⟨phase, hinit, hterminate, holding, -⟩
    · exact absurd empty held
    have survive : m.held = what.survivors l.held := (posting.held (.inl ⟨t, alive⟩)).1
    by_cases more : m.held = []
    · obtain ⟨h, rfl, holds⟩ := dropped_of_survivors (survive.symm.trans more) held
      obtain ⟨rfl, -⟩ := holding holds
      obtain ⟨-, -, rfl⟩ := posting.of_dropped holds
      obtain ⟨busy, closing, later, rfl, meanwhile, hclosing⟩ := run_emptied hrest phase more rest
      obtain ⟨ending, reply, later, rfl, ends, once⟩ := run_ending hclosing rfl rest
      have last : survivors l.held ([] ++ [⟨u, .dropped h⟩]) = [] := survive.symm.trans more
      exact .ended .nil last (closes_of_urgent hrest busy more meanwhile rest) ends once
    · have later := ih hrest phase more
      rw [survive] at more later
      exact later.cons more (fun hh => (holding hh).1) ⟨hinit, hterminate⟩

/-- The first handle comes right after the native initialization. -/
theorem run_initialized {reply : Reply} (hstep : l.step ⟨t, .returned .init reply⟩ = some l')
    (hrun : l'.run entries = some final) (success : Flag.isSet reply.value = true)
    (rest : final.AtRest) : Lifetime t [] entries := by
  obtain rfl := (Ledger.posting_of_step hstep).2.of_returned_init success
  obtain ⟨later, rfl⟩ := Ledger.run_urgent hrun rfl rest
  obtain ⟨m, hfirst, hlater⟩ := Ledger.run_cons.1 hrun
  obtain rfl := (Ledger.posting_of_step hfirst).2.of_obtained_first rfl
  have life : Lifetime t [.library {}] later := run_held hlater rfl (by simp) rest
  exact Lifetime.cons (e := ⟨t, .obtained (.library {})⟩)
    (by simp [Happening.survivors, Handle.holds])
    (fun _ => rfl) ⟨by simp, by simp⟩ life

theorem run_survivors (hrun : l.run entries = some final) (tidy : l.Tidy) :
    final.held = survivors l.held entries ∧ final.Tidy := by
  induction entries generalizing l with
  | nil =>
    cases hrun
    exact ⟨rfl, tidy⟩
  | cons e entries ih =>
    obtain ⟨m, hstep, hrest⟩ := Ledger.run_cons.1 hrun
    obtain ⟨held, tidy'⟩ := (Ledger.posting_of_step hstep).2.held tidy
    rw [survivors_cons, ← held]
    exact ih hrest tidy'

/-- An initialization is its thread's until that thread terminates it. -/
theorem run_owned (hrun : l.run entries = some final)
    (owned : l.phase = .started t ∨ l.phase = .alive t)
    (hterminate : ⟨t, .called .terminate⟩ ∉ entries) :
    final.phase = .started t ∨ final.phase = .alive t := by
  induction entries generalizing l with
  | nil =>
    cases hrun
    exact owned
  | cons e entries ih =>
    obtain ⟨m, hstep, hrest⟩ := Ledger.run_cons.1 hrun
    obtain ⟨u, what⟩ := e
    refine ih hrest ?_ fun h => hterminate (List.mem_cons_of_mem _ h)
    have posting := (Ledger.posting_of_step hstep).2
    rcases owned with started | alive
    · exact posting.of_started started
    · rcases posting.of_alive alive with ⟨rfl, rfl, -⟩ | ⟨alive', -⟩
      · exact absurd List.mem_cons_self hterminate
      · exact .inr alive'

/-- In every run, under every schedule of the threads: after a native initialization that succeeds,
the native library is terminated exactly once, by the same thread, when the last handle goes; it is
never terminated while a handle is alive, nor initialized before the termination is done; and if the
initialization fails later on, the termination comes before the end of its step. -/
theorem initialization_lifetime (s : Session) :
    (∀ before t reply after, s.history = before ++ ⟨t, .returned .init reply⟩ :: after →
      Flag.isSet reply.value = true → Lifetime t [] after) ∧
    (∀ before t after, s.history = before ++ ⟨t, .called .terminate⟩ :: after →
      survivors [] before = []) ∧
    ∀ earlier t reply since outcome after, s.history = earlier ++ ⟨t, .returned .init reply⟩ ::
        (since ++ ⟨t, .stepEnded outcome⟩ :: after) →
      Flag.isSet reply.value = true → outcome.uninitialized = true →
      ⟨t, .called .terminate⟩ ∈ since := by
  obtain ⟨final, hrun, rest⟩ := s.books
  refine ⟨?_, ?_, ?_⟩
  · intro before t reply after hsplit success
    rw [hsplit] at hrun
    obtain ⟨l, -, hafter⟩ := Ledger.run_append.1 hrun
    obtain ⟨m, hstep, hafter⟩ := Ledger.run_cons.1 hafter
    exact run_initialized hstep hafter success rest
  · intro before t after hsplit
    rw [hsplit] at hrun
    obtain ⟨l, hbefore, hafter⟩ := Ledger.run_append.1 hrun
    obtain ⟨m, hstep, -⟩ := Ledger.run_cons.1 hafter
    rw [← (run_survivors hbefore (.inr ⟨rfl, rfl⟩)).1]
    exact (Ledger.posting_of_step hstep).2.of_terminate.2.1
  · intro earlier t reply since outcome after hsplit success failed
    refine Classical.byContradiction fun hterminate => ?_
    rw [hsplit] at hrun
    obtain ⟨l, -, hafter⟩ := Ledger.run_append.1 hrun
    obtain ⟨m, hstep, hafter⟩ := Ledger.run_cons.1 hafter
    obtain ⟨m', hsince, hafter⟩ := Ledger.run_append.1 hafter
    obtain ⟨l', hended, -⟩ := Ledger.run_cons.1 hafter
    have started : m.phase = .started t := by
      rw [(Ledger.posting_of_step hstep).2.of_returned_init success]
    have owner : m'.phase.owner = some t := by
      rcases run_owned hsince (.inl started) hterminate with h | h <;> rw [h] <;> rfl
    exact (Ledger.posting_of_step hended).2.of_stepEnded failed owner

end Windowing
