import Windowing.Proofs.ClientCode

/-!
What a thread may name. The entries of a thread show which handles it has and which window it has
just created. A native call should name no other windows and monitors, except that a context may be
used away from the thread that has its window, and that a dropped window is named once more when it is
destroyed. The books agree: only the thread that owns the initialization has handles, and it has all
that are alive.
-/

namespace Windowing

open Native Client

/-- What happened on a thread, with the newest entry first as in the given history. -/
def entriesIn (history : List Entry) (t : ThreadId) : List Happening :=
  (history.filter fun e => e.thread = t).map (·.what)

/-- The handles that a thread has after its entries, of which the newest comes first. -/
def possessions : List Happening → List Handle
  | [] => []
  | h :: older => h.survivors (possessions older)

def Native.Call.creates : Call → Bool
  | .createWindow .. => true
  | _ => false

/-- The window that was created and has no handle yet. -/
def Happening.orphan (before : Option Pointer) (h : Happening) : Option Pointer :=
  match h with
  | .returned call _ => if call.creates then h.created? else before
  | .obtained x => if x.holds then none else before
  | _ => before

/-- The same after all entries of a thread. -/
def orphan : List Happening → Option Pointer
  | [] => none
  | h :: older => h.orphan (orphan older)

/-- The thread has handles and has just created the window, or some thread has its handle. -/
def Known (older : List Entry) (t : ThreadId) (pointer : Pointer) : Prop :=
  orphan (entriesIn older t) = some pointer ∧ possessions (entriesIn older t) ≠ [] ∨
    ∃ u x, .window x ∈ possessions (entriesIn older u) ∧ x.pointer = pointer

/-- What an entry presupposes: calls name what is known, a library comes from an initialization, and a
handler that runs is left a library. -/
def Happening.Proper (older : List Entry) (t : ThreadId) : Happening → Prop
  | .called call =>
    (∀ w ∈ call.windows, w ≠ null → call = .destroyWindow w ∨ Known older t w) ∧
      ∀ m ∈ call.monitors, m ≠ null → .monitor ⟨m⟩ ∈ possessions (entriesIn older t)
  | .obtained (.library _) =>
    ∃ reply earlier, entriesIn older t = .returned .init reply :: earlier
  | .dropped (.library l) => ∀ w, Watch.read (entriesIn older t) = some w → w.stage = .handling →
      ∃ other, .library other ∈ (possessions (entriesIn older t)).erase (.library l)
  | _ => True

/-- Every entry of a history finds what it presupposes. -/
def Proper : List Entry → Prop
  | [] => True
  | e :: older => e.what.Proper older e.thread ∧ Proper older

variable {history : List Entry} {l l' : Ledger} {t u : ThreadId} {what : Happening}
  {older : List Happening}

theorem entriesIn_self (t : ThreadId) (what : Happening) (history : List Entry) :
    entriesIn (⟨t, what⟩ :: history) t = what :: entriesIn history t := by
  simp [entriesIn]

theorem entriesIn_of_ne (h : u ≠ t) (what : Happening) (history : List Entry) :
    entriesIn (⟨u, what⟩ :: history) t = entriesIn history t := by
  simp [entriesIn, h]

theorem Proper.split {later older : List Entry} {e : Entry} (h : Proper (later ++ e :: older)) :
    e.what.Proper older e.thread ∧ Proper older := by
  induction later with
  | nil => exact h
  | cons _ later ih => exact ih h.2

/-! ### Calls -/

/-- A call leaves all handles where they are. -/
theorem possessions_append {about : Call → Prop} {hs : List Happening}
    (unaffected : ∀ h ∈ hs, h.Serves about) (older : List Happening) :
    possessions (hs ++ older) = possessions older := by
  induction hs with
  | nil => rfl
  | cons h hs ih =>
    have rest := ih fun e he => unaffected e (List.mem_cons_of_mem _ he)
    have first := unaffected h List.mem_cons_self
    cases h with
    | called _ | returned _ _ | invoked _ | logged _ => exact rest
    | _ => exact first.elim

/-- A call of another kind leaves the window without a handle. -/
theorem orphan_append {call : Call} (hc : call.creates = false) {hs : List Happening}
    (unaffected : ∀ h ∈ hs, h.Serves (· = call)) (older : List Happening) :
    orphan (hs ++ older) = orphan older := by
  induction hs with
  | nil => rfl
  | cons h hs ih =>
    have rest := ih fun e he => unaffected e (List.mem_cons_of_mem _ he)
    have first := unaffected h List.mem_cons_self
    cases h with
    | called _ | invoked _ | logged _ => exact rest
    | returned called reply =>
      have plain : called.creates = false := by
        rcases first with rfl | rfl
        · exact hc
        · rfl
      exact (if_neg (by simp [plain])).trans rest
    | _ => exact first.elim

/-! ### The books -/

/-- The books list what their owner has, and no other thread has anything. -/
structure Ledger.Shows (l : Ledger) (history : List Entry) : Prop where
  tidy : l.Tidy
  others : ∀ t, l.phase ≠ .alive t → possessions (entriesIn history t) = []
  held : ∀ t, l.phase = .alive t → l.held = possessions (entriesIn history t)
  created : ∀ t, l.phase = .alive t → l.created = orphan (entriesIn history t)

/-- An initialization gets its first handle from its own thread. -/
theorem Posting.alive_of (h : Posting l u what l') (alive : l'.phase = .alive t) :
    l.phase = .alive t ∨ u = t ∧ l.phase = .started t := by
  cases h with
  | neutral | boundary | creating | destroyed => exact .inl alive
  | initCalled | initialized | uninitialized | terminate | terminated => cases alive
  | first started =>
    have same : u = t := Phase.alive.inj alive
    exact .inr ⟨same, same ▸ started⟩
  | created | destroy | obtain | drop | handling | handled => exact .inl alive

/-- Only the owner of an initialization obtains and drops what holds it. -/
theorem Posting.of_holding (h : Posting l u what l') (holding : what.holding = true) :
    l'.phase = .alive u := by
  cases h with
  | neutral hn =>
    rw [holding_of_neutral hn] at holding
    cases holding
  | boundary hb =>
    rw [holding_of_boundary hb] at holding
    cases holding
  | first => rfl
  | obtain _ alive | drop _ alive => exact alive
  | _ => cases holding

theorem Posting.orphan_self (h : Posting l u what l') (alive : l'.phase = .alive u)
    {before : Option Pointer} (hl : l.phase = .alive u → l.created = before) :
    l'.created = what.orphan before := by
  cases h with
  | neutral hn =>
    rw [hl alive]
    cases what with
    | returned call reply => cases call <;> first | rfl | cases hn
    | obtained x =>
      have hx : x.holds = false := by simpa [Happening.neutral] using hn
      exact (if_neg (by simp [hx])).symm
    | _ => rfl
  | boundary hb => cases what <;> first | exact hl alive | cases hb
  | initCalled | initialized | uninitialized | terminate | terminated => cases alive
  | first => rfl
  | created => rfl
  | obtain holds => exact (if_pos holds).symm
  | _ => exact hl alive

theorem Posting.orphan_other (h : Posting l u what l') (alive : l.phase = .alive t)
    (hne : u ≠ t) : l'.created = l.created := by
  have other : ∀ {v}, l.phase = .alive v → v = t := fun hv => Phase.alive.inj (hv.symm.trans alive)
  cases h with
  | neutral | boundary | creating | destroyed => rfl
  | initCalled phase | initialized phase | uninitialized phase | terminated phase | first phase =>
    rw [alive] at phase
    cases phase
  | terminate phase | created phase | destroy phase | obtain _ phase | drop _ phase
  | handling phase | handled phase => exact absurd (other phase) hne

theorem Posting.shows (h : Posting l u what l') (hl : l.Shows history) :
    l'.Shows (⟨u, what⟩ :: history) := by
  obtain ⟨survivors, tidy⟩ := h.held hl.tidy
  refine ⟨tidy, fun t dead => ?_, fun t alive => ?_, fun t alive => ?_⟩
  · by_cases hu : u = t
    · subst hu
      rw [entriesIn_self, possessions]
      by_cases alive : l.phase = .alive u
      · rcases h.of_alive alive with ⟨-, rfl, empty, -⟩ | ⟨alive', -⟩
        · exact (hl.held u alive).symm.trans empty
        · exact absurd alive' dead
      · have idle : what.holding = false :=
          Bool.eq_false_iff.2 fun holding => dead (h.of_holding holding)
        rw [survivors_of_not_holding idle]
        exact hl.others u alive
    · rw [entriesIn_of_ne hu]
      refine hl.others t fun alive => ?_
      rcases h.of_alive alive with ⟨same, -⟩ | ⟨alive', -⟩
      · exact hu same
      · exact dead alive'
  · by_cases hu : u = t
    · subst hu
      have before : l.held = possessions (entriesIn history u) := by
        rcases h.alive_of alive with alive' | ⟨-, started⟩
        · exact hl.held u alive'
        · have dead : ∀ v, l.phase ≠ .alive v := fun v => by simp [started]
          rw [hl.others u (dead u)]
          exact (hl.tidy.resolve_left fun ⟨v, hv⟩ => dead v hv).1
      rw [entriesIn_self, possessions, survivors, before]
    · have alive' := (h.alive_of alive).resolve_right fun same => hu same.1
      have idle : what.holding = false := Bool.eq_false_iff.2 fun holding =>
        hu (Phase.alive.inj ((h.of_holding holding).symm.trans alive))
      rw [entriesIn_of_ne hu, survivors, survivors_of_not_holding idle]
      exact hl.held t alive'
  · by_cases hu : u = t
    · subst hu
      rw [entriesIn_self]
      exact h.orphan_self alive (hl.created u)
    · have alive' := (h.alive_of alive).resolve_right fun same => hu same.1
      rw [entriesIn_of_ne hu, h.orphan_other alive' hu]
      exact hl.created t alive'

namespace Ledger

theorem read_cons {e : Entry} {older : List Entry} (h : read (e :: older) = some l') :
    ∃ l, read older = some l ∧ Posting { l with urgent := none } e.thread e.what l' := by
  obtain ⟨l, hl, hstep⟩ := Option.bind_eq_some_iff.1 h
  exact ⟨l, hl, (posting_of_step hstep).2⟩

theorem shows_of_read (h : read history = some l) : l.Shows history := by
  induction history generalizing l with
  | nil =>
    cases h
    refine ⟨.inr ⟨rfl, rfl⟩, fun _ _ => rfl, fun _ alive => ?_, fun _ alive => ?_⟩ <;> cases alive
  | cons e older ih =>
    obtain ⟨m, hm, posting⟩ := read_cons h
    have before := ih hm
    exact posting.shows ⟨before.tidy, before.others, before.held, before.created⟩

/-- Right after the native initialization nothing holds it. -/
theorem initialized_bare {reply : Reply} (h : read history = some l)
    (last : entriesIn history t = .returned .init reply :: older) : l.phase ≠ .alive t := by
  induction history generalizing l with
  | nil => cases last
  | cons e rest ih =>
    obtain ⟨u, what⟩ := e
    obtain ⟨m, hm, posting⟩ := read_cons h
    intro alive
    by_cases hu : u = t
    · subst hu
      rw [entriesIn_self] at last
      obtain ⟨rfl, -⟩ := List.cons.inj last
      cases posting with
      | neutral hn => cases hn
      | boundary hb => cases hb
      | initialized => cases alive
      | uninitialized => cases alive
    · rw [entriesIn_of_ne hu] at last
      exact ih hm last ((posting.alive_of alive).resolve_right fun same => hu same.1)

end Ledger

def Handle.isLibrary : Handle → Bool
  | .library _ => true
  | _ => false

/-- At most one library is alive at a time. -/
theorem Proper.library_unique (proper : Proper history) (h : Ledger.read history = some l) :
    l.held.countP (·.isLibrary) ≤ 1 := by
  induction history generalizing l with
  | nil =>
    cases h
    exact Nat.zero_le 1
  | cons e older ih =>
    obtain ⟨u, what⟩ := e
    obtain ⟨m, hm, posting⟩ := Ledger.read_cons h
    have before := ih proper.2 hm
    rw [(posting.held (Ledger.shows_of_read hm).tidy).1]
    cases what with
    | obtained x =>
      simp only [Happening.survivors]
      split
      next holds =>
        cases x with
        | library library =>
          obtain ⟨reply, earlier, last⟩ := proper.1
          have dead := Ledger.initialized_bare hm last
          rcases posting.alive_of (posting.of_holding holds) with alive | ⟨-, started⟩
          · exact absurd alive dead
          · rcases (Ledger.shows_of_read hm).tidy with ⟨v, alive⟩ | ⟨empty, -⟩
            · cases started.symm.trans alive
            · simp [empty, Handle.isLibrary]
        | _ => simpa [Handle.isLibrary] using before
      next => exact before
    | dropped x =>
      simp only [Happening.survivors]
      split
      · exact Nat.le_trans List.erase_sublist.countP_le before
      · exact before
    | _ => exact before

end Windowing
