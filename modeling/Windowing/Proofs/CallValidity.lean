import Windowing.Proofs.HandlerRestraint

/-!
Native calls name what is there. A window that a call names was created and not destroyed since then,
and calls that name a window or a monitor are made while the native library is initialized. Whatever a
call names is the concern of some party in the books, and there are no more of these than there are
native windows.
-/

namespace Windowing

open Native Client

/-- Something happened, and what came after it is of another kind. -/
def Since (start later : Happening → Prop) (entries : List Entry) : Prop :=
  ∃ earlier e since, entries = earlier ++ e :: since ∧ start e.what ∧ ∀ e' ∈ since, later e'.what

/-- The window was created, and since then it was not destroyed, nor the native library terminated. -/
def Lives (p : Pointer) : List Entry → Prop :=
  Since (·.created? = some p) fun h => h ≠ .called (.destroyWindow p) ∧ h ≠ .called .terminate

/-- The native library was initialized with success, and not terminated since then. -/
def Initialized : List Entry → Prop :=
  Since (fun h => ∃ reply, h = .returned .init reply ∧ Flag.isSet reply.value = true)
    (· ≠ .called .terminate)

def Phase.initialized : Phase → Bool
  | .started _ | .alive _ => true
  | _ => false

variable {l l' : Ledger} {w w' : Watch} {t u : ThreadId} {what : Happening} {p : Pointer}
  {ps : List Pointer} {entries history before : List Entry} {e : Entry} {call : Call}
  {start later : Happening → Prop}

/-- The windows and monitors that a call names are the pointers it is given, apart from what a user
keeps in a window. -/
theorem Native.Call.mem_arguments : .pointer p ∈ call.arguments ↔
    p ∈ call.windows ++ call.monitors ∨ ∃ window, call = .setWindowUserPointer window p := by
  cases call <;> simp [Call.arguments, Call.windows, Call.monitors, or_comm, eq_comm]

/-! ### Since -/

theorem Since.here (h : start e.what) (rest : ∀ e' ∈ entries, later e'.what) :
    Since start later (e :: entries) :=
  ⟨[], e, entries, rfl, h, rest⟩

theorem Since.cons (h : Since start later entries) (e : Entry) :
    Since start later (e :: entries) := by
  obtain ⟨earlier, first, since, rfl, hstart, hlater⟩ := h
  exact ⟨e :: earlier, first, since, rfl, hstart, hlater⟩

theorem Unshared.of_append {rest : List Entry} (h : Unshared ps (entries ++ rest)) :
    Unshared ps entries := by
  induction entries generalizing ps with
  | nil => trivial
  | cons e entries ih => exact ⟨h.1, ih h.2⟩

/-- A native window was just created, or it was there before and the entry does not end it. -/
theorem mem_windows (there : p ∈ what.windows ps) (nodup : ps.Nodup) : what.created? = some p ∨
    p ∈ ps ∧ what ≠ .called (.destroyWindow p) ∧ what ≠ .called .terminate := by
  by_cases destroys : what = .called (.destroyWindow p)
  · subst destroys
    exact absurd there nodup.not_mem_erase
  · by_cases terminates : what = .called .terminate
    · subst terminates
      cases there
    · rcases windows_cases what ps with ⟨pointer, erased⟩ | emptied | created
      · exact .inr ⟨List.mem_of_mem_erase (erased ▸ there), destroys, terminates⟩
      · simp [emptied] at there
      · rw [created, List.mem_append, Option.mem_toList] at there
        exact there.imp id fun old => ⟨old, destroys, terminates⟩

/-- A native window was there before, or it was created. -/
theorem lives_of_mem (there : p ∈ windowsAfter ps entries) (nodup : ps.Nodup)
    (unshared : Unshared ps entries) : p ∈ ps ∧ Spared p entries ∨ Lives p entries := by
  induction entries generalizing ps with
  | nil => exact .inl ⟨there, by simp [Spared]⟩
  | cons e rest ih =>
    rcases ih there (nodup_windows e.what nodup unshared.1) unshared.2 with ⟨first, spared⟩ | lives
    · rcases mem_windows first nodup with created | ⟨old, kept⟩
      · exact .inr (.here created spared)
      · exact .inl ⟨old, spared.cons kept⟩
    · exact .inr (lives.cons e)

/-! ### The books -/

theorem Posting.initialized_of (h : Posting l u what l') (after : l'.phase.initialized = true) :
    (∃ reply, what = .returned .init reply ∧ Flag.isSet reply.value = true) ∨
      l.phase.initialized = true ∧ what ≠ .called .terminate := by
  by_cases terminates : what = .called .terminate
  · subst terminates
    cases h with
    | neutral hn => cases hn
    | boundary hb => cases hb
    | terminate => cases after
  · cases h with
    | initialized _ success => exact .inl ⟨_, rfl, success⟩
    | initCalled | uninitialized | terminate | terminated => cases after
    | first started => exact .inr ⟨by rw [started]; rfl, terminates⟩
    | _ => exact .inr ⟨after, terminates⟩

/-- The native library was initialized before, or it has been since. -/
theorem run_initialized_of (hrun : l.run entries = some l') (after : l'.phase.initialized = true) :
    (l.phase.initialized = true ∧ ∀ e ∈ entries, e.what ≠ .called .terminate) ∨
      Initialized entries := by
  induction entries generalizing l with
  | nil =>
    cases hrun
    exact .inl ⟨after, by simp⟩
  | cons e rest ih =>
    obtain ⟨m, hstep, hrest⟩ := Ledger.run_cons.1 hrun
    rcases ih hrest with ⟨running, kept⟩ | initialized
    · rcases (Ledger.posting_of_step hstep).2.initialized_of running with success | ⟨old, here⟩
      · exact .inr (.here success kept)
      · exact .inl ⟨old, List.forall_mem_cons.2 ⟨here, kept⟩⟩
    · exact .inr (initialized.cons e)

theorem Ledger.Shows.alive (h : l.Shows history) (has : possessions (entriesIn history t) ≠ []) :
    l.phase = .alive t :=
  Decidable.byContradiction fun dead => has (h.others t dead)

/-- What a thread knows is the concern of a party. -/
theorem Ledger.Shows.known (h : l.Shows history) (known : Known history t p) :
    (∃ u, l.phase = .alive u) ∧ 0 < l.mentions p := by
  rcases known with ⟨orphaned, has⟩ | ⟨u, x, has, rfl⟩
  · have alive := h.alive has
    have created : 0 < l.created.toList.count p := by
      rw [h.created t alive, orphaned]
      simp
    exact ⟨⟨t, alive⟩, by unfold Ledger.mentions; omega⟩
  · have alive := h.alive (List.ne_nil_of_mem has)
    have held := countP_of_held (h.held u alive ▸ has)
    exact ⟨⟨u, alive⟩, by unfold Ledger.mentions; omega⟩

/-! ### Calls -/

/-- A window that is destroyed was dropped before, and any other that a call names is known. -/
theorem Session.Place.window (h : Session.Place before ⟨t, .called call⟩ l l' w w')
    (hp : p ∈ call.windows) (hne : p ≠ null) :
    (∃ u, l.phase = .alive u) ∧ 0 < l.mentions p := by
  rcases h.proper.1 p hp hne with rfl | known
  · obtain ⟨owing, alive, -⟩ := h.posting.of_destroyWindow
    have waiting : 0 < l.owing.count p := List.count_pos_iff.2 (List.mem_of_head? owing)
    exact ⟨⟨t, alive⟩, by unfold Ledger.mentions; omega⟩
  · exact (Ledger.shows_of_read h.read_books).known known

theorem Session.Place.monitor (h : Session.Place before ⟨t, .called call⟩ l l' w w')
    (hp : p ∈ call.monitors) (hne : p ≠ null) : l.phase = .alive t :=
  (Ledger.shows_of_read h.read_books).alive (List.ne_nil_of_mem (h.proper.2 p hp hne))

/-- In every run, under every schedule of the threads, and if the native library shares no pointer
among windows that exist together: a window that a native call names, be it to destroy it or to share
its objects with a new one, was created and not destroyed since then, and calls that name a window or a
monitor are made between a successful initialization of the native library and its termination. -/
theorem call_validity (s : Session) (unshared : Unshared [] s.history) (before : List Entry)
    (t : ThreadId) (call : Call) (after : List Entry)
    (split : s.history = before ++ ⟨t, .called call⟩ :: after) :
    (∀ p ∈ call.windows, p ≠ null → Lives p before) ∧
      ((∃ p ∈ call.windows ++ call.monitors, p ≠ null) → Initialized before) := by
  obtain ⟨l, l', w, w', place⟩ := s.place split
  refine ⟨fun p hp hne => ?_, fun ⟨p, hp, hne⟩ => ?_⟩
  · have first : Ledger.Sole {} [] (before ++ ⟨t, .called call⟩ :: after) :=
      ⟨List.nodup_nil, split ▸ unshared, fun _ => Nat.zero_le _⟩
    have there : p ∈ windowsAfter [] before := List.count_pos_iff.1
      (Nat.lt_of_lt_of_le (place.window hp hne).2 ((first.run place.books).mentions p))
    exact (lives_of_mem there List.nodup_nil first.unshared.of_append).resolve_left (by simp)
  · have running : l.phase.initialized = true := by
      rcases List.mem_append.1 hp with window | monitor
      · obtain ⟨⟨u, alive⟩, -⟩ := place.window window hne
        rw [alive]
        rfl
      · rw [place.monitor monitor hne]
        rfl
    exact (run_initialized_of place.books running).resolve_left fun h => by cases h.1

theorem call_validity_dropInHandler :
    Unshared [] dropInHandler.history ∧ ∃ before after,
      dropInHandler.history = before ++ ⟨0, .called (.destroyWindow 7)⟩ :: after ∧
        Lives 7 before ∧ Initialized before := by
  refine ⟨by decide +kernel, exists_split (by decide +kernel) fun before after split => ?_⟩
  have named : 7 ∈ (Call.destroyWindow 7).windows := by simp [Call.windows]
  obtain ⟨lives, initialized⟩ := call_validity dropInHandler (by decide +kernel) before 0
    (.destroyWindow 7) after split
  exact ⟨lives 7 named (by decide), initialized ⟨7, List.mem_append_left _ named, by decide⟩⟩

end Windowing
