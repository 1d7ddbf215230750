import Mathlib.Data.List.Perm.Subperm
import Windowing.Proofs.ThreadPossessions

/-!
Provenance of handles. What a thread has in its tables it has obtained and not dropped, and its
contexts are of windows of its own, or of a thread that lent them and waits for their return. So a
native call about what is in the tables names what is known, and a thread in the middle of an
operation keeps track of the handles that are on their way to or from its tables.
-/

namespace Windowing

open Native Client

/-- The thread has all that its tables show, and a pump keeps its library in its slot. -/
structure Thread.Backed (t : Thread) (has : List Handle) : Prop where
  held : t.tables.handles.Subperm has
  pumping : t.locals.handler.isSome = true →
    ∃ slot, t.tables.pumping = some slot ∧ (occupant t.tables.libraries slot).isSome = true

/-- Whose windows' contexts a thread may have besides those of its own. -/
abbrev Loans := ThreadId → ThreadId → Prop

/-- The thread's context is of a window in the slot of the thread that it comes from. -/
def Lent (loans : Loans) (threads : Registry Thread) (u : ThreadId) (c : Context) (origin : Nat) :
    Prop :=
  ∃ v, (v = u ∨ loans u v) ∧
    occupant (threads.get v).tables.windows origin = some ⟨c.pointer, c.key⟩

structure Sound (loans : Loans) (p : Process) : Prop where
  proper : Proper p.history
  backed : ∀ t, (p.threads.get t).Backed (possessions (p.entriesOf t))
  lent : ∀ u c origin, some (c, origin) ∈ (p.threads.get u).tables.contexts →
    Lent loans p.threads u c origin

/-- Whoever lent contexts waits. -/
def Waiting (loans : Loans) (p : Process) : Prop :=
  ∀ u v, loans u v → v ∈ p.running ∧ v ≠ p.current

/-- The current thread is in the middle of an operation: its tables are known, some handles are on
their way, and a window may have been created that has no handle yet. -/
structure MidOperation (loans : Loans) (w : Watch) (T : Tables) (flying : List Handle)
    (created : Option Pointer) (p : Process) : Prop where
  calm : AllCalm p
  sight : Sight p w
  clear : w.Clear
  stage : w.stage ≠ .listening
  waiting : Waiting loans p
  sound : Sound loans p
  tables : p.tables = T
  carried : (flying ++ T.handles).Subperm (possessions (p.entriesOf p.current))
  created : ∀ x ∈ created, orphan (p.entriesOf p.current) = some x

/-- A library whose calls keep what is sound, if they name what is known. -/
structure LibraryKeepsSound (native : Backend) : Prop where
  callsBack : LibraryCallsBack native
  confined : ∀ call, Confined (native call)
  answers : LibraryOnlyReports native
  returns : ∀ call p, ∃ q : Process, q.current = p.current ∧
    final (native call) p = q.note (.returned call (result (native call) p))
  sound : ∀ loans call p w, AllCalm p → Sight (p.note (.called call)) w → w.Clear →
    Waiting loans p → Sound loans (p.note (.called call)) → Sound loans (final (native call) p)

variable {α β ε : Type} {native : Backend} {loans : Loans} {p q : Process} {w : Watch} {T T' : Tables}
  {flying flying' : List Handle} {created : Option Pointer}

theorem Waiting.same (h : Waiting loans p) (hq : q.running = p.running) : Waiting loans q := by
  have current : q.current = p.current := Process.current_eq hq
  intro u v hv
  rw [hq, current]
  exact h u v hv

/-! ### Small changes -/

namespace Sound

theorem same (h : Sound loans p) (threads : q.threads = p.threads) (history : q.history = p.history) :
    Sound loans q where
  proper := history ▸ h.proper
  backed t := by
    rw [threads, Process.entriesOf, history]
    exact h.backed t
  lent := threads ▸ h.lent

theorem note (h : Sound loans p) {e : Happening} (proper : e.Proper p.history p.current)
    (held : p.tables.handles.Subperm (e.survivors (possessions (p.entriesOf p.current)))) :
    Sound loans (p.note e) where
  proper := ⟨proper, h.proper⟩
  backed t := by
    have same : (p.note e).threads = p.threads := rfl
    by_cases ht : t = p.current
    · subst ht
      rw [entriesOf_note_self, same]
      exact ⟨held, (h.backed _).pumping⟩
    · rw [entriesOf_note_of_ne p e ht, same]
      exact h.backed t
  lent := h.lent

/-- An entry that concerns no handle. -/
theorem noteOf (h : Sound loans p) {e : Happening} (he : e.holding = false)
    (proper : e.Proper p.history p.current) : Sound loans (p.note e) :=
  h.note proper (by rw [survivors_of_not_holding he]; exact (h.backed _).held)

/-- A change of the current thread. No other thread has contexts of its windows. -/
theorem setHere (h : Sound loans p) (hw : Waiting loans p) {t : Thread}
    (backed : t.Backed (possessions (p.entriesOf p.current)))
    (lent : ∀ c origin, some (c, origin) ∈ t.tables.contexts →
      occupant t.tables.windows origin = some ⟨c.pointer, c.key⟩ ∨
        ∃ v, loans p.current v ∧
          occupant (p.threads.get v).tables.windows origin = some ⟨c.pointer, c.key⟩) :
    Sound loans (p.setHere t) where
  proper := h.proper
  backed u := by
    have entries : (p.setHere t).entriesOf u = p.entriesOf u := rfl
    rw [entries, Process.setHere]
    by_cases hu : u = p.current
    · subst hu
      rw [Registry.get_set_self]
      exact backed
    · rw [Registry.get_set_of_ne _ hu]
      exact h.backed u
  lent u c origin hc := by
    have others : ∀ v, v ≠ p.current → (p.setHere t).threads.get v = p.threads.get v :=
      fun v hv => Registry.get_set_of_ne _ hv _
    have here : (p.setHere t).threads.get p.current = t := Registry.get_set_self _ _ _
    by_cases hu : u = p.current
    · subst hu
      rw [here] at hc
      rcases lent c origin hc with own | ⟨v, hv, found⟩
      · exact ⟨_, .inl rfl, by rw [here]; exact own⟩
      · exact ⟨v, .inr hv, by rw [others v (hw _ v hv).2]; exact found⟩
    · rw [others u hu] at hc
      obtain ⟨v, hv, found⟩ := h.lent u c origin hc
      have hne : v ≠ p.current := by
        rcases hv with rfl | hv
        · exact hu
        · exact (hw u v hv).2
      exact ⟨v, hv, by rw [others v hne]; exact found⟩

/-- A change of the current thread's locals, which installs no handler. -/
theorem locals (h : Sound loans p) (hw : Waiting loans p) (f : Locals → Locals)
    (installed : (f p.locals).handler.isSome = true → p.locals.handler.isSome = true) :
    Sound loans (final (modifyLocals f) p) := by
  have backed := h.backed p.current
  refine h.setHere hw ⟨backed.held, fun hs => backed.pumping (installed hs)⟩ fun c origin hc => ?_
  obtain ⟨v, rfl | hv, found⟩ := h.lent _ c origin hc
  · exact .inl found
  · exact .inr ⟨v, hv, found⟩

theorem setPending (h : Sound loans p) (hw : Waiting loans p) (e : Option Error) :
    Sound loans (final (setPending e) p) :=
  h.locals hw (fun s => { s with pending := e }) id

end Sound

namespace MidOperation

theorem deaf (h : MidOperation loans w T flying created p) : Deaf p :=
  Option.isSome_iff_ne_none.2 fun none => h.stage (h.sight.fits.dropReason.1 none)

/-- An entry of the thread itself, after which other handles may be on their way. -/
theorem note (h : MidOperation loans w T flying created p) {e : Happening} (he : e.still = true)
    (proper : e.Proper p.history p.current) {created' : Option Pointer}
    (carried : (flying' ++ T.handles).Subperm (e.survivors (possessions (p.entriesOf p.current))))
    (hcreated : ∀ x ∈ created', e.orphan (orphan (p.entriesOf p.current)) = some x) :
    MidOperation loans w T flying' created' (p.note e) where
  calm := allCalm_note h.calm h.sight.running e
  sight := h.sight.note (Watch.step_still h.clear he)
  clear := h.clear
  stage := h.stage
  waiting := h.waiting
  sound := by
    refine h.sound.note proper (List.Subperm.trans ?_ carried)
    rw [h.tables]
    exact (List.sublist_append_right _ _).subperm
  tables := h.tables
  carried := by
    have current : (p.note e).current = p.current := rfl
    rw [current, entriesOf_note_self]
    exact carried
  created x hx := by
    have current : (p.note e).current = p.current := rfl
    rw [current, entriesOf_note_self]
    exact hcreated x hx

theorem log (h : MidOperation loans w T flying created p) (l : Log) :
    MidOperation loans w T flying created (p.note (.logged l)) :=
  h.note (e := .logged l) rfl trivial h.carried h.created

theorem shared (h : MidOperation loans w T flying created p) (same : SameThreads p q) :
    MidOperation loans w T flying created q where
  calm := same.allCalm h.calm
  sight := same.view h.sight
  clear := h.clear
  stage := h.stage
  waiting := h.waiting.same same.running
  sound := h.sound.same same.threads same.history
  tables := same.tables.trans h.tables
  carried := by
    rw [same.current, (same.undisturbed p.current).entries]
    exact h.carried
  created := by
    rw [same.current, (same.undisturbed p.current).entries]
    exact h.created

theorem setHere (h : MidOperation loans w T flying created p) {t : Thread} {flying' : List Handle}
    (fits : w.stage.Fits t.locals)
    (carried : (flying' ++ t.tables.handles).Subperm (flying ++ T.handles))
    (pumping : t.locals.handler.isSome = true →
      ∃ slot, t.tables.pumping = some slot ∧ (occupant t.tables.libraries slot).isSome = true)
    (lent : ∀ c origin, some (c, origin) ∈ t.tables.contexts →
      occupant t.tables.windows origin = some ⟨c.pointer, c.key⟩ ∨
        ∃ v, loans p.current v ∧
          occupant (p.threads.get v).tables.windows origin = some ⟨c.pointer, c.key⟩) :
    MidOperation loans w t.tables flying' created (p.setHere t) where
  calm := allCalm_setHere h.calm h.sight.running _
  sight := h.sight.setHere fits
  clear := h.clear
  stage := h.stage
  waiting := h.waiting
  sound := h.sound.setHere h.waiting
    ⟨(List.sublist_append_right _ _).subperm.trans (carried.trans h.carried), pumping⟩ lent
  tables := by rw [Process.tables, Process.here_setHere]
  carried := carried.trans h.carried
  created := h.created

/-- The contexts of the current thread. -/
theorem lent (h : MidOperation loans w T flying created p) {c : Context} {origin : Nat}
    (hc : some (c, origin) ∈ T.contexts) :
    occupant T.windows origin = some ⟨c.pointer, c.key⟩ ∨
      ∃ v, loans p.current v ∧
        occupant (p.threads.get v).tables.windows origin = some ⟨c.pointer, c.key⟩ := by
  have tables : (p.threads.get p.current).tables = T := h.tables
  have mem : some (c, origin) ∈ (p.threads.get p.current).tables.contexts := by rwa [tables]
  obtain ⟨v, rfl | hv, found⟩ := h.sound.lent p.current c origin mem
  · exact .inl (tables ▸ found)
  · exact .inr ⟨v, hv, found⟩

/-- A pump keeps its library in its slot. -/
theorem pumping (h : MidOperation loans w T flying created p)
    (installed : p.locals.handler.isSome = true) :
    ∃ slot, T.pumping = some slot ∧ (occupant T.libraries slot).isSome = true := by
  have found := (h.sound.backed p.current).pumping installed
  rwa [show (p.threads.get p.current).tables = T from h.tables] at found

/-- A change of the thread's locals, which installs no handler. -/
theorem modifyLocals (h : MidOperation loans w T flying created p) (f : Locals → Locals)
    (fits : w.stage.Fits (f p.locals))
    (installed : (f p.locals).handler.isSome = true → p.locals.handler.isSome = true) :
    MidOperation loans w T flying created (final (modifyLocals f) p) := by
  obtain rfl := h.tables
  exact h.setHere (t := { p.here with locals := f p.locals }) fits (.refl _)
    (fun hs => h.pumping (installed hs)) fun c origin hc => h.lent hc

theorem setPending (h : MidOperation loans w T flying created p) (e : Option Error) :
    MidOperation loans w T flying created (final (setPending e) p) :=
  have fits := h.sight.fits
  h.modifyLocals (fun s => { s with pending := e }) ⟨fits.handler, fits.dispatching, fits.panic⟩ id

/-- A change of the tables, to or from which handles are on their way. -/
theorem modifyTables (h : MidOperation loans w T flying created p) (f : Tables → Tables)
    (carried : (flying' ++ (f T).handles).Subperm (flying ++ T.handles))
    (pumping : p.locals.handler.isSome = true →
      ∃ slot, (f T).pumping = some slot ∧ (occupant (f T).libraries slot).isSome = true)
    (lent : ∀ c origin, some (c, origin) ∈ (f T).contexts →
      occupant (f T).windows origin = some ⟨c.pointer, c.key⟩ ∨
        ∃ v, loans p.current v ∧
          occupant (p.threads.get v).tables.windows origin = some ⟨c.pointer, c.key⟩) :
    MidOperation loans w (f T) flying' created (final (modifyTables f) p) := by
  obtain rfl := h.tables
  exact h.setHere (t := { p.here with tables := f p.tables }) h.sight.fits carried pumping lent

/-! ### Native calls -/

section Calls

variable (hm : LibraryKeepsSound native)

include hm

/-- A call that names what is known leaves the thread where it was. -/
theorem called (h : MidOperation loans w T flying created p) {call : Call} (hc : call.pumps = false)
    (proper : (Happening.called call).Proper p.history p.current) :
    MidOperation loans w T flying none (final (native call) p) ∧
      ∃ hs, (∀ e ∈ hs, e.Serves (· = call)) ∧
        (final (native call) p).entriesOf p.current = hs ++ p.entriesOf p.current := by
  have start : w.step (.called call) =
      some { w with armed := none, frames := (call, w.frame call) :: w.frames } := by
    simp [Watch.step, hc, h.clear.owed, h.clear.armed]
  have noted : Sight (p.note (.called call))
      { w with armed := none, frames := (call, w.frame call) :: w.frames } := h.sight.note start
  have sound := hm.sound loans call p _ h.calm noted ⟨rfl, h.clear.owed⟩ h.waiting
    (h.sound.noteOf rfl proper)
  obtain ⟨calm, w', sight, heard⟩ := hm.callsBack.onlyCallbacks hc p w h.calm h.sight h.clear
  obtain ⟨e, here⟩ := (heard.aside h.stage).2
  obtain ⟨hs, unaffected, left, -⟩ := hm.answers call p h.sight.running h.deaf
  rw [heard.eq h.clear h.stage] at sight
  have all : ∀ e ∈ (.called call :: hs).reverse, e.Serves (· = call) := fun e he => by
    rcases List.mem_cons.1 (List.mem_reverse.1 he) with rfl | he
    · exact .inl rfl
    · exact unaffected e he
  refine ⟨⟨calm, sight, h.clear, h.stage, h.waiting.same left.running, sound, ?_, ?_, by simp⟩,
    _, all, left.entries⟩
  · rw [Process.tables, here]
    exact h.tables
  · rw [left.current, left.entries, possessions_append all]
    exact h.carried

theorem call (h : MidOperation loans w T flying created p) {call : Call} (hc : call.pumps = false)
    (hcreates : call.creates = false)
    (proper : (Happening.called call).Proper p.history p.current) :
    MidOperation loans w T flying created (final (native call) p) := by
  obtain ⟨after, hs, unaffected, entries⟩ := h.called hm hc proper
  refine { after with created := fun x hx => ?_ }
  rw [(hm.confined call p).current, entries, orphan_append hcreates unaffected]
  exact h.created x hx

/-- The thread has just created the window that a creating call returns. -/
theorem create (h : MidOperation loans w T flying created p) {call : Call} (hc : call.pumps = false)
    (hcreates : call.creates = true)
    (proper : (Happening.called call).Proper p.history p.current) :
    MidOperation loans w T flying (Happening.returned call (result (native call) p)).created?
      (final (native call) p) := by
  refine { (h.called hm hc proper).1 with created := fun x hx => ?_ }
  obtain ⟨q, hq, returned⟩ := hm.returns call p
  have current : (final (native call) p).current = q.current :=
    (hm.confined call p).current.trans hq.symm
  rw [current, returned, entriesOf_note_self, orphan, Happening.orphan, if_pos hcreates]
  exact hx

theorem checked (h : MidOperation loans w T flying created p) {call : Call} (hc : call.pumps = false)
    (hcreates : call.creates = false)
    (proper : (Happening.called call).Proper p.history p.current) :
    MidOperation loans w T flying created (final (Windowing.checked (native call)).run p) := by
  rw [final_checked]
  exact (((h.setPending none).call hm hc hcreates proper).setPending none).setPending _

end Calls

end MidOperation

/-! ### Operations on what is in the tables -/

/-- The windows were just created by a thread with handles, or have a handle or a context that is on its
way or in the tables, and the monitors have a handle there. -/
structure Names (T : Tables) (flying : List Handle) (created : Option Pointer)
    (windows monitors : List Pointer) : Prop where
  windows : ∀ x ∈ windows, x ≠ null → created = some x ∧ flying ++ T.handles ≠ [] ∨
    (∃ y, Handle.window y ∈ flying ++ T.handles ∧ y.pointer = x) ∨
    ∃ c origin, some (c, origin) ∈ T.contexts ∧ c.pointer = x
  monitors : ∀ x ∈ monitors, x ≠ null → Handle.monitor ⟨x⟩ ∈ flying ++ T.handles

theorem Names.nothing {windows : List Pointer} (h : ∀ x ∈ windows, x = null) :
    Names T flying created windows [] :=
  ⟨fun x hx hne => absurd (h x hx) hne, by simp⟩

theorem MidOperation.proper (h : MidOperation loans w T flying created p) {call : Call}
    (names : Names T flying created call.windows call.monitors) :
    (Happening.called call).Proper p.history p.current := by
  refine ⟨fun x hx hne => .inr ?_, fun x hx hne => h.carried.subset (names.monitors x hx hne)⟩
  rcases names.windows x hx hne with ⟨hc, owned⟩ | ⟨y, hy, rfl⟩ | ⟨c, origin, hc, rfl⟩
  · exact .inl ⟨h.created x hc, fun empty => owned (List.subperm_nil.1 (empty ▸ h.carried))⟩
  · exact .inr ⟨p.current, y, h.carried.subset hy, rfl⟩
  · have slot : ∃ v, occupant (p.threads.get v).tables.windows origin = some ⟨c.pointer, c.key⟩ := by
      rcases h.lent hc with own | ⟨v, -, found⟩
      · exact ⟨p.current, by rwa [show (p.threads.get p.current).tables = T from h.tables]⟩
      · exact ⟨v, found⟩
    obtain ⟨v, found⟩ := slot
    have shown := (Tables.handles_window found).mem_iff.2 List.mem_cons_self
    exact .inr ⟨v, _, (h.sound.backed v).held.subset shown, rfl⟩

theorem Native.Call.creates_of_plain {call : Call} (h : call.plain = true) :
    call.creates = false := by
  cases call <;> first | rfl | cases h

theorem Composed.triple {prim : (α : Type) → (Backend → M α) → Prop} {P : Process → Prop}
    (h : ∀ α m, prim α m → Triple P (m native) fun _ => P) {m : Backend → M α}
    (hm : Composed SameButPanics prim m) : Triple P (m native) fun _ => P := by
  induction hm with
  | pure a => exact .pure fun _ hp => hp
  | bind _ _ first rest => exact .bind first rest
  | look _ _ rest => exact fun p hp => rest p p hp
  | act hm => exact h _ _ hm

section Names

variable {windows monitors : List Pointer} (hm : LibraryKeepsSound native)

include hm

theorem Asks.midOperation (names : Names T flying created windows monitors) {m : Backend → M α}
    (h : Composed SameButPanics (Asks windows monitors) m) :
    Triple (MidOperation loans w T flying created) (m native)
      fun _ => MidOperation loans w T flying created := by
  refine h.triple fun _ _ asks p midOperation => ?_
  cases asks with
  | attempt call about =>
    obtain ⟨plain, rfl, rfl⟩ := about
    exact midOperation.checked hm (Native.Call.pumps_of_plain plain)
      (Native.Call.creates_of_plain plain)
      (midOperation.proper names)

theorem Tells.midOperation (names : Names T flying created windows []) {m : Backend → M α}
    (h : Composed SameButPanics (Tells windows) m) :
    Triple (MidOperation loans w T flying created) (m native)
      fun _ => MidOperation loans w T flying created := by
  refine h.triple fun _ _ tells p midOperation => ?_
  cases tells with
  | call call about =>
    obtain ⟨plain, rfl, none⟩ := about
    exact midOperation.call hm (Native.Call.pumps_of_plain plain) (Native.Call.creates_of_plain plain)
      (midOperation.proper (none ▸ names))

end Names

end Windowing
