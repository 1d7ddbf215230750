import Windowing.Proofs.NamedPointers

/-!
Lending to other threads. A thread that runs another one hands its contexts over and waits, so the
windows that they are of stay in their slots until the contexts are back. The new thread may hand on
what it was lent. A thread that ends drops its own contexts first, then everything in its slots.
-/

namespace Windowing

open Native Client

variable {α : Type} {native : Backend} {loans loans' : Loans} {p q : Process} {w : Watch} {T : Tables}
  {flying : List Handle} {created : Option Pointer}

theorem mem_iff_occupant {table : List (Option α)} {a : α} :
    some a ∈ table ↔ ∃ slot, occupant table slot = some a := by
  simp only [List.mem_iff_getElem?, occupant, Option.join_eq_some_iff]

theorem occupant_lt {table : List (Option α)} {slot : Nat} {a : α}
    (h : occupant table slot = some a) : slot < table.length := by
  obtain ⟨hlt, -⟩ := List.getElem?_eq_some_iff.1 (Option.join_eq_some_iff.1 h)
  exact hlt

theorem Triple.forM {P : Process → Prop} {f : α → M Unit} (h : ∀ a, Triple P (f a) fun _ => P)
    (xs : List α) : Triple P (xs.forM f) fun _ => P := by
  induction xs with
  | nil => exact fun _ hp => hp
  | cons x xs ih => exact .bind (h x) fun _ => ih

/-! ### The end of a thread -/

/-- Drops the context that was in a slot, if it is picked. -/
def pickContext (contexts : List (Option (Context × Nat))) (picked : Context → Bool) (slot : Nat) :
    M Unit := do
  if let some (c, _) := occupant contexts slot then
    if picked c then
      let _ ← takeContext slot
      c.drop

theorem MidOperation.pickContext (contexts : List (Option (Context × Nat))) (picked : Context → Bool)
    (slot : Nat) {left : List (Option (Context × Nat))}
    (h : MidOperation loans w { T with contexts := left } flying created p) :
    ∃ left', MidOperation loans w { T with contexts := left' } flying created
        (final (pickContext contexts picked slot) p) ∧
      ∀ i x, occupant left' i = some x → occupant left i = some x ∧
        (i = slot → ∀ y, occupant contexts i = some y → picked y.1 = false) := by
  cases hocc : occupant contexts slot with
  | none =>
    refine ⟨left, by simpa [Windowing.pickContext, hocc] using h, fun i x hx => ⟨hx, ?_⟩⟩
    rintro rfl y hy
    cases hocc.symm.trans hy
  | some x =>
    obtain ⟨c, origin⟩ := x
    cases hpick : picked c with
    | true =>
      refine ⟨left.set slot none, ?_, fun i x hx => ?_⟩
      · simpa [Windowing.pickContext, hocc, hpick] using (h.takeContext slot).dropContext c
      · rw [occupant_set] at hx
        split at hx
        next => cases hx
        next hne => exact ⟨hx, fun same => absurd same hne⟩
    | false =>
      refine ⟨left, by simpa [Windowing.pickContext, hocc, hpick] using h, fun i x hx => ⟨hx, ?_⟩⟩
      rintro rfl y hy
      cases hocc.symm.trans hy
      exact hpick

/-- Of the given slots those are emptied whose contexts are picked. -/
theorem MidOperation.pickContexts (contexts : List (Option (Context × Nat))) (picked : Context → Bool)
    (slots : List Nat) {left : List (Option (Context × Nat))}
    (h : MidOperation loans w { T with contexts := left } flying created p) :
    ∃ left', MidOperation loans w { T with contexts := left' } flying created
        (final (slots.forM (Windowing.pickContext contexts picked)) p) ∧
      ∀ i x, occupant left' i = some x → occupant left i = some x ∧
        (i ∈ slots → ∀ y, occupant contexts i = some y → picked y.1 = false) := by
  induction slots generalizing p left with
  | nil => exact ⟨left, h, fun i x hx => ⟨hx, by simp⟩⟩
  | cons slot rest ih =>
    obtain ⟨mid, hmid, stayed⟩ := h.pickContext contexts picked slot
    obtain ⟨left', hleft, stayed'⟩ := ih hmid
    refine ⟨left', hleft, fun i x hx => ?_⟩
    obtain ⟨there, unpicked'⟩ := stayed' i x hx
    obtain ⟨there', unpicked⟩ := stayed i x there
    exact ⟨there', fun hi => (List.mem_cons.1 hi).elim unpicked unpicked'⟩

/-- The contexts that are picked go, and the others stay. -/
theorem MidOperation.clearContexts (h : MidOperation loans w T flying created p)
    (picked : Context → Bool) :
    ∃ left, MidOperation loans w { T with contexts := left } flying created
        (final (clearContexts picked) p) ∧
      ∀ c origin, some (c, origin) ∈ left →
        some (c, origin) ∈ T.contexts ∧ picked c = false := by
  obtain rfl := h.tables
  obtain ⟨left, after, stayed⟩ := h.pickContexts p.tables.contexts picked
    (List.range p.tables.contexts.length)
  refine ⟨left, after, fun c origin hc => ?_⟩
  obtain ⟨slot, hslot⟩ := mem_iff_occupant.1 hc
  obtain ⟨there, unpicked⟩ := stayed slot _ hslot
  exact ⟨mem_iff_occupant.2 ⟨slot, there⟩,
    unpicked (List.mem_range.2 (occupant_lt there)) _ there⟩

/-- The current thread is in the middle of an operation and has no context. -/
def Parting (loans : Loans) (w : Watch) (p : Process) : Prop :=
  ∃ T, MidOperation loans w T [] none p ∧ T.contexts = []

section Ending

variable (hm : LibraryKeepsSound native)

include hm

theorem clearWindow_parting (slot : Nat) :
    Triple (Parting loans w) (clearWindow native slot) fun _ => Parting loans w :=
  fun _ ⟨_, h, empty⟩ => ⟨_, h.clearWindow hm slot (by simp [empty]), empty⟩

theorem clearMonitor_parting (slot : Nat) :
    Triple (Parting loans w) (clearMonitor native slot) fun _ => Parting loans w :=
  fun _ ⟨_, h, empty⟩ => ⟨_, h.clearMonitor hm slot, empty⟩

theorem clearLibrary_parting (outside : w.stage = .outside) (slot : Nat) :
    Triple (Parting loans w) (clearLibrary native slot) fun _ => Parting loans w :=
  fun _ ⟨_, h, empty⟩ =>
    ⟨_, h.clearLibrary hm slot fun installed => absurd outside (h.sight.fits.handler.1 installed),
      empty⟩

/-- The contexts that a thread leaves behind are of windows of the threads that wait for it. -/
theorem MidOperation.finish (h : MidOperation loans w T [] none p) (outside : w.stage = .outside)
    (panicked : Bool) : Parting loans w (final (finish native panicked) p) ∧
      ∀ c origin, some (c, origin) ∈ result (Client.finish native panicked) p →
        ∃ v, loans p.current v ∧
          occupant (p.threads.get v).tables.windows origin = some ⟨c.pointer, c.key⟩ := by
  obtain rfl := h.tables
  let own := p.tables.windows.filterMap fun w => w.map (·.key)
  obtain ⟨left, cleared, stayed⟩ := h.clearContexts fun c => panicked || own.contains c.key
  have parted : Parting loans w (final (Windowing.modifyTables fun t => { t with contexts := [] })
      (final (Client.clearContexts fun c => panicked || own.contains c.key) p)) :=
    ⟨_, cleared.contexts (fun _ => []) (by simp), rfl⟩
  refine ⟨?_, fun c origin hc => ?_⟩
  · exact Triple.forM (clearLibrary_parting hm outside) _ _
      (Triple.forM (clearMonitor_parting hm) _ _ (Triple.forM (clearWindow_parting hm) _ _ parted))
  · have kept : result (Client.finish native panicked) p = if panicked then [] else left := by
      have tables := congrArg Tables.contexts cleared.tables
      change (if panicked then [] else (final (Client.clearContexts fun c =>
        panicked || own.contains c.key) p).tables.contexts) = _
      rw [tables]
    rw [kept] at hc
    cases panicked with
    | true => cases hc
    | false =>
      obtain ⟨there, unpicked⟩ := stayed c origin hc
      refine (h.lent there).resolve_left fun found => ?_
      have mine : c.key ∈ own :=
        List.mem_filterMap.2 ⟨_, mem_iff_occupant.2 ⟨origin, found⟩, rfl⟩
      simp [mine] at unpicked

end Ending

/-! ### Threads come and go -/

/-- The child may have contexts of what its parent may have contexts of, and of what it has. -/
def Loans.passedOn (loans : Loans) (parent child : ThreadId) : Loans := fun u v =>
  if u = child then v = parent ∨ loans parent v else loans u v

theorem Loans.passedOn_self {parent child v : ThreadId} :
    loans.passedOn parent child child v ↔ v = parent ∨ loans parent v := by
  simp [passedOn]

theorem Loans.passedOn_of_ne {parent child u v : ThreadId} (hu : u ≠ child) :
    loans.passedOn parent child u v ↔ loans u v := by
  simp [passedOn, hu]

/-- A thread that has a window whose contexts the current thread may have is running. -/
theorem Waiting.runs (h : Waiting loans p) (hr : p.current ∈ p.running) {v : ThreadId}
    (hv : v = p.current ∨ loans p.current v) : v ∈ p.running := by
  rcases hv with rfl | hv
  · exact hr
  · exact (h _ _ hv).1

theorem Lent.same {threads threads' : Registry Thread} {u : ThreadId} {c : Context} {origin : Nat}
    (h : Lent loans threads u c origin)
    (same : ∀ v, v = u ∨ loans u v → threads'.get v = threads.get v) :
    Lent loans threads' u c origin := by
  obtain ⟨v, hv, found⟩ := h
  exact ⟨v, hv, by rw [same v hv]; exact found⟩

namespace Sound

/-- A thread may be forgotten when no other thread has contexts of its windows. -/
theorem erase (h : Sound loans' p) (t : ThreadId)
    (unlent : ∀ u v, u ≠ t → loans' u v → loans u v ∧ v ≠ t) :
    Sound loans { p with threads := p.threads.erase t } where
  proper := h.proper
  backed u := by
    by_cases hu : u = t
    · subst hu
      refine ⟨?_, ?_⟩
      · rw [Registry.get_erase_self]
        exact List.nil_subperm
      · rw [Registry.get_erase_self]
        exact fun installed => by cases installed
    · rw [Registry.get_erase_of_ne _ hu]
      exact h.backed u
  lent u c origin hc := by
    by_cases hu : u = t
    · subst hu
      rw [Registry.get_erase_self] at hc
      cases hc
    · rw [Registry.get_erase_of_ne _ hu] at hc
      obtain ⟨v, hv, found⟩ := h.lent u c origin hc
      have allowed : (v = u ∨ loans u v) ∧ v ≠ t := by
        rcases hv with rfl | hv
        · exact ⟨.inl rfl, hu⟩
        · exact (unlent u v hu hv).imp .inr id
      exact ⟨v, allowed.1, by rw [Registry.get_erase_of_ne _ allowed.2]; exact found⟩

/-- A new thread has nothing but the contexts that it takes along. -/
theorem withThread (h : Sound loans p) (waiting : Waiting loans p) (hr : p.current ∈ p.running)
    {contexts : List (Option (Context × Nat))}
    (lent : ∀ c origin, some (c, origin) ∈ contexts → Lent loans p.threads p.current c origin) :
    Sound (loans.passedOn p.current p.freshThread) (p.withThread contexts) := by
  refine ⟨h.proper, fun u => ?_, fun u c origin hc => ?_⟩
  · by_cases hu : u = p.freshThread
    · subst hu
      rw [withThread_fresh]
      exact ⟨List.nil_subperm, fun installed => by cases installed⟩
    · rw [withThread_of_ne hu]
      exact h.backed u
  · by_cases hu : u = p.freshThread
    · subst hu
      rw [withThread_fresh] at hc
      obtain ⟨v, hv, found⟩ := lent c origin hc
      exact ⟨v, .inr (Loans.passedOn_self.2 hv),
        by rw [withThread_of_ne (ne_fresh (waiting.runs hr hv))]; exact found⟩
    · rw [withThread_of_ne hu] at hc
      obtain ⟨v, hv, found⟩ := h.lent u c origin hc
      have hne : v ≠ p.freshThread := by
        rcases hv with rfl | hv
        · exact hu
        · exact ne_fresh (waiting _ _ hv).1
      exact ⟨v, hv.imp id (Loans.passedOn_of_ne hu).2,
        by rw [withThread_of_ne hne]; exact found⟩

/-- The current thread gets other contexts. -/
theorem setContexts (h : Sound loans p) (waiting : Waiting loans p)
    {contexts : List (Option (Context × Nat))}
    (lent : ∀ c origin, some (c, origin) ∈ contexts → Lent loans p.threads p.current c origin) :
    Sound loans (final (modifyTables fun t => { t with contexts := contexts }) p) := by
  have backed := h.backed p.current
  refine h.setHere waiting ⟨backed.held, backed.pumping⟩ fun c origin hc => ?_
  obtain ⟨v, rfl | hv, found⟩ := lent c origin hc
  · exact .inl found
  · exact .inr ⟨v, hv, found⟩

end Sound

/-- A thread that runs another one waits for it with those whom it borrows from. -/
theorem Waiting.passedOn (h : Waiting loans p) (hr : p.current ∈ p.running) (contexts) :
    Waiting (loans.passedOn p.current p.freshThread)
      { p.withThread contexts with running := p.freshThread :: p.running } := by
  intro u v hv
  have runs : v ∈ p.running := by
    by_cases hu : u = p.freshThread
    · subst hu
      exact h.runs hr (Loans.passedOn_self.1 hv)
    · exact (h _ _ ((Loans.passedOn_of_ne hu).1 hv)).1
  exact ⟨List.mem_cons_of_mem _ runs, ne_fresh runs⟩

section Threads

variable (hm : LibraryKeepsSound native)

include hm

theorem endThread_sound {thread : ThreadId} (panic : Option String) (hcurrent : p.current = thread)
    (hp : AllCalm p) (hw : AtWork p {}) (waiting : Waiting loans p) (sound : Sound loans p) :
    Sound loans (final (endThread native thread panic) p) := by
  have start := MidOperation.of_work hp hw waiting sound
  obtain ⟨⟨T, parted, -⟩, -⟩ := start.finish hm rfl true
  have ended := parted.sound.noteOf (e := .threadEnded panic) rfl trivial
  have caught := ended.same
    (q := final catchPanic ((final (finish native true) p).note (.threadEnded panic))) rfl rfl
  rw [final_endThread]
  refine caught.erase thread fun u v _ hv => ⟨hv, fun same => ?_⟩
  exact (waiting u v hv).2 (same.trans hcurrent.symm)

/-- What a thread leaves behind when it ends was lent to it. -/
theorem runToEnd_sound {body : M (Option String)} (hb : OperationKeepsSound body) (hp : AllCalm p)
    (hw : AtWork p {}) (waiting : Waiting loans p) (sound : Sound loans p) :
    Sound loans (final (runToEnd native body) p) ∧
      ∀ c origin, some (c, origin) ∈ (result (runToEnd native body) p).2 →
        ∃ v, loans p.current v ∧
          occupant (p.threads.get v).tables.windows origin = some ⟨c.pointer, c.key⟩ := by
  obtain ⟨hq, hw'⟩ := hb.staysCalm p {} hp hw
  have within := hb.confined p
  have after := hb.clientKeepsSound loans p {} hp hw waiting sound
  have start := MidOperation.of_work hq hw' (waiting.same within.running) after
  obtain ⟨⟨T, parted, -⟩, left⟩ := start.finish hm rfl (result body p).isSome
  rw [final_runToEnd]
  refine ⟨parted.sound.noteOf rfl trivial, fun c origin hc => ?_⟩
  obtain ⟨v, hv, found⟩ := left c origin hc
  rw [within.current] at hv
  have same := within.waiting v (waiting _ _ hv).1 (waiting _ _ hv).2
  exact ⟨v, hv, same.thread ▸ found⟩

/-- A new thread returns the contexts that are left of those it took along. -/
theorem spawn_sound {body : M (Option String)} (hb : OperationKeepsSound body) (hp : AllCalm p)
    (hr : p.current ∈ p.running) (waiting : Waiting loans p) (sound : Sound loans p)
    {contexts : List (Option (Context × Nat))}
    (lent : ∀ c origin, some (c, origin) ∈ contexts → Lent loans p.threads p.current c origin) :
    Sound loans (final (spawn native contexts body) p) ∧
      ∀ c origin, some (c, origin) ∈ (result (spawn native contexts body) p).2 →
        Lent loans p.threads p.current c origin := by
  obtain ⟨calm, work⟩ := onThread_start (allCalm_withThread hp contexts) (fresh_notMem_running p)
  have entered := (sound.withThread waiting hr lent).same (q := { p.withThread contexts with
    running := p.freshThread :: p.running }) rfl rfl
  obtain ⟨ended, left⟩ := runToEnd_sound hm hb calm work (waiting.passedOn hr contexts) entered
  refine ⟨?_, fun c origin hc => ?_⟩
  · rw [final_spawn]
    have returned := ended.same (q := final (onThread p.freshThread
      (catchUnwind (runToEnd native body))) (p.withThread contexts)) rfl rfl
    refine returned.erase p.freshThread fun u v hu hv => ?_
    have passed : loans u v := (Loans.passedOn_of_ne hu).1 hv
    exact ⟨passed, ne_fresh (waiting u v passed).1⟩
  · obtain ⟨v, hv, found⟩ := left c origin hc
    have allowed : v = p.current ∨ loans p.current v := Loans.passedOn_self.1 hv
    have hne : v ≠ p.freshThread := ne_fresh (waiting.runs hr allowed)
    exact ⟨v, allowed, withThread_of_ne hne contexts ▸ found⟩

theorem runThread_operationKeepsSound {body : M (Option String)} (hb : OperationKeepsSound body) :
    OperationKeepsSound (runThread native body) := by
  refine ⟨.runThread hm.callsBack hm.confined hb.staysCalm hb.confined,
    (Confined.law hm.confined).thread _ hb.confined,
    fun loans p w hp hw waiting sound => ?_⟩
  by_cases spawned : p.here.spawned = true
  · have refused : final (runThread native body) p = p := by simp [runThread, spawned]
    exact refused.symm ▸ sound
  let contexts := p.tables.contexts
  let q := final (modifyTables fun t => { t with contexts := [] }) p
  have ran : final (runThread native body) p = final (modifyTables fun t =>
      { t with contexts := (result (spawn native contexts body) q).2 })
      (final (spawn native contexts body) q) := by
    simp [runThread, spawned, q, contexts]
  obtain ⟨hq, hw'⟩ := ClientStaysCalm.keepsHandler
    (.tables fun t => { t with contexts := [] }) p w hp hw
  have emptied : Sound loans q := sound.setContexts waiting (by simp)
  have same : ∀ v, (q.threads.get v).tables.windows = (p.threads.get v).tables.windows := by
    intro v
    by_cases hv : v = p.current
    · subst hv
      have here : (q.threads.get p.current).tables = { p.tables with contexts := [] } :=
        tables_modifyTables _ p
      rw [here]
      rfl
    · exact congrArg (·.tables.windows) (Registry.get_set_of_ne p.threads hv _)
  have lent : ∀ c origin, some (c, origin) ∈ contexts → Lent loans q.threads q.current c origin := by
    intro c origin hc
    obtain ⟨v, hv, found⟩ := sound.lent p.current c origin hc
    exact ⟨v, hv, by rw [same v]; exact found⟩
  obtain ⟨returned, left⟩ :=
    spawn_sound hm hb hq hw'.sight.running (waiting.same rfl) emptied lent
  obtain ⟨running, apart⟩ := Confined.spawn_apart hm.confined contexts hb.confined q
  have waiting' : Waiting loans q := waiting.same rfl
  have current : (final (spawn native contexts body) q).current = q.current :=
    Process.current_eq running
  rw [ran]
  refine returned.setContexts (waiting'.same running) fun c origin hc => ?_
  rw [current]
  exact (left c origin hc).same fun v hv => (apart v (waiting'.runs hw'.sight.running hv)).thread

end Threads

end Windowing
