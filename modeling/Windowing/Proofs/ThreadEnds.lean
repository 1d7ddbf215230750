import Windowing.Proofs.PumpBooks

/-!
The ends of threads. A thread that ends drops everything in its slots, so afterwards it has no
handle; if it was the owner, its initialization is over. Threads come and go without a handle.
-/

namespace Windowing

open Native Client

variable {α : Type} {native : Backend} {o : Option Pause} {p : Process} {w : Watch} {l : Ledger}

theorem occupant_set {table : List (Option α)} (slot i : Nat) :
    occupant (table.set slot none) i = if i = slot then none else occupant table i := by
  by_cases h : slot = i
  · subst h
    by_cases hlt : slot < table.length <;> simp [occupant, hlt]
  · simp [occupant, List.getElem?_set_ne h, Ne.symm h]

theorem occupant_foldl (slots : List Nat) (table : List (Option α)) (i : Nat) :
    occupant (slots.foldl (fun t slot => t.set slot none) table) i =
      if i ∈ slots then none else occupant table i := by
  induction slots generalizing table with
  | nil => simp
  | cons slot rest ih =>
    rw [List.foldl_cons, ih, occupant_set]
    by_cases hrest : i ∈ rest <;> by_cases hi : i = slot <;> simp [hrest, hi]

theorem filterMap_eq_nil {table : List (Option α)} (h : ∀ i, occupant table i = none) :
    table.filterMap id = [] := by
  rw [List.filterMap_eq_nil_iff]
  intro a ha
  obtain ⟨i, hi⟩ := List.mem_iff_getElem?.1 ha
  simpa [occupant, hi] using h i

/-- Emptying every slot leaves nothing. -/
theorem emptied_eq_nil (table : List (Option α)) :
    ((List.range table.length).foldl (fun t slot => t.set slot none) table).filterMap id = [] := by
  refine filterMap_eq_nil fun i => ?_
  rw [occupant_foldl]
  by_cases hi : i < table.length
  · simp [hi]
  · simp [occupant, List.getElem?_eq_none (Nat.le_of_not_lt hi)]

theorem SameHandles.trans {a b c : Tables} (h : SameHandles a b) (h' : SameHandles b c) :
    SameHandles a c :=
  ⟨h'.libraries.trans h.libraries, h'.windows.trans h.windows, h'.monitors.trans h.monitors⟩

/-- A thread outside all pumps, and the books, of which it owns nothing that is on its way. -/
structure Rest (c : ThreadId) (o : Option Pause) (p : Process) : Prop where
  calm : AllCalm p
  work : AtWork p {}
  current : p.current = c
  standing : Standing p o
  apart : ∀ x ∈ o, x.owner ≠ c

section Rest

variable {c : ThreadId}

theorem Rest.others (h : Rest c o p) : ∀ x ∈ o, x.owner ≠ p.current := h.current ▸ h.apart

theorem Rest.keepsBooks (h : Rest c o p) {m : M α} (hm : OperationKeepsBooks m) :
    Rest c o (final m p) := by
  obtain ⟨calm, work⟩ := hm.staysCalm p {} h.calm h.work
  exact ⟨calm, work, (hm.confined p).current.trans h.current,
    hm.clientKeepsBooks o p {} h.calm h.work h.others h.standing, h.apart⟩

theorem Rest.unaffected (h : Rest c o p) {m : M α} (hm : BooksUnaffected m) :
    Rest c o (final m p) ∧ SameHandles p.tables (final m p).tables :=
  ⟨h.keepsBooks (.unaffected hm),
    (hm.book p {} h.calm h.work.sight h.work.clear h.work.stage_ne).sameHandles⟩

/-- Slots are emptied one after the other. -/
theorem Rest.clearing {β : Type} {f : Nat → M Unit} (holds : List (Option β) → Process → Prop)
    (hf : ∀ q slot table, Rest c o q → holds table q →
      Rest c o (final (f slot) q) ∧ holds (table.set slot none) (final (f slot) q))
    (slots : List Nat) {table : List (Option β)} (h : Rest c o p) (ht : holds table p) :
    Rest c o (final (slots.forM f) p) ∧
      holds (slots.foldl (fun t slot => t.set slot none) table) (final (slots.forM f) p) := by
  induction slots generalizing p table with
  | nil => exact ⟨h, ht⟩
  | cons slot rest ih =>
    obtain ⟨hq, htable⟩ := hf p slot table h ht
    exact ih hq htable

variable (hm : LibraryKeepsBooks native)

include hm

/-- What empties a slot and keeps the books. -/
theorem Rest.small (h : Rest c o p) {m : Backend → M α} (hsmall : Composed SameButPanics Small m)
    (hs : Standing (final (m native) p) o) : Rest c o (final (m native) p) := by
  have keepsHandler : KeepsHandler (m native) := .composed (fun _ _ h => .small hm.callsBack h) hsmall
  have confined : Confined (m native) := 
    Confined.closed.composed (fun _ _ => (Confined.compositional hm.confined).small) hsmall
  obtain ⟨calm, work⟩ := ClientStaysCalm.keepsHandler keepsHandler p {} h.calm h.work
  exact ⟨calm, work, (confined p).current.trans h.current, hs, h.apart⟩

theorem Rest.clearWindows (t : Tables) (slots : List Nat) (h : Rest c o p)
    (ht : SameHandles t p.tables) :
    Rest c o (final (slots.forM fun slot => clearWindow native slot) p) ∧
      SameHandles { t with windows := slots.foldl (fun t slot => t.set slot none) t.windows }
        (final (slots.forM fun slot => clearWindow native slot) p).tables := by
  refine h.clearing (fun table q => SameHandles { t with windows := table } q.tables)
    (fun q slot table hq htable => ?_) slots ht
  obtain ⟨standing, same⟩ := hq.standing.clearWindow hm hq.calm hq.work hq.others slot
  refine ⟨hq.small hm (clearWindow_modest slot).minor standing, SameHandles.trans ?_ same⟩
  exact ⟨htable.libraries, congrArg (·.set slot none) htable.windows, htable.monitors⟩

theorem Rest.clearMonitors (t : Tables) (slots : List Nat) (h : Rest c o p)
    (ht : SameHandles t p.tables) :
    Rest c o (final (slots.forM fun slot => clearMonitor native slot) p) ∧
      SameHandles { t with monitors := slots.foldl (fun t slot => t.set slot none) t.monitors }
        (final (slots.forM fun slot => clearMonitor native slot) p).tables := by
  refine h.clearing (fun table q => SameHandles { t with monitors := table } q.tables)
    (fun q slot table hq htable => ?_) slots ht
  obtain ⟨standing, same⟩ := hq.standing.clearMonitor hm hq.calm hq.work hq.others slot
  refine ⟨hq.small hm (clearMonitor_modest slot).minor standing, SameHandles.trans ?_ same⟩
  exact ⟨htable.libraries, htable.windows, congrArg (·.set slot none) htable.monitors⟩

theorem Rest.clearLibraries (t : Tables) (slots : List Nat) (h : Rest c o p)
    (ht : SameHandles t p.tables) :
    Rest c o (final (slots.forM fun slot => clearLibrary native slot) p) ∧
      SameHandles { t with libraries := slots.foldl (fun t slot => t.set slot none) t.libraries }
        (final (slots.forM fun slot => clearLibrary native slot) p).tables := by
  refine h.clearing (fun table q => SameHandles { t with libraries := table } q.tables)
    (fun q slot table hq htable => ?_) slots ht
  have absent : q.locals.handler = none := by simpa using hq.work.sight.fits.handler
  obtain ⟨standing, same⟩ := hq.standing.clearLibrary hm hq.calm hq.work hq.others slot
    fun installed => by rw [absent] at installed; cases installed
  refine ⟨hq.small hm (clearLibrary_modest slot).minor standing, SameHandles.trans ?_ same⟩
  exact ⟨congrArg (·.set slot none) htable.libraries, htable.windows, htable.monitors⟩

/-- A thread that ends has nothing left in its slots. -/
theorem Rest.finish (panicked : Bool) (h : Rest c o p) :
    Rest c o (final (finish native panicked) p) ∧
      (final (Client.finish native panicked) p).tables.handles = [] := by
  let own := p.tables.windows.filterMap fun w => w.map (·.key)
  have contexts : BooksUnaffected (clearContexts fun c => panicked || own.contains c.key) :=
    .composed (fun _ _ => .quiet hm) (clearContexts_aside _).aside
  obtain ⟨h₁, same₁⟩ := h.unaffected contexts
  obtain ⟨h₂, same₂⟩ := h₁.unaffected (.contexts fun _ => [])
  obtain ⟨h₃, same₃⟩ := h₂.clearWindows hm p.tables (List.range p.tables.windows.length)
    (same₁.trans same₂)
  obtain ⟨h₄, same₄⟩ := h₃.clearMonitors hm _ (List.range p.tables.monitors.length) same₃
  obtain ⟨h₅, same₅⟩ := h₄.clearLibraries hm _ (List.range p.tables.libraries.length) same₄
  have empty : ∀ {a b : Tables}, SameHandles a b → a.handles = [] → b.handles = [] := by
    intro a b same ha
    rw [Tables.handles, same.libraries, same.windows, same.monitors]
    exact ha
  refine ⟨h₅, empty same₅ ?_⟩
  simp only [Tables.handles, emptied_eq_nil, List.map_nil, List.append_nil]

end Rest

/-! ### Threads -/

section Threads

variable {c t : ThreadId}

/-- A current thread to which the books assign the initialization has all of it. -/
theorem Standing.owned (hs : Standing p o) (ho : ∀ x ∈ o, x.owner ≠ p.current)
    (hl : p.ledger = some l) (howner : l.phase.owner = some p.current) : Kept p.current l p := by
  cases hs with
  | free hf =>
    cases hl.symm.trans hf.ledger
    cases howner
  | paused x running guarded reads =>
    cases hl.symm.trans reads.ledger
    exact absurd (reads.owner _ howner).symm (ho x rfl)
  | kept hk =>
    cases hl.symm.trans hk.reads.ledger
    have heq := howner
    rw [hk.alive] at heq
    cases heq
    exact hk

theorem Kept.settled (hk : Kept p.current l p) (hw : AtWork p w) : l.Settled p.current := by
  intro _
  have account := hk.account
  refine ⟨hk.alive, hk.held, ?_⟩
  rw [account.owing, account.busy]
  rcases hw.place with hstage | ⟨rfl, -⟩
  · exact .inr (hw.sight.fits.dispatching.2 hstage)
  · have absent : p.locals.handler = none := by simpa using hw.sight.fits.handler
    exact .inl (account.deferred absent)

theorem Kept.handles_ne (hk : Kept p.current l p) : p.tables.handles ≠ [] := by
  intro empty
  have held := hk.account.held
  rw [show (p.threads.get p.current).tables.handles = [] from empty, List.append_nil] at held
  exact hk.held held.eq_nil

/-- Steps and threads begin and end while the books are settled. -/
theorem Standing.boundary (hs : Standing p o) (hw : AtWork p w) (ho : ∀ x ∈ o, x.owner ≠ p.current)
    {e : Happening} (he : e.boundary = true)
    (hu : e.uninitialized = true → p.tables.handles = []) : Standing (p.note e) o := by
  refine hs.same (sameBooks_noted p fun l hl hurgent => Ledger.step_boundary hurgent he ?_ ?_)
  · exact fun howner => (hs.owned ho hl howner).settled hw howner
  · exact fun hfail howner => (hs.owned ho hl howner).handles_ne (hu hfail)

/-- A thread without a handle may be set up anew or forgotten. -/
theorem Standing.forget (hs : Standing p o) (bare : (p.threads.get t).Bare)
    {threads : Registry Thread} (same : ∀ u, u ≠ t → threads.get u = p.threads.get u)
    (bare' : (threads.get t).Bare) : Standing { p with threads := threads } o := by
  have others : ∀ u, (p.threads.get u).Bare → (threads.get u).Bare := fun u hu => by
    by_cases h : u = t
    · exact h ▸ bare'
    · exact same u h ▸ hu
  cases hs with
  | free hf => exact .free ⟨hf.ledger, hf.locked, fun u => others u (hf.bare u)⟩
  | paused x running guarded reads =>
    exact .paused x running
      ⟨guarded.locked, guarded.holders, fun u hu => others u (guarded.others u hu)⟩
      ⟨reads.ledger, reads.urgent, reads.owner⟩
  | kept hk =>
    rename_i owner l
    have hne : owner ≠ t := by
      rintro rfl
      have held := hk.account.held
      rw [bare.handles, List.append_nil] at held
      exact hk.held held.eq_nil
    exact .kept ⟨⟨hk.guarded.locked, hk.guarded.holders,
      fun u hu => others u (hk.guarded.others u hu)⟩,
      ⟨hk.reads.ledger, hk.reads.urgent, hk.reads.owner⟩, hk.alive, hk.held,
      same owner hne ▸ hk.account⟩

/-- Without a handle the thread is not the owner. -/
theorem Rest.bare (h : Rest c o p) (empty : p.tables.handles = []) : (p.threads.get c).Bare := by
  have here : p.here = p.threads.get c := by rw [Process.here, h.current]
  rw [← here]
  refine (h.standing.owner h.others).resolve_right ?_
  rintro ⟨-, l, hk⟩
  exact hk.handles_ne empty

theorem OperationKeepsBooks.boundary {e : Happening} (he : e.boundary = true)
    (hu : e.uninitialized = false) :
    OperationKeepsBooks (note e) := by
  have still : e.still = true := by cases e <;> first | rfl | cases he
  exact ⟨.keepsHandler (.note still), .note e, fun _ _ _ _ hw ho hs =>
    hs.boundary hw ho he fun h => by rw [hu] at h; cases h⟩

theorem Standing.mem_running (hs : Standing p o) : ∀ x ∈ o, x.owner ∈ p.running := by
  cases hs with
  | free | kept => exact fun _ hx => by cases hx
  | paused x running => exact fun y hy => by cases hy; exact running

/-- A thread at rest goes on under the same books. -/
theorem Standing.enter (hs : Standing p o) (hp : AllCalm p) (ht : t ∉ p.running) :
    Rest t o { p with running := t :: p.running } := by
  obtain ⟨calm, work⟩ := onThread_start hp ht
  exact ⟨calm, work, rfl, hs.same (sameBooks_push p t),
    fun x hx heq => ht (heq ▸ hs.mem_running x hx)⟩

theorem Standing.leave (hs : Standing p o) {running : List ThreadId}
    (waits : ∀ x ∈ o, x.owner ∈ running) : Standing { p with running := running } o := by
  cases hs with
  | free hf => exact .free ⟨hf.ledger, hf.locked, hf.bare⟩
  | kept hk =>
    exact .kept ⟨⟨hk.guarded.locked, hk.guarded.holders, hk.guarded.others⟩,
      ⟨hk.reads.ledger, hk.reads.urgent, hk.reads.owner⟩, hk.alive, hk.held, hk.account⟩
  | paused x _ guarded reads =>
    exact .paused x (waits x rfl) ⟨guarded.locked, guarded.holders, guarded.others⟩
      ⟨reads.ledger, reads.urgent, reads.owner⟩

variable (hm : LibraryKeepsBooks native)

include hm

theorem Rest.endThread (panic : Option String) (h : Rest c o p) :
    Standing (final (endThread native c panic) p) o := by
  obtain ⟨rest, empty⟩ := h.finish hm true
  have ended := (rest.keepsBooks (.boundary (e := .threadEnded panic) rfl rfl)).keepsBooks .catchPanic
  rw [final_endThread]
  refine ended.standing.forget (ended.bare empty) (fun u hu => Registry.get_erase_of_ne _ hu) ?_
  rw [Registry.get_erase_self]
  exact ⟨rfl, rfl, rfl⟩

omit hm in
theorem final_runToEnd (body : M (Option String)) (p : Process) :
    final (runToEnd native body) p =
      (final (finish native (result body p).isSome) (final body p)).note
        (.threadEnded (result body p)) := by
  simp only [runToEnd, final_bind, final_note, final_pure]

theorem Rest.runToEnd {body : M (Option String)} (hb : OperationKeepsBooks body) (h : Rest c o p) :
    Standing (final (catchUnwind (runToEnd native body)) p) o ∧
      ((final (catchUnwind (runToEnd native body)) p).threads.get c).Bare := by
  obtain ⟨rest, empty⟩ := (h.keepsBooks hb).finish hm (result body p).isSome
  have ended := (rest.keepsBooks (.boundary (e := .threadEnded (result body p)) rfl rfl)).keepsBooks
    .catchPanic
  rw [final_catchUnwind, final_runToEnd]
  exact ⟨ended.standing, ended.bare empty⟩

/-- A new thread has no handle before it begins and after it ends. -/
theorem spawn_clientKeepsBooks (contexts : List (Option (Context × Nat))) {body : M (Option String)}
    (hb : OperationKeepsBooks body) : ClientKeepsBooks (spawn native contexts body) := by
  intro o p w hp hw ho hs
  have unborn : (p.threads.get p.freshThread).Bare := by
    rw [get_fresh p]
    exact ⟨rfl, rfl, rfl⟩
  have born : ((p.withThread contexts).threads.get p.freshThread).Bare := by
    rw [withThread_fresh]
    exact ⟨rfl, rfl, rfl⟩
  have calm := allCalm_withThread hp contexts
  have standing : Standing (p.withThread contexts) o :=
    hs.forget unborn (fun _ hu => withThread_of_ne hu contexts) born
  obtain ⟨ended, bare⟩ := (standing.enter calm (fresh_notMem_running p)).runToEnd hm hb
  have left := ended.leave hs.mem_running
  rw [final_spawn]
  refine left.forget bare (fun u hu => Registry.get_erase_of_ne _ hu) ?_
  rw [Registry.get_erase_self]
  exact ⟨rfl, rfl, rfl⟩

theorem spawn_keepsBooks (contexts : List (Option (Context × Nat))) {body : M (Option String)}
    (hb : OperationKeepsBooks body) : OperationKeepsBooks (spawn native contexts body) :=
  ⟨.spawn hm.callsBack hm.confined contexts hb.staysCalm hb.confined,
    (Confined.spawn_apart hm.confined contexts hb.confined).confined,
      spawn_clientKeepsBooks hm contexts hb⟩

theorem runThread_keepsBooks {body : M (Option String)} (hb : OperationKeepsBooks body) :
    OperationKeepsBooks (runThread native body) := by
  refine .bind (.unaffected .look) fun p => ?_
  split
  · exact .pure _
  refine .bind (.unaffected (.bind .look fun _ => .pure _)) fun t => ?_
  refine .bind (.unaffected (.contexts fun _ => [])) fun _ => ?_
  refine .bind (spawn_keepsBooks hm _ hb) fun _ => ?_
  refine .bind (.unaffected (.contexts fun _ => _)) fun _ => ?_
  exact .pure _

/-! ### Steps -/

omit hm in
theorem Settles.withScript (script : Script) {body : M Outcome} (hs : Settles body) :
    Settles (withScript script body) := by
  intro o p w hp hw ho hst
  have before := alike_scripts p (script :: p.scripts)
  obtain ⟨standing, empty⟩ := hs o _ w (before.allCalm hp)
    ((before.undisturbed _).atWork before.running hw) ho (hst.same before.sameBooks)
  exact ⟨standing.same (alike_scripts _ _).sameBooks, empty⟩

omit hm in
/-- A step shows its outcome in the books. -/
theorem runStep_keepsBooks (script : Script) (op : Op) (hb : OperationKeepsBooks (runOp native op))
    (hs : Settles (runOp native op)) : OperationKeepsBooks (runStep native (.mk script op)) where
  staysCalm := .bind (.keepsHandler (.note rfl)) fun _ =>
    .bind (.withScript script hb.staysCalm) fun _ =>
    .bind (.keepsHandler (.note rfl)) fun _ => .pure _
  confined := .bind (.note _) fun _ => .bind (.withScript script hb.confined) fun _ =>
    .bind (.note _) fun _ => .pure _
  clientKeepsBooks o p w hp hw ho hst := by
    obtain ⟨hp₁, hw₁⟩ := ClientStaysCalm.keepsHandler (.note (h := .stepStarted) rfl) p w hp hw
    have started : Standing (p.note .stepStarted) o :=
      hst.boundary hw ho rfl fun hu => by cases hu
    obtain ⟨standing, empty⟩ := hs.withScript script o _ w hp₁ hw₁ ho started
    obtain ⟨-, hw₂⟩ := ClientStaysCalm.withScript script hb.staysCalm _ w hp₁ hw₁
    have hcurrent := (Confined.withScript script hb.confined (p.note .stepStarted)).current
    exact standing.boundary (e := .stepEnded _) hw₂ (hcurrent.symm ▸ ho) rfl empty

omit hm in
/-- An operation that attempts no initialization. -/
theorem Settles.of_neverFailsInit {m : M Outcome} (hm : ClientKeepsBooks m)
    (h : ∀ p, (result m p).uninitialized = false) : Settles m := fun o p w hp hw ho hs =>
  ⟨hm o p w hp hw ho hs, fun hu => by rw [h p] at hu; cases hu⟩

/-- All operations of a client keep the books. -/
theorem OperationKeepsBooks.law : StepLaw native fun _ m => OperationKeepsBooks m where
  pure := OperationKeepsBooks.pure
  bind := OperationKeepsBooks.bind
  operation op small := by
    obtain ⟨staysCalm, confined⟩ := (ClientStaysCalm.law hm.callsBack hm.confined).operation op small
    refine ⟨staysCalm, confined, ?_⟩
    have quiet : ∀ {m : Backend → M Outcome}, Composed SameButPanics Quiet m →
      ClientKeepsBooks (m native) :=
      fun h => (BooksUnaffected.composed (fun _ _ => .quiet hm) h).clientKeepsBooks
    cases op with
    | pump | onThread => cases small
    | init => exact (runInit_settles hm).clientKeepsBooks
    | tryInit => exact (runTryInit_settles hm).clientKeepsBooks
    | library slot op => exact runLibrary_clientKeepsBooks hm slot op
    | window slot op => exact runWindow_clientKeepsBooks hm slot op
    | monitor slot op => exact runMonitor_clientKeepsBooks hm slot op
    | context slot op => exact quiet (runContext_quiet slot op)
    | getError => exact quiet (.answering lastError_quiet)
    | getVersion => exact quiet (.bind version_tells.telling fun _ => .pure _)
    | getVersionString => exact quiet (.bind versionString_tells.telling fun _ => .pure _)
    | getTime => exact quiet (.bind time_tells.telling fun _ => .pure _)
    | detachCurrent | current | swapInterval _ | extensionSupported _ | getProcAddress _ =>
      exact (runOp_asks _ rfl).elim fun _ asks => quiet asks.2.asking
    | panic _ => exact quiet (panic_aside _).aside
  pump slot kind reactions :=
    ⟨.runPump hm.callsBack slot kind reactions, (Confined.law hm.confined).pump slot kind reactions,
      runPump_clientKeepsBooks hm slot kind reactions⟩
  thread _ hb := runThread_keepsBooks hm hb
  step script op hop := by
    refine runStep_keepsBooks script op hop ?_
    cases op with
    | init => exact runInit_settles hm
    | tryInit => exact runTryInit_settles hm
    | _ => exact .of_neverFailsInit hop.clientKeepsBooks (runOp_neverFailsInit _ rfl)

end Threads

end Windowing
