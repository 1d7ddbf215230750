import Windowing.Proofs.HandleProvenance

/-!
Dealings with handles. A handle that is obtained goes into a slot, and one that is dropped is taken out
of its slot first, so the thread has all that its tables show at every moment in between. A window is
only dropped when none of its contexts is left.
-/

namespace Windowing

open Native Client

variable {α β ε : Type} {native : Backend} {loans : Loans} {p q : Process} {w : Watch} {T T' : Tables}
  {flying flying' : List Handle} {created : Option Pointer}

namespace MidOperation

theorem forget (h : MidOperation loans w T flying created p) : MidOperation loans w T flying none p :=
  { h with created := by simp }

/-! ### Dropping -/

theorem dropped {x : Handle} (h : MidOperation loans w T (x :: flying) created p)
    (hx : x.holds = true)
    (proper : (Happening.dropped x).Proper p.history p.current) :
    MidOperation loans w T flying created (p.note (.dropped x)) := by
  refine h.note rfl proper ?_ h.created
  rw [Happening.survivors, if_pos hx]
  have left := h.carried.erase x
  rwa [List.cons_append, List.erase_cons_head] at left

/-- A library that is on its way is not the one that a pump keeps. -/
theorem library_proper {x : Library} (h : MidOperation loans w T (.library x :: flying) created p) :
    (Happening.dropped (.library x)).Proper p.history p.current := by
  intro w' hw' handling
  cases h.sight.watch.symm.trans hw'
  have installed : p.locals.handler.isSome = true :=
    h.sight.fits.handler.2 (by rw [handling]; decide)
  obtain ⟨slot, -, found⟩ := h.pumping installed
  obtain ⟨other, found⟩ := Option.isSome_iff_exists.1 found
  have kept : Handle.library other ∈ T.handles :=
    (Tables.handles_library found).mem_iff.2 List.mem_cons_self
  have left := h.carried.erase (.library x)
  rw [List.cons_append, List.erase_cons_head] at left
  exact ⟨other, left.subset (List.mem_append_right _ kept)⟩

section Dropping

variable (hm : LibraryKeepsSound native)

include hm

/-- A checked call that names nothing. -/
theorem unnamed (h : MidOperation loans w T flying created p) {call : Call} (hc : call.pumps = false)
    (hcreates : call.creates = false) (windows : call.windows = []) (monitors : call.monitors = []) :
    MidOperation loans w T flying created (final (Windowing.checked (native call)).run p) := by
  refine h.checked hm hc hcreates (h.proper ?_)
  rw [windows, monitors]
  exact .nothing (by simp)

theorem terminate (h : MidOperation loans w T flying created p) :
    MidOperation loans w T flying created (final (terminate native) p) := by
  have ended : MidOperation loans w T flying created
      (final (Windowing.checked (native .terminate)).run p) := h.unnamed hm rfl rfl rfl rfl
  simp only [Windowing.terminate, final_bind]
  cases result (Windowing.checked (native .terminate)).run p with
  | ok reply => exact ended.shared ⟨rfl, rfl, rfl⟩
  | error e => exact (ended.log _).shared ⟨rfl, rfl, rfl⟩

theorem release (h : MidOperation loans w T flying created p) :
    MidOperation loans w T flying created (final (release native) p) := by
  have left : MidOperation loans w T flying created { p with holders := p.holders - 1 } :=
    h.shared ⟨rfl, rfl, rfl⟩
  rw [final_release]
  split
  · exact left.terminate hm
  · exact left

theorem destroy (h : MidOperation loans w T flying created p) (pointer : Pointer) :
    MidOperation loans w T flying created (final (Window.destroy native pointer) p) := by
  have proper : (Happening.called (.destroyWindow pointer)).Proper p.history p.current :=
    ⟨fun x hx _ => .inl (congrArg _ (List.mem_singleton.1 hx).symm), by simp [Call.monitors]⟩
  have destroyed : MidOperation loans w T flying created
      (final (Windowing.checked (native (.destroyWindow pointer))).run p) :=
    h.checked hm rfl rfl proper
  simp only [Window.destroy, final_bind]
  cases result (Windowing.checked (native (.destroyWindow pointer))).run p with
  | ok reply => exact destroyed
  | error e => exact destroyed.log _

theorem dropWindow {x : Window} (h : MidOperation loans w T (.window x :: flying) created p) :
    MidOperation loans w T flying created (final (x.drop native) p) := by
  have gone : MidOperation loans w T flying created (p.note (.dropped (.window x))) :=
    h.dropped rfl trivial
  by_cases busy : p.locals.dispatching = true
  · have fits := gone.sight.fits
    rw [final_drop_deferred busy]
    refine ((gone.modifyLocals (fun s => { s with deferred := s.deferred ++ [x.pointer] })
      ⟨fits.handler, fits.dispatching, fits.panic⟩ id).log _).release hm
  · rw [final_drop_destroyed (by simpa using busy)]
    exact (gone.destroy hm _).release hm

theorem dropMonitor {x : Monitor} (h : MidOperation loans w T (.monitor x :: flying) created p) :
    MidOperation loans w T flying created (final (x.drop native) p) := by
  have gone : MidOperation loans w T flying created (p.note (.dropped (.monitor x))) :=
    h.dropped rfl trivial
  exact gone.release hm

theorem dropLibrary {x : Library} (h : MidOperation loans w T (.library x :: flying) created p) :
    MidOperation loans w T flying created (final (x.drop native) p) := by
  have gone : MidOperation loans w T flying created (p.note (.dropped (.library x))) :=
    h.dropped rfl h.library_proper
  exact gone.release hm

end Dropping

/-! ### Emptying slots -/

theorem clearWindow (hm : LibraryKeepsSound native) (h : MidOperation loans w T [] created p)
    (slot : Nat)
    (unlent : ∀ c, some (c, slot) ∉ T.contexts) :
    MidOperation loans w { T with windows := T.windows.set slot none } [] created
      (final (clearWindow native slot) p) := by
  let taken : Tables → Tables := fun t => { t with windows := t.windows.set slot none }
  have lent : ∀ c origin, some (c, origin) ∈ (taken T).contexts →
      occupant (taken T).windows origin = some ⟨c.pointer, c.key⟩ ∨
        ∃ v, loans p.current v ∧
          occupant (p.threads.get v).tables.windows origin = some ⟨c.pointer, c.key⟩ := by
    intro c origin hc
    refine (h.lent hc).imp (fun found => ?_) id
    have hne : origin ≠ slot := fun same => unlent c (same ▸ hc)
    exact (occupant_set slot origin).trans ((if_neg hne).trans found)
  obtain rfl := h.tables
  cases hocc : occupant p.tables.windows slot with
  | none =>
    rw [final_clearWindow_none hocc]
    refine h.modifyTables taken ?_ h.pumping lent
    simp only [taken, set_none hocc]
    exact .refl _
  | some x =>
    rw [final_clearWindow_some hocc]
    have away : MidOperation loans w (taken p.tables) [.window x] created
        (final (Windowing.modifyTables taken) p) :=
      h.modifyTables taken (Tables.handles_window hocc).symm.subperm h.pumping lent
    exact away.dropWindow hm

theorem clearMonitor (hm : LibraryKeepsSound native) (h : MidOperation loans w T [] created p)
    (slot : Nat) :
    MidOperation loans w { T with monitors := T.monitors.set slot none } [] created
      (final (clearMonitor native slot) p) := by
  let taken : Tables → Tables := fun t => { t with monitors := t.monitors.set slot none }
  have lent : ∀ c origin, some (c, origin) ∈ T.contexts → _ := fun c origin hc => h.lent hc
  obtain rfl := h.tables
  cases hocc : occupant p.tables.monitors slot with
  | none =>
    rw [final_clearMonitor_none hocc]
    refine h.modifyTables taken ?_ h.pumping lent
    simp only [taken, set_none hocc]
    exact .refl _
  | some x =>
    rw [final_clearMonitor_some hocc]
    have away : MidOperation loans w (taken p.tables) [.monitor x] created
        (final (Windowing.modifyTables taken) p) :=
      h.modifyTables taken (Tables.handles_monitor hocc).symm.subperm h.pumping lent
    exact away.dropMonitor hm

/-- A library may go while no pump needs it. -/
theorem clearLibrary (hm : LibraryKeepsSound native) (h : MidOperation loans w T [] created p)
    (slot : Nat)
    (free : p.locals.handler.isSome = true → T.pumping ≠ some slot) :
    MidOperation loans w { T with libraries := T.libraries.set slot none } [] created
      (final (clearLibrary native slot) p) := by
  let taken : Tables → Tables := fun t => { t with libraries := t.libraries.set slot none }
  have lent : ∀ c origin, some (c, origin) ∈ T.contexts → _ := fun c origin hc => h.lent hc
  have pumping : p.locals.handler.isSome = true → ∃ other, (taken T).pumping = some other ∧
      (occupant (taken T).libraries other).isSome = true := by
    intro installed
    obtain ⟨other, hother, found⟩ := h.pumping installed
    have hne : other ≠ slot := fun same => free installed (same ▸ hother)
    exact ⟨other, hother, by rwa [occupant_set, if_neg hne]⟩
  obtain rfl := h.tables
  cases hocc : occupant p.tables.libraries slot with
  | none =>
    rw [final_clearLibrary_none hocc]
    refine h.modifyTables taken ?_ pumping lent
    simp only [taken, set_none hocc]
    exact .refl _
  | some x =>
    rw [final_clearLibrary_some hocc]
    have away : MidOperation loans w (taken p.tables) [.library x] created
        (final (Windowing.modifyTables taken) p) :=
      h.modifyTables taken (Tables.handles_library hocc).symm.subperm pumping lent
    exact away.dropLibrary hm

/-! ### Obtaining -/

theorem obtained {x : Handle} (h : MidOperation loans w T flying created p) (hx : x.holds = true)
    (proper : (Happening.obtained x).Proper p.history p.current) :
    MidOperation loans w T (x :: flying) none (p.note (.obtained x)) := by
  refine h.note rfl proper ?_ (by simp)
  rw [Happening.survivors, if_pos hx]
  exact (List.subperm_cons x).2 h.carried

/-- A handle that is on its way gets a slot. -/
theorem place {x : Handle} (h : MidOperation loans w T (x :: flying) created p) (f : Tables → Tables)
    (perm : (f T).handles.Perm (x :: T.handles))
    (pumping : ∀ slot, T.pumping = some slot → (occupant T.libraries slot).isSome = true →
      (f T).pumping = some slot ∧ (occupant (f T).libraries slot).isSome = true)
    (windows : ∀ slot y, occupant T.windows slot = some y → occupant (f T).windows slot = some y)
    (contexts : (f T).contexts = T.contexts) :
    MidOperation loans w (f T) flying created (final (Windowing.modifyTables f) p) := by
  refine h.modifyTables f ?_ (fun installed => ?_) fun c origin hc => ?_
  · exact ((perm.append_left flying).trans List.perm_middle).subperm
  · obtain ⟨slot, hslot, found⟩ := h.pumping installed
    exact ⟨slot, pumping slot hslot found⟩
  · exact (h.lent (contexts ▸ hc)).imp (windows origin _) id

theorem addWindow (x : Window) : Triple (MidOperation loans w T (.window x :: flying) created)
    (addWindow x)
    fun _ => MidOperation loans w { T with windows := T.windows ++ [some x] } flying created := by
  intro p h
  refine h.place (fun t => { t with windows := t.windows ++ [some x] })
    (Tables.handles_add_window x) (fun _ hslot found => ⟨hslot, found⟩) (fun slot y found => ?_) rfl
  exact (occupant_append (by rw [found]; rfl) _).trans found

theorem addMonitor (x : Monitor) :
    Triple (MidOperation loans w T (.monitor x :: flying) created) (addMonitor x)
      fun _ => MidOperation loans w { T with monitors := T.monitors ++ [some x] } flying created :=
  fun _ h => h.place (fun t => { t with monitors := t.monitors ++ [some x] })
    (Tables.handles_add_monitor x) (fun _ hslot found => ⟨hslot, found⟩) (fun _ _ found => found) rfl

theorem addLibrary (x : Library) :
    Triple (MidOperation loans w T (.library x :: flying) created) (addLibrary x)
      fun _ => MidOperation loans w { T with libraries := T.libraries ++ [some x] } flying created :=
  fun _ h => h.place (fun t => { t with libraries := t.libraries ++ [some x] })
    (Tables.handles_add_library x)
    (fun _ hslot found => ⟨hslot, (occupant_append found _).symm ▸ found⟩)
      (fun _ _ found => found) rfl

/-! ### Windows -/

theorem checkedCreate (hm : LibraryKeepsSound native) (width height : Int32) (title : Text.Bytes)
    {monitor share : Pointer} (names : Names T flying none [share] [monitor]) :
    Tries (MidOperation loans w T flying none)
      (Windowing.checked (native (.createWindow width height title monitor share)))
      (fun reply => MidOperation loans w T flying
        (if reply.pointer = null then none else some reply.pointer))
      (MidOperation loans w T flying none) := by
  intro p h
  have start := h.setPending none
  have proper : (Happening.called (.createWindow width height title monitor share)).Proper
      (final takeError p).history (final takeError p).current := start.proper names
  have made := (start.create hm rfl rfl proper).setPending none
  rw [result_checked, final_checked]
  cases (final (native (.createWindow width height title monitor share))
    (final takeError p)).locals.pending with
  | some e => exact (made.setPending _).forget
  | none => exact made.setPending _

theorem createNative (hm : LibraryKeepsSound native) (width height : Int32) (title : Text.Bytes)
    {monitor : Option Monitor} {share : Option Window}
    (names : Names T flying none [(share.map (·.pointer)).getD null]
      [(monitor.map (·.pointer)).getD null]) :
    Tries (MidOperation loans w T flying none)
      (Window.createNative native width height title monitor share)
      (fun x => MidOperation loans w T flying (some x)) (MidOperation loans w T flying none) := by
  refine .bind (checkedCreate hm width height title names) fun reply => ?_
  by_cases hnull : reply.pointer = null
  · rw [if_pos hnull, if_pos hnull]
    exact fun _ h => h
  · rw [if_neg hnull, if_neg hnull]
    exact .pure fun _ h => h

theorem adopt (pointer : Pointer) : Triple (MidOperation loans w T flying created)
    (Window.adopt pointer)
    fun x => MidOperation loans w T (.window x :: flying) none := by
  intro p h
  have counted : MidOperation loans w T flying created
      { p with nextKey := p.nextKey + 1, holders := p.holders + 1 } := h.shared ⟨rfl, rfl, rfl⟩
  exact counted.obtained (x := .window ⟨pointer, p.nextKey⟩) rfl trivial

theorem tries (hm : LibraryKeepsSound native) {windows monitors : List Pointer}
    (names : Names T flying created windows monitors) {x : Backend → ExceptT ε M α}
    (h : Attempts SameButPanics (Asks windows monitors) x) :
    Tries (MidOperation loans w T flying created) (x native)
      (fun _ => MidOperation loans w T flying created) (MidOperation loans w T flying created) := by
  intro p hp
  have after := Asks.midOperation hm names h p hp
  cases result (x native).run p <;> exact after

theorem createWindow (hm : LibraryKeepsSound native) (hints : List WindowHint) (width height : Int32)
    (title : String) {monitor : Option Monitor} {share : Option Window}
    (names : Names T flying none [(share.map (·.pointer)).getD null]
      [(monitor.map (·.pointer)).getD null]) (owned : flying ++ T.handles ≠ []) :
    Tries (MidOperation loans w T flying none)
      (Window.create native hints width height title monitor share)
      (fun x => MidOperation loans w T (.window x :: flying) none)
        (MidOperation loans w T flying none) := by
  have nothing : Names T flying none [] [] := .nothing (by simp)
  refine .bind (tries hm nothing (.adapt _ (.liftExcept _))) fun _ => ?_
  refine .bind (tries hm nothing (.adapt _ (.liftExcept _))) fun title => ?_
  refine .bind (tries hm nothing (.adapt _ (.checked ⟨rfl, rfl, rfl⟩))) fun _ => ?_
  refine .bind (tries hm nothing (Window.applyHints_asks _ _)) fun _ => ?_
  refine .bind (.adapt _ (createNative hm width height title names)) fun pointer => ?_
  have known : Names T flying (some pointer) [pointer] [] :=
    ⟨fun x hx _ => .inl ⟨congrArg some (List.mem_singleton.1 hx).symm, owned⟩, by simp⟩
  exact .bind (.lift (Tells.midOperation hm known (Window.listen_tells pointer))) fun _ =>
    .lift (adopt pointer)

/-! ### Monitors -/

theorem adoptMonitor (pointer : Pointer) :
    Triple (MidOperation loans w T flying created) (Monitor.adopt pointer)
      fun m => MidOperation loans w T (.monitor m :: flying) none := by
  intro p h
  have counted : MidOperation loans w T flying created { p with holders := p.holders + 1 } :=
    h.shared ⟨rfl, rfl, rfl⟩
  exact counted.obtained (x := .monitor ⟨pointer⟩) rfl trivial

theorem perm (h : MidOperation loans w T flying created p) (moved : flying'.Perm flying) :
    MidOperation loans w T flying' created p :=
  { h with carried := (moved.append_right _).subperm.trans h.carried }

/-- All monitors of a list are on their way before the first has a slot. -/
theorem adoptAll {E : Process → Prop} (pointers : List Pointer) :
    Tries (MidOperation loans w T flying none)
      (pointers.mapM fun pointer => (monadLift (Monitor.adopt pointer) : Attempt Monitor))
      (fun ms => MidOperation loans w T (ms.map .monitor ++ flying) none) E := by
  induction pointers generalizing flying with
  | nil => exact .pure fun _ h => h
  | cons pointer rest ih =>
    rw [List.mapM_cons]
    refine .bind (.lift (adoptMonitor pointer)) fun m => .bind ih fun ms => ?_
    exact .pure fun _ h => h.perm List.perm_middle.symm

theorem addAll {E : Process → Prop} (ms : List Monitor) :
    Tries (fun p => ∃ T, MidOperation loans w T (ms.map .monitor ++ flying) none p)
      (ms.mapM fun m => (monadLift (Client.addMonitor m) : Attempt Nat))
      (fun _ p => ∃ T, MidOperation loans w T flying none p) E := by
  induction ms with
  | nil => exact .pure fun _ h => h
  | cons m rest ih =>
    rw [List.mapM_cons]
    refine .bind (.lift ?_) fun _ => .bind ih fun _ => .pure fun _ h => h
    rintro p ⟨T, h⟩
    exact ⟨_, addMonitor m p h⟩

theorem ofPointer (pointer : Pointer) :
    Triple (MidOperation loans w T flying none) (Monitor.ofPointer? pointer)
      fun m => MidOperation loans w T (m.toList.map .monitor ++ flying) none := by
  by_cases hnull : pointer = null
  · have missing : Monitor.ofPointer? pointer = pure none := if_pos hnull
    rw [missing]
    exact .pure fun _ h => h
  · have found : Monitor.ofPointer? pointer = do return some (← Monitor.adopt pointer) :=
      if_neg hnull
    rw [found]
    exact .bind (adoptMonitor pointer) fun m => .pure fun _ h => h

theorem addOptional (m : Option Monitor) :
    Triple (MidOperation loans w T (m.toList.map .monitor ++ flying) none) (addOptional m)
      fun _ p => ∃ T, MidOperation loans w T flying none p := by
  cases m with
  | none => exact .pure fun _ h => ⟨T, h⟩
  | some m => exact .bind (addMonitor m) fun _ => .pure fun _ h => ⟨_, h⟩

end MidOperation

end Windowing
