import Windowing.Proofs.ErrorAttribution
import Windowing.Proofs.HandleTransfers

/-!
Operations name what is known. Each one looks up the handles that it names in the thread's tables, or
obtains them itself, and it leaves in the tables what the thread has. A window's contexts can only be
lent while it is in its slot, and it cannot be dropped before they are back.
-/

namespace Windowing

open Native Client

variable {α β : Type} {native : Backend} {loans : Loans} {p q : Process} {w : Watch} {T : Tables}
  {flying : List Handle} {created : Option Pointer}

/-- A computation of a client that keeps what is sound. -/
def ClientKeepsSound (m : M α) : Prop :=
  ∀ loans p w, AllCalm p → AtWork p w → Waiting loans p → Sound loans p → Sound loans (final m p)

/-- An operation of a client. -/
structure OperationKeepsSound (m : M α) : Prop where
  staysCalm : ClientStaysCalm m
  confined : Confined m
  clientKeepsSound : ClientKeepsSound m

/-- The current thread is in the middle of an operation with nothing on its way. -/
def MidOperationSettled (loans : Loans) (w : Watch) (p : Process) : Prop :=
  ∃ T, MidOperation loans w T [] none p

theorem MidOperation.of_sound (calm : AllCalm p) (sight : Sight p w) (clear : w.Clear)
    (stage : w.stage ≠ .listening) (waiting : Waiting loans p) (sound : Sound loans p) :
    MidOperation loans w p.tables [] none p :=
  ⟨calm, sight, clear, stage, waiting, sound, rfl, (sound.backed p.current).held, by simp⟩

theorem MidOperation.of_work (calm : AllCalm p) (work : AtWork p w) (waiting : Waiting loans p)
    (sound : Sound loans p) : MidOperation loans w p.tables [] none p :=
  .of_sound calm work.sight work.clear work.stage_ne waiting sound

theorem MidOperation.midOperationSettled (h : MidOperation loans w T [] none p) :
    MidOperationSettled loans w p := ⟨T, h⟩

theorem ClientKeepsSound.of {m : M α}
    (h : ∀ loans w T, Triple (MidOperation loans w T [] none) m fun _ =>
    MidOperationSettled loans w) : ClientKeepsSound m := by
  intro loans p w hp hw waiting sound
  obtain ⟨T, after⟩ :=
    h loans w p.tables p (.of_work hp hw waiting sound)
  exact after.sound

theorem ClientKeepsSound.midOperation {m : M α}
    (h : ∀ loans w T, Triple (MidOperation loans w T [] none) m fun _ =>
    MidOperation loans w T [] none) : ClientKeepsSound m :=
  .of fun loans w T => (h loans w T).mono fun _ _ => MidOperation.midOperationSettled

namespace OperationKeepsSound

theorem pure (a : α) : OperationKeepsSound (Pure.pure a : M α) :=
  ⟨.pure a, .pure a, fun _ _ _ _ _ _ h => h⟩

theorem bind {m : M α} {f : α → M β} (hm : OperationKeepsSound m)
    (hf : ∀ a, OperationKeepsSound (f a)) :
    OperationKeepsSound (m >>= f) where
  staysCalm := .bind hm.staysCalm fun a => (hf a).staysCalm
  confined := .bind hm.confined fun a => (hf a).confined
  clientKeepsSound loans p w hp hw waiting sound := by
    obtain ⟨hq, hw'⟩ := hm.staysCalm p w hp hw
    exact (hf _).clientKeepsSound loans _ w hq hw' (waiting.same (hm.confined p).running)
      (hm.clientKeepsSound loans p w hp hw waiting sound)

theorem note {e : Happening} (still : e.still = true) (holding : e.holding = false)
    (proper : ∀ history t, e.Proper history t) : OperationKeepsSound (note e) :=
  ⟨.keepsHandler (.note still), .note e, fun _ _ _ _ _ _ h => h.noteOf holding (proper _ _)⟩

end OperationKeepsSound

/-! ### Contexts -/

namespace MidOperation

/-- Other contexts in the table, of which each new one is of a window of the thread. -/
theorem contexts (h : MidOperation loans w T flying created p)
    (f : List (Option (Context × Nat)) → List (Option (Context × Nat)))
    (known : ∀ c origin, some (c, origin) ∈ f T.contexts → some (c, origin) ∈ T.contexts ∨
      occupant T.windows origin = some ⟨c.pointer, c.key⟩) :
    MidOperation loans w { T with contexts := f T.contexts } flying created
      (final (Windowing.modifyTables fun t => { t with contexts := f t.contexts }) p) :=
  h.modifyTables (fun t => { t with contexts := f t.contexts }) (.refl _) h.pumping
    fun c origin hc => (known c origin hc).elim h.lent .inl

/-- An entry about a context. -/
theorem obtainContext (h : MidOperation loans w T flying created p) (c : Context) :
    MidOperation loans w T flying created (p.note (.obtained (.context c))) :=
  h.note (e := .obtained (.context c)) rfl trivial h.carried h.created

theorem dropContext (h : MidOperation loans w T flying created p) (c : Context) :
    MidOperation loans w T flying created (final c.drop p) :=
  (h.note (e := .dropped (.context c)) rfl trivial h.carried h.created).shared ⟨rfl, rfl, rfl⟩

theorem lend (x : Window) : Tries (MidOperation loans w T flying created) (Context.lend x)
    (fun c p => c = ⟨x.pointer, x.key⟩ ∧ MidOperation loans w T flying created p)
    (MidOperation loans w T flying created) := by
  have looks : Triple (MidOperation loans w T flying created) (Context.isLent x.key) fun _ =>
      MidOperation loans w T flying created := fun _ h => h
  refine .bind (.lift looks) fun lent => ?_
  cases lent with
  | true => exact fun _ h => h
  | false =>
    intro p h
    have shared : MidOperation loans w T flying created { p with lent := x.key :: p.lent } :=
      h.shared ⟨rfl, rfl, rfl⟩
    exact ⟨rfl, shared.obtainContext ⟨x.pointer, x.key⟩⟩

/-- A context is lent from a window in its slot. -/
theorem lendContext {x : Window} {slot : Nat} (found : occupant T.windows slot = some x) :
    Triple (MidOperation loans w T [] none) (operateWindow native slot x .lendContext) fun _ =>
      MidOperationSettled loans w := by
  refine .answering (.bind ((lend x).weaken fun _ => midOperationSettled) fun c => .lift ?_)
  rintro p ⟨rfl, h⟩
  refine ⟨_, h.contexts (· ++ [some (⟨x.pointer, x.key⟩, slot)]) fun d origin hd => ?_⟩
  rcases List.mem_append.1 hd with old | new
  · exact .inl old
  · obtain ⟨rfl, rfl⟩ := Prod.mk.inj (Option.some.inj (List.mem_singleton.1 new))
    exact .inr found

theorem takeContext (h : MidOperation loans w T flying created p) (slot : Nat) :
    MidOperation loans w { T with contexts := T.contexts.set slot none } flying created
      (final (takeContext slot) p) :=
  h.contexts (·.set slot none) fun c origin hc =>
    .inl ((List.mem_or_eq_of_mem_set hc).resolve_right (by simp))

end MidOperation

/-! ### Operations -/

/-- A library's window is created with a monitor and a window from the tables. -/
theorem Names.request (r : WindowRequest) (T : Tables) : Names T [] none
    [((r.share.bind (occupant T.windows)).map (·.pointer)).getD null]
    [((r.monitor.bind (occupant T.monitors)).map (·.pointer)).getD null] := by
  refine ⟨fun x hx hne => .inr (.inl ?_), fun x hx hne => ?_⟩
  · cases hs : r.share.bind (occupant T.windows) with
    | none => simp [hs, hne] at hx
    | some y =>
      obtain ⟨slot, -, found⟩ := Option.bind_eq_some_iff.1 hs
      have shown := (Tables.handles_window found).mem_iff.2 List.mem_cons_self
      have same : x = y.pointer := by simpa [hs] using hx
      exact ⟨y, shown, same.symm⟩
  · cases hs : r.monitor.bind (occupant T.monitors) with
    | none => simp [hs, hne] at hx
    | some y =>
      obtain ⟨slot, -, found⟩ := Option.bind_eq_some_iff.1 hs
      have shown := (Tables.handles_monitor found).mem_iff.2 List.mem_cons_self
      have same : x = y.pointer := by simpa [hs] using hx
      exact same ▸ shown

theorem Names.window {slot : Nat} {x : Window} (found : occupant T.windows slot = some x) :
    Names T [] none [x.pointer] [] := by
  have shown := (Tables.handles_window found).mem_iff.2 List.mem_cons_self
  exact ⟨fun y hy _ => .inr (.inl ⟨x, shown, (List.mem_singleton.1 hy).symm⟩), by simp⟩

theorem Names.monitor {slot : Nat} {m : Monitor} (found : occupant T.monitors slot = some m) :
    Names T [] none [] [m.pointer] := by
  have shown := (Tables.handles_monitor found).mem_iff.2 List.mem_cons_self
  refine ⟨by simp, fun y hy _ => ?_⟩
  rw [List.mem_singleton.1 hy]
  exact shown

theorem Names.context {slot origin : Nat} {c : Context}
    (found : occupant T.contexts slot = some (c, origin)) : Names T [] none [c.pointer] [] := by
  have mem : some (c, origin) ∈ T.contexts := List.mem_of_getElem? (Option.join_eq_some_iff.1 found)
  exact ⟨fun y hy _ => .inr (.inr ⟨c, origin, mem, (List.mem_singleton.1 hy).symm⟩), by simp⟩

/-- A window is dropped while none of its contexts is lent. -/
theorem final_dropWindow (slot : Nat) (p : Process) :
    final (runWindow native slot .drop) p = p ∨ (∀ c, some (c, slot) ∉ p.tables.contexts) ∧
      final (runWindow native slot .drop) p = final (clearWindow native slot) p := by
  by_cases lends : lendsFrom p.tables slot = true
  · exact .inl (by simp [runWindow, lends])
  · cases hocc : occupant p.tables.windows slot with
    | none => exact .inl (by simp [runWindow, hocc, lends])
    | some x =>
      refine .inr ⟨fun c hc => lends (List.any_eq_true.2 ⟨_, hc, by simp⟩), ?_⟩
      simp [runWindow, hocc, lends, operateWindow, dropWindow]

section Operations

variable (hm : LibraryKeepsSound native)

include hm

theorem MidOperation.requestWindow (h : MidOperation loans w T [] none p) (r : WindowRequest)
    (owned : T.handles ≠ []) :
    MidOperationSettled loans w (final (Client.createWindow native r) p) := by
  obtain rfl := h.tables
  unfold Client.createWindow
  cases r.hints.mapM id with
  | none => exact h.midOperationSettled
  | some hints =>
    have made := MidOperation.createWindow hm hints r.width r.height r.title
      (.request r p.tables) owned p h
    simp only [final_bind, result_getTables, final_getTables]
    cases hr : result (Window.create native hints r.width r.height r.title
        (r.monitor.bind (occupant p.tables.monitors))
        (r.share.bind (occupant p.tables.windows))).run p with
    | error e =>
      rw [hr] at made
      exact made.midOperationSettled
    | ok x =>
      rw [hr] at made
      exact (MidOperation.addWindow x _ made).midOperationSettled

theorem runLibrary_clientKeepsSound (slot : Nat) (op : LibraryOp) :
    ClientKeepsSound (runLibrary native slot op) := by
  intro loans p w hp hw waiting sound
  have start := MidOperation.of_work hp hw waiting sound
  cases hocc : occupant p.tables.libraries slot with
  | none =>
    have refused : final (runLibrary native slot op) p = p := by simp [runLibrary, hocc]
    rw [refused]
    exact sound
  | some library =>
    have ran : final (runLibrary native slot op) p = final (operateLibrary native slot op) p := by
      simp [runLibrary, hocc]
    rw [ran]
    have nothing : Names p.tables [] none [] [] := .nothing (by simp)
    have asked : ∀ {call : Call}, call.About [] [] → Tries (MidOperation loans w p.tables [] none)
        (checked (native call)) (fun _ => MidOperation loans w p.tables [] none)
          (MidOperationSettled loans w) :=
      fun about => (MidOperation.tries hm nothing (.checked about)).weaken fun _ =>
        MidOperation.midOperationSettled
    cases op with
    | drop =>
      by_cases inUse : p.tables.pumping = some slot
      · have refused : final (dropLibrary native slot) p = p := by simp [dropLibrary, inUse]
        exact refused.symm ▸ sound
      · have cleared : final (dropLibrary native slot) p = final (clearLibrary native slot) p := by
          simp [dropLibrary, inUse]
        exact cleared ▸ (start.clearLibrary hm slot fun _ => inUse).sound
    | getMonitors =>
      have tried : Tries (MidOperation loans w p.tables [] none)
          (do (← Monitor.all native).mapM fun m => (monadLift (addMonitor m) : Attempt Nat))
          (fun _ => MidOperationSettled loans w) (MidOperationSettled loans w) :=
        .bind (.bind (asked ⟨rfl, rfl, rfl⟩) fun _ => MidOperation.adoptAll _) fun ms p h =>
          MidOperation.addAll ms p ⟨_, h⟩
      obtain ⟨T, after⟩ := Triple.answering tried p start
      exact after.sound
    | getPrimaryMonitor =>
      have tried : Tries (MidOperation loans w p.tables [] none)
          (do (monadLift (addOptional (← Monitor.primary native)) : Attempt (Option Nat)))
          (fun _ => MidOperationSettled loans w) (MidOperationSettled loans w) :=
        .bind (.bind (asked ⟨rfl, rfl, rfl⟩) fun _ => .lift (MidOperation.ofPointer _)) fun m =>
          .lift (MidOperation.addOptional m)
      obtain ⟨T, after⟩ := Triple.answering tried p start
      exact after.sound
    | createWindow r =>
      have shown := (Tables.handles_library hocc).mem_iff.2 List.mem_cons_self
      obtain ⟨T, after⟩ := start.requestWindow hm r (List.ne_nil_of_mem shown)
      exact after.sound
    | _ => exact (Asks.midOperation hm nothing (operateLibrary_asks slot _ rfl) p start).sound

theorem runWindow_clientKeepsSound (slot : Nat) (op : WindowOp) :
    ClientKeepsSound (runWindow native slot op) := by
  intro loans p w hp hw waiting sound
  have start := MidOperation.of_work hp hw waiting sound
  by_cases drops : op = .drop
  · subst drops
    rcases final_dropWindow slot p with refused | ⟨unlent, cleared⟩
    · rw [refused]
      exact sound
    · rw [cleared]
      exact (start.clearWindow hm slot unlent).sound
  · rcases final_runWindow slot op p with refused | ⟨x, found, ran⟩
    · rw [refused]
      exact sound
    · rw [ran]
      have names : Names p.tables [] none [x.pointer] [] := .window found
      cases op with
      | drop => exact absurd rfl drops
      | lendContext =>
        obtain ⟨T, after⟩ := MidOperation.lendContext found p start
        exact after.sound
      | getMonitor =>
        have asked : Tries (MidOperation loans w p.tables [] none)
            (checked (native (.getWindowMonitor x.pointer)))
            (fun _ => MidOperation loans w p.tables [] none) (MidOperationSettled loans w) :=
          (MidOperation.tries hm names (.checked ⟨rfl, rfl, rfl⟩)).weaken fun _ =>
            MidOperation.midOperationSettled
        have tried : Tries (MidOperation loans w p.tables [] none)
            (do (monadLift (addOptional (← x.monitor native)) : Attempt (Option Nat)))
            (fun _ => MidOperationSettled loans w) (MidOperationSettled loans w) :=
          .bind (.bind asked fun _ => .lift (MidOperation.ofPointer _)) fun m =>
            .lift (MidOperation.addOptional m)
        obtain ⟨T, after⟩ := Triple.answering tried p start
        exact after.sound
      | userPointer => exact (Tells.midOperation hm names (userPointer_tells slot x) p start).sound
      | setUserPointer pointer =>
        exact (Tells.midOperation hm names (setUserPointer_tells slot x pointer) p start).sound
      | _ => exact (Asks.midOperation hm names (operateWindow_asks slot x _ rfl) p start).sound

theorem runMonitor_clientKeepsSound (slot : Nat) (op : MonitorOp) :
    ClientKeepsSound (runMonitor native slot op) := by
  intro loans p w hp hw waiting sound
  have start := MidOperation.of_work hp hw waiting sound
  cases hocc : occupant p.tables.monitors slot with
  | none =>
    have refused : final (runMonitor native slot op) p = p := by simp [runMonitor, hocc]
    rw [refused]
    exact sound
  | some m =>
    have ran : final (runMonitor native slot op) p =
        final (operateMonitor native slot m op) p := by simp [runMonitor, hocc]
    rw [ran]
    cases op with
    | drop => exact (start.clearMonitor hm slot).sound
    | _ =>
      exact (Asks.midOperation hm (.monitor hocc) (operateMonitor_asks slot m _ rfl) p start).sound

theorem runContext_clientKeepsSound (slot : Nat) (op : ContextOp) :
    ClientKeepsSound (runContext native slot op) := by
  intro loans p w hp hw waiting sound
  have start := MidOperation.of_work hp hw waiting sound
  cases hocc : occupant p.tables.contexts slot with
  | none =>
    have refused : final (runContext native slot op) p = p := by simp [runContext, hocc]
    rw [refused]
    exact sound
  | some c =>
    obtain ⟨c, origin⟩ := c
    have ran : final (runContext native slot op) p =
        final (operateContext native slot c op) p := by simp [runContext, hocc]
    rw [ran]
    cases op with
    | drop => exact ((start.takeContext slot).dropContext c).sound
    | _ =>
      exact (Asks.midOperation hm (.context hocc) (operateContext_asks slot c _ rfl) p start).sound

/-! ### Initializations -/

/-- What an attempt to initialize leaves: the library on its way, or nothing. -/
def Commenced {ε : Type} (loans : Loans) (w : Watch) (T : Tables) (outcome : Except ε Library)
    (p : Process) : Prop :=
  match outcome with
  | .ok library => MidOperation loans w T [.library library] none p
  | .error _ => MidOperation loans w T [] none p

theorem tell_midOperation {call : Call} (about : call.About [] []) :
    Triple (MidOperation loans w T flying none) (native call) fun _ =>
      MidOperation loans w T flying none :=
  Tells.midOperation hm (.nothing (by simp)) (.act (.call call about))

omit hm in
theorem takeError_midOperation : Triple (MidOperation loans w T flying created) takeError fun _ =>
    MidOperation loans w T flying created := fun _ h => h.setPending none

/-- The library comes right after the native initialization. -/
theorem MidOperation.init (h : MidOperation loans w T [] none p) :
    MidOperation loans w T [] none (final (native .init) p) ∧
      MidOperation loans w T [.library {}] none
      (final (do modify fun p => { p with holders := 1 }; Windowing.note (.obtained (.library {})))
        (final (native .init) p)) := by
  have nothing : Names T [] none Call.init.windows Call.init.monitors :=
    .nothing (by simp [Call.windows])
  have called : MidOperation loans w T [] none (final (native .init) p) :=
    h.call hm rfl rfl (h.proper nothing)
  have counted : MidOperation loans w T [] none { final (native .init) p with holders := 1 } :=
    called.shared ⟨rfl, rfl, rfl⟩
  obtain ⟨q, -, returned⟩ := hm.returns .init p
  have last : (final (native .init) p).entriesOf (final (native .init) p).current =
      .returned .init (result (native .init) p) :: q.entriesOf q.current := by
    rw [returned]
    exact entriesOf_note_self q _
  exact ⟨called, counted.obtained (x := .library {}) rfl ⟨_, _, last⟩⟩

/-- After an error that was reported meanwhile the library is given up. -/
theorem obtained_commenced : Triple (MidOperation loans w T [.library {}] none) (do
      let _ ← native .setMonitorCallback
      match ← takeError with
      | some e =>
        Library.drop native {}
        return .error ⟨e⟩
      | none =>
        log (.initialized (← Library.versionString native))
        return .ok {}) (Commenced (ε := InitError) loans w T) := by
  refine .bind (tell_midOperation hm ⟨rfl, rfl, rfl⟩) fun _ => ?_
  refine .bind takeError_midOperation fun e => ?_
  cases e with
  | some e => exact fun p h => h.dropLibrary hm
  | none =>
    have version : Triple (MidOperation loans w T [.library {}] none) (Library.versionString native)
        fun _ => MidOperation loans w T [.library {}] none :=
      Tells.midOperation hm (.nothing (by simp)) versionString_tells
    exact .bind version fun _ p h => h.log _

theorem start_commenced : Triple (MidOperation loans w T [] none) (Library.start native)
    (Commenced loans w T) := by
  refine .bind (tell_midOperation hm ⟨rfl, rfl, rfl⟩) fun _ => ?_
  refine .bind takeError_midOperation fun _ p h => ?_
  obtain ⟨called, obtained⟩ := h.init hm
  rw [result_bind, final_bind]
  by_cases success : Flag.isSet (result (native .init) p).value = true
  · rw [if_pos success]
    exact obtained_commenced hm _ obtained
  · rw [if_neg success]
    exact (takeError_midOperation _ called).shared ⟨rfl, rfl, rfl⟩

theorem init_commenced : Triple (MidOperation loans w T [] none) (Library.init native)
    (Commenced loans w T) := fun p h => by
  have locked : MidOperation loans w T [] none p.withLock := h.shared (.withLock p)
  rw [Library.result_init, Library.final_init]
  exact start_commenced hm _ locked

theorem runInit_clientKeepsSound : ClientKeepsSound (runInit native) := .of fun loans w T p h => by
  cases locked : p.locked with
  | true =>
    rw [final, runInit_locked native locked]
    exact h.midOperationSettled
  | false =>
    have begun := init_commenced hm p h
    rw [final, runInit_unlocked native locked, ← final, final_bind]
    generalize result (Library.init native) p = outcome at begun ⊢
    cases outcome with
    | error e => exact MidOperation.midOperationSettled begun
    | ok library => exact (MidOperation.addLibrary library _ begun).midOperationSettled

theorem runTryInit_clientKeepsSound : ClientKeepsSound (runTryInit native) :=
    .of fun loans w T p h => by
  cases locked : p.locked with
  | true =>
    rw [final, runTryInit_locked native locked]
    exact h.midOperationSettled
  | false =>
    have begun := init_commenced hm p h
    rw [final, runTryInit_unlocked native locked, ← final, final_bind]
    generalize result (Library.init native) p = outcome at begun ⊢
    cases outcome with
    | error e => exact MidOperation.midOperationSettled begun
    | ok library => exact (MidOperation.addLibrary library _ begun).midOperationSettled

/-! ### All small operations -/

theorem runOp_clientKeepsSound (op : Op) (small : op.small = true) :
    ClientKeepsSound (runOp native op) := by
  have nothing : ∀ {T : Tables}, Names T [] none [] [] := .nothing (by simp)
  cases op with
  | pump | onThread => cases small
  | init => exact runInit_clientKeepsSound hm
  | tryInit => exact runTryInit_clientKeepsSound hm
  | getError =>
    refine .midOperation fun loans w T => .answering fun p h => ?_
    have taken := takeError_midOperation p h
    rw [final_lastError]
    cases result lastError.run p <;> exact taken
  | getVersion =>
    exact .midOperation fun _ _ _ => Tells.midOperation hm nothing
      (.bind version_tells fun _ => .pure _)
  | getVersionString =>
    exact .midOperation fun _ _ _ => Tells.midOperation hm nothing
      (.bind versionString_tells fun _ => .pure _)
  | getTime =>
    exact .midOperation fun _ _ _ => Tells.midOperation hm nothing (.bind time_tells fun _ => .pure _)
  | detachCurrent | current | swapInterval _ | extensionSupported _ | getProcAddress _ =>
    refine .midOperation fun _ _ _ => ?_
    exact (runOp_asks _ rfl).elim fun _ asks => Asks.midOperation hm (.nothing asks.1) asks.2
  | panic _ =>
    intro loans p w _ _ _ sound
    have began := beginPanic_alike p
    exact sound.same began.threads began.history
  | library slot op => exact runLibrary_clientKeepsSound hm slot op
  | window slot op => exact runWindow_clientKeepsSound hm slot op
  | monitor slot op => exact runMonitor_clientKeepsSound hm slot op
  | context slot op => exact runContext_clientKeepsSound hm slot op

end Operations

end Windowing
