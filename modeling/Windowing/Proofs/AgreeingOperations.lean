import Windowing.Proofs.RunComparison

/-!
Operations in accord. If the calls of two native libraries agree, so do the operations of a client
that make them. The operations that show what threads share, and those that may end the
initialization, are left out here.
-/

namespace Windowing

open Native Client

variable {α β ε : Type} {native native' : Backend}

/-- The operations on a library that keep it. -/
def Client.LibraryOp.own : LibraryOp → Bool
  | .drop => false
  | _ => true

/-- The operations that keep the window and do not need its context. -/
def Client.WindowOp.own : WindowOp → Bool
  | .drop | .lendContext | .makeCurrent | .swapBuffers => false
  | _ => true

/-- The operations that look at nothing that threads share and end nothing. -/
def Client.Op.own : Op → Bool
  | .init | .tryInit | .pump .. | .onThread _ | .context .. => false
  | .library _ op => op.own
  | .window _ op => op.own
  | .monitor _ op => op.quiet
  | _ => true

section Calls

variable (h : ∀ call, Tied Eq (native call) (native' call))

include h

theorem Ties.checked (call : Call) :
    Ties (Windowing.checked (native call)) (Windowing.checked (native' call)) := by
  refine .andThen .takeError fun _ => ?_
  refine .andThen (h call) fun _ => ?_
  refine .andThen .takeError fun _ => ?_
  refine .andThen (.setPending _) fun _ => ?_
  exact .pure rfl

theorem Ties.perform (call : Call) : Ties (perform native call) (perform native' call) :=
  .bind (.checked h call) fun _ => .pure _

/-- What is composed of checked calls about the same windows and monitors is tied. -/
theorem Tied.asks {windows monitors : List Pointer} {m : Backend → M α}
    (hm : Composed (fun p q => p.here.Akin q.here) (Asks windows monitors) m) :
    Tied Eq (m native) (m native') := by
  refine .composed (fun β f asked => ?_) hm
  cases asked with
  | attempt call about => exact Ties.checked h call

theorem Tied.tells {windows : List Pointer} {m : Backend → M α}
    (hm : Composed (fun p q => p.here.Akin q.here) (Tells windows) m) :
    Tied Eq (m native) (m native') := by
  refine .composed (fun β f told => ?_) hm
  cases told with
  | call call about => exact h call

omit h in
theorem lastError_ties : Ties lastError lastError := by
  refine Tied.andThen .takeError fun pending => ?_
  cases pending <;> exact .pure rfl

/-! ### Monitors -/

namespace Monitor

omit h in
theorem adopt_tied (pointer : Pointer) : Tied Eq (adopt pointer) (adopt pointer) := by
  refine .andThen (.alike (fun _ => ⟨rfl, rfl, rfl⟩) fun _ => ⟨rfl, rfl, rfl⟩) fun _ => ?_
  refine .andThen (.note rfl) fun _ => ?_
  exact .pure rfl

omit h in
theorem ofPointer?_tied (pointer : Pointer) :
    Tied Eq (ofPointer? pointer) (ofPointer? pointer) :=
  .ite (.pure rfl) (.andThen (adopt_tied pointer) fun _ => .pure rfl)

theorem all_ties : Ties (all native) (all native') :=
  .bind (.checked h _) fun _ => .mapM (fun pointer => .lift (adopt_tied pointer)) _

theorem primary_ties : Ties (primary native) (primary native') :=
  .bind (.checked h _) fun _ => .lift (ofPointer?_tied _)

end Monitor

omit h in
theorem addMonitor_tied (m : Monitor) : Tied Eq (addMonitor m) (addMonitor m) := by
  refine Tied.getTables.bind .refl fun t t' same => ?_
  rw [same.monitors]
  exact .andThen (.tables fun _ _ hu => ⟨hu.libraries, hu.windows,
    congrArg (· ++ [some m]) hu.monitors, hu.pumping⟩) fun _ => .pure rfl

omit h in
theorem addOptional_tied (m : Option Monitor) : Tied Eq (addOptional m) (addOptional m) := by
  cases m with
  | none => exact .pure rfl
  | some m => exact .andThen (addMonitor_tied m) fun _ => .pure rfl

theorem operateMonitor_tied (slot : Nat) (m : Monitor) (op : MonitorOp) (hop : op.quiet = true) :
    Tied Eq (operateMonitor native slot m op) (operateMonitor native' slot m op) := by
  cases op with
  | drop => cases hop
  | identify other =>
    refine Tied.getTables.bind .refl fun t t' same => ?_
    rw [same.monitors]
    exact .pure rfl
  | _ => exact .asks h (operateMonitor_onlyAsks slot m _ rfl)

/-! ### Windows -/

namespace Window

theorem createNative_ties (width height : Int32) (title : Text.Bytes) (monitor : Option Monitor)
    {share share' : Option Window} (hs : share.map (·.pointer) = share'.map (·.pointer)) :
    Ties (createNative native width height title monitor share)
      (createNative native' width height title monitor share') := by
  unfold createNative
  rw [hs]
  exact .bind (.checked h _) fun _ => .ite (.bind (.fail _) fun _ => .pure _) (.pure _)

omit h in
theorem adopt_growsConfined (pointer : Pointer) : GrowsConfined (adopt pointer) := by
  refine .bind GrowsConfined.closed.look fun _ => ?_
  refine .bind (.alike fun _ => ⟨rfl, rfl, rfl⟩) fun _ => ?_
  refine .bind (.alike fun _ => ⟨rfl, rfl, rfl⟩) fun _ => ?_
  refine .bind (.note _) fun _ => ?_
  exact .pure _

omit h in
/-- New windows differ in their keys. -/
theorem adopt_tied (pointer : Pointer) :
    Tied (fun w w' : Window => w.keyless = w'.keyless) (adopt pointer) (adopt pointer) where
  goes := adopt_growsConfined pointer
  goes' := adopt_growsConfined pointer
  agrees p p' hp :=
    .single (x := .obtained (.window ⟨pointer, p.nextKey⟩))
      (y := .obtained (.window ⟨pointer, p'.nextKey⟩))
      ⟨rfl, entriesOf_note_self _ _⟩ ⟨rfl, entriesOf_note_self _ _⟩ rfl
      ⟨rfl, hp.same rfl rfl hp.akin hp.deaf⟩

/-- The same failure, or windows that differ in their keys. -/
def SameWindow (o o' : Except CreateError Window) : Prop :=
  o.map Window.keyless = o'.map Window.keyless

theorem create_tied (hints : List WindowHint) (width height : Int32) (title : String)
    (monitor : Option Monitor) {share share' : Option Window}
    (hs : share.map (·.pointer) = share'.map (·.pointer)) :
    Tied SameWindow (create native hints width height title monitor share).run
      (create native' hints width height title monitor share').run := by
  have same : ∀ e, SameWindow (.error e) (.error e) := fun _ => rfl
  refine Ties.follow same (.adapt _ (.liftExcept _)) fun _ =>
    Ties.follow same (.adapt _ (.liftExcept _)) fun title =>
    Ties.follow same (.adapt _ (.checked h _)) fun _ =>
    Ties.follow same (Tied.asks h (applyHints_asks 0 hints)) fun _ =>
    Ties.follow same (.adapt _ (createNative_ties h _ _ _ _ hs)) fun pointer =>
    Ties.follow same (.lift (Tied.tells h (listen_tells pointer))) fun _ => ?_
  have made : ∀ w w' : Window, w.keyless = w'.keyless → SameWindow (.ok w) (.ok w') :=
    fun _ _ hw => congrArg Except.ok hw
  exact (adopt_tied pointer).bind (fun _ => rfl) fun w w' hw => .pure (made w w' hw)

end Window

omit h in
theorem addWindow_tied {w w' : Window} (hw : w.keyless = w'.keyless) :
    Tied Eq (addWindow w) (addWindow w') := by
  refine Tied.getTables.bind .refl fun t t' same => ?_
  have length : t.windows.length = t'.windows.length := by
    simpa using congrArg List.length same.windows
  rw [length]
  refine .andThen (.tables fun u u' hu => ⟨hu.libraries, ?_, hu.monitors, hu.pumping⟩)
    fun _ => .pure rfl
  simp only [List.map_append, hu.windows, List.map_cons, Option.map_some, hw]

theorem createWindow_tied (r : WindowRequest) :
    Tied Eq (createWindow native r) (createWindow native' r) := by
  unfold createWindow
  cases r.hints.mapM id with
  | none => exact .pure rfl
  | some hints =>
    refine Tied.getTables.bind .refl fun t t' same => ?_
    have share : (r.share.bind (occupant t.windows)).map (·.pointer) =
        (r.share.bind (occupant t'.windows)).map (·.pointer) := by
      cases r.share with
      | none => rfl
      | some slot =>
        simpa [Option.map_map, Function.comp_def, Window.keyless] using
          congrArg (Option.map (·.pointer)) (same.occupant_windows slot)
    rw [same.monitors]
    refine (Window.create_tied h _ _ _ _ _ share).bind (fun _ => rfl) fun o o' ho => ?_
    cases o with
    | error e =>
      cases o' with
      | error e' => cases ho; exact .pure rfl
      | ok w' => cases ho
    | ok w =>
      cases o' with
      | error e' => cases ho
      | ok w' => exact .andThen (addWindow_tied (Except.ok.inj ho)) fun _ => .pure rfl

theorem operateLibrary_tied (slot : Nat) (op : LibraryOp) (hop : op.own = true) :
    Tied Eq (operateLibrary native slot op) (operateLibrary native' slot op) := by
  cases op with
  | drop => cases hop
  | getMonitors =>
    exact .answering (.bind (Monitor.all_ties h) fun _ =>
      .mapM (fun _ => .lift (addMonitor_tied _)) _)
  | getPrimaryMonitor =>
    exact .answering (.bind (Monitor.primary_ties h) fun _ => .lift (addOptional_tied _))
  | createWindow request => exact createWindow_tied h request
  | _ => exact .asks h (operateLibrary_asks slot _ rfl)

omit h in
theorem operateWindow_keyless (native : Backend) (slot : Nat) (pointer : Pointer) (k k' : Nat)
    {op : WindowOp} (hop : op.onlyAsks = true) :
    operateWindow native slot ⟨pointer, k⟩ op = operateWindow native slot ⟨pointer, k'⟩ op := by
  cases op with
  | drop | getMonitor | lendContext | userPointer | setUserPointer _ | identify _ | makeCurrent
  | swapBuffers => cases hop
  | _ => rfl

/-- The key of a window plays no part in the operations on the window alone. -/
theorem operateWindow_tied (slot : Nat) (pointer : Pointer) (k k' : Nat) (op : WindowOp)
    (hop : op.own = true) : Tied Eq (operateWindow native slot ⟨pointer, k⟩ op)
      (operateWindow native' slot ⟨pointer, k'⟩ op) := by
  have asks : ∀ op : WindowOp, op.onlyAsks = true →
      Tied Eq (operateWindow native slot ⟨pointer, k⟩ op)
        (operateWindow native' slot ⟨pointer, k'⟩ op) := by
    intro op only
    rw [operateWindow_keyless native' slot pointer k' k only]
    exact .asks h (operateWindow_onlyAsks slot ⟨pointer, k⟩ op only)
  cases op with
  | drop | lendContext | makeCurrent | swapBuffers => cases hop
  | identify other =>
    refine Tied.getTables.bind .refl fun t t' same => ?_
    have place : ((occupant t.windows other).getD ⟨pointer, k⟩).id =
        ((occupant t'.windows other).getD ⟨pointer, k'⟩).id := by
      have found := same.occupant_windows other
      cases hocc : occupant t.windows other with
      | none =>
        rw [hocc] at found
        rw [Option.map_eq_none_iff.1 found.symm]
        rfl
      | some w =>
        rw [hocc] at found
        obtain ⟨w', hw', hkey⟩ := Option.map_eq_some_iff.1 found.symm
        have ids : w.keyless.id = w'.keyless.id := congrArg Window.id hkey.symm
        rw [hw']
        exact ids
    exact .pure (by rw [place]; rfl)
  | getMonitor =>
    exact .answering (.bind (.bind (.checked h _) fun _ => .lift (Monitor.ofPointer?_tied _))
      fun _ => .lift (addOptional_tied _))
  | userPointer => exact .tells h (userPointer_tells slot ⟨pointer, k⟩)
  | setUserPointer target => exact .tells h (setUserPointer_tells slot ⟨pointer, k⟩ target)
  | _ => exact asks _ rfl

/-! ### Operations by slots -/

theorem runLibrary_tied (slot : Nat) (op : LibraryOp) (hop : op.own = true) :
    Tied Eq (runLibrary native slot op) (runLibrary native' slot op) := by
  refine Tied.getTables.bind .refl fun t t' same => ?_
  rw [same.libraries]
  exact .ite (.pure rfl) (operateLibrary_tied h slot op hop)

theorem runWindow_tied (slot : Nat) (op : WindowOp) (hop : op.own = true) :
    Tied Eq (runWindow native slot op) (runWindow native' slot op) := by
  rw [runWindow_kept (by rintro rfl; cases hop), runWindow_kept (by rintro rfl; cases hop)]
  refine Tied.getTables.bind .refl fun t t' same => ?_
  have found := same.occupant_windows slot
  cases hocc : occupant t.windows slot with
  | none =>
    rw [hocc] at found
    rw [Option.map_eq_none_iff.1 found.symm]
    exact .pure rfl
  | some w =>
    rw [hocc] at found
    obtain ⟨⟨pointer, k'⟩, hw', hkey⟩ := Option.map_eq_some_iff.1 found.symm
    rw [hw']
    obtain ⟨_, k⟩ := w
    cases congrArg Window.pointer hkey
    exact operateWindow_tied h slot pointer k k' op hop

theorem runMonitor_tied (slot : Nat) (op : MonitorOp) (hop : op.quiet = true) :
    Tied Eq (runMonitor native slot op) (runMonitor native' slot op) := by
  refine Tied.getTables.bind .refl fun t t' same => ?_
  rw [same.monitors]
  cases occupant t'.monitors slot with
  | none => exact .pure rfl
  | some m => exact operateMonitor_tied h slot m op hop

/-- An operation of a thread's own leaves two threads alike. -/
theorem runOp_tied (op : Op) (hop : op.own = true) :
    Tied Eq (runOp native op) (runOp native' op) := by
  cases op with
  | init | tryInit | pump | onThread | context => cases hop
  | getError => exact .answering lastError_ties
  | getVersion => exact .andThen (.tells h version_tells) fun _ => .pure rfl
  | getVersionString => exact .andThen (.tells h versionString_tells) fun _ => .pure rfl
  | getTime => exact .andThen (.tells h time_tells) fun _ => .pure rfl
  | detachCurrent | current | swapInterval _ | extensionSupported _ | getProcAddress _ =>
    exact (runOp_asks _ rfl).elim fun _ asked => .asks h asked.2
  | panic message =>
    have begins : ∀ p, SameThreads p (final beginPanic p) := fun p =>
      (beginPanic_alike p).toSameThreads
    exact (Tied.alike begins begins).andThen fun _ => .pure rfl
  | library slot op => exact runLibrary_tied h slot op hop
  | window slot op => exact runWindow_tied h slot op hop
  | monitor slot op => exact runMonitor_tied h slot op hop

/-! ### Ends -/

omit h in
theorem unlock_tied : Tied Eq unlock unlock :=
  .alike (fun _ => ⟨rfl, rfl, rfl⟩) fun _ => ⟨rfl, rfl, rfl⟩

theorem terminate_tied : Tied Eq (terminate native) (terminate native') := by
  refine .andThen (Ties.checked h .terminate) fun outcome => ?_
  cases outcome with
  | ok reply => exact unlock_tied
  | error e => exact .andThen (.note rfl) fun _ => unlock_tied

theorem destroy_tied (pointer : Pointer) :
    Tied Eq (Window.destroy native pointer) (Window.destroy native' pointer) := by
  refine .andThen (Ties.checked h (.destroyWindow pointer)) fun outcome => ?_
  cases outcome with
  | ok reply => exact .pure rfl
  | error e => exact .note rfl

end Calls

end Windowing
