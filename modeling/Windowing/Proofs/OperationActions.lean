import Windowing.Proofs.OperationComposition

/-!
The actions of the operations. All queries and settings are composed of quiet actions, nearly all of
them of checked calls about one window or monitor; creations and drops are composed of modest
actions, and with initializations and unchecked calls all are small ones.
-/

namespace Windowing

open Native Client

/-- The calls that neither start nor end anything. -/
def Native.Call.plain : Call → Bool
  | .init | .terminate | .createWindow .. | .destroyWindow _ | .pollEvents | .waitEvents => false
  | _ => true

/-- The calls that process events. -/
def Native.Call.pumps : Call → Bool
  | .pollEvents | .waitEvents => true
  | _ => false

/-- The calls that an operation makes at any place: all but the pumping and destroying ones. -/
def Native.Call.ordinary : Call → Bool
  | .destroyWindow _ | .pollEvents | .waitEvents => false
  | _ => true

/-- The windows that a call names; the null pointer stands for none. -/
def Native.Call.windows : Call → List Pointer
  | .createWindow _ _ _ _ share => [share]
  | .destroyWindow w | .setWindowCallback w _ | .windowShouldClose w | .setWindowShouldClose w _
  | .setWindowTitle w _ | .getWindowPos w | .setWindowPos w _ _ | .getWindowSize w
  | .setWindowSize w _ _ | .iconifyWindow w | .restoreWindow w | .showWindow w | .hideWindow w
  | .getWindowMonitor w | .getWindowParam w _ | .setWindowUserPointer w _ | .getWindowUserPointer w
  | .getInputMode w _ | .setInputMode w _ _ | .getKey w _ | .getMouseButton w _ | .getCursorPos w
  | .setCursorPos w _ _ | .setClipboardString w _ | .getClipboardString w | .makeContextCurrent w
  | .swapBuffers w => [w]
  | _ => []

/-- The monitors that a call names; the null pointer stands for none. -/
def Native.Call.monitors : Call → List Pointer
  | .createWindow _ _ _ monitor _ => [monitor]
  | .getMonitorPos m | .getMonitorPhysicalSize m | .getMonitorName m | .getVideoModes m
  | .getVideoMode m | .setGamma m _ | .getGammaRamp m | .setGammaRamp m _ => [m]
  | _ => []

/-- A call that neither starts nor ends anything and names the given windows and monitors. -/
structure Native.Call.About (windows monitors : List Pointer) (call : Call) : Prop where
  plain : call.plain = true
  windows : call.windows = windows
  monitors : call.monitors = monitors

theorem Native.Call.ordinary_of_plain {call : Call} (h : call.plain = true) :
    call.ordinary = true := by
  cases call <;> first | rfl | cases h

theorem Native.Call.pumps_of_ordinary {call : Call} (h : call.ordinary = true) :
    call.pumps = false := by
  cases call <;> first | rfl | cases h

theorem Native.Call.pumps_of_plain {call : Call} (h : call.plain = true) : call.pumps = false :=
  pumps_of_ordinary (ordinary_of_plain h)

/-- A checked call about the given windows and monitors. -/
inductive Asks (windows monitors : List Pointer) : (α : Type) → (Backend → M α) → Prop where
  | attempt (call : Call) (h : call.About windows monitors) :
    Asks windows monitors _ fun native => (checked (native call)).run

/-- An unchecked call about the given windows. Its errors stay pending. -/
inductive Tells (windows : List Pointer) : (α : Type) → (Backend → M α) → Prop where
  | call (call : Call) (h : call.About windows []) : Tells windows _ fun native => native call

/-- A change of what threads share. The native library takes no part in it, and panics play none. -/
structure SharedChange (f : Process → Process) : Prop where
  threads : ∀ p, SameThreads p (f p)
  scripts : ∀ p, (f p).scripts = p.scripts
  schedule : ∀ p, (f p).schedule = p.schedule
  panics : ∀ p x, SameButPanics (f p) (f { p with panics := x })

/-- An action without a native call that concerns lent contexts, or panics. -/
inductive Aside : (α : Type) → (Backend → M α) → Prop where
  | lend (c : Context) : Aside _ fun _ => note (.obtained (.context c))
  | giveBack (c : Context) : Aside _ fun _ => note (.dropped (.context c))
  | lent (f : List Nat → List Nat) : Aside _ fun _ => modify fun p => { p with lent := f p.lent }
  | panics (f : ThreadId → Panics → Panics) :
    Aside _ fun _ => modify fun p => { p with panics := f p.current p.panics }
  | contexts (f : List (Option (Context × Nat)) → List (Option (Context × Nat))) :
    Aside _ fun _ => modifyTables fun t => { t with contexts := f t.contexts }

/-- An action that touches no handle that holds the initialization. -/
inductive Quiet : (α : Type) → (Backend → M α) → Prop where
  | call (call : Call) (h : call.plain = true) : Quiet _ fun native => native call
  | attempt (call : Call) (h : call.plain = true) :
    Quiet _ fun native => (checked (native call)).run
  | take : Quiet _ fun _ => takeError
  | log (l : Log) : Quiet _ fun _ => log l
  | aside {α : Type} {m : Backend → M α} (h : Aside α m) : Quiet α m

/-- An action that leaves the pending error alone: no unchecked call, and no look at what is
pending. -/
inductive Modest : (α : Type) → (Backend → M α) → Prop where
  | attempt (call : Call) (h : call.ordinary = true) :
    Modest _ fun native => (checked (native call)).run
  | log (l : Log) : Modest _ fun _ => log l
  | obtain (h : Handle) : Modest _ fun _ => note (.obtained h)
  | dropContext (c : Context) : Modest _ fun _ => note (.dropped (.context c))
  | dropLibrary (l : Library) : Modest _ fun _ => note (.dropped (.library l))
  | dropMonitor (m : Monitor) : Modest _ fun _ => note (.dropped (.monitor m))
  | tables (f : Tables → Tables) : Modest _ fun _ => modifyTables f
  | shared {f : Process → Process} (h : SharedChange f) : Modest _ fun _ => modify f
  | dropWindow (w : Window) : Modest _ fun native => w.drop native

/-- An action of an operation that is neither a pump nor runs another thread. -/
inductive Small : (α : Type) → (Backend → M α) → Prop where
  | quiet {α : Type} {m : Backend → M α} (h : Quiet α m) : Small α m
  | call (call : Call) (h : call.ordinary = true) : Small _ fun native => native call
  | attempt (call : Call) (h : call.ordinary = true) :
    Small _ fun native => (checked (native call)).run
  | obtain (h : Handle) : Small _ fun _ => note (.obtained h)
  | dropLibrary (l : Library) : Small _ fun _ => note (.dropped (.library l))
  | dropMonitor (m : Monitor) : Small _ fun _ => note (.dropped (.monitor m))
  | tables (f : Tables → Tables) : Small _ fun _ => modifyTables f
  | shared {f : Process → Process} (h : SharedChange f) : Small _ fun _ => modify f
  | dropWindow (w : Window) : Small _ fun native => w.drop native

variable {sim : Process → Process → Prop} {windows monitors : List Pointer} {α : Type}

namespace SharedChange

theorem lent (f : List Nat → List Nat) : SharedChange fun p => { p with lent := f p.lent } :=
  ⟨fun _ => ⟨rfl, rfl, rfl⟩, fun _ => rfl, fun _ => rfl, fun _ x => ⟨x, rfl⟩⟩

theorem holders (f : Nat → Nat) : SharedChange fun p => { p with holders := f p.holders } :=
  ⟨fun _ => ⟨rfl, rfl, rfl⟩, fun _ => rfl, fun _ => rfl, fun _ x => ⟨x, rfl⟩⟩

theorem nextKey (f : Nat → Nat) : SharedChange fun p => { p with nextKey := f p.nextKey } :=
  ⟨fun _ => ⟨rfl, rfl, rfl⟩, fun _ => rfl, fun _ => rfl, fun _ x => ⟨x, rfl⟩⟩

theorem panicked (f : ThreadId → Panics → Panics) :
    SharedChange fun p => { p with panics := f p.current p.panics } :=
  ⟨fun _ => ⟨rfl, rfl, rfl⟩, fun _ => rfl, fun _ => rfl, fun p x => ⟨f p.current x, rfl⟩⟩

theorem withLock : SharedChange Process.withLock :=
  ⟨.withLock, fun _ => rfl, fun _ => rfl, fun p x => ⟨x.guarded p.current, rfl⟩⟩

theorem unlocked :
    SharedChange fun p => { p with locked := false, panics := p.panics.released p.current } :=
  ⟨fun _ => ⟨rfl, rfl, rfl⟩, fun _ => rfl, fun _ => rfl, fun p x => ⟨x.released p.current, rfl⟩⟩

end SharedChange

/-! ### Queries and settings -/

section Quiet

theorem Composed.asking {m : Backend → M α} (h : Composed sim (Asks windows monitors) m) :
    Composed sim Quiet m :=
  h.mono fun _ _ hm => by
    cases hm with
    | attempt call h => exact .attempt call h.plain

theorem Composed.telling {m : Backend → M α} (h : Composed sim (Tells windows) m) :
    Composed sim Quiet m :=
  h.mono fun _ _ hm => by
    cases hm with
    | call call h => exact .call call h.plain

theorem Composed.aside {m : Backend → M α} (h : Composed sim Aside m) : Composed sim Quiet m :=
  h.mono fun _ _ => .aside

theorem Attempts.checked {call : Call} (h : call.About windows monitors) :
    Attempts sim (Asks windows monitors) fun native =>
      checked (native call) := .act (.attempt call h)

theorem Attempts.perform {call : Call} (h : call.About windows monitors) :
    Attempts sim (Asks windows monitors) fun native => perform native call :=
  .bind (.checked h) fun _ => .pure _

theorem Attempts.value {call : Call} {f : Reply → α} (h : call.About windows monitors) :
    Attempts sim (Asks windows monitors) fun native => do
      return f (← Windowing.checked (native call)) :=
  .bind (.checked h) fun _ => .pure _

theorem Composed.told {call : Call} {f : Reply → α} (h : call.About windows []) :
    Composed sim (Tells windows) fun native => do return f (← native call) :=
  .bind (.act (.call call h)) fun _ => .pure _

theorem lastError_quiet : Attempts sim Quiet fun _ => lastError := by
  refine Composed.bind (.act .take) fun pending => ?_
  cases pending <;> exact .pure _

theorem version_tells : Composed sim (Tells []) version :=
  .told ⟨rfl, rfl, rfl⟩

theorem versionString_tells : Composed sim (Tells []) Library.versionString :=
  .told ⟨rfl, rfl, rfl⟩

theorem time_tells : Composed sim (Tells []) time :=
  .told ⟨rfl, rfl, rfl⟩

theorem isLent_composed {prim : (α : Type) → (Backend → M α) → Prop} (key : Nat) :
    Composed SameButPanics prim fun _ => Context.isLent key :=
  .sees (fun _ _ => rfl) fun _ => .pure _

namespace Joystick

variable (j : Joystick)

theorem getParam_asks (p : Param) : Attempts sim (Asks [] []) fun native => j.getParam native p :=
  .value ⟨rfl, rfl, rfl⟩

theorem capacity_asks (p : Param) : Attempts sim (Asks [] []) fun native => j.capacity native p :=
  .bind (getParam_asks j p) fun _ => .pure _

theorem axes_asks : Attempts sim (Asks [] []) fun native => j.axes native :=
  .bind (capacity_asks j _) fun _ => .value ⟨rfl, rfl, rfl⟩

theorem buttons_asks : Attempts sim (Asks [] []) fun native => j.buttons native :=
  .bind (capacity_asks j _) fun _ => .value ⟨rfl, rfl, rfl⟩

end Joystick

namespace Window

variable (w : Window)

theorem getParam_asks (a : Attribute) :
    Attempts sim (Asks [w.pointer] []) fun native => w.getParam native a :=
  .value ⟨rfl, rfl, rfl⟩

theorem getFlag_asks (a : Attribute) :
    Attempts sim (Asks [w.pointer] []) fun native => w.getFlag native a :=
  .bind (getParam_asks w a) fun _ => .pure _

theorem getInputMode_asks (mode : InputMode) :
    Attempts sim (Asks [w.pointer] []) fun native => w.getInputMode native mode :=
  .value ⟨rfl, rfl, rfl⟩

theorem getInputFlag_asks (mode : InputMode) :
    Attempts sim (Asks [w.pointer] []) fun native => do
      return Flag.isSet (← w.getInputMode native mode) :=
  .bind (getInputMode_asks w mode) fun _ => .pure _

theorem state_asks : Attempts sim (Asks [w.pointer] []) fun native => w.state native :=
  .foldlM (fun _ _ => .bind (getFlag_asks w _) fun _ => .pure _) _ _

theorem ensureContextOwned_asks :
    Attempts SameButPanics (Asks [w.pointer] []) fun _ => w.ensureContextOwned :=
  .bind (.lift (isLent_composed _)) fun _ => .ite (.fail _) (.pure _)

theorem applyHints_asks (index : Nat) (hints : List WindowHint) :
    Attempts sim (Asks [] []) fun native => applyHints native index hints := by
  induction hints generalizing index with
  | nil => exact .pure _
  | cons hint rest ih =>
    exact .bind (.adapt _ (.checked ⟨rfl, rfl, rfl⟩)) fun _ => ih (index + 1)

theorem listen_tells (pointer : Pointer) :
    Composed sim (Tells [pointer]) fun native => listen native pointer :=
  .forM (fun _ => .bind (.act (.call _ ⟨rfl, rfl, rfl⟩)) fun _ => .pure _) _

theorem lend_aside : Attempts SameButPanics Aside fun _ => Context.lend w := by
  refine .bind (.lift (isLent_composed _)) fun _ => ?_
  refine .ite (.fail _) ?_
  refine .bind (.lift (.act (.lent _))) fun _ => ?_
  refine .bind (.lift (.act (.lend _))) fun _ => ?_
  exact .pure _

end Window

theorem addContext_aside (c : Context) (origin : Nat) :
    Composed SameButPanics Aside fun _ => addContext c origin := by
  refine .bind .getTables fun _ => ?_
  refine .bind (.act (.contexts (· ++ [some (c, origin)]))) fun _ => ?_
  exact .pure _

theorem takeContext_aside (slot : Nat) :
    Composed SameButPanics Aside fun _ => takeContext slot := by
  refine .bind .getTables fun _ => ?_
  refine .bind (.act (.contexts (·.set slot none))) fun _ => ?_
  exact .pure _

theorem dropContext_aside (c : Context) : Composed sim Aside fun _ => c.drop :=
  .bind (.act (.giveBack c)) fun _ => .act (.lent (·.erase c.key))

theorem clearContexts_aside (picked : Context → Bool) :
    Composed SameButPanics Aside fun _ => clearContexts picked := by
  refine .bind .getTables fun t => .forM (fun slot => ?_) _
  cases occupant t.contexts slot with
  | none => exact .pure _
  | some c =>
    exact .ite (.bind (takeContext_aside slot) fun _ => dropContext_aside _) (.pure _)

theorem panic_aside (message : String) :
    Composed sim Aside fun native => runOp native (.panic message) :=
  .bind (.act (.panics fun t x => x.begin t)) fun _ => .pure _

theorem withJoystick_composed {prim : (α : Type) → (Backend → M α) → Prop} {code : Int32}
    {body : Joystick → Backend → M Outcome} (h : ∀ j, Composed sim prim (body j)) :
    Composed sim prim fun native => withJoystick code (body · native) := by
  unfold withJoystick
  cases Coded.ofCode? Joystick code with
  | none => exact .pure _
  | some j => exact h j

/-- The operations on a library that neither create nor drop a handle. -/
def Client.LibraryOp.quiet : LibraryOp → Bool
  | .drop | .getMonitors | .getPrimaryMonitor | .createWindow _ => false
  | _ => true

def Client.WindowOp.quiet : WindowOp → Bool
  | .drop | .getMonitor => false
  | _ => true

def Client.MonitorOp.quiet : MonitorOp → Bool
  | .drop => false
  | _ => true

/-- The quiet operations on a window whose calls are checked. -/
def Client.WindowOp.asks : WindowOp → Bool
  | .drop | .getMonitor | .lendContext | .userPointer | .setUserPointer _ => false
  | _ => true

/-- Of these, the operations that look at nothing but the replies to their calls. -/
def Client.WindowOp.onlyAsks : WindowOp → Bool
  | .identify _ | .makeCurrent | .swapBuffers => false
  | op => op.asks

def Client.MonitorOp.onlyAsks : MonitorOp → Bool
  | .identify _ => false
  | op => op.quiet

def Client.ContextOp.asks : ContextOp → Bool
  | .drop => false
  | _ => true

/-- The operations on the current context. -/
def Client.Op.asks : Op → Bool
  | .detachCurrent | .current | .swapInterval _ | .extensionSupported _ | .getProcAddress _ => true
  | _ => false

theorem operateLibrary_asks (slot : Nat) (op : LibraryOp) (h : op.quiet = true) :
    Composed sim (Asks [] []) fun native => operateLibrary native slot op := by
  cases op with
  | drop | getMonitors | getPrimaryMonitor | createWindow _ => cases h
  | setTime time => exact .answering (.perform ⟨rfl, rfl, rfl⟩)
  | joystickPresent code =>
    exact withJoystick_composed fun j => .answering (.bind (j.getParam_asks _) fun _ => .pure _)
  | joystickAxes code => exact withJoystick_composed fun j => .answering j.axes_asks
  | joystickButtons code => exact withJoystick_composed fun j => .answering j.buttons_asks
  | joystickName code =>
    exact withJoystick_composed fun j => .answering (.value ⟨rfl, rfl, rfl⟩)
  | unknown => exact .pure _

theorem operateWindow_onlyAsks (slot : Nat) (w : Window) (op : WindowOp) (h : op.onlyAsks = true) :
    Composed sim (Asks [w.pointer] []) fun native => operateWindow native slot w op := by
  cases op with
  | drop | getMonitor | lendContext | userPointer | setUserPointer _ | identify _ | makeCurrent
  | swapBuffers => cases h
  | isFocused | isIconified | isVisible | isResizable | isDecorated | isForwardCompat
  | isDebugContext => exact .answering (w.getFlag_asks _)
  | state => exact .answering w.state_asks
  | clientApi | openGlProfile | contextRobustness =>
    exact .answering (.bind (w.getParam_asks _) fun _ => .liftExcept _)
  | contextVersion =>
    exact .answering (.bind (w.getParam_asks _) fun _ => .bind (w.getParam_asks _) fun _ =>
      .bind (w.getParam_asks _) fun _ => .pure _)
  | setShouldClose _ | iconify | restore | reveal | hide | setPos _ _ | setCursorPos _ _ =>
    exact .answering (.perform ⟨rfl, rfl, rfl⟩)
  | setTitle _ | setSize _ _ | setClipboard _ =>
    exact .answering (.bind (.liftExcept _) fun _ => .perform ⟨rfl, rfl, rfl⟩)
  | shouldClose | getPos | getSize | getCursorPos | getClipboard =>
    exact .answering (.value ⟨rfl, rfl, rfl⟩)
  | getCursorMode =>
    exact .answering (.bind (w.getInputMode_asks _) fun _ => .liftExcept _)
  | stickyKeys | stickyMouseButtons => exact .answering (w.getInputFlag_asks _)
  | setStickyKeys _ | setStickyMouseButtons _ => exact .answering (.perform ⟨rfl, rfl, rfl⟩)
  | setCursorMode code =>
    simp only [operateWindow]
    cases Coded.ofCode? CursorMode code with
    | none => exact .pure _
    | some mode => exact .answering (.perform ⟨rfl, rfl, rfl⟩)
  | getKey code =>
    simp only [operateWindow]
    cases Coded.ofCode? Key code with
    | none => exact .pure _
    | some key => exact .answering (.bind (.checked ⟨rfl, rfl, rfl⟩) fun _ => .liftExcept _)
  | getMouseButton code =>
    simp only [operateWindow]
    cases Coded.ofCode? MouseButton code with
    | none => exact .pure _
    | some button => exact .answering (.bind (.checked ⟨rfl, rfl, rfl⟩) fun _ => .liftExcept _)
  | unknown => exact .pure _

theorem operateWindow_asks (slot : Nat) (w : Window) (op : WindowOp) (h : op.asks = true) :
    Composed SameButPanics (Asks [w.pointer] []) fun native => operateWindow native slot w op := by
  cases op with
  | drop | getMonitor | lendContext | userPointer | setUserPointer _ => cases h
  | identify other => exact .bind .getTables fun _ => .pure _
  | makeCurrent | swapBuffers =>
    exact .answering (.bind w.ensureContextOwned_asks fun _ => .perform ⟨rfl, rfl, rfl⟩)
  | _ => exact operateWindow_onlyAsks slot w _ rfl

theorem lendContext_aside (slot : Nat) (w : Window) :
    Composed SameButPanics Aside fun native => operateWindow native slot w .lendContext :=
  .answering (.bind w.lend_aside fun c => .lift (addContext_aside c slot))

theorem userPointer_tells (slot : Nat) (w : Window) :
    Composed sim (Tells [w.pointer]) fun native => operateWindow native slot w .userPointer :=
  .bind (.told ⟨rfl, rfl, rfl⟩) fun _ => .pure _

theorem setUserPointer_tells (slot : Nat) (w : Window) (pointer : Pointer) :
    Composed sim (Tells [w.pointer]) fun native =>
      operateWindow native slot w (.setUserPointer pointer) :=
  .bind (.told ⟨rfl, rfl, rfl⟩) fun _ => .pure _

theorem operateWindow_quiet (slot : Nat) (w : Window) (op : WindowOp) (h : op.quiet = true) :
    Composed SameButPanics Quiet fun native => operateWindow native slot w op := by
  cases op with
  | drop | getMonitor => cases h
  | lendContext => exact (lendContext_aside slot w).aside
  | userPointer => exact (userPointer_tells slot w).telling
  | setUserPointer pointer => exact (setUserPointer_tells slot w pointer).telling
  | _ => exact (operateWindow_asks slot w _ rfl).asking

theorem operateMonitor_onlyAsks (slot : Nat) (m : Monitor) (op : MonitorOp)
    (h : op.onlyAsks = true) :
    Composed sim (Asks [] [m.pointer]) fun native => operateMonitor native slot m op := by
  cases op with
  | drop | identify _ => cases h
  | pos | physicalSize | getGammaRamp => exact .answering (.value ⟨rfl, rfl, rfl⟩)
  | name | videoModes =>
    exact .answering (.bind (.checked ⟨rfl, rfl, rfl⟩) fun _ => .bind (.liftExcept _) fun _ =>
      .pure _)
  | videoMode =>
    exact .answering (.bind (.checked ⟨rfl, rfl, rfl⟩) fun _ =>
      .ite (.bind (.fail _) fun _ => .pure _) (.pure _))
  | setGamma gamma => exact .answering (.bind (.liftExcept _) fun _ => .perform ⟨rfl, rfl, rfl⟩)
  | setGammaRamp source =>
    cases source with
    | gamma gamma => exact .answering (.bind (.liftExcept _) fun _ => .perform ⟨rfl, rfl, rfl⟩)
    | table ramp => exact .answering (.perform ⟨rfl, rfl, rfl⟩)
  | unknown => exact .pure _

theorem operateMonitor_asks (slot : Nat) (m : Monitor) (op : MonitorOp) (h : op.quiet = true) :
    Composed SameButPanics (Asks [] [m.pointer]) fun native =>
      operateMonitor native slot m op := by
  cases op with
  | drop => cases h
  | identify other => exact .bind .getTables fun _ => .pure _
  | _ => exact operateMonitor_onlyAsks slot m _ rfl

/-- A context is used on the window that it was lent from. -/
theorem operateContext_asks (slot : Nat) (c : Context) (op : ContextOp) (h : op.asks = true) :
    Composed sim (Asks [c.pointer] []) fun native => operateContext native slot c op := by
  cases op with
  | drop => cases h
  | makeCurrent | swapBuffers => exact .answering (.perform ⟨rfl, rfl, rfl⟩)
  | windowId | unknown => exact .pure _

theorem dropContextIn_aside (slot : Nat) (c : Context) :
    Composed SameButPanics Aside fun native => operateContext native slot c .drop := by
  refine .bind (takeContext_aside slot) fun _ => ?_
  refine .bind (dropContext_aside _) fun _ => ?_
  exact .pure _

theorem runContext_quiet (slot : Nat) (op : ContextOp) :
    Composed SameButPanics Quiet fun native => runContext native slot op := by
  refine .bind .getTables fun t => ?_
  cases occupant t.contexts slot with
  | none => exact .pure _
  | some c =>
    cases op with
    | drop => exact (dropContextIn_aside slot _).aside
    | _ => exact (operateContext_asks slot _ _ rfl).asking

/-- An operation on the current context names no window. -/
theorem runOp_asks (op : Op) (h : op.asks = true) :
    ∃ windows, (∀ w ∈ windows, w = null) ∧
      Composed sim (Asks windows []) fun native => runOp native op := by
  cases op with
  | detachCurrent =>
    exact ⟨[null], fun _ hw => List.mem_singleton.1 hw, .answering (.perform ⟨rfl, rfl, rfl⟩)⟩
  | current => exact ⟨[], nofun, .answering (.value ⟨rfl, rfl, rfl⟩)⟩
  | swapInterval interval => exact ⟨[], nofun, .answering (.perform ⟨rfl, rfl, rfl⟩)⟩
  | extensionSupported name | getProcAddress name =>
    exact ⟨[], nofun, .answering (.bind (.liftExcept _) fun _ => .value ⟨rfl, rfl, rfl⟩)⟩
  | _ => cases h

end Quiet

/-! ### Operations on handles -/

section Small

theorem Composed.modest {m : Backend → M α} (h : Composed sim (Asks windows monitors) m) :
    Composed sim Modest m :=
  h.mono fun _ _ hm => by
    cases hm with
    | attempt call h => exact .attempt call (Native.Call.ordinary_of_plain h.plain)

theorem Attempts.modest {ε : Type} {x : Backend → ExceptT ε M α}
    (h : Attempts sim (Asks windows monitors) x) : Attempts sim Modest x :=
  Composed.modest h

theorem Composed.asideModest {m : Backend → M α} (h : Composed sim Aside m) :
    Composed sim Modest m :=
  h.mono fun _ _ hm => by
    cases hm with
    | lend c => exact .obtain _
    | giveBack c => exact .dropContext c
    | lent f => exact .shared (.lent f)
    | panics f => exact .shared (.panicked f)
    | contexts f => exact .tables _

theorem Composed.small {m : Backend → M α} (h : Composed sim Quiet m) : Composed sim Small m :=
  h.mono fun _ _ => .quiet

theorem Composed.minor {m : Backend → M α} (h : Composed sim Modest m) : Composed sim Small m :=
  h.mono fun _ _ hm => by
    cases hm with
    | attempt call h => exact .attempt call h
    | log l => exact .quiet (.log l)
    | obtain h => exact .obtain h
    | dropContext c => exact .quiet (.aside (.giveBack c))
    | dropLibrary l => exact .dropLibrary l
    | dropMonitor m => exact .dropMonitor m
    | tables f => exact .tables f
    | shared h => exact .shared h
    | dropWindow w => exact .dropWindow w

theorem addLibrary_modest (l : Library) : Composed SameButPanics Modest fun _ => addLibrary l := by
  refine .bind .getTables fun _ => ?_
  refine .bind (.act (.tables _)) fun _ => ?_
  exact .pure _

theorem addWindow_modest (w : Window) : Composed SameButPanics Modest fun _ => addWindow w := by
  refine .bind .getTables fun _ => ?_
  refine .bind (.act (.tables _)) fun _ => ?_
  exact .pure _

theorem addMonitor_modest (m : Monitor) : Composed SameButPanics Modest fun _ => addMonitor m := by
  refine .bind .getTables fun _ => ?_
  refine .bind (.act (.tables _)) fun _ => ?_
  exact .pure _

theorem takeLibrary_modest (slot : Nat) : Composed SameButPanics Modest fun _ => takeLibrary slot :=
    by
  refine .bind .getTables fun _ => ?_
  refine .bind (.act (.tables _)) fun _ => ?_
  exact .pure _

theorem takeWindow_modest (slot : Nat) : Composed SameButPanics Modest fun _ => takeWindow slot := by
  refine .bind .getTables fun _ => ?_
  refine .bind (.act (.tables _)) fun _ => ?_
  exact .pure _

theorem takeMonitor_modest (slot : Nat) : Composed SameButPanics Modest fun _ => takeMonitor slot :=
    by
  refine .bind .getTables fun _ => ?_
  refine .bind (.act (.tables _)) fun _ => ?_
  exact .pure _

theorem hold_modest : Composed sim Modest fun _ => hold := .act (.shared (.holders (· + 1)))

theorem lockInit_modest : Composed sim Modest fun _ => lockInit := by
  rw [lockInit_eq]
  exact .bind (.act (.shared .withLock)) fun _ => .pure _

theorem unlock_modest : Composed sim Modest fun _ => unlock := .act (.shared .unlocked)

theorem terminate_modest : Composed SameButPanics Modest terminate := by
  refine .bind (.act (.attempt _ rfl)) fun outcome => ?_
  cases outcome with
  | error e => exact .bind (.act (.log _)) fun _ => unlock_modest
  | ok reply => exact unlock_modest

theorem release_modest : Composed SameButPanics Modest release :=
  .bind (.act (.shared (.holders (· - 1)))) fun _ =>
    .sees (fun _ _ => rfl) fun _ => .ite terminate_modest (.pure _)

namespace Library

theorem drop_modest (l : Library) : Composed SameButPanics Modest fun native => l.drop native :=
  .bind (.act (.dropLibrary l)) fun _ => release_modest

theorem start_small : Composed SameButPanics Small start := by
  refine .bind (.act (.call _ rfl)) fun _ => ?_
  refine .bind (.act (.quiet .take)) fun _ => ?_
  refine .bind (.act (.call _ rfl)) fun reply => ?_
  refine .ite ?_ ?_
  · refine .bind (.act (.shared (.holders fun _ => 1))) fun _ => ?_
    refine .bind (.act (.obtain _)) fun _ => ?_
    refine .bind (.act (.call _ rfl)) fun _ => ?_
    refine .bind (.act (.quiet .take)) fun pending => ?_
    cases pending with
    | some e => exact .bind (drop_modest _).minor fun _ => .pure _
    | none =>
      refine .bind versionString_tells.telling.small fun _ => ?_
      refine .bind (.act (.quiet (.log _))) fun _ => ?_
      exact .pure _
  · exact .bind (.act (.quiet .take)) fun _ => .bind unlock_modest.minor fun _ => .pure _

theorem init_small : Composed SameButPanics Small init :=
  .bind lockInit_modest.minor fun _ => start_small

theorem tryInit_small : Composed SameButPanics Small tryInit := by
  rw [funext tryInit_eq]
  exact .sees (fun _ _ => rfl) fun _ => .ite (.pure _) (.bind init_small fun _ => .pure _)

end Library

theorem runInit_small : Composed SameButPanics Small runInit := by
  refine .sees (fun _ _ => rfl) fun _ =>
    .ite (.pure _) (.bind Library.init_small fun outcome => ?_)
  cases outcome with
  | error e => exact .pure _
  | ok l => exact .bind (addLibrary_modest l).minor fun _ => .pure _

theorem runTryInit_small : Composed SameButPanics Small runTryInit := by
  refine .bind Library.tryInit_small fun outcome => ?_
  cases outcome with
  | error e => exact .pure _
  | ok l => exact .bind (addLibrary_modest l).minor fun _ => .pure _

namespace Window

theorem createNative_modest (width height : Int32) (title : Text.Bytes) (monitor : Option Monitor)
    (share : Option Window) :
    Attempts SameButPanics Modest fun native =>
      createNative native width height title monitor share :=
  .bind (Composed.act (.attempt _ rfl)) fun _ =>
    .ite (.bind (.fail _) fun _ => .pure _) (.pure _)

theorem adopt_modest (pointer : Pointer) : Composed SameButPanics Modest fun _ => adopt pointer :=
  .sees (fun _ _ => rfl) fun _ => .bind (.act (.shared (.nextKey (· + 1)))) fun _ =>
    .bind hold_modest fun _ => .bind (.act (.obtain _)) fun _ => .pure _

theorem create_small (hints : List WindowHint) (width height : Int32) (title : String)
    (monitor : Option Monitor) (share : Option Window) :
    Attempts SameButPanics Small fun native =>
      create native hints width height title monitor share := by
  refine .bind (.adapt _ (.liftExcept _)) fun _ => ?_
  refine .bind (.adapt _ (.liftExcept _)) fun _ => ?_
  refine .bind (.adapt _ (Attempts.checked ⟨rfl, rfl, rfl⟩).asking.small) fun _ => ?_
  refine .bind (applyHints_asks _ _).asking.small fun _ => ?_
  refine .bind (.adapt _ (createNative_modest _ _ _ _ _).minor) fun _ => ?_
  refine .bind (.lift (listen_tells _).telling.small) fun _ => ?_
  exact .lift (adopt_modest _).minor

end Window

namespace Monitor

theorem adopt_modest (pointer : Pointer) : Composed SameButPanics Modest fun _ => adopt pointer := by
  refine .bind hold_modest fun _ => ?_
  refine .bind (.act (.obtain _)) fun _ => ?_
  exact .pure _

theorem ofPointer?_modest (pointer : Pointer) :
    Composed SameButPanics Modest fun _ => ofPointer? pointer :=
  .ite (.pure _) (.bind (adopt_modest _) fun _ => .pure _)

theorem drop_modest (m : Monitor) : Composed SameButPanics Modest fun native => m.drop native :=
  .bind (.act (.dropMonitor m)) fun _ => release_modest

end Monitor

theorem addOptional_modest (m : Option Monitor) :
    Composed SameButPanics Modest fun _ => addOptional m := by
  cases m with
  | none => exact .pure _
  | some m => exact .bind (addMonitor_modest m) fun _ => .pure _

theorem createWindow_small (r : WindowRequest) :
    Composed SameButPanics Small fun native => createWindow native r := by
  unfold createWindow
  cases r.hints.mapM id with
  | none => exact .pure _
  | some hints =>
    refine .bind .getTables fun t => .bind (Window.create_small _ _ _ _ _ _) fun outcome => ?_
    cases outcome with
    | error e => exact .pure _
    | ok w => exact .bind (addWindow_modest w).minor fun _ => .pure _

theorem clearWindow_modest (slot : Nat) :
    Composed SameButPanics Modest fun native => clearWindow native slot := by
  refine .bind (takeWindow_modest slot) fun w => ?_
  cases w with
  | none => exact .pure _
  | some w => exact .act (.dropWindow w)

theorem clearMonitor_modest (slot : Nat) :
    Composed SameButPanics Modest fun native => clearMonitor native slot := by
  refine .bind (takeMonitor_modest slot) fun m => ?_
  cases m with
  | none => exact .pure _
  | some m => exact m.drop_modest

theorem clearLibrary_modest (slot : Nat) :
    Composed SameButPanics Modest fun native => clearLibrary native slot := by
  refine .bind (takeLibrary_modest slot) fun l => ?_
  cases l with
  | none => exact .pure _
  | some l => exact l.drop_modest

theorem dropWindow_modest (slot : Nat) :
    Composed SameButPanics Modest fun native => dropWindow native slot :=
  .bind (clearWindow_modest slot) fun _ => .pure _

theorem dropMonitor_modest (slot : Nat) :
    Composed SameButPanics Modest fun native => dropMonitor native slot :=
  .bind (clearMonitor_modest slot) fun _ => .pure _

theorem dropLibrary_modest (slot : Nat) :
    Composed SameButPanics Modest fun native => dropLibrary native slot :=
  .bind .getTables fun _ => .ite (.pure _) (.bind (clearLibrary_modest slot) fun _ => .pure _)

/-- A thread drops what is in its slots, but for contexts. -/
def emptied (native : Backend) (t : Tables) : M Unit := do
  (List.range t.windows.length).forM fun slot => clearWindow native slot
  (List.range t.monitors.length).forM fun slot => clearMonitor native slot
  (List.range t.libraries.length).forM fun slot => clearLibrary native slot

theorem finish_modest (panicked : Bool) :
    Composed SameButPanics Modest fun native => finish native panicked := by
  refine .bind .getTables fun _ => ?_
  refine .bind (clearContexts_aside _).asideModest fun _ => ?_
  refine .bind .getTables fun _ => ?_
  refine .bind (.act (.tables _)) fun _ => ?_
  refine .bind (.forM clearWindow_modest _) fun _ => ?_
  refine .bind (.forM clearMonitor_modest _) fun _ => ?_
  refine .bind (.forM clearLibrary_modest _) fun _ => ?_
  exact .pure _

/-- The operations that look at the pending error, or make unchecked calls. -/
def Client.Op.loud : Op → Bool
  | .init | .tryInit | .getError | .getVersion | .getVersionString | .getTime
  | .library _ (.createWindow _) | .window _ .userPointer | .window _ (.setUserPointer _) => true
  | _ => false

/-- The operations that neither pump nor run another thread. -/
def Client.Op.small : Op → Bool
  | .pump .. | .onThread _ => false
  | _ => true

/-- The contexts of a window that stays do not matter. -/
theorem runWindow_kept {native : Backend} {slot : Nat} {op : WindowOp} (hop : op ≠ .drop) :
    runWindow native slot op = do
      let t ← getTables
      match occupant t.windows slot with
      | some w => operateWindow native slot w op
      | none => return .refused .noWindow := by
  cases op <;> first | rfl | exact absurd rfl hop

theorem runLibrary_modest (slot : Nat) (op : LibraryOp) (h : (Op.library slot op).loud = false) :
    Composed SameButPanics Modest fun native => runLibrary native slot op := by
  refine .bind .getTables fun t => .ite (.pure _) ?_
  cases op with
  | drop => exact dropLibrary_modest slot
  | getMonitors =>
    exact .answering (.bind (.bind (Attempts.checked ⟨rfl, rfl, rfl⟩).modest fun _ =>
      .mapM (fun _ => .lift (Monitor.adopt_modest _)) _) fun _ =>
      .mapM (fun _ => .lift (addMonitor_modest _)) _)
  | getPrimaryMonitor =>
    exact .answering (.bind (.bind (Attempts.checked ⟨rfl, rfl, rfl⟩).modest fun _ =>
      .lift (Monitor.ofPointer?_modest _)) fun _ => .lift (addOptional_modest _))
  | createWindow r => cases h
  | _ => exact (operateLibrary_asks slot _ rfl).modest

theorem runWindow_modest (slot : Nat) (op : WindowOp) (h : (Op.window slot op).loud = false) :
    Composed SameButPanics Modest fun native => runWindow native slot op := by
  refine .bind .getTables fun t => .ite (.pure _) ?_
  cases occupant t.windows slot with
  | none => exact .pure _
  | some w =>
    cases op with
    | userPointer | setUserPointer _ => cases h
    | drop => exact dropWindow_modest slot
    | lendContext => exact (lendContext_aside slot w).asideModest
    | getMonitor =>
      exact .answering (.bind (.bind (Attempts.checked ⟨rfl, rfl, rfl⟩).modest fun _ =>
        .lift (Monitor.ofPointer?_modest _)) fun _ => .lift (addOptional_modest _))
    | _ => exact (operateWindow_asks slot w _ rfl).modest

theorem runMonitor_modest (slot : Nat) (op : MonitorOp) :
    Composed SameButPanics Modest fun native => runMonitor native slot op := by
  refine .bind .getTables fun t => ?_
  cases occupant t.monitors slot with
  | none => exact .pure _
  | some m =>
    cases op with
    | drop => exact dropMonitor_modest slot
    | _ => exact (operateMonitor_asks slot m _ rfl).modest

theorem runContext_modest (slot : Nat) (op : ContextOp) :
    Composed SameButPanics Modest fun native => runContext native slot op := by
  refine .bind .getTables fun t => ?_
  cases occupant t.contexts slot with
  | none => exact .pure _
  | some c =>
    cases op with
    | drop => exact (dropContextIn_aside slot _).asideModest
    | _ => exact (operateContext_asks slot _ _ rfl).modest

/-- All other operations leave the pending error alone. -/
theorem runOp_modest (op : Op) (hs : op.small = true) (h : op.loud = false) :
    Composed SameButPanics Modest fun native => runOp native op := by
  cases op with
  | pump | onThread => cases hs
  | init | tryInit | getError | getVersion | getVersionString | getTime => cases h
  | detachCurrent | current | swapInterval _ | extensionSupported _ | getProcAddress _ =>
    exact (runOp_asks _ rfl).elim fun _ asks => asks.2.modest
  | panic message => exact (panic_aside message).asideModest
  | library slot op => exact runLibrary_modest slot op h
  | window slot op => exact runWindow_modest slot op h
  | monitor slot op => exact runMonitor_modest slot op
  | context slot op => exact runContext_modest slot op

theorem runLibrary_small (slot : Nat) (op : LibraryOp) :
    Composed SameButPanics Small fun native => runLibrary native slot op := by
  cases op with
  | createWindow r => exact .bind .getTables fun t => .ite (.pure _) (createWindow_small r)
  | _ => exact (runLibrary_modest slot _ rfl).minor

theorem runWindow_small (slot : Nat) (op : WindowOp) :
    Composed SameButPanics Small fun native => runWindow native slot op := by
  by_cases h : (Op.window slot op).loud = true
  · refine .bind .getTables fun t => .ite (.pure _) ?_
    cases occupant t.windows slot with
    | none => exact .pure _
    | some w =>
      cases op with
      | userPointer => exact (userPointer_tells slot w).telling.small
      | setUserPointer pointer => exact (setUserPointer_tells slot w pointer).telling.small
      | _ => cases h
  · exact (runWindow_modest slot op (by simpa using h)).minor

theorem runOp_small (op : Op) (h : op.small = true) :
    Composed SameButPanics Small fun native => runOp native op := by
  cases op with
  | pump | onThread => cases h
  | init => exact runInit_small
  | tryInit => exact runTryInit_small
  | getError => exact (Composed.answering lastError_quiet).small
  | getVersion => exact .bind version_tells.telling.small fun _ => .pure _
  | getVersionString => exact .bind versionString_tells.telling.small fun _ => .pure _
  | getTime => exact .bind time_tells.telling.small fun _ => .pure _
  | library slot op => exact runLibrary_small slot op
  | window slot op => exact runWindow_small slot op
  | _ => exact (runOp_modest _ rfl rfl).minor

end Small

/-! ### Pumps and steps -/

theorem final_pump_refused {kind : PumpKind} {handler : Handler} {p : Process}
    (h : p.locals.dispatching = true) : final (pump native kind handler).run p = p := by
  simp [pump, ExceptT.run_bind, h]

/-- A pump that is not refused processes events; what it takes from the handler is the panic. -/
theorem final_pump {kind : PumpKind} {handler : Handler} {p : Process}
    (h : ¬p.locals.dispatching = true) : final (pump native kind handler).run p =
      final takePanic (final (processEvents native kind.call handler) p) := by
  simp only [pump, bind_pure_comp, ExceptT.map_throw, ExceptT.run_bind, ExceptT.run_liftM,
    bind_map_left, final_bind, result_getLocals, h, Bool.false_eq_true, ↓reduceIte,
    final_getLocals]
  cases result takePanic (final (processEvents native kind.call handler) p) <;> rfl

/-- The process in which a new thread starts. -/
def Process.withThread (p : Process) (contexts : List (Option (Context × Nat))) : Process :=
  { p with threads := p.threads.set p.freshThread { tables := { contexts }, spawned := true } }

theorem withThread_fresh (p : Process) (contexts : List (Option (Context × Nat))) :
    (p.withThread contexts).threads.get p.freshThread = { tables := { contexts }, spawned := true } :=
  Registry.get_set_self _ _ _

theorem withThread_of_ne {p : Process} {u : ThreadId} (hu : u ≠ p.freshThread)
    (contexts : List (Option (Context × Nat))) :
    (p.withThread contexts).threads.get u = p.threads.get u :=
  Registry.get_set_of_ne _ hu _

theorem final_spawn (contexts : List (Option (Context × Nat))) (body : M (Option String))
    (p : Process) : final (spawn native contexts body) p =
      { final (onThread p.freshThread (catchUnwind (runToEnd native body)))
        (p.withThread contexts) with
        threads := (final (onThread p.freshThread (catchUnwind (runToEnd native body)))
          (p.withThread contexts)).threads.erase p.freshThread } :=
  rfl

theorem final_endThread (thread : ThreadId) (panic : Option String) (p : Process) :
    final (endThread native thread panic) p =
      { final catchPanic ((final (finish native true) p).note (.threadEnded panic)) with
        threads := (final (finish native true) p).threads.erase thread } :=
  rfl

/-- A law that composition keeps, and that operations, pumps and threads obey. -/
structure StepLaw (native : Backend) (P : (α : Type) → M α → Prop) : Prop where
  pure : ∀ {α : Type} (a : α), P α (Pure.pure a)
  bind : ∀ {α β : Type} {m : M α} {f : α → M β}, P α m → (∀ a, P β (f a)) → P β (m >>= f)
  operation : ∀ op : Op, op.small = true → P Outcome (runOp native op)
  pump : ∀ (slot : Nat) (kind : PumpKind) (reactions : List (List Step)),
    P Outcome (runPump native slot kind reactions)
  thread : ∀ body : M (Option String), P _ body → P Outcome (runThread native body)
  step : ∀ (script : Script) (op : Op), P Outcome (runOp native op) →
    P Outcome (runStep native (.mk script op))

namespace StepLaw

variable {P : (α : Type) → M α → Prop} (law : StepLaw native P)

include law

mutual

theorem runOp : ∀ op : Op, P Outcome (runOp native op)
  | .pump slot kind reactions => law.pump slot kind reactions
  | .onThread steps => law.thread _ (runSteps steps)
  | .init | .tryInit | .getError | .getVersion | .getVersionString | .getTime | .detachCurrent
  | .current | .swapInterval _ | .extensionSupported _ | .getProcAddress _ | .panic _
  | .library _ _ | .window _ _ | .monitor _ _ | .context _ _ => law.operation _ rfl

theorem runStep : ∀ step : Step, P Outcome (runStep native step)
  | .mk script op => law.step script op (runOp op)

theorem runSteps : ∀ steps : List Step, P (Option String) (runSteps native steps)
  | [] => law.pure none
  | step :: rest => by
    refine law.bind (runStep step) fun outcome => ?_
    have later := runSteps rest
    cases outcome with
    | panicking message => exact law.pure (some message)
    | _ => exact later

end

end StepLaw

end Windowing
