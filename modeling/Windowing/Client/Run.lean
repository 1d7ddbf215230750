import Windowing.Client.Tables
import Windowing.Joystick
import Windowing.Pump
import Windowing.Window
import Windowing.Window.Query

/-!
How a client's steps are carried out. The slot that a step names is looked up first, and a step
whose slot is empty or whose arguments name nothing is refused without any effect. A body of steps
ends early at a step that panics; then, as at its end, the thread drops the handles that it owns:
contexts, windows, monitors and libraries, each by slot.
-/

namespace Windowing.Client

open Native

def answering {α : Type} (f : α → Answer) (body : Attempt α) : M Outcome := do
  match ← body.run with
  | .ok a => return .answered (f a)
  | .error e => return .failed e

def done (body : Attempt Unit) : M Outcome :=
  answering (fun _ => .unit) body

def pairOfInts (p : Int32 × Int32) : Answer := .ints [p.1, p.2]

def pairOfReals (p : Float × Float) : Answer := .reals [p.1, p.2]

def nameOf (α : Type) [Coded α] (a : α) : Answer := .name (Coded.name a)

variable (native : Backend)

/-- A new slot for a monitor, if there is one. -/
def addOptional (m : Option Monitor) : M (Option Nat) :=
  match m with
  | some m => return some (← addMonitor m)
  | none => return none

/-! ### Library -/

def withJoystick (code : Int32) (body : Joystick → M Outcome) : M Outcome :=
  match Coded.ofCode? Joystick code with
  | some j => body j
  | none => return .refused .badJoystick

def createWindow (r : WindowRequest) : M Outcome := do
  match r.hints.mapM id with
  | none => return .refused .badHint
  | some hints =>
    let t ← getTables
    let monitor := r.monitor.bind (occupant t.monitors)
    let share := r.share.bind (occupant t.windows)
    match ← (Window.create native hints r.width r.height r.title monitor share).run with
    | .ok w => return .answered (.slot (← addWindow w))
    | .error e => return .createFailed e

/-- Empties a slot and drops the library that was in it. -/
def clearLibrary (slot : Nat) : M Unit := do
  if let some l ← takeLibrary slot then l.drop native

def dropLibrary (slot : Nat) : M Outcome := do
  if (← getTables).pumping = some slot then return .refused .inUse
  clearLibrary native slot
  return .answered .unit

/-- Operates on the library in a slot. -/
def operateLibrary (slot : Nat) : LibraryOp → M Outcome
  | .drop => dropLibrary native slot
  | .setTime time => done (setTime native time)
  | .getMonitors => answering .slots do (← Monitor.all native).mapM fun m => addMonitor m
  | .getPrimaryMonitor => answering .optionalSlot do addOptional (← Monitor.primary native)
  | .joystickPresent code => withJoystick code fun j => answering .flag (j.isPresent native)
  | .joystickAxes code => withJoystick code fun j => answering .singles (j.axes native)
  | .joystickButtons code =>
    withJoystick code fun j => answering (.names ∘ List.map Action.name) (j.buttons native)
  | .joystickName code => withJoystick code fun j => answering .optionalText (j.deviceName native)
  | .createWindow request => createWindow native request
  | .unknown => return .refused .unknownOperation

def runLibrary (slot : Nat) (op : LibraryOp) : M Outcome := do
  if (occupant (← getTables).libraries slot).isNone then return .refused .noLibrary
  operateLibrary native slot op

/-! ### Windows, monitors and contexts -/

/-- Empties a slot and drops the window that was in it. -/
def clearWindow (slot : Nat) : M Unit := do
  if let some w ← takeWindow slot then w.drop native

def dropWindow (slot : Nat) : M Outcome := do
  clearWindow native slot
  return .answered .unit

def identifyWindow (w : Window) (other : Nat) : M Outcome := do
  let o := ((occupant (← getTables).windows other).getD w).id
  return .answered (.windowIdentity ⟨w.pointer, w.id.text, compare w.id o, some (w.id = o)⟩)

/-- Operates on the window in a slot. -/
def operateWindow (slot : Nat) (w : Window) : WindowOp → M Outcome
  | .drop => dropWindow native slot
  | .lendContext => answering .slot do addContext (← Context.lend w) slot
  | .identify other => identifyWindow w other
  | .shouldClose => answering .flag (w.shouldClose native)
  | .setShouldClose value => done (w.setShouldClose native value)
  | .isFocused => answering .flag (w.isFocused native)
  | .isIconified => answering .flag (w.isIconified native)
  | .isVisible => answering .flag (w.isVisible native)
  | .isResizable => answering .flag (w.isResizable native)
  | .isDecorated => answering .flag (w.isDecorated native)
  | .isForwardCompat => answering .flag (w.isForwardCompat native)
  | .isDebugContext => answering .flag (w.isDebugContext native)
  | .state => answering .state (w.state native)
  | .clientApi => answering (nameOf ClientApi) (w.clientApi native)
  | .contextVersion => answering (fun v => .ints [v.1, v.2.1, v.2.2]) (w.contextVersion native)
  | .openGlProfile => answering (nameOf OpenGlProfile) (w.openGlProfile native)
  | .contextRobustness => answering (nameOf ContextRobustness) (w.contextRobustness native)
  | .makeCurrent => done (w.makeContextCurrent native)
  | .swapBuffers => done (w.swapBuffers native)
  | .iconify => done (w.iconify native)
  | .restore => done (w.restore native)
  | .reveal => done (w.reveal native)
  | .hide => done (w.hide native)
  | .setTitle title => done (w.setTitle native title)
  | .getPos => answering pairOfInts (w.pos native)
  | .setPos x y => done (w.setPos native x y)
  | .getSize => answering pairOfInts (w.size native)
  | .setSize width height => done (w.setSize native width height)
  | .getCursorPos => answering pairOfReals (w.cursorPos native)
  | .setCursorPos x y => done (w.setCursorPos native x y)
  | .getMonitor => answering .optionalSlot do addOptional (← w.monitor native)
  | .userPointer => return .answered (.pointer (← w.userPointer native))
  | .setUserPointer pointer => do
    w.setUserPointer native pointer
    return .answered .unit
  | .getClipboard => answering .optionalText (w.clipboard native)
  | .setClipboard text => done (w.setClipboard native text)
  | .getCursorMode => answering (nameOf CursorMode) (w.cursorMode native)
  | .setCursorMode code =>
    match Coded.ofCode? CursorMode code with
    | some mode => done (w.setCursorMode native mode)
    | none => return .refused .badMode
  | .stickyKeys => answering .flag (w.stickyKeys native)
  | .setStickyKeys value => done (w.setStickyKeys native value)
  | .stickyMouseButtons => answering .flag (w.stickyMouseButtons native)
  | .setStickyMouseButtons value => done (w.setStickyMouseButtons native value)
  | .getKey code =>
    match Coded.ofCode? Key code with
    | some key => answering (nameOf Action) (w.keyState native key)
    | none => return .refused .badKey
  | .getMouseButton code =>
    match Coded.ofCode? MouseButton code with
    | some button => answering (nameOf Action) (w.mouseButtonState native button)
    | none => return .refused .badButton
  | .unknown => return .refused .unknownOperation

def runWindow (slot : Nat) (op : WindowOp) : M Outcome := do
  let t ← getTables
  if op matches .drop && lendsFrom t slot then return .refused .contextHeld
  match occupant t.windows slot with
  | some w => operateWindow native slot w op
  | none => return .refused .noWindow

/-- Empties a slot and drops the monitor that was in it. -/
def clearMonitor (slot : Nat) : M Unit := do
  if let some m ← takeMonitor slot then m.drop native

def dropMonitor (slot : Nat) : M Outcome := do
  clearMonitor native slot
  return .answered .unit

/-- Without another monitor there is nothing to be equal to, and the order is the monitor's own. -/
def identifyMonitor (m : Monitor) (other : Nat) : M Outcome := do
  let o := occupant (← getTables).monitors other
  return .answered (.monitorIdentity ⟨m.pointer, m.id.text, compare m.id (o.getD m).id,
    o.map fun o => decide (m = o)⟩)

/-- Operates on the monitor in a slot. -/
def operateMonitor (slot : Nat) (m : Monitor) : MonitorOp → M Outcome
  | .drop => dropMonitor native slot
  | .identify other => identifyMonitor m other
  | .name => answering .text (m.name native)
  | .pos => answering pairOfInts (m.pos native)
  | .physicalSize => answering pairOfInts (m.physicalSize native)
  | .videoModes => answering .modes (m.videoModes native)
  | .videoMode => answering .mode (m.videoMode native)
  | .setGamma gamma => done (m.setGamma native gamma)
  | .getGammaRamp => answering .ramp (m.gammaRamp native)
  | .setGammaRamp (.table ramp) => done (m.setGammaRamp native ramp)
  | .setGammaRamp (.gamma gamma) =>
    done do m.setGammaRamp native (← liftExcept (GammaRamp.ofGamma gamma))
  | .unknown => return .refused .unknownOperation

def runMonitor (slot : Nat) (op : MonitorOp) : M Outcome := do
  match occupant (← getTables).monitors slot with
  | some m => operateMonitor native slot m op
  | none => return .refused .noMonitor

/-- Operates on the context in a slot. -/
def operateContext (slot : Nat) (c : Context) : ContextOp → M Outcome
  | .drop => do
    let _ ← takeContext slot
    c.drop
    return .answered .unit
  | .windowId => return .answered (.pointer c.pointer)
  | .makeCurrent => done (c.makeCurrent native)
  | .swapBuffers => done (c.swapBuffers native)
  | .unknown => return .refused .unknownOperation

def runContext (slot : Nat) (op : ContextOp) : M Outcome := do
  match occupant (← getTables).contexts slot with
  | some (c, _) => operateContext native slot c op
  | none => return .refused .noContext

/-! ### Pumps and threads -/

/-- The library whose pump runs is in use until the pump returns. -/
def runPump (slot : Nat) (kind : PumpKind) (handler : Handler) : M Outcome := do
  let t ← getTables
  if (occupant t.libraries slot).isNone then return .refused .noLibrary
  modifyTables fun t => { t with pumping := some slot }
  let result ← (pump native kind handler).run
  modifyTables fun now => { now with pumping := t.pumping }
  match result with
  | .ok (.ok ()) => return .answered .unit
  | .ok (.error e) => return .failed e
  | .error message => return .panicked message

/-- Drops the contexts that the choice picks. -/
def clearContexts (picked : Context → Bool) : M Unit := do
  let contexts := (← getTables).contexts
  (List.range contexts.length).forM fun slot => do
    if let some (c, _) := occupant contexts slot then
      if picked c then
        let _ ← takeContext slot
        c.drop

/-- Drops what the current thread owns. Unless it panicked, the contexts of other threads' windows
stay in their slots and are returned. -/
def finish (panicked : Bool) : M (List (Option (Context × Nat))) := do
  let t ← getTables
  let own := t.windows.filterMap fun w => w.map (·.key)
  clearContexts fun c => panicked || own.contains c.key
  let left := (← getTables).contexts
  let kept := if panicked then [] else left
  modifyTables fun t => { t with contexts := [] }
  (List.range t.windows.length).forM fun slot => clearWindow native slot
  (List.range t.monitors.length).forM fun slot => clearMonitor native slot
  (List.range t.libraries.length).forM fun slot => clearLibrary native slot
  return kept

/-- Runs the body of a thread, then drops what the thread owns. -/
def runToEnd (body : M (Option String)) :
    M (Option String × List (Option (Context × Nat))) := do
  let panic ← body
  let kept ← finish native panic.isSome
  note (.threadEnded panic)
  return (panic, kept)

/-- Runs a body on a new thread, which has nothing but the given contexts, and waits for its end. The
contexts that are left are returned. -/
def spawn (contexts : List (Option (Context × Nat))) (body : M (Option String)) :
    M (Option String × List (Option (Context × Nat))) := do
  let thread := (← get).freshThread
  modify fun p =>
    { p with threads := p.threads.set thread { tables := { contexts }, spawned := true } }
  let outcome ← onThread thread (catchUnwind (runToEnd native body))
  modify fun p => { p with threads := p.threads.erase thread }
  return outcome

/-- Runs a body on a new thread, which takes the contexts along. A context borrows its window, so the
thread that starts the new one waits for its end and keeps the windows meanwhile; a client starts no
thread on a thread that is waited for. -/
def runThread (body : M (Option String)) : M Outcome := do
  if (← get).here.spawned then return .refused .nestedThread
  let contexts := (← getTables).contexts
  modifyTables fun t => { t with contexts := [] }
  let (panic, kept) ← spawn native contexts body
  modifyTables fun t => { t with contexts := kept }
  return .joined panic

/-! ### Steps -/

/-- An initialization that has to wait for the lock does nothing until it has it. A client makes it
then; before, the step is refused. -/
def runInit : M Outcome := do
  if (← get).locked then return .refused .wouldDeadlock
  match ← Library.init native with
  | .ok l => return .answered (.slot (← addLibrary l))
  | .error e => return .initFailed e

def runTryInit : M Outcome := do
  match ← Library.tryInit native with
  | .ok l => return .answered (.slot (← addLibrary l))
  | .error e => return .tryInitFailed e

mutual

def runOp (native : Backend) : Op → M Outcome
  | .init => runInit native
  | .tryInit => runTryInit native
  | .getError => done lastError
  | .getVersion => return .answered (.ints (← version native))
  | .getVersionString => return .answered (.text (← Library.versionString native))
  | .getTime => return .answered (.time (← time native))
  | .detachCurrent => done (Context.detachCurrent native)
  | .current =>
    answering (fun w => .optionalPointer (w.map (·.address))) (Context.current native)
  | .swapInterval interval => done (Context.setSwapInterval native interval)
  | .extensionSupported name => answering .flag (Context.supportsExtension native name)
  | .getProcAddress name => answering .optionalPointer (Context.procAddress native name)
  | .panic message => do
    beginPanic
    return .panicking message
  | .onThread steps => runThread native (runSteps native steps)
  | .pump slot kind reactions => runPump native slot kind reactions
  | .library slot op => runLibrary native slot op
  | .window slot op => runWindow native slot op
  | .monitor slot op => runMonitor native slot op
  | .context slot op => runContext native slot op

def runStep (native : Backend) : Step → M Outcome
  | .mk script op => do
    note .stepStarted
    let outcome ← withScript script (runOp native op)
    note (.stepEnded outcome)
    return outcome

/-- Runs steps up to the first that panics, whose message is returned. -/
def runSteps (native : Backend) : List Step → M (Option String)
  | [] => return none
  | step :: rest => do
    match ← runStep native step with
    | .panicking message => return some message
    | _ => runSteps native rest

end

/-- Drops what a thread owns and forgets it. -/
def endThread (thread : ThreadId) (panic : Option String) : M Unit := do
  catchUnwind do
    let _ ← finish native true
    note (.threadEnded panic)
  modify fun p => { p with threads := p.threads.erase thread }

/-- Lets a thread run a body, unless it is in the middle of a step. -/
def interject (thread : ThreadId) (body : M Unit) : M Unit := do
  unless (← get).running.contains thread do
    onThread thread body

def runTurn : Turn → M Unit
  | .step thread step => interject thread do
    if let .panicking message ← runStep native step then
      endThread native thread (some message)
  | .finish thread => interject thread (endThread native thread none)

end Windowing.Client
