import Windowing.Proofs.WaitingThreads

/-!
What the entries of one thread say about its event handler. A watch reads them one by one. It knows
whether a handler is installed, runs, or has panicked, which native calls are running, and whose
event's time they read. An entry that does not belong where it stands has no successor.
-/

namespace Windowing

open Native Client

/-- Where the events of a thread go: nowhere, to the handler, or nowhere because the handler runs or
has panicked. -/
inductive Stage where
  | outside | listening | handling | panicked
  deriving DecidableEq

/-- The event of a callback, if it can be decoded. -/
def Native.Callback.event? : Callback → Option Event
  | .error _ _ => none
  | .monitor m e => ((MonitorEvent.decode m e).map Event.monitor).toOption
  | .window w s => ((WindowEvent.decode s).map (Event.window ⟨w⟩)).toOption

structure Watch where
  stage : Stage := .outside
  /-- The event that was just fired, whose time is read next. -/
  armed : Option Event := none
  /-- The native calls that run, the innermost first, each with the event whose time it reads. -/
  frames : List (Call × Option Event) := []
  /-- What the handler receives next. -/
  owed : Option (Float × Event) := none
  deriving DecidableEq

namespace Watch

/-- No event is on its way to the handler. -/
structure Clear (w : Watch) : Prop where
  armed : w.armed = none
  owed : w.owed = none

instance (w : Watch) : Decidable w.Clear :=
  decidable_of_iff (w.armed = none ∧ w.owed = none) ⟨fun h => ⟨h.1, h.2⟩, fun h => ⟨h.1, h.2⟩⟩

/-- The event whose time a call reads. -/
def frame (w : Watch) (call : Call) : Option Event :=
  if call = .getTime then w.armed else none

/-- What the handler receives once the time of a frame is known. -/
def claim (w : Watch) (time : Float) (frame : Option Event) : Option (Float × Event) :=
  if w.stage = .listening then frame.map fun e => (time, e) else none

/-- The time of an event is read as soon as it is fired, and the event is handled as soon as its time
is known. -/
def step (w : Watch) : Happening → Option Watch
  | .called call =>
    if call.pumps then
      if w = {} then some { stage := .listening, frames := [(call, none)] } else none
    else if w.owed = none ∧ (w.armed = none ∨ call = .getTime) then
      some { w with armed := none, frames := (call, w.frame call) :: w.frames }
    else none
  | .returned call reply =>
    match w.frames with
    | [] => none
    | (running, frame) :: rest =>
      if ¬w.Clear ∨ call ≠ running ∨ w.stage = .handling ∧ frame.isSome then none
      else if call.pumps then
        if rest = [] ∧ (w.stage = .listening ∨ w.stage = .panicked) then some {} else none
      else some { w with frames := rest, owed := w.claim reply.time frame }
  | .invoked callback =>
    if w.Clear then
      some { w with armed := if w.stage = .listening then callback.event? else none }
    else none
  | .handling time event =>
    if w.armed = none ∧ w.owed = some (time, event) then
      some { w with stage := .handling, owed := none }
    else none
  | .handled panic =>
    if w.Clear ∧ w.stage = .handling then
      some { w with stage := if panic.isSome then .panicked else .listening }
    else none
  | _ => if w.Clear then some w else none

/-- The watch over a history, whose newest entry comes first. -/
def read : List Happening → Option Watch
  | [] => some {}
  | h :: older => (read older).bind (·.step h)

end Watch

/-- The locals of a thread at a stage. -/
structure Stage.Fits (stage : Stage) (s : Locals) : Prop where
  handler : s.handler.isSome = true ↔ stage ≠ .outside
  dispatching : s.dispatching = true ↔ stage = .handling
  panic : stage ≠ .outside → (s.panic.isSome = true ↔ stage = .panicked)

/-- Events go to the handler at one stage only. -/
theorem Stage.Fits.dropReason {stage : Stage} {s : Locals} (h : stage.Fits s) :
    s.dropReason = none ↔ stage = .listening := by
  obtain ⟨handler, dispatching, panic⟩ := h
  unfold Locals.dropReason
  cases hh : s.handler <;> cases hp : s.panic <;> cases stage <;> simp_all

theorem Stage.Fits.outside {stage : Stage} {s : Locals} (h : stage.Fits s)
    (absent : s.handler = none) : stage = .outside :=
  Decidable.byContradiction fun hne => by
    have installed := h.handler.2 hne
    rw [absent] at installed
    cases installed

/-- A thread on which no pump runs. -/
structure Locals.Idle (s : Locals) : Prop where
  handler : s.handler = none
  dispatching : s.dispatching = false
  panic : s.panic = none

theorem Locals.Idle.fits {s : Locals} (h : s.Idle) : Stage.outside.Fits s :=
  ⟨by simp [h.handler], by simp [h.dispatching], by simp⟩

theorem Stage.Fits.idle {s : Locals} (h : Stage.outside.Fits s) (hp : s.panic = none) : s.Idle :=
  ⟨by simpa using h.handler, by simpa using h.dispatching, hp⟩

def Process.watch (p : Process) (t : ThreadId) : Option Watch :=
  Watch.read (p.entriesOf t)

/-- Nothing happens on the thread, and nothing that happened on it awaits an answer. -/
structure Calm (p : Process) (t : ThreadId) : Prop where
  watch : p.watch t = some {}
  idle : (p.threads.get t).locals.Idle

def AllCalm (p : Process) : Prop :=
  ∀ t ∉ p.running, Calm p t

/-- What is seen of the current thread: its watch, and the stage of its locals. -/
structure View (p : Process) (w : Watch) (stage : Stage) : Prop where
  running : p.current ∈ p.running
  watch : p.watch p.current = some w
  fits : stage.Fits p.locals

/-- The locals and the watch are at the same stage. -/
abbrev Sight (p : Process) (w : Watch) : Prop := View p w w.stage

/-- A client's code runs on the current thread, in a handler or outside all pumps. -/
structure AtWork (p : Process) (w : Watch) : Prop where
  sight : Sight p w
  clear : w.Clear
  place : w.stage = .handling ∨ w = {} ∧ p.locals.panic = none

theorem AtWork.outside {p : Process} {w : Watch} (h : AtWork p w)
    (quiet : ¬p.locals.dispatching = true) : w = {} ∧ p.locals.panic = none :=
  h.place.resolve_left fun handling => quiet (h.sight.fits.dispatching.2 handling)

def Thread.withPending (t : Thread) (pending : Option Error) : Thread :=
  { t with locals := { t.locals with pending } }

/-- The current thread is the same but for its pending error. -/
def SamePlace (p q : Process) : Prop :=
  ∃ pending, q.here = p.here.withPending pending

theorem SamePlace.rfl {p : Process} : SamePlace p p := ⟨p.locals.pending, Eq.refl _⟩

theorem SamePlace.trans {p q r : Process} (h : SamePlace p q) (h' : SamePlace q r) :
    SamePlace p r := by
  obtain ⟨_, h⟩ := h
  obtain ⟨e, h'⟩ := h'
  exact ⟨e, by rw [h', h, Thread.withPending, Thread.withPending, Thread.withPending]⟩

theorem SamePlace.of_here {p q : Process} (h : q.here = p.here) : SamePlace p q :=
  ⟨p.locals.pending, h⟩

/-! ### Small changes -/

section Changes

variable {p q : Process} {w w' : Watch} {stage stage' : Stage} {t : ThreadId}

theorem SameThreads.watch (h : SameThreads p q) (t : ThreadId) : q.watch t = p.watch t := by
  rw [Process.watch, Process.entriesOf, h.history, Process.watch, Process.entriesOf]

theorem SameThreads.allCalm (h : SameThreads p q) (hp : AllCalm p) : AllCalm q := by
  intro t ht
  obtain ⟨hw, hi⟩ := hp t (h.running ▸ ht)
  exact ⟨(h.watch t).trans hw, h.threads ▸ hi⟩

theorem SameThreads.view (h : SameThreads p q) (hp : View p w stage) : View q w stage :=
  ⟨by rw [h.current, h.running]; exact hp.running, by rw [h.current, h.watch]; exact hp.watch,
    by rw [h.locals]; exact hp.fits⟩

theorem Undisturbed.watch (h : Undisturbed t p q) : q.watch t = p.watch t := by
  rw [Process.watch, h.entries, Process.watch]

theorem Undisturbed.calm (h : Undisturbed t p q) (hp : Calm p t) : Calm q t :=
  ⟨h.watch.trans hp.watch, h.thread ▸ hp.idle⟩

theorem Undisturbed.view (h : Undisturbed p.current p q) (hr : q.running = p.running)
    (hp : View p w stage) : View q w stage := by
  have hcurrent : q.current = p.current := Process.current_eq hr
  refine ⟨by rw [hcurrent, hr]; exact hp.running, by rw [hcurrent, h.watch]; exact hp.watch, ?_⟩
  rw [Process.locals, Process.here, hcurrent, h.thread]
  exact hp.fits

theorem Undisturbed.atWork (h : Undisturbed p.current p q) (hr : q.running = p.running)
    (hp : AtWork p w) : AtWork q w := by
  have hcurrent : q.current = p.current := Process.current_eq hr
  refine ⟨h.view hr hp.sight, hp.clear, hp.place.imp id fun hpl => ⟨hpl.1, ?_⟩⟩
  rw [Process.locals, Process.here, hcurrent, h.thread]
  exact hpl.2

/-- A resting thread may be set up anew or forgotten. -/
theorem allCalm_threads (hp : AllCalm p) {threads : Registry Thread}
    (same : ∀ u, u ≠ t → threads.get u = p.threads.get u) (idle : (threads.get t).locals.Idle) :
    AllCalm { p with threads := threads } := by
  intro u hu
  obtain ⟨hw, hi⟩ := hp u hu
  refine ⟨hw, ?_⟩
  by_cases heq : u = t
  · exact heq ▸ idle
  · exact (same u heq) ▸ hi

theorem allCalm_withThread (hp : AllCalm p) (contexts : List (Option (Context × Nat))) :
    AllCalm (p.withThread contexts) := by
  have idle : ((p.withThread contexts).threads.get p.freshThread).locals.Idle := by
    rw [withThread_fresh]
    exact ⟨rfl, rfl, rfl⟩
  exact allCalm_threads hp (fun u hu => withThread_of_ne hu contexts) idle

theorem watch_note (p : Process) (h : Happening) :
    (p.note h).watch p.current = (p.watch p.current).bind (·.step h) := by
  rw [Process.watch, entriesOf_note_self, Watch.read, Process.watch]

theorem allCalm_note (hp : AllCalm p) (hr : p.current ∈ p.running) (h : Happening) :
    AllCalm (p.note h) := by
  intro t ht
  have hne : t ≠ p.current := fun heq => ht (heq ▸ hr)
  have same : Undisturbed t p (p.note h) := ⟨rfl, entriesOf_note_of_ne p h hne⟩
  exact same.calm (hp t ht)

theorem View.note (hp : View p w stage) {h : Happening} (hw : w.step h = some w') :
    View (p.note h) w' stage := by
  refine ⟨hp.running, (watch_note p h).trans ?_, hp.fits⟩
  rw [hp.watch]
  exact hw

theorem allCalm_setHere (hp : AllCalm p) (hr : p.current ∈ p.running) (t : Thread) :
    AllCalm (p.setHere t) := by
  intro u hu
  have hne : u ≠ p.current := fun heq => hu (heq ▸ hr)
  have same : Undisturbed u p (p.setHere t) := ⟨Registry.get_set_of_ne _ hne _, rfl⟩
  exact same.calm (hp u hu)

theorem View.setHere (hp : View p w stage) {t : Thread} (hf : stage'.Fits t.locals) :
    View (p.setHere t) w stage' :=
  ⟨hp.running, hp.watch, by rw [Process.locals, Process.here_setHere]; exact hf⟩

theorem View.modifyLocals (hv : View p w stage) (hp : AllCalm p) (next : Stage)
    (f : Locals → Locals) (hf : next.Fits (f p.locals)) :
    AllCalm (final (modifyLocals f) p) ∧ View (final (modifyLocals f) p) w next :=
  ⟨allCalm_setHere hp hv.running _, hv.setHere hf⟩

end Changes

end Windowing
