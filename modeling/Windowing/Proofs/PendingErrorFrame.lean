import Windowing.Proofs.ErrorAttribution
import Windowing.Proofs.ClientCode

/-!
The frame of the pending error. Whatever a client does, the error that was pending on its thread
before is pending afterwards, except that asking for it takes it, and that an initialization starts
anew. If none was pending, an operation leaves one behind only with its unchecked calls, and then
the first that was reported while they ran.
-/

namespace Windowing

open Native Client

variable {α β ε : Type} {native : Backend} {p : Process}

def Native.Call.registers : Call → Bool
  | .setWindowCallback .. => true
  | _ => false

/-- The registration of a window's callback. -/
def Happening.registers : Happening → Bool
  | .called call => call.registers
  | _ => false

/-- What happened in an operation while its unchecked calls ran. A window's creation makes them at
its end, to register the callbacks. -/
def Client.Op.unguarded (hs : List Happening) : Op → List Happening
  | .getVersion | .getVersionString | .getTime | .window _ .userPointer
  | .window _ (.setUserPointer _) => hs
  | .library _ (.createWindow _) => hs.dropWhile fun h => !h.registers
  | _ => []

/-! ### Operations whose calls are checked -/

/-- A computation that leaves the pending error of its thread alone. -/
def SparesPending (m : M α) : Prop :=
  ∀ p, p.current ∈ p.running → (final m p).running = p.running ∧
    (final m p).locals.pending = p.locals.pending

namespace SparesPending

theorem pure (a : α) : SparesPending (Pure.pure a : M α) := fun _ _ => ⟨rfl, rfl⟩

theorem look : SparesPending (get : M Process) := fun _ _ => ⟨rfl, rfl⟩

theorem bind {m : M α} {f : α → M β} (hm : SparesPending m) (hf : ∀ a, SparesPending (f a)) :
    SparesPending (m >>= f) := by
  intro p hr
  obtain ⟨running, pending⟩ := hm p hr
  have hcurrent : (final m p).current = p.current := Process.current_eq running
  obtain ⟨running', pending'⟩ := hf (result m p) (final m p) (by rw [hcurrent, running]; exact hr)
  exact ⟨running'.trans running, pending'.trans pending⟩

theorem ite {c : Prop} [Decidable c] {m n : M α} (hm : SparesPending m) (hn : SparesPending n) :
    SparesPending (if c then m else n) := by
  split
  · exact hm
  · exact hn

theorem forM {f : α → M Unit} (hf : ∀ a, SparesPending (f a)) (xs : List α) :
    SparesPending (xs.forM f) := by
  induction xs with
  | nil => exact pure _
  | cons x xs ih => exact bind (hf x) fun _ => ih

theorem composed {prim : (α : Type) → (Backend → M α) → Prop}
    (h : ∀ α m, prim α m → SparesPending (m native)) {m : Backend → M α}
    (hm : Composed SameButPanics prim m) : SparesPending (m native) := by
  induction hm with
  | pure a => exact .pure a
  | bind _ _ first rest => exact .bind first rest
  | look _ _ rest => exact .bind .look rest
  | act hm => exact h _ _ hm

theorem note (h : Happening) : SparesPending (note h) := fun _ _ => ⟨rfl, rfl⟩

theorem tables (f : Tables → Tables) : SparesPending (modifyTables f) := fun p _ =>
  ⟨rfl, congrArg Locals.pending (locals_modifyTables f p)⟩

theorem locals {f : Locals → Locals} (hf : ∀ s, (f s).pending = s.pending) :
    SparesPending (modifyLocals f) := fun p _ =>
  ⟨rfl, (congrArg Locals.pending (locals_modifyLocals f p)).trans (hf p.locals)⟩

theorem shared {f : Process → Process} (hf : ∀ p, SameThreads p (f p)) : SparesPending (modify f) :=
  fun p _ => ⟨(hf p).running, by rw [final_modify, (hf p).locals]⟩

theorem apart {m : M α} (hm : Apart m) : SparesPending m := by
  intro p hr
  obtain ⟨running, waits⟩ := hm p
  have hcurrent : (final m p).current = p.current := Process.current_eq running
  refine ⟨running, ?_⟩
  rw [Process.locals, Process.here, hcurrent, (waits _ hr).thread, Process.locals, Process.here]

variable (hc : ∀ call, Confined (native call))

include hc

theorem checked (call : Call) : SparesPending (Windowing.checked (native call)).run := fun p _ =>
  ⟨(Confined.closed.checked (hc call) p).running, pending_checked _ p⟩

theorem destroy (pointer : Pointer) : SparesPending (Window.destroy native pointer) := by
  refine .bind (checked hc _) fun outcome => ?_
  cases outcome with
  | ok reply => exact pure _
  | error e => exact note _

theorem release : SparesPending (release native) := by
  refine .bind (shared fun _ => ⟨rfl, rfl, rfl⟩) fun _ => .bind look fun _ => .ite ?_ (pure _)
  refine .bind (checked hc _) fun outcome => ?_
  cases outcome with
  | ok reply => exact shared fun _ => ⟨rfl, rfl, rfl⟩
  | error e => exact .bind (note _) fun _ => shared fun _ => ⟨rfl, rfl, rfl⟩

theorem modest {m : Backend → M α} (hm : Composed SameButPanics Modest m) :
    SparesPending (m native) := by
  refine composed (fun α m hm => ?_) hm
  cases hm with
  | attempt call => exact checked hc call
  | log l => exact note _
  | obtain h => exact note _
  | dropContext c => exact note _
  | dropLibrary l => exact note _
  | dropMonitor m => exact note _
  | tables f => exact tables f
  | shared hf => exact shared hf.threads
  | dropWindow w =>
    refine .bind (note _) fun _ => .bind (.bind look fun _ => pure _) fun s => .ite ?_ ?_
    · exact .bind (locals fun _ => rfl) fun _ => .bind (note _) fun _ => release hc
    · exact .bind (destroy hc _) fun _ => release hc

theorem processEvents (call : Call) (handler : Handler) :
    SparesPending (processEvents native call handler) := by
  refine .bind (locals fun _ => rfl) fun _ => ?_
  refine .bind (checked hc call) fun _ => ?_
  refine .bind (locals fun _ => rfl) fun _ => ?_
  refine .bind (.bind (.bind look fun _ => pure _) fun _ => .bind (locals fun _ => rfl) fun _ =>
    pure _) fun doomed => ?_
  refine .bind (.forM (destroy hc) doomed) fun _ => ?_
  exact pure _

/-- A pump is one checked call, whatever its handler does. -/
theorem pump (kind : PumpKind) (handler : Handler) : SparesPending (pump native kind handler).run :=
    by
  intro p hr
  by_cases busy : p.locals.dispatching = true
  · rw [final_pump_refused busy]
    exact ⟨rfl, rfl⟩
  · have taken : SparesPending takePanic :=
      .bind (.bind look fun _ => pure _) fun _ => .bind (locals fun _ => rfl) fun _ => pure _
    have both : SparesPending (do
        let _ ← Windowing.processEvents native kind.call handler
        takePanic) := bind (processEvents hc kind.call handler) fun _ => taken
    simpa only [final_pump busy, final_bind] using both p hr

theorem runPump (slot : Nat) (kind : PumpKind) (handler : Handler) :
    SparesPending (runPump native slot kind handler) := by
  refine .bind (.bind look fun _ => pure _) fun t => ?_
  refine .ite (pure _) ?_
  refine .bind (tables _) fun _ => ?_
  refine .bind (pump hc kind handler) fun outcome => ?_
  refine .bind (tables _) fun _ => ?_
  rcases outcome with message | (e | _) <;> exact pure _

theorem runThread {body : M (Option String)} (hb : Confined body) :
    SparesPending (runThread native body) := by
  refine .bind look fun _ => ?_
  refine .ite (pure _) ?_
  refine .bind (.bind look fun _ => pure _) fun t => ?_
  refine .bind (tables _) fun _ => ?_
  refine .bind (apart (Confined.spawn_apart hc _ hb)) fun _ => ?_
  refine .bind (tables _) fun _ => ?_
  refine pure _

theorem runOp (op : Op) (h : op.loud = false) : SparesPending (runOp native op) := by
  cases op with
  | pump slot kind reactions => exact runPump hc slot kind reactions
  | onThread steps => exact runThread hc ((Confined.law hc).runSteps steps)
  | init | tryInit | getError | getVersion | getVersionString | getTime => cases h
  | _ => exact modest hc (runOp_modest _ rfl h)

end SparesPending

/-! ### The creation of a window -/

/-- A computation that leaves the pending error alone and registers no callback. -/
def SparesPendingUnregistered (m : M α) : Prop :=
  ∀ p, p.current ∈ p.running → Deaf p → ∃ hs, (∀ h ∈ hs, h.registers = false) ∧
    Leaves p (final m p) hs ∧ (final m p).locals.pending = p.locals.pending

/-- A computation of which only the first error stays behind that was reported from its first
registration on. -/
def KeepsFirstReport (m : M α) : Prop :=
  ∀ p, p.current ∈ p.running → Deaf p → ∃ hs, Leaves p (final m p) hs ∧
    (final m p).locals.pending =
      (p.locals.pending <|> (reports (hs.dropWhile fun h => !h.registers)).head?)

namespace SparesPendingUnregistered

theorem pure (a : α) : SparesPendingUnregistered (Pure.pure a : M α) := fun _ _ _ =>
    ⟨[], by simp, .refl, rfl⟩

theorem look : SparesPendingUnregistered (get : M Process) := fun _ _ _ => ⟨[], by simp, .refl, rfl⟩

theorem bind {m : M α} {f : α → M β} (hm : SparesPendingUnregistered m)
    (hf : ∀ a, SparesPendingUnregistered (f a)) :
    SparesPendingUnregistered (m >>= f) := by
  intro p hr hd
  obtain ⟨hs, sparesUnregistered, left, pending⟩ := hm p hr hd
  obtain ⟨hs', sparesUnregistered', left', pending'⟩ :=
    hf (result m p) _ (left.mem_running hr) (left.deaf hd)
  refine ⟨hs ++ hs', fun h hh => ?_, left.trans left', pending'.trans pending⟩
  rcases List.mem_append.1 hh with hh | hh
  · exact sparesUnregistered h hh
  · exact sparesUnregistered' h hh

theorem composed {prim : (α : Type) → (Backend → M α) → Prop}
    (h : ∀ α m, prim α m → SparesPendingUnregistered (m native)) {m : Backend → M α}
    (hm : Composed SameButPanics prim m) : SparesPendingUnregistered (m native) := by
  induction hm with
  | pure a => exact .pure a
  | bind _ _ first rest => exact .bind first rest
  | look _ _ rest => exact .bind .look rest
  | act hm => exact h _ _ hm

theorem checked (h : LibraryOnlyReports native) {call : Call} (hcall : call.registers = false) :
    SparesPendingUnregistered (Windowing.checked (native call)).run := by
  intro p hr hd
  have taken : Leaves p (final takeError p) [] := .setPending none p
  obtain ⟨hs, unaffected, left, -⟩ := h call _ (taken.mem_running hr) (taken.deaf hd)
  have through := ((taken.trans left).trans (.setPending none _)).trans
    (.setPending p.locals.pending _)
  refine ⟨_, fun e he => ?_, through, pending_checked _ p⟩
  simp only [List.nil_append, List.append_nil] at he
  rcases List.mem_cons.1 he with rfl | he
  · exact hcall
  · cases e with
    | called c =>
      rcases unaffected _ he with rfl | rfl
      · exact hcall
      · rfl
    | _ => rfl

theorem asks (h : LibraryOnlyReports native) {m : Backend → M α}
    (hm : Composed SameButPanics (Asks [] []) m) : SparesPendingUnregistered (m native) := by
  refine composed (fun α m hm => ?_) hm
  cases hm with
  | attempt call about =>
    refine checked h ?_
    have unnamed := about.windows
    cases call <;> first | rfl | cases unnamed

end SparesPendingUnregistered

theorem dropWhile_registers {hs : List Happening} (h : ∀ h ∈ hs, h.registers = false)
    (hs' : List Happening) : (hs ++ hs').dropWhile (fun h => !h.registers) =
      hs'.dropWhile fun h => !h.registers :=
  List.dropWhile_append_of_pos fun e he => by simp [h e he]

theorem reports_dropWhile {hs' : List Happening} (h : reports hs' = []) (hs : List Happening) :
    reports ((hs ++ hs').dropWhile fun h => !h.registers) =
      reports (hs.dropWhile fun h => !h.registers) := by
  have silent : ∀ e ∈ hs', e.report? = none := List.filterMap_eq_nil_iff.1 h
  rw [List.dropWhile_append]
  split
  · next all =>
    have none : hs.dropWhile (fun h => !h.registers) = [] := by simpa using all
    rw [none]
    exact List.filterMap_eq_nil_iff.2 fun e he => silent e ((List.dropWhile_sublist _).subset he)
  · rw [reports_append, h, List.append_nil]

theorem Leaves.adopt (pointer : Pointer) (p : Process) :
    Leaves p (final (Window.adopt pointer) p) [.obtained (.window ⟨pointer, p.nextKey⟩)] := by
  have shared : Leaves p { p with nextKey := p.nextKey + 1, holders := p.holders + 1 } [] :=
    .of_sameThreads ⟨rfl, rfl, rfl⟩
  exact shared.trans (.note (h := .obtained (.window ⟨pointer, p.nextKey⟩)) rfl _)

/-- The registrations begin with the one for positions, and of all that they report only the first
error stays behind. -/
theorem listen_reports (h : LibraryOnlyReports native) (pointer : Pointer)
    (hr : p.current ∈ p.running) (hd : Deaf p) : ∃ later,
      (∀ e ∈ later, e.Serves (·.registers = true)) ∧
      Leaves p (final (Window.listen native pointer) p)
        (.called (.setWindowCallback pointer .pos) :: later) ∧
      (final (Window.listen native pointer) p).locals.pending =
        (p.locals.pending <|> (reports later).head?) := by
  have told : ∀ channel, Reports (·.registers = true) (do
      let _ ← native (.setWindowCallback pointer channel)) := fun channel =>
    .bind (h.reports rfl) fun _ => .pure _
  obtain ⟨hs, unaffected, left, pending⟩ := h (.setWindowCallback pointer .pos) p hr hd
  obtain ⟨hs', unaffected', left', pending'⟩ := Reports.forM told Channel.all.tail _
    (left.mem_running hr) (left.deaf hd)
  have both : (final (Window.listen native pointer) p).locals.pending =
      ((p.locals.pending <|> (reports hs).head?) <|> (reports hs').head?) :=
    pending ▸ pending'
  refine ⟨hs ++ hs', fun e he => ?_, left.trans left', ?_⟩
  · rcases List.mem_append.1 he with first | rest
    · exact (unaffected e first).mono fun _ same => same ▸ rfl
    · exact unaffected' e rest
  · rw [both, reports_append]
    cases p.locals.pending <;> cases reports hs <;> simp

namespace KeepsFirstReport

theorem sparesUnregistered {m : M α} (hm : SparesPendingUnregistered m) : KeepsFirstReport m := by
  intro p hr hd
  obtain ⟨hs, sparesUnregistered, left, pending⟩ := hm p hr hd
  refine ⟨hs, left, ?_⟩
  have none : hs.dropWhile (fun h => !h.registers) = [] := by
    simpa using dropWhile_registers sparesUnregistered []
  rw [none, pending]
  cases p.locals.pending <;> rfl

theorem after {m : M α} {f : α → M β} (hm : SparesPendingUnregistered m)
    (hf : ∀ a, KeepsFirstReport (f a)) :
    KeepsFirstReport (m >>= f) := by
  intro p hr hd
  obtain ⟨hs, sparesUnregistered, left, pending⟩ := hm p hr hd
  obtain ⟨hs', left', pending'⟩ := hf (result m p) _ (left.mem_running hr) (left.deaf hd)
  refine ⟨hs ++ hs', left.trans left', ?_⟩
  rw [dropWhile_registers sparesUnregistered, final_bind, pending', pending]

/-- Nothing more is reported. -/
theorem before {m : M α} {f : α → M β} (hm : KeepsFirstReport m)
    (hf : ∀ a p, ∃ hs, reports hs = [] ∧ Leaves p (final (f a) p) hs ∧
      (final (f a) p).locals.pending = p.locals.pending) : KeepsFirstReport (m >>= f) := by
  intro p hr hd
  obtain ⟨hs, left, pending⟩ := hm p hr hd
  obtain ⟨hs', silent, left', pending'⟩ := hf (result m p) (final m p)
  refine ⟨hs ++ hs', left.trans left', ?_⟩
  rw [reports_dropWhile silent, final_bind, pending', pending]

theorem attempt {x : ExceptT ε M α} {f : α → ExceptT ε M β} (hx : SparesPendingUnregistered x.run)
    (hf : ∀ a, KeepsFirstReport (f a).run) : KeepsFirstReport (x >>= f).run := by
  change KeepsFirstReport (x.run >>= ExceptT.bindCont f)
  refine after hx fun outcome => ?_
  cases outcome with
  | error e => exact sparesUnregistered (.pure _)
  | ok a => exact hf a

variable (h : LibraryOnlyReports native)

include h

theorem listen (pointer : Pointer) : KeepsFirstReport (Window.listen native pointer) := by
  intro p hr hd
  obtain ⟨later, -, left, pending⟩ := listen_reports h pointer hr hd
  exact ⟨_, left, pending⟩

theorem create (hints : List WindowHint) (width height : Int32) (title : String)
    (monitor : Option Monitor) (share : Option Window) :
    KeepsFirstReport (Window.create native hints width height title monitor share).run := by
  have asks : ∀ {α ε : Type} {x : Backend → ExceptT ε M α},
      Attempts SameButPanics (Asks [] []) x → SparesPendingUnregistered (x native).run := fun hx =>
        .asks h hx
  refine attempt (asks (.adapt _ (.liftExcept _))) fun _ =>
    attempt (asks (.adapt _ (.liftExcept _))) fun title =>
    attempt (asks (.adapt _ (.checked ⟨rfl, rfl, rfl⟩))) fun _ =>
    attempt (asks (Window.applyHints_asks _ _)) fun _ => attempt ?_ fun pointer => ?_
  · have native : Attempts SameButPanics (fun _ m => SparesPendingUnregistered (m native))
        fun native => Window.createNative native width height title monitor share :=
      .bind (Composed.act (.checked h rfl)) fun _ =>
        .ite (.bind (.fail _) fun _ => .pure _) (.pure _)
    exact .composed (fun _ _ hm => hm) (Attempts.adapt _ native)
  · have adopted : KeepsFirstReport (do
        Window.listen native pointer
        Window.adopt pointer) :=
      before (listen h pointer) fun _ p => ⟨_, rfl, .adopt pointer p, rfl⟩
    exact adopted

theorem createWindow (slot : Nat) (r : WindowRequest) :
    KeepsFirstReport (runLibrary native slot (.createWindow r)) := by
  have looks : SparesPendingUnregistered getTables := .bind .look fun _ => .pure _
  refine after looks fun t => ?_
  split
  · exact sparesUnregistered (.pure _)
  · simp only [operateLibrary, Client.createWindow]
    cases r.hints.mapM id with
    | none => exact sparesUnregistered (.pure _)
    | some hints =>
      refine after looks fun t =>
        before (create h hints r.width r.height r.title _ _) fun outcome p => ?_
      cases outcome with
      | error e => exact ⟨[], rfl, .refl, rfl⟩
      | ok w =>
        let add (t : Tables) : Tables := { t with windows := t.windows ++ [some w] }
        exact ⟨[], rfl, .tables add p, congrArg Locals.pending (locals_modifyTables add p)⟩

end KeepsFirstReport

/-! ### All operations -/

theorem Reports.tells (h : LibraryOnlyReports native) {windows : List Pointer} {m : Backend → M α}
    (hm : Composed SameButPanics (Tells windows) m) : Reports (fun _ => True) (m native) :=
  composed (fun _ _ hm => by
    cases hm with
    | call call => exact h.reports trivial) hm

/-- All calls of these operations are unchecked. -/
theorem runOp_reports (h : LibraryOnlyReports native) {op : Op} (loud : op.loud = true)
    (unguarded : ∀ hs, op.unguarded hs = hs) : Reports (fun _ => True) (runOp native op) := by
  have elsewhere : op.unguarded [.stepStarted] = [.stepStarted] := unguarded _
  cases op with
  | getVersion => exact .tells h (.bind version_tells fun _ => .pure _)
  | getVersionString => exact .tells h (.bind versionString_tells fun _ => .pure _)
  | getTime => exact .tells h (.bind time_tells fun _ => .pure _)
  | window slot op =>
    have told : (∀ w, Reports (fun _ => True) (operateWindow native slot w op)) → op ≠ .drop →
        Reports (fun _ => True) (runWindow native slot op) := fun told kept => by
      rw [runWindow_kept kept]
      refine .bind .getTables fun t => ?_
      cases occupant t.windows slot with
      | none => exact .pure _
      | some w => exact told w
    cases op with
    | userPointer => exact told (fun w => .tells h (userPointer_tells slot w)) nofun
    | setUserPointer pointer =>
      exact told (fun w => .tells h (setUserPointer_tells slot w pointer)) nofun
    | _ => cases loud
  | library slot op => cases op <;> cases elsewhere
  | _ => cases elsewhere

theorem unguarded_of_not_loud {op : Op} (h : op.loud = false) (hs : List Happening) :
    op.unguarded hs = [] := by
  cases op with
  | library slot op | window slot op => cases op <;> first | rfl | cases h
  | _ => first | rfl | cases h

theorem runOp_locked {op : Op} (h : op.initializes = true) (hl : p.locked = true) :
    final (runOp native op) p = p := by
  cases op with
  | init => exact congrArg Prod.snd (runInit_locked native hl)
  | tryInit => exact congrArg Prod.snd (runTryInit_locked native hl)
  | _ => cases h

/-- An operation leaves the error that was pending, or else the first that was reported while its
unchecked calls ran. -/
theorem runOp_pending (depth : Nat) {op : Op} (asked : op ≠ .getError)
    (locked : op.initializes = true → p.locked = true) (hr : p.current ∈ p.running) (hd : Deaf p) :
    (final (runOp (backend depth) op) p).locals.pending = (p.locals.pending <|>
      (reports (op.unguarded (during (runOp (backend depth) op) p))).head?) := by
  have answers := backend_answers depth
  by_cases quiet : op.loud = false
  · have none : (reports (op.unguarded (during (runOp (backend depth) op) p))).head? = none := by
      rw [unguarded_of_not_loud quiet]
      rfl
    rw [none, (SparesPending.runOp (backend_confined depth) op quiet p hr).2]
    cases p.locals.pending <;> rfl
  · have unchecked : (∀ hs, op.unguarded hs = hs) →
        (final (runOp (backend depth) op) p).locals.pending = (p.locals.pending <|>
          (reports (op.unguarded (during (runOp (backend depth) op) p))).head?) := by
      intro unguarded
      obtain ⟨hs, -, left, pending⟩ :=
        runOp_reports answers (by simpa using quiet) unguarded p hr hd
      rw [left.during_eq, unguarded, pending]
    have refused : op.initializes = true → (∀ hs, op.unguarded hs = []) →
        (final (runOp (backend depth) op) p).locals.pending = (p.locals.pending <|>
          (reports (op.unguarded (during (runOp (backend depth) op) p))).head?) := by
      intro begins unguarded
      rw [runOp_locked begins (locked begins), unguarded]
      cases p.locals.pending <;> rfl
    cases op with
    | init | tryInit => exact refused rfl fun _ => rfl
    | getError => exact absurd rfl asked
    | getVersion | getVersionString | getTime => exact unchecked fun _ => rfl
    | window slot op =>
      cases op with
      | userPointer | setUserPointer _ => exact unchecked fun _ => rfl
      | _ => exact absurd rfl quiet
    | library slot op =>
      cases op with
      | createWindow r =>
        obtain ⟨hs, left, pending⟩ := KeepsFirstReport.createWindow answers slot r p hr hd
        have same : during (runOp (backend depth) (.library slot (.createWindow r))) p = hs :=
          left.during_eq
        rw [same]
        exact pending
      | _ => exact absurd rfl quiet
    | _ => exact absurd rfl quiet

/-- Client code runs while no handler waits for events. The error that is pending on its thread
before an operation is pending afterwards, whatever the native library answers and reports, and
whatever the handlers of a pump do. If none was pending then none is, except for the first error
that was reported while unchecked calls of the operation ran. Nothing changes either when the thread
drops what it owns, at its end or because of a panic. -/
theorem pending_frame (depth : Nat) (p : Process) (hr : p.current ∈ p.running) (hd : Deaf p) :
    (∀ op : Op, op ≠ .getError → (op.initializes = true → p.locked = true) →
      (final (runOp (backend depth) op) p).locals.pending = (p.locals.pending <|>
        (reports (op.unguarded (during (runOp (backend depth) op) p))).head?)) ∧
    ∀ panicked, (final (finish (backend depth) panicked) p).locals.pending = p.locals.pending := by
  refine ⟨fun op asked locked => runOp_pending depth asked locked hr hd, fun panicked => ?_⟩
  exact (SparesPending.modest (backend_confined depth) (finish_modest panicked) p hr).2

/-- A thread whose next request for the version has two errors reported. -/
def troubled : Process where
  running := [0]
  errorCallback := true
  scripts := [⟨[("glfwGetVersion", [{ callbacks := [.error 0x70003 none, .error 0x70008 none] }])]⟩]

theorem pending_frame_troubled : troubled.current ∈ troubled.running ∧ Deaf troubled ∧
    (final (runOp (backend 1) .getVersion) troubled).locals.pending =
      some (.reported 0x70003 "") := by
  have left := (pending_frame 1 troubled (by decide) rfl).1 .getVersion nofun nofun
  exact ⟨by decide, rfl, left.trans (by decide +kernel)⟩

end Windowing
