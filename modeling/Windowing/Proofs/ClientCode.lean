import Windowing.Proofs.WindowDestruction

/-!
What client code does to the state of its own thread. Client code runs while no handler waits for
events. Callbacks then only report errors, so a native call changes nothing on the thread but its
pending error, and an operation that neither pumps nor runs another thread changes nothing more,
except that the windows dropped in a handler are left to the pump.
-/

namespace Windowing

open Native Client

variable {α β : Type} {native : Backend} {p q r : Process} {hs hs' : List Happening}
  {about about' : Call → Prop}

/-- The error that an entry reports. -/
def Happening.report? : Happening → Option Error
  | .invoked (.error code description) =>
    some (.reported code ((description.map Text.read).getD ""))
  | _ => none

def reports (entries : List Happening) : List Error :=
  entries.filterMap Happening.report?

/-- What happens on the current thread while a computation runs. -/
def during (m : M α) (p : Process) : List Happening :=
  ((final m p).entriesOf p.current).reverse.drop (p.entriesOf p.current).length

theorem during_of_entries {m : M α}
    (h : (final m p).entriesOf p.current = hs.reverse ++ p.entriesOf p.current) :
    during m p = hs := by
  rw [during, h, List.reverse_append, List.reverse_reverse, List.drop_left' List.length_reverse]

/-- An entry that calls may have while no handler waits: the calls themselves, callbacks, the times
of events, and warnings. -/
def Happening.Serves (about : Call → Prop) : Happening → Prop
  | .called call | .returned call _ => about call ∨ call = .getTime
  | .invoked _ | .logged _ => True
  | _ => False

/-- No handler of the current thread waits for events. -/
def Deaf (p : Process) : Prop :=
  p.locals.dropReason.isSome = true

/-- The current thread did what the entries say, after which another error may be pending and the
windows that were dropped in a handler wait to be destroyed. -/
structure Leaves (p q : Process) (hs : List Happening) : Prop where
  running : q.running = p.running
  entries : q.entriesOf p.current = hs.reverse ++ p.entriesOf p.current
  handler : q.locals.handler = p.locals.handler
  dispatching : q.locals.dispatching = p.locals.dispatching
  panic : q.locals.panic = p.locals.panic
  deferred : q.locals.deferred = p.locals.deferred ++
    if p.locals.dispatching then hs.filterMap Happening.doomed? else []

namespace Leaves

theorem current (h : Leaves p q hs) : q.current = p.current := Process.current_eq h.running

theorem mem_running (h : Leaves p q hs) (hr : p.current ∈ p.running) : q.current ∈ q.running := by
  rw [h.current, h.running]
  exact hr

theorem dropReason (h : Leaves p q hs) : q.locals.dropReason = p.locals.dropReason := by
  unfold Locals.dropReason
  rw [h.handler, h.panic, h.dispatching]

theorem deaf (h : Leaves p q hs) (hd : Deaf p) : Deaf q := by
  rw [Deaf, h.dropReason]
  exact hd

theorem trans (h : Leaves p q hs) (h' : Leaves q r hs') : Leaves p r (hs ++ hs') where
  running := h'.running.trans h.running
  entries := by
    have later := h'.entries
    rw [h.current, h.entries] at later
    rw [later, List.reverse_append, List.append_assoc]
  handler := h'.handler.trans h.handler
  dispatching := h'.dispatching.trans h.dispatching
  panic := h'.panic.trans h.panic
  deferred := by
    rw [h'.deferred, h.deferred, h.dispatching]
    cases p.locals.dispatching <;> simp

/-- The entries are what happened meanwhile. -/
theorem during_eq {m : M α} (h : Leaves p (final m p) hs) : during m p = hs :=
  during_of_entries h.entries

theorem of_here (running : q.running = p.running)
    (entries : q.entriesOf p.current = p.entriesOf p.current) (here : q.here = p.here) :
    Leaves p q [] := by
  have same : q.locals = p.locals := by rw [Process.locals, here, Process.locals]
  exact ⟨running, entries, by rw [same], by rw [same], by rw [same], by simp [same]⟩

theorem refl : Leaves p p [] := of_here rfl rfl rfl

theorem of_sameThreads (h : SameThreads p q) : Leaves p q [] :=
  of_here h.running (h.undisturbed p.current).entries h.here

theorem of_apart {m : M α} (h : Apart m) (hr : p.current ∈ p.running) : Leaves p (final m p) [] := by
  obtain ⟨running, waits⟩ := h p
  have same := waits p.current hr
  have hcurrent : (final m p).current = p.current := Process.current_eq running
  exact of_here running same.entries (by rw [Process.here, hcurrent, same.thread, Process.here])

theorem note {h : Happening} (hd : h.doomed? = none) (p : Process) : Leaves p (p.note h) [h] :=
  ⟨rfl, entriesOf_note_self p h, rfl, rfl, rfl, by simp [hd]⟩

theorem setPending (e : Option Error) (p : Process) : Leaves p (final (setPending e) p) [] := by
  have locals := locals_setPending e p
  exact ⟨rfl, rfl, by rw [locals], by rw [locals], by rw [locals], by simp [locals]⟩

theorem tables (f : Tables → Tables) (p : Process) : Leaves p (final (modifyTables f) p) [] := by
  have locals := locals_modifyTables f p
  exact ⟨rfl, rfl, by rw [locals], by rw [locals], by rw [locals], by simp [locals]⟩

end Leaves

/-! ### Native calls -/

/-- A computation that makes no calls but the given ones, and of which only the first reported error
stays behind, unless an error was pending already. -/
def Reports (about : Call → Prop) (m : M α) : Prop :=
  ∀ p, p.current ∈ p.running → Deaf p → ∃ hs, (∀ h ∈ hs, h.Serves about) ∧
    Leaves p (final m p) hs ∧
    (final m p).locals.pending = (p.locals.pending <|> (reports hs).head?)

/-- A library whose calls only report errors as long as no handler waits for events. -/
def LibraryOnlyReports (native : Backend) : Prop :=
  ∀ call p, p.current ∈ p.running → Deaf p → ∃ hs, (∀ h ∈ hs, h.Serves (· = call)) ∧
    Leaves p (final (native call) p) (.called call :: hs) ∧
    (final (native call) p).locals.pending = (p.locals.pending <|> (reports hs).head?)

theorem reports_append (hs hs' : List Happening) :
    reports (hs ++ hs') = reports hs ++ reports hs' :=
  List.filterMap_append

theorem Happening.Serves.mono (sub : ∀ call, about call → about' call) {h : Happening}
    (hh : h.Serves about) : h.Serves about' := by
  cases h with
  | called call | returned call reply => exact hh.imp (sub call) id
  | invoked _ | logged _ => trivial
  | _ => exact hh

theorem LibraryOnlyReports.reports (h : LibraryOnlyReports native) {call : Call} (hc : about call) :
    Reports about (native call) := by
  intro p hr hd
  obtain ⟨hs, unaffected, left, pending⟩ := h call p hr hd
  refine ⟨.called call :: hs, fun e he => ?_, left, pending⟩
  rcases List.mem_cons.1 he with rfl | he
  · exact .inl hc
  · exact (unaffected e he).mono fun _ same => same ▸ hc

namespace Reports

theorem silent {m : M α} (left : ∀ p, p.current ∈ p.running → Leaves p (final m p) [])
    (same : ∀ p, p.current ∈ p.running → (final m p).locals.pending = p.locals.pending) :
    Reports about m := by
  intro p hr _
  refine ⟨[], by simp, left p hr, ?_⟩
  rw [same p hr]
  cases p.locals.pending <;> rfl

theorem pure (a : α) : Reports about (Pure.pure a : M α) :=
  silent (fun _ _ => .refl) fun _ _ => rfl

theorem bind {m : M α} {f : α → M β} (hm : Reports about m) (hf : ∀ a, Reports about (f a)) :
    Reports about (m >>= f) := by
  intro p hr hd
  obtain ⟨hs, unaffected, left, pending⟩ := hm p hr hd
  obtain ⟨hs', unaffected', left', pending'⟩ := hf (result m p) _ (left.mem_running hr) (left.deaf hd)
  refine ⟨hs ++ hs', fun h hh => ?_, left.trans left', ?_⟩
  · rcases List.mem_append.1 hh with hh | hh
    · exact unaffected h hh
    · exact unaffected' h hh
  · rw [final_bind, pending', pending, reports_append]
    cases p.locals.pending <;> cases Windowing.reports hs <;> simp

theorem forM {f : α → M Unit} (hf : ∀ a, Reports about (f a)) (xs : List α) :
    Reports about (xs.forM f) := by
  induction xs with
  | nil => exact pure _
  | cons x xs ih => exact bind (hf x) fun _ => ih

theorem look : Reports about (get : M Process) := silent (fun _ _ => .refl) fun _ _ => rfl

theorem getTables : Reports about getTables := .bind look fun _ => .pure _

theorem apart {m : M α} (hm : Apart m) : Reports about m := by
  refine silent (fun p hr => .of_apart hm hr) fun p hr => ?_
  rw [Process.locals, Process.here, (Leaves.of_apart hm hr).current, ((hm p).2 _ hr).thread,
    Process.locals, Process.here]

theorem alike {m : M α} (hm : ∀ p, Alike p (final m p)) : Reports about m :=
  silent (fun p _ => .of_sameThreads (hm p).toSameThreads)
    fun p _ => by rw [(hm p).toSameThreads.locals]

theorem composed {prim : (α : Type) → (Backend → M α) → Prop}
    (h : ∀ α m, prim α m → Reports about (m native)) {m : Backend → M α}
    (hm : Composed SameButPanics prim m) : Reports about (m native) := by
  induction hm with
  | pure a => exact .pure a
  | bind _ _ first rest => exact .bind first rest
  | look _ _ rest => exact .bind .look rest
  | act hm => exact h _ _ hm

theorem note {h : Happening} (unaffected : h.Serves about) (hreport : h.report? = none) :
    Reports about (note h) := by
  intro p _ _
  have undoomed : h.doomed? = none := by cases h <;> first | rfl | cases unaffected
  refine ⟨[h], by simpa using unaffected, .note undoomed p, ?_⟩
  rw [Windowing.reports, List.filterMap_cons_none hreport, final_note, locals_note]
  cases p.locals.pending <;> rfl

theorem log (l : Log) : Reports about (log l) := note trivial rfl

/-- Events are dropped. -/
theorem dispatch (react : Reaction) (time : Float) (event : Event) :
    Reports about (dispatch react time event) := by
  intro p hr hd
  obtain ⟨reason, hreason⟩ := Option.isSome_iff_exists.1 hd
  rw [dispatch_dropped hreason]
  exact log _ p hr hd

/-- The error callback keeps the first error. -/
theorem onError (code : Int32) (description : Option Text.Bytes) : Reports about (do
    Windowing.note (.invoked (.error code description))
    Windowing.onError code description) := by
  intro p _ _
  let noted := (p.note (.invoked (.error code description))).note
    (.logged (.nativeError code ((description.map Text.read).getD "")))
  let error : Error := .reported code ((description.map Text.read).getD "")
  have stored : Leaves noted (final (setPending (p.locals.pending <|> some error)) noted) [] :=
    .setPending _ _
  refine ⟨_, ?_, ((Leaves.note rfl p).trans (.note rfl _)).trans stored, ?_⟩
  · simp [Happening.Serves]
  · exact congrArg Locals.pending (locals_setPending _ noted)

variable (h : LibraryOnlyReports native)

include h

theorem deliver (react : Reaction) (decoded : Except Log Event) :
    Reports about (deliver native react decoded) := by
  cases decoded with
  | error warning => exact log warning
  | ok event =>
    have read : Reports (· = .getTime) (Windowing.deliver native react (.ok event)) :=
      bind (h.reports rfl) fun reply => dispatch react reply.time event
    intro p hr hd
    obtain ⟨hs, unaffected, left⟩ := read p hr hd
    refine ⟨hs, fun e he => ?_, left⟩
    cases e with
    | called call | returned call reply => exact .inr ((unaffected _ he).elim id id)
    | invoked _ | logged _ => trivial
    | _ => exact unaffected _ he

theorem heed (callback : Callback) : Reports about (do
    Windowing.note (.invoked callback)
    heed native callback) := by
  cases callback with
  | error code description => exact onError code description
  | monitor monitor event =>
    exact bind (note (h := .invoked _) trivial rfl) fun _ => deliver h _ _
  | window window signal =>
    exact bind (note (h := .invoked _) trivial rfl) fun _ => deliver h _ _

theorem invoke (callback : Callback) : Reports about (invoke native callback) := by
  intro p hr hd
  cases listens : p.listens callback with
  | true =>
    rw [final, invoke_run listens]
    exact heed h callback p hr hd
  | false =>
    rw [final, invoke_unheard listens]
    exact pure () p hr hd

end Reports

theorem callWith_answers {meanwhile : Reply → M Unit}
    (h : ∀ call reply, Reports (· = call) (meanwhile reply)) :
    LibraryOnlyReports (callWith meanwhile) := by
  intro call p hr hd
  have rest : Reports (· = call) (do
      let reply ← takeReply call
      meanwhile reply
      settle call
      note (.returned call reply)
      return reply) := by
    refine .bind (.alike (takeReply_alike call)) fun reply => ?_
    refine .bind (h call reply) fun _ => ?_
    refine .bind (.alike (settle_alike call)) fun _ => ?_
    refine .bind (.note (.inl rfl) rfl) fun _ => ?_
    exact .pure reply
  obtain ⟨hs, unaffected, left, pending⟩ := rest (p.note (.called call)) hr hd
  exact ⟨hs, unaffected, (Leaves.note rfl p).trans left, pending⟩

theorem backend_answers (depth : Nat) : LibraryOnlyReports (backend depth) := by
  induction depth with
  | zero => exact callWith_answers fun _ _ => .pure ()
  | succ depth ih =>
    have turns : ∀ call turn, Reports (· = call) (runTurn (backend depth) turn) := fun _ turn =>
      .apart (Confined.runTurn (backend_confined depth) turn)
    refine callWith_answers fun call reply => ?_
    refine .bind (.alike takeTurns_alike) fun batch => ?_
    refine .bind (.forM (turns call) batch) fun _ => ?_
    exact .forM (Reports.invoke ih) reply.callbacks

/-! ### Operations -/

/-- A computation of client code outside pumps and other threads. -/
def ClientEffects (m : M α) : Prop :=
  ∀ p, p.current ∈ p.running → Deaf p → ∃ hs, Leaves p (final m p) hs

theorem Reports.clientEffects {m : M α} (h : Reports about m) : ClientEffects m := by
  intro p hr hd
  obtain ⟨hs, -, left, -⟩ := h p hr hd
  exact ⟨hs, left⟩

namespace ClientEffects

theorem pure (a : α) : ClientEffects (Pure.pure a : M α) := fun _ _ _ => ⟨[], .refl⟩

theorem look : ClientEffects (get : M Process) := fun _ _ _ => ⟨[], .refl⟩

theorem bind {m : M α} {f : α → M β} (hm : ClientEffects m) (hf : ∀ a, ClientEffects (f a)) :
    ClientEffects (m >>= f) := by
  intro p hr hd
  obtain ⟨hs, left⟩ := hm p hr hd
  obtain ⟨hs', left'⟩ := hf (result m p) _ (left.mem_running hr) (left.deaf hd)
  exact ⟨hs ++ hs', left.trans left'⟩

theorem ite {c : Prop} [Decidable c] {m n : M α} (hm : ClientEffects m) (hn : ClientEffects n) :
    ClientEffects (if c then m else n) := by
  split
  · exact hm
  · exact hn

theorem forM {f : α → M Unit} (hf : ∀ a, ClientEffects (f a)) (xs : List α) :
    ClientEffects (xs.forM f) := by
  induction xs with
  | nil => exact pure _
  | cons x xs ih => exact bind (hf x) fun _ => ih

theorem composed {prim : (α : Type) → (Backend → M α) → Prop}
    (h : ∀ α m, prim α m → ClientEffects (m native)) {m : Backend → M α}
    (hm : Composed SameButPanics prim m) : ClientEffects (m native) := by
  induction hm with
  | pure a => exact .pure a
  | bind _ _ first rest => exact .bind first rest
  | look _ _ rest => exact .bind .look rest
  | act hm => exact h _ _ hm

theorem note {h : Happening} (hd : h.doomed? = none) : ClientEffects (note h) := fun p _ _ =>
  ⟨[h], .note hd p⟩

theorem setPending (e : Option Error) : ClientEffects (setPending e) := fun p _ _ =>
    ⟨[], .setPending e p⟩

theorem takeError : ClientEffects takeError := setPending none

theorem tables (f : Tables → Tables) : ClientEffects (modifyTables f) := fun p _ _ =>
    ⟨[], .tables f p⟩

theorem shared {f : Process → Process} (hf : ∀ p, SameThreads p (f p)) : ClientEffects (modify f) :=
  fun p _ _ => ⟨[], .of_sameThreads (hf p)⟩

/-- In a handler a window is left to the pump as soon as its handle is gone. -/
theorem deferring (w : Window) (hw : p.locals.dispatching = true) :
    Leaves p (final (modifyLocals fun s => { s with deferred := s.deferred ++ [w.pointer] })
      (p.note (.dropped (.window w)))) [.dropped (.window w)] := by
  have locals := locals_modifyLocals (fun s => { s with deferred := s.deferred ++ [w.pointer] })
    (p.note (.dropped (.window w)))
  refine ⟨rfl, entriesOf_note_self p _, ?_, ?_, ?_, ?_⟩
  · rw [locals, locals_note]
  · rw [locals, locals_note]
  · rw [locals, locals_note]
  · simp [locals, locals_note, hw, Happening.doomed?, Handle.window?]

variable (h : LibraryOnlyReports native)

include h

theorem call_clientEffects (call : Call) : ClientEffects (native call) := by
  have reports : Reports (· = call) (native call) := h.reports rfl
  exact reports.clientEffects

theorem checked (call : Call) : ClientEffects (Windowing.checked (native call)).run := by
  refine .bind takeError fun _ => ?_
  refine .bind (call_clientEffects h call) fun _ => ?_
  refine .bind takeError fun _ => ?_
  refine .bind (setPending _) fun _ => ?_
  exact pure _

theorem destroy (pointer : Pointer) : ClientEffects (Window.destroy native pointer) := by
  refine .bind (checked h _) fun outcome => ?_
  cases outcome with
  | ok reply => exact pure _
  | error e => exact note rfl

theorem release : ClientEffects (release native) := by
  refine .bind (shared fun _ => ⟨rfl, rfl, rfl⟩) fun _ => .bind look fun _ => .ite ?_ (pure _)
  refine .bind (checked h _) fun outcome => ?_
  cases outcome with
  | ok reply => exact shared fun _ => ⟨rfl, rfl, rfl⟩
  | error e => exact .bind (note rfl) fun _ => shared fun _ => ⟨rfl, rfl, rfl⟩

theorem dropWindow (w : Window) : ClientEffects (w.drop native) := by
  intro p hr hd
  by_cases inside : p.locals.dispatching = true
  · rw [final_drop_deferred inside]
    obtain ⟨hs, left⟩ := bind (note (h := .logged _) rfl) (fun _ => release h) _
      ((deferring w inside).mem_running hr) ((deferring w inside).deaf hd)
    exact ⟨_, (deferring w inside).trans left⟩
  · have dropped : Leaves p (p.note (.dropped (.window w))) [.dropped (.window w)] :=
      ⟨rfl, entriesOf_note_self p _, rfl, rfl, rfl, by simp [inside]⟩
    rw [final_drop_destroyed (by simpa using inside)]
    obtain ⟨hs, left⟩ := bind (destroy h w.pointer) (fun _ => release h) _
      (dropped.mem_running hr) (dropped.deaf hd)
    exact ⟨_, dropped.trans left⟩

theorem small {m : Backend → M α} (hm : Small α m) : ClientEffects (m native) := by
  cases hm with
  | quiet hm =>
    cases hm with
    | call call => exact call_clientEffects h call
    | attempt call => exact checked h call
    | take => exact takeError
    | log l => exact note rfl
    | aside hm =>
      cases hm with
      | lend c => exact note rfl
      | giveBack c => exact note rfl
      | lent f | panics f => exact shared fun _ => ⟨rfl, rfl, rfl⟩
      | contexts f => exact tables _
  | call call => exact call_clientEffects h call
  | attempt call => exact checked h call
  | obtain _ => exact note rfl
  | dropLibrary _ => exact note rfl
  | dropMonitor _ => exact note rfl
  | tables f => exact tables f
  | shared hf => exact shared hf.threads
  | dropWindow w => exact dropWindow h w

end ClientEffects

end Windowing
