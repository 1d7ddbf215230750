import Windowing.Proofs.AgreeingCalls
import Windowing.Proofs.DispatchQuiescence

/-!
Dismissed events. As long as a thread takes no event, every event that is fired on it is dropped for
the reason that holds all the while, be it that no handler is installed or that the handler is
running. The entries of an operation of a running handler are its own: they neither bracket a step
nor hand an event to a handler.
-/

namespace Windowing

open Native Client

variable {α β ε : Type} {native : Backend} {p : Process} {reason : DropReason}
  {about : Happening → Prop}

/-- Why an event was dropped. -/
def Happening.dismissal? : Happening → Option DropReason
  | .logged (.eventDropped reason _) => some reason
  | _ => none

/-- An entry of an operation itself, not of the program that it is in or of a handler. -/
def Happening.inward : Happening → Bool
  | .called _ | .returned _ _ | .invoked _ | .logged _ | .obtained _ | .dropped _ => true
  | _ => false

/-- A computation that has only entries of the given kind if events are dropped for the given reason
when it begins, as they then are until it ends. -/
def DismissesEvents (reason : DropReason) (about : Happening → Prop) (m : M α) : Prop :=
  ∀ p, p.current ∈ p.running → p.locals.dropReason = some reason →
    ∃ hs, (∀ h ∈ hs, about h) ∧ Leaves p (final m p) hs

theorem deaf_of_reason (h : p.locals.dropReason = some reason) : Deaf p := by
  rw [Deaf, h]
  rfl

/-- A handler that waits takes an event. -/
theorem Locals.taken_iff {s : Locals} : s.dropReason = none ↔
    s.handler.isSome = true ∧ s.panic = none ∧ s.dispatching = false := by
  unfold dropReason
  cases s.handler <;> cases s.panic <;> cases s.dispatching <;> simp

/-- A handler that runs is handed no event. -/
theorem Locals.inside_iff {s : Locals} : s.dropReason = some .insideHandler ↔
    s.handler.isSome = true ∧ s.panic = none ∧ s.dispatching = true := by
  unfold dropReason
  cases s.handler <;> cases s.panic <;> cases s.dispatching <;> simp

namespace DismissesEvents

theorem silent {m : M α} (left : ∀ p, p.current ∈ p.running → Leaves p (final m p) []) :
    DismissesEvents reason about m := fun p hr _ => ⟨[], by simp, left p hr⟩

theorem pure (a : α) : DismissesEvents reason about (Pure.pure a : M α) := silent fun _ _ => .refl

theorem look : DismissesEvents reason about (get : M Process) := silent fun _ _ => .refl

/-- Which error is pending does not matter. -/
theorem pending (f : Locals → Option Error) :
    DismissesEvents reason about (modifyLocals fun s => { s with pending := f s }) := by
  refine silent fun p _ => ?_
  have locals := locals_modifyLocals (fun s => { s with pending := f s }) p
  exact ⟨rfl, rfl, by rw [locals], by rw [locals], by rw [locals], by simp [locals]⟩

theorem setPending (e : Option Error) : DismissesEvents reason about (setPending e) :=
    pending fun _ => e

theorem tables (f : Tables → Tables) : DismissesEvents reason about (modifyTables f) :=
  silent fun p _ => .tables f p

theorem shared {f : Process → Process} (hf : ∀ p, SameThreads p (f p)) :
    DismissesEvents reason about (modify f) := silent fun p _ => .of_sameThreads (hf p)

theorem alike {m : M α} (hm : ∀ p, Alike p (final m p)) : DismissesEvents reason about m :=
  silent fun p _ => .of_sameThreads (hm p).toSameThreads

theorem apart {m : M α} (hm : Apart m) : DismissesEvents reason about m :=
  silent fun _ hr => .of_apart hm hr

theorem note {h : Happening} (hh : about h) (hd : h.doomed? = none) :
    DismissesEvents reason about (note h) := fun p _ _ => ⟨[h], by simpa using hh, .note hd p⟩

theorem bind {m : M α} {f : α → M β} (hm : DismissesEvents reason about m)
    (hf : ∀ a, DismissesEvents reason about (f a)) : DismissesEvents reason about (m >>= f) := by
  intro p hr hd
  obtain ⟨hs, within, left⟩ := hm p hr hd
  obtain ⟨hs', within', left'⟩ :=
    hf (result m p) _ (left.mem_running hr) (left.dropReason.trans hd)
  refine ⟨hs ++ hs', fun h hh => ?_, left.trans left'⟩
  rcases List.mem_append.1 hh with hh | hh
  · exact within h hh
  · exact within' h hh

theorem ite {c : Prop} [Decidable c] {m n : M α} (hm : DismissesEvents reason about m)
    (hn : DismissesEvents reason about n) : DismissesEvents reason about (if c then m else n) := by
  split
  · exact hm
  · exact hn

theorem forM {f : α → M Unit} (hf : ∀ a, DismissesEvents reason about (f a)) (xs : List α) :
    DismissesEvents reason about (xs.forM f) := by
  induction xs with
  | nil => exact pure _
  | cons x xs ih => exact bind (hf x) fun _ => ih

theorem composed {prim : (α : Type) → (Backend → M α) → Prop}
    (h : ∀ α m, prim α m → DismissesEvents reason about (m native)) {m : Backend → M α}
    (hm : Composed SameButPanics prim m) : DismissesEvents reason about (m native) := by
  induction hm with
  | pure a => exact .pure a
  | bind _ _ first rest => exact .bind first rest
  | look _ _ rest => exact .bind .look rest
  | act hm => exact h _ _ hm

theorem checked {call : Call} (h : DismissesEvents reason about (native call)) :
    DismissesEvents reason about (checked (native call)).run := by
  refine .bind (setPending none) fun _ => ?_
  refine .bind h fun _ => ?_
  refine .bind (setPending none) fun _ => ?_
  refine .bind (setPending _) fun _ => ?_
  exact .pure _

/-- The entries of such a computation. -/
theorem during {m : M α} (h : DismissesEvents reason about m) (hr : p.current ∈ p.running)
    (hd : p.locals.dropReason = some reason) : ∀ h ∈ during m p, about h := by
  obtain ⟨hs, within, left⟩ := h p hr hd
  rw [left.during_eq]
  exact within

end DismissesEvents

/-! ### Events -/

/-- If the entry drops an event, then for the given reason. -/
def Happening.DropsFor (reason : DropReason) (h : Happening) : Prop :=
  ∀ why ∈ h.dismissal?, why = reason

theorem WindowEvent.decode_warns {signal : Signal} {warning : Log}
    (h : WindowEvent.decode signal = .error warning) :
    (Happening.logged warning).dismissal? = none := by
  cases signal with
  | mouseButton button action | key code action | char codepoint =>
    simp only [WindowEvent.decode] at h
    split at h <;> cases h
    rfl
  | _ => cases h

theorem MonitorEvent.decode_warns {monitor : Pointer} {event : Int32} {warning : Log}
    (h : MonitorEvent.decode monitor event = .error warning) :
    (Happening.logged warning).dismissal? = none := by
  unfold MonitorEvent.decode at h
  split at h
  · cases h
  · split at h <;> cases h
    rfl

namespace DismissesEvents

theorem dispatch (react : Reaction) (time : Float) (event : Event) :
    DismissesEvents reason (·.DropsFor reason) (dispatch react time event) := by
  intro p hr hd
  rw [dispatch_dropped hd]
  have dropped : (Happening.logged (.eventDropped reason event)).DropsFor reason := by
    simp [Happening.DropsFor, Happening.dismissal?]
  exact note dropped rfl p hr hd

variable (h : ∀ call, DismissesEvents reason (·.DropsFor reason) (native call))

include h

theorem deliver (react : Reaction) {decoded : Except Log ε} (f : ε → Event)
    (warns : ∀ warning, decoded = .error warning →
      (Happening.logged warning).dismissal? = none) :
    DismissesEvents reason (·.DropsFor reason) (deliver native react (decoded.map f)) := by
  cases decoded with
  | error warning =>
    exact note (by simp [Happening.DropsFor, warns warning rfl]) rfl
  | ok event => exact .bind (h .getTime) fun reply => dispatch react reply.time (f event)

theorem heed (callback : Callback) :
    DismissesEvents reason (·.DropsFor reason) (heed native callback) := by
  cases callback with
  | error code description =>
    have reported : DismissesEvents reason (·.DropsFor reason) (log (.nativeError code
        ((description.map Text.read).getD ""))) := note nofun rfl
    exact .bind reported fun _ => pending _
  | monitor monitor event => exact deliver h _ _ fun _ => MonitorEvent.decode_warns
  | window window signal => exact deliver h _ _ fun _ => WindowEvent.decode_warns

theorem invoke (callback : Callback) :
    DismissesEvents reason (·.DropsFor reason) (invoke native callback) := by
  have heeded : DismissesEvents reason (·.DropsFor reason) (do
      Windowing.note (.invoked callback)
      Windowing.heed native callback) := .bind (note nofun rfl) fun _ => heed h callback
  intro p hr hd
  cases listens : p.listens callback with
  | true =>
    rw [final, invoke_run listens]
    exact heeded p hr hd
  | false =>
    rw [final, invoke_unheard listens]
    exact ⟨[], by simp, .refl⟩

omit h in
theorem callWith {meanwhile : Reply → M Unit}
    (h : ∀ reply, DismissesEvents reason (·.DropsFor reason) (meanwhile reply)) (call : Call) :
    DismissesEvents reason (·.DropsFor reason) (callWith meanwhile call) := by
  refine .bind (note nofun rfl) fun _ => ?_
  refine .bind (alike (takeReply_alike call)) fun reply => ?_
  refine .bind (h reply) fun _ => ?_
  refine .bind (alike (settle_alike call)) fun _ => ?_
  refine .bind (note nofun rfl) fun _ => ?_
  exact .pure reply

end DismissesEvents

/-- During a native call events are dropped for the reason that holds, however deep calls nest. -/
theorem backend_dropsFor (reason : DropReason) (depth : Nat) (call : Call) :
    DismissesEvents reason (·.DropsFor reason) (backend depth call) := by
  induction depth generalizing call with
  | zero => exact .callWith (fun _ => .pure ()) call
  | succ depth ih =>
    rw [backend_eq]
    exact .callWith (fun reply => .bind (.apart (turnsAt_apart _)) fun _ =>
      .forM (DismissesEvents.invoke ih) reply.callbacks) call

/-! ### Operations -/

theorem Happening.Serves.inward {about : Call → Prop} {h : Happening} (hh : h.Serves about) :
    h.inward = true := by
  cases h <;> first | rfl | cases hh

namespace DismissesEvents

theorem reports {about : Call → Prop} {m : M α} (h : Reports about m) :
    DismissesEvents reason (·.inward = true) m := by
  intro p hr hd
  obtain ⟨hs, unaffected, left, -⟩ := h p hr (deaf_of_reason hd)
  exact ⟨hs, fun e he => (unaffected e he).inward, left⟩

variable (h : LibraryOnlyReports native)

include h

theorem call (call : Call) : DismissesEvents reason (·.inward = true) (native call) := by
  have called : Reports (· = call) (native call) := h.reports rfl
  exact reports called

theorem destroy (pointer : Pointer) :
    DismissesEvents reason (·.inward = true) (Window.destroy native pointer) := by
  refine .bind (.checked (call h _)) fun outcome => ?_
  cases outcome with
  | ok reply => exact .pure _
  | error e => exact note rfl rfl

theorem release : DismissesEvents reason (·.inward = true) (release native) := by
  refine .bind (shared fun _ => ⟨rfl, rfl, rfl⟩) fun _ => .bind .look fun _ => .ite ?_ (.pure _)
  refine .bind (.checked (call h _)) fun outcome => ?_
  cases outcome with
  | ok reply => exact shared fun _ => ⟨rfl, rfl, rfl⟩
  | error e => exact .bind (note rfl rfl) fun _ => shared fun _ => ⟨rfl, rfl, rfl⟩

theorem dropWindow (w : Window) : DismissesEvents reason (·.inward = true) (w.drop native) := by
  have put : DismissesEvents reason (·.inward = true) (do
      log (.destructionDeferred w.id)
      Windowing.release native) := .bind (note rfl rfl) fun _ => release h
  intro p hr hd
  by_cases inside : p.locals.dispatching = true
  · have deferred := ClientEffects.deferring w inside
    rw [final_drop_deferred inside]
    obtain ⟨hs, inward, left⟩ := put _ (deferred.mem_running hr) (deferred.dropReason.trans hd)
    exact ⟨_, by simpa [Happening.inward] using inward, deferred.trans left⟩
  · have dropped : Leaves p (p.note (.dropped (.window w))) [.dropped (.window w)] :=
      ⟨rfl, entriesOf_note_self p _, rfl, rfl, rfl, by simp [inside]⟩
    rw [final_drop_destroyed (by simpa using inside)]
    obtain ⟨hs, inward, left⟩ := bind (destroy h w.pointer) (fun _ => release h) _
      (dropped.mem_running hr) (dropped.dropReason.trans hd)
    exact ⟨_, by simpa [Happening.inward] using inward, dropped.trans left⟩

theorem small {m : Backend → M α} (hm : Small α m) :
    DismissesEvents reason (·.inward = true) (m native) := by
  cases hm with
  | quiet hm =>
    cases hm with
    | call c => exact call h c
    | attempt c => exact .checked (call h c)
    | take => exact setPending none
    | log l => exact note rfl rfl
    | aside hm =>
      cases hm with
      | lend c => exact note rfl rfl
      | giveBack c => exact note rfl rfl
      | lent f | panics f => exact shared fun _ => ⟨rfl, rfl, rfl⟩
      | contexts f => exact tables _
  | call c => exact call h c
  | attempt c => exact .checked (call h c)
  | obtain _ => exact note rfl rfl
  | dropLibrary _ => exact note rfl rfl
  | dropMonitor _ => exact note rfl rfl
  | tables f => exact tables f
  | shared hf => exact shared hf.threads
  | dropWindow w => exact dropWindow h w

end DismissesEvents

/-- The entries of a handler's operation are its own. -/
theorem runOp_inward (depth : Nat) (op : Op) :
    DismissesEvents .insideHandler (·.inward = true) (runOp (backend depth) op) := by
  have small (h : op.small = true) :
      DismissesEvents .insideHandler (·.inward = true) (runOp (backend depth) op) :=
    .composed (fun _ _ => .small (backend_answers depth)) (runOp_small op h)
  cases op with
  | pump slot kind reactions =>
    have refused :
        DismissesEvents .insideHandler (·.inward = true)
          (pump (backend depth) kind reactions).run := by
      intro p _ hd
      rw [final_pump_refused (Locals.inside_iff.1 hd).2.2]
      exact ⟨[], by simp, .refl⟩
    refine .bind (.bind .look fun _ => .pure _) fun t => ?_
    refine .ite (.pure _) ?_
    refine .bind (.tables _) fun _ => ?_
    refine .bind refused fun outcome => ?_
    refine .bind (.tables _) fun _ => ?_
    rcases outcome with message | (e | _) <;> exact .pure _
  | onThread steps =>
    have body := (Confined.law (backend_confined depth)).runSteps steps
    refine .bind .look fun _ => ?_
    refine .ite (.pure _) ?_
    refine .bind (.bind .look fun _ => .pure _) fun t => ?_
    refine .bind (.tables _) fun _ => ?_
    refine .bind (.apart (Confined.spawn_apart (backend_confined depth) _ body)) fun _ => ?_
    refine .bind (.tables _) fun _ => ?_
    exact .pure _
  | _ => exact small rfl

end Windowing
