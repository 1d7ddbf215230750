import Windowing.Proofs.AgreeingOperations
import Windowing.Proofs.HistoryLedger

/-!
Coherence of native calls. Between its entries a call may let other threads take their turns, which
the calling thread does not see, and then invokes callbacks. Two calls of the same function agree up to
the first callback or reply in which they differ, if the threads take the same callback alike.
-/

namespace Windowing

open Native Client

variable {α : Type} {native native' : Backend} {p p' q q' : Process}

/-- What is known of the calls of a native library on each side of a comparison. -/
structure ReliableLibrary (native : Backend) : Prop where
  libraryKeepsBooks : LibraryKeepsBooks native
  answers : LibraryOnlyReports native
  grows : ∀ call, Grows (native call)

theorem backend_reliableLibrary (depth : Nat) : ReliableLibrary (backend depth) :=
  ⟨backend_libraryKeepsBooks depth, backend_answers depth, backend_grows depth⟩

theorem ReliableLibrary.call (h : ReliableLibrary native) (call : Call) :
    GrowsConfined (native call) :=
  ⟨h.grows call, h.libraryKeepsBooks.confined call⟩

theorem ReliableLibrary.growsConfined (h : ReliableLibrary native) : Compositional native fun _ m =>
    GrowsConfined m :=
  GrowsConfined.compositional h.call

/-- The rest of a call, from its callbacks on. -/
def respond (native : Backend) (callbacks : List Callback) (call : Call) (reply : Reply) :
    M Reply := do
  callbacks.forM fun callback => invoke native callback
  settle call
  note (.returned call reply)
  return reply

section Responses

variable {callback : Callback} {callbacks callbacks' : List Callback} {call : Call}
  {reply reply' : Reply}

theorem respond_growsConfined (h : ReliableLibrary native) (callbacks : List Callback) (call : Call)
    (reply : Reply) : GrowsConfined (respond native callbacks call reply) := by
  refine .bind (h.growsConfined.forM h.growsConfined.invoke callbacks) fun _ => ?_
  refine .bind (.alike fun p => (settle_alike call p).toSameThreads) fun _ => ?_
  refine .bind (.note _) fun _ => ?_
  exact .pure _

/-- Without a callback the call returns. -/
theorem respond_nil (native : Backend) (call : Call) (reply : Reply) (p : Process) :
    Passes p (final (respond native [] call reply) p) [.returned call reply] ∧
      (final (respond native [] call reply) p).here = p.here := by
  have settled := (settle_alike call p).toSameThreads
  exact ⟨(Passes.of_sameThreads settled).trans (.note _ _), settled.here⟩

theorem respond_unheard (h : p.listens callback = false) :
    (respond native (callback :: callbacks) call reply).run p =
      (respond native callbacks call reply).run p := by
  change (respond native callbacks call reply).run ((invoke native callback).run p).2 = _
  rw [invoke_unheard h]

/-- A callback that is registered is invoked first. -/
theorem invoke_begins (h : ReliableLibrary native) (listens : p.listens callback = true) :
    ∃ later, Passes p (final (invoke native callback) p) (.invoked callback :: later) := by
  obtain ⟨later, passes⟩ := (h.growsConfined.heed callback).passes (p.note (.invoked callback))
  refine ⟨later, ?_⟩
  rw [final, invoke_run listens]
  exact (Passes.note _ p).trans passes

theorem respond_begins (h : ReliableLibrary native) (callbacks : List Callback) (call : Call)
    (reply : Reply)
    (listens : p.listens callback = true) : ∃ later,
      Passes p (final (respond native (callback :: callbacks) call reply) p)
        (.invoked callback :: later) := by
  obtain ⟨first, begun⟩ := invoke_begins h listens
  obtain ⟨rest, ended⟩ := (respond_growsConfined h callbacks call reply).passes
    (final (invoke native callback) p)
  exact ⟨first ++ rest, begun.trans ended⟩

/-- Two calls agree if the threads take the callbacks that both invoke alike. -/
theorem respond_agrees {Fit : Process → Prop} (h : ReliableLibrary native)
    (h' : ReliableLibrary native')
    (kept : ∀ c p, Fit p → Fit (final (invoke native c) p))
    (kept' : ∀ c p, Fit p → Fit (final (invoke native' c) p))
    (taken : ∀ c ∈ callbacks, ∀ p p', Fit p → Fit p' → p.here.Akin p'.here →
      Agrees (fun _ _ q q' => q.here.Akin q'.here) (heed native c) (heed native' c)
        (p.note (.invoked c)) (p'.note (.invoked c)))
    (fit : Fit p) (fit' : Fit p') (akin : p.here.Akin p'.here) :
    Agrees (fun r r' q q' => r = r' ∧ q.here.Akin q'.here) (respond native callbacks call reply)
      (respond native' callbacks' call reply') p p' := by
  induction callbacks generalizing p p' callbacks' with
  | nil =>
    obtain ⟨returned, here⟩ := respond_nil native call reply p
    induction callbacks' with
    | nil =>
      obtain ⟨returned', here'⟩ := respond_nil native' call reply' p'
      by_cases same : reply = reply'
      · subst same
        exact .single returned returned' rfl ⟨rfl, by rw [here, here']; exact akin⟩
      · have differ : (Happening.returned call reply).outline ≠
            (Happening.returned call reply').outline := by
          simpa [Happening.outline] using same
        exact .apart returned returned' rfl rfl differ
    | cons c rest ih =>
      cases listens : p'.listens c with
      | false => exact .after .refl .refl (.refl _) rfl (respond_unheard listens) ih
      | true =>
        obtain ⟨later, begun⟩ := respond_begins h' _ _ _ listens
        exact .apart returned begun rfl rfl (by simp [Happening.outline])
  | cons c callbacks outer =>
    cases listens : p.listens c with
    | false =>
      exact .after .refl .refl (.refl _) (respond_unheard listens) rfl
        (outer (fun c hc => taken c (List.mem_cons_of_mem _ hc)) fit fit' akin)
    | true =>
      obtain ⟨later, begun⟩ := respond_begins h callbacks call reply listens
      induction callbacks' with
      | nil =>
        obtain ⟨returned', -⟩ := respond_nil native' call reply' p'
        exact .apart begun returned' rfl rfl (by simp [Happening.outline])
      | cons c' callbacks' inner =>
        cases listens' : p'.listens c' with
        | false => exact .after .refl .refl (.refl _) rfl (respond_unheard listens') inner
        | true =>
          by_cases same : c = c'
          · subst same
            have first : Agrees (fun _ _ q q' => q.here.Akin q'.here) (invoke native c)
                (invoke native' c) p p' :=
              .after (.note _ p) (.note _ p') rfl (invoke_run listens) (invoke_run listens')
                (taken c List.mem_cons_self p p' fit fit' akin)
            exact first.bind (fun _ => respond_growsConfined h _ _ _)
              (fun _ => respond_growsConfined h' _ _ _)
              fun akin => outer (fun c hc => taken c (List.mem_cons_of_mem _ hc)) (kept _ _ fit)
                (kept' _ _ fit') akin
          · obtain ⟨later', begun'⟩ := respond_begins h' callbacks' call reply' listens'
            have differ : (Happening.invoked c).outline ≠ (Happening.invoked c').outline := by
              simpa [Happening.outline] using same
            exact .apart begun begun' rfl rfl differ

end Responses

/-! ### Calls -/

theorem Apart.forM {f : α → M Unit} (hf : ∀ a, Apart (f a)) (xs : List α) : Apart (xs.forM f) := by
  induction xs with
  | nil => exact fun _ => ⟨rfl, fun _ _ => .rfl⟩
  | cons x xs ih =>
    intro p
    obtain ⟨running, waits⟩ := hf x p
    obtain ⟨running', waits'⟩ := ih (final (f x) p)
    exact ⟨running'.trans running, fun t ht => (waits t ht).trans (waits' t (running ▸ ht))⟩

theorem takeAllTurns_apart (h : ReliableLibrary native) : Apart (takeAllTurns native) := by
  intro p
  have taken := takeTurns_alike p
  obtain ⟨running, waits⟩ :=
    Apart.forM (Confined.runTurn h.libraryKeepsBooks.confined) (result takeTurns p)
      (final takeTurns p)
  exact ⟨running.trans taken.running, fun t ht =>
    (taken.toSameThreads.undisturbed t).trans (waits t (taken.running ▸ ht))⟩

/-- The process after a call has begun and other threads have taken their turns. -/
def Process.begun (turns : M Unit) (call : Call) (p : Process) : Process :=
  final turns (final (takeReply call) (p.note (.called call)))

/-- The turns of other threads leave the caller where it is. -/
theorem begun_passes {turns : M Unit} (apart : Apart turns) (call : Call)
    (hr : p.current ∈ p.running) : Passes p (p.begun turns call) [.called call] ∧
      (p.begun turns call).here = p.here := by
  have taken := (takeReply_alike call (p.note (.called call))).toSameThreads
  have present : (final (takeReply call) (p.note (.called call))).current ∈
      (final (takeReply call) (p.note (.called call))).running := by
    rw [taken.current, taken.running]
    exact hr
  have left := Leaves.of_apart apart present
  obtain ⟨running, waits⟩ := apart (final (takeReply call) (p.note (.called call)))
  refine ⟨((Passes.note _ p).trans (.of_sameThreads taken)).trans (.of_leaves left), ?_⟩
  rw [Process.here, Process.begun, left.current, (waits _ present).thread, taken.current,
    taken.threads]
  rfl

section Calls

variable {turns turns' : M Unit} {heard heard' : Reply → List Callback} {call : Call}

/-- Two calls agree if the threads take the callbacks that both may hear alike. -/
theorem callWith_agrees {Fit : Process → Prop} (h : ReliableLibrary native)
    (h' : ReliableLibrary native')
    (apart : Apart turns) (apart' : Apart turns')
    (kept : ∀ c p, Fit p → Fit (final (invoke native c) p))
    (kept' : ∀ c p, Fit p → Fit (final (invoke native' c) p))
    (taken : ∀ reply, ∀ c ∈ heard reply, ∀ p p', Fit p → Fit p' → p.here.Akin p'.here →
      Agrees (fun _ _ q q' => q.here.Akin q'.here) (heed native c) (heed native' c)
        (p.note (.invoked c)) (p'.note (.invoked c)))
    (hr : p.current ∈ p.running) (hr' : p'.current ∈ p'.running) (akin : p.here.Akin p'.here)
    (fit : Fit (p.begun turns call)) (fit' : Fit (p'.begun turns' call)) :
    Agrees (fun r r' q q' => r = r' ∧ q.here.Akin q'.here)
      (callWith (fun reply => do turns; (heard reply).forM fun c => invoke native c) call)
      (callWith (fun reply => do turns'; (heard' reply).forM fun c => invoke native' c) call)
      p p' := by
  obtain ⟨passes, here⟩ := begun_passes apart call hr
  obtain ⟨passes', here'⟩ := begun_passes apart' call hr'
  let reply := result (takeReply call) (p.note (.called call))
  let reply' := result (takeReply call) (p'.note (.called call))
  have rest : Agrees (fun r r' q q' => r = r' ∧ q.here.Akin q'.here)
      (respond native (heard reply) call reply) (respond native' (heard' reply') call reply')
      (p.begun turns call) (p'.begun turns' call) :=
    respond_agrees h h' kept kept' (taken reply) fit fit' (by rw [here, here']; exact akin)
  exact .after passes passes' (.refl _) rfl rfl rest

end Calls

/-- The turns that are taken during a call that nests so deep. -/
def turnsAt : (depth : Nat) → M Unit
  | 0 => pure ()
  | depth + 1 => takeAllTurns (backend depth)

/-- The callbacks that are invoked during a call that nests so deep. -/
def heardAt : (depth : Nat) → Reply → List Callback
  | 0, _ => []
  | _ + 1, reply => reply.callbacks

theorem backend_eq (depth : Nat) (call : Call) : backend depth call =
    callWith (fun reply => do
      turnsAt depth
      (heardAt depth reply).forM fun c => invoke (backend depth.pred) c) call := by
  cases depth <;> rfl

theorem turnsAt_apart (depth : Nat) : Apart (turnsAt depth) := by
  cases depth with
  | zero => exact fun _ => ⟨rfl, fun _ _ => .rfl⟩
  | succ depth => exact takeAllTurns_apart (backend_reliableLibrary depth)

theorem backend_growsConfined (depth : Nat) (call : Call) : GrowsConfined (backend depth call) :=
  ⟨backend_grows depth call, backend_confined depth call⟩

/-! ### While no handler waits -/

section Deaf

variable (h : ReliableLibrary native) (h' : ReliableLibrary native')

include h h'

/-- Events are dropped on both threads. -/
theorem dispatch_tied (time : Float) (event : Event) :
    Tied Eq (dispatch (react native) time event) (dispatch (react native') time event) where
  goes := h.growsConfined.dispatch time event
  goes' := h'.growsConfined.dispatch time event
  agrees p p' hp := by
    obtain ⟨reason, hreason⟩ := Option.isSome_iff_exists.1 hp.deaf
    have hreason' := hp.akin.locals.dropReason.symm.trans hreason
    refine .single (x := .logged (.eventDropped reason event))
      (y := .logged (.eventDropped reason event)) ?_ ?_ rfl ?_
    · rw [dispatch_dropped hreason]
      exact .note _ p
    · rw [dispatch_dropped hreason']
      exact .note _ p'
    · rw [dispatch_dropped hreason, dispatch_dropped hreason']
      exact ⟨rfl, hp.same rfl rfl hp.akin hp.deaf⟩

/-- Callbacks are taken alike if the time is read alike. -/
theorem heed_tied (time : Tied Eq (native .getTime) (native' .getTime)) (callback : Callback) :
    Tied Eq (heed native callback) (heed native' callback) := by
  have delivered : ∀ decoded, Tied Eq (deliver native (react native) decoded)
      (deliver native' (react native') decoded) := by
    intro decoded
    cases decoded with
    | error warning => exact .note rfl
    | ok event => exact .andThen time fun reply => dispatch_tied h h' reply.time event
  cases callback with
  | error code description =>
    refine .andThen (.note rfl) fun _ => .locals (fun s s' hs => ?_) fun _ => rfl
    exact ⟨by rw [hs.pending], hs.handler, hs.dispatching, hs.panic, hs.deferred⟩
  | monitor monitor event => exact delivered _
  | window window signal => exact delivered _

end Deaf

/-- The process on one side of a comparison while no handler of the current thread waits. -/
def Unheeding (p : Process) : Prop :=
  p.current ∈ p.running ∧ Deaf p

theorem Unheeding.clientEffects {m : M α} (hm : ClientEffects m) (hp : Unheeding p) :
    Unheeding (final m p) := by
  obtain ⟨hs, left⟩ := hm p hp.1 hp.2
  exact ⟨left.mem_running hp.1, left.deaf hp.2⟩

theorem Unheeding.begun {turns : M Unit} (apart : Apart turns) (call : Call) (hp : Unheeding p) :
    Unheeding (p.begun turns call) := by
  obtain ⟨passes, here⟩ := begun_passes apart call hp.1
  refine ⟨by rw [passes.current, passes.running]; exact hp.1, ?_⟩
  rw [Deaf, Process.locals, here]
  exact hp.2

theorem Unheeding.matched (hp : Unheeding p) (hp' : Unheeding p') (akin : p.here.Akin p'.here) :
    Matched p p' := ⟨akin, hp.1, hp'.1, hp.2⟩

theorem backend_unheeding (depth : Nat) (callback : Callback) (hp : Unheeding p) :
    Unheeding (final (invoke (backend depth) callback) p) := by
  have reports : Reports (fun _ => True) (invoke (backend depth) callback) :=
    .invoke (backend_answers depth) callback
  exact hp.clientEffects reports.clientEffects

/-- Calls of two native libraries agree while no handler waits. -/
theorem backend_tied (depth depth' : Nat) (call : Call) :
    Tied Eq (backend depth call) (backend depth' call) := by
  induction depth generalizing depth' call with
  | zero => exact calls 0 depth' call fun reply c hc => by cases hc
  | succ depth ih =>
    refine calls (depth + 1) depth' call fun _ c _ => ?_
    exact heed_tied (backend_reliableLibrary depth) (backend_reliableLibrary _) (ih _ .getTime) c
where
  calls (depth depth' : Nat) (call : Call) (taken : ∀ reply, ∀ c ∈ heardAt depth reply,
      Tied Eq (heed (backend depth.pred) c) (heed (backend depth'.pred) c)) :
      Tied Eq (backend depth call) (backend depth' call) := by
    refine ⟨backend_growsConfined _ _, backend_growsConfined _ _, fun p p' hp => ?_⟩
    have fit : Unheeding p := ⟨hp.running, hp.deaf⟩
    have fit' : Unheeding p' := ⟨hp.running', hp.deaf'⟩
    have agreed : Agrees (fun r r' q q' => r = r' ∧ q.here.Akin q'.here) (backend depth call)
        (backend depth' call) p p' := by
      rw [backend_eq, backend_eq]
      refine callWith_agrees (backend_reliableLibrary _) (backend_reliableLibrary _) (turnsAt_apart _)
        (turnsAt_apart _) (fun c _ => backend_unheeding _ c) (fun c _ => backend_unheeding _ c)
        (fun reply c hc q q' hq hq' akin => ?_) hp.running hp.running' hp.akin
        (fit.begun (turnsAt_apart _) call) (fit'.begun (turnsAt_apart _) call)
      have noted : Matched (q.note (.invoked c)) (q'.note (.invoked c)) :=
        (hq.matched hq' akin).same rfl rfl akin hq.2
      exact ((taken reply c hc).agrees _ _ noted).mono fun ended => ended.2.akin
    refine agreed.mono fun ended => ⟨ended.1, ?_⟩
    exact (fit.clientEffects (.call_clientEffects (backend_answers depth) call)).matched
      (fit'.clientEffects (.call_clientEffects (backend_answers depth') call)) ended.2

end Windowing
