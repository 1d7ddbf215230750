import Windowing.Proofs.HandlerWatch

/-!
Every run is under watch. Callbacks change nothing on a thread whose handler does not wait for
events, and otherwise at most hand events to the handler, which may panic. The operations of a client
end where they began: outside all pumps, or in the same handler.
-/

namespace Windowing

open Native Client

variable {α β ε : Type} {native : Backend}

/-- What callbacks do to the current thread: nothing, unless its handler waits for events; then the
handler may have run, and may have panicked. -/
structure CalledBack (w w' : Watch) (p q : Process) : Prop where
  clear : w'.Clear
  frames : w'.frames = w.frames
  aside : w.stage ≠ .listening → w'.stage = w.stage ∧ SamePlace p q
  waiting : w.stage = .listening → w'.stage = .listening ∨ w'.stage = .panicked

theorem CalledBack.of_samePlace {w : Watch} {p q : Process} (hw : w.Clear) (h : SamePlace p q) :
    CalledBack w w p q :=
  ⟨hw, rfl, fun _ => ⟨rfl, h⟩, fun hs => .inl hs⟩

theorem CalledBack.trans {u v w : Watch} {p q r : Process} (h : CalledBack u v p q)
    (h' : CalledBack v w q r) :
    CalledBack u w p r where
  clear := h'.clear
  frames := h'.frames.trans h.frames
  aside hu := by
    obtain ⟨hv, hpq⟩ := h.aside hu
    obtain ⟨hw, hqr⟩ := h'.aside (hv ▸ hu)
    exact ⟨hw.trans hv, hpq.trans hqr⟩
  waiting hu := by
    rcases h.waiting hu with hv | hv
    · exact h'.waiting hv
    · exact .inr ((h'.aside (by rw [hv]; decide)).1.trans hv)

/-- Away from the waiting handler the watch is the same afterwards. -/
theorem CalledBack.eq {w w' : Watch} {p q : Process} (h : CalledBack w w' p q) (hw : w.Clear)
    (hs : w.stage ≠ .listening) : w' = w := by
  have hstage := (h.aside hs).1
  obtain ⟨⟨harmed, howed⟩, hframes, -, -⟩ := h
  obtain ⟨harmed', howed'⟩ := hw
  cases w
  cases w'
  simp_all

/-- A computation during which nothing but callbacks may happen to the current thread. -/
def OnlyCallbacks (m : M α) : Prop :=
  ∀ p w, AllCalm p → Sight p w → w.Clear →
    AllCalm (final m p) ∧ ∃ w', Sight (final m p) w' ∧ CalledBack w w' p (final m p)

/-- A computation that changes nothing of the pump and the handler around it. -/
def KeepsHandler (m : M α) : Prop :=
  ∀ p w, AllCalm p → Sight p w → w.Clear → w.stage ≠ .listening →
    AllCalm (final m p) ∧ Sight (final m p) w ∧ (final m p).locals.panic = p.locals.panic

/-- A computation of a client. -/
def ClientStaysCalm (m : M α) : Prop :=
  ∀ p w, AllCalm p → AtWork p w → AllCalm (final m p) ∧ AtWork (final m p) w

/-- A library whose calls do what their callbacks do, and then answer. A pumping call is entered
with a handler that waits, and leaves with one that waits or has panicked. -/
structure LibraryCallsBack (native : Backend) : Prop where
  call : ∀ (call : Call) (p : Process) (w : Watch), call.pumps = false → AllCalm p → Sight p w →
    w.owed = none → (w.armed = none ∨ call = .getTime ∧ w.stage = .listening) →
    AllCalm (final (native call) p) ∧ ∃ w', CalledBack w w' p (final (native call) p) ∧
      Sight (final (native call) p)
        { w' with owed := w'.claim (result (native call) p).time (w.frame call) }
  pump : ∀ (call : Call) (p : Process), call.pumps = true → AllCalm p → View p {} .listening →
    AllCalm (final (native call) p) ∧ ∃ stage, (stage = .listening ∨ stage = .panicked) ∧
      View (final (native call) p) {} stage

/-! ### Callbacks -/

namespace OnlyCallbacks

theorem pure (a : α) : OnlyCallbacks (Pure.pure a : M α) := fun _ _ hp hw hc =>
  ⟨hp, _, hw, .of_samePlace hc .rfl⟩

theorem bind {m : M α} {f : α → M β} (hm : OnlyCallbacks m) (hf : ∀ a, OnlyCallbacks (f a)) :
    OnlyCallbacks (m >>= f) := by
  intro p w hp hw hc
  obtain ⟨hq, w₁, hw₁, h₁⟩ := hm p w hp hw hc
  obtain ⟨hr, w₂, hw₂, h₂⟩ := hf (result m p) _ w₁ hq hw₁ h₁.clear
  exact ⟨hr, w₂, hw₂, h₁.trans h₂⟩

theorem forM {f : α → M Unit} (hf : ∀ a, OnlyCallbacks (f a)) (xs : List α) :
    OnlyCallbacks (xs.forM f) := by
  induction xs with
  | nil => exact pure _
  | cons x xs ih => exact bind (hf x) fun _ => ih

end OnlyCallbacks

theorem final_callWith (meanwhile : Reply → M Unit) (call : Call) (p : Process) :
    final (callWith meanwhile call) p =
      (final (settle call) (final (meanwhile (result (callWith meanwhile call) p))
        (final (takeReply call) (p.note (.called call))))).note
        (.returned call (result (callWith meanwhile call) p)) :=
  rfl

section Calls

variable {meanwhile : Reply → M Unit} (h : ∀ reply, OnlyCallbacks (meanwhile reply))

include h

/-- Between the entries of a call lies what happens meanwhile. -/
theorem callWith_between {call : Call} {p : Process} {w : Watch} (hp : AllCalm p)
    (hw : Sight (p.note (.called call)) w) (hc : w.Clear) :
    ∃ q w', AllCalm q ∧ Sight q w' ∧ CalledBack w w' (p.note (.called call)) q ∧
      final (callWith meanwhile call) p =
        q.note (.returned call (result (callWith meanwhile call) p)) := by
  have taken := (takeReply_alike call (p.note (.called call))).toSameThreads
  obtain ⟨hq, w', hw', heard⟩ := h (result (callWith meanwhile call) p) _ _
    (taken.allCalm (allCalm_note hp hw.running _)) (taken.view hw) hc
  have settled := (settle_alike call (final (meanwhile (result (callWith meanwhile call) p))
    (final (takeReply call) (p.note (.called call))))).toSameThreads
  have before := CalledBack.of_samePlace hc (.of_here taken.here)
  have after := CalledBack.of_samePlace heard.clear (.of_here settled.here)
  exact ⟨_, w', settled.allCalm hq, settled.view hw', (before.trans heard).trans after,
    final_callWith _ _ _⟩

theorem callWith_callsBack : LibraryCallsBack (callWith meanwhile) where
  call call p w hcall hp hw howed harmed := by
    have start : w.step (.called call) =
        some { w with armed := none, frames := (call, w.frame call) :: w.frames } := by
      have reads := harmed.imp id And.left
      simp [Watch.step, hcall, howed, reads]
    have called : Sight (p.note (.called call))
        { w with armed := none, frames := (call, w.frame call) :: w.frames } := hw.note start
    obtain ⟨q, w', hq, hw', heard, hfinal⟩ := callWith_between h hp called ⟨rfl, howed⟩
    have reader : ¬(w'.stage = .handling ∧ (w.frame call).isSome = true) := by
      rintro ⟨hs, hf⟩
      rcases harmed with ha | ⟨-, hl⟩
      · simp [Watch.frame, ha] at hf
      · rcases heard.waiting hl with h' | h' <;> rw [h'] at hs <;> cases hs
    have stop : w'.step (.returned call (result (callWith meanwhile call) p)) =
        some { w' with
          frames := w.frames
          owed := w'.claim (result (callWith meanwhile call) p).time (w.frame call) } := by
      have hframes : w'.frames = (call, w.frame call) :: w.frames := heard.frames
      have hne : call ≠ call ↔ False := by simp
      simp only [Watch.step, hframes, heard.clear, reader, not_true_eq_false, hne, or_self,
        ↓reduceIte, hcall, Bool.false_eq_true]
    rw [hfinal]
    exact ⟨allCalm_note hq hw'.running _, { w' with frames := w.frames },
      ⟨⟨heard.clear.armed, heard.clear.owed⟩, rfl, heard.aside, heard.waiting⟩,
      hw'.note stop⟩
  pump call p hcall hp hw := by
    have start : Watch.step {} (.called call) =
        some { stage := .listening, frames := [(call, none)] } := by
      simp [Watch.step, hcall]
    have called : Sight (p.note (.called call)) { stage := .listening, frames := [(call, none)] } :=
      hw.note start
    obtain ⟨q, w', hq, hw', heard, hfinal⟩ := callWith_between h hp called ⟨rfl, rfl⟩
    have hstage := heard.waiting rfl
    have hframes : w'.frames = [(call, none)] := heard.frames
    have stop : w'.step (.returned call (result (callWith meanwhile call) p)) = some {} := by
      simp [Watch.step, hframes, heard.clear, hcall, hstage]
    rw [hfinal]
    exact ⟨allCalm_note hq hw'.running _, w'.stage, hstage, hw'.note stop⟩

end Calls

theorem Watch.unarmed (w : Watch) (hc : w.Clear) : { w with armed := none } = w := by
  obtain ⟨stage, armed, frames, owed⟩ := w
  have harmed : armed = none := hc.armed
  rw [harmed]

theorem Watch.unowed (w : Watch) (hc : w.Clear) : { w with owed := none } = w := by
  obtain ⟨stage, armed, frames, owed⟩ := w
  have howed : owed = none := hc.owed
  rw [howed]

theorem Watch.claim_none (w : Watch) (time : Float) : w.claim time none = none := by
  simp only [claim, Option.map_none, ite_self]

/-- A call that reads no event's time. -/
theorem LibraryCallsBack.onlyCallbacks (h : LibraryCallsBack native) {call : Call}
    (hcall : call.pumps = false) :
    OnlyCallbacks (native call) := by
  intro p w hp hw hc
  obtain ⟨hq, w', heard, hw'⟩ := h.call call p w hcall hp hw hc.owed (.inl hc.armed)
  have hframe : w.frame call = none := by simp [Watch.frame, hc.armed]
  rw [hframe, w'.claim_none, w'.unowed heard.clear] at hw'
  exact ⟨hq, w', hw', heard⟩

/-! ### A client's actions -/

/-- An entry that concerns no event. -/
def Happening.still : Happening → Bool
  | .logged _ | .obtained _ | .dropped _ | .stepStarted | .stepEnded _ | .threadEnded _ => true
  | _ => false

theorem Watch.step_still {w : Watch} (hc : w.Clear) {h : Happening} (hs : h.still = true) :
    w.step h = some w := by
  cases h <;> first | cases hs; done | exact if_pos hc

theorem OnlyCallbacks.keepsHandler {m : M α} (h : OnlyCallbacks m) : KeepsHandler m := by
  intro p w hp hw hc hs
  obtain ⟨hq, w', hw', heard⟩ := h p w hp hw hc
  obtain ⟨e, here⟩ := (heard.aside hs).2
  refine ⟨hq, heard.eq hc hs ▸ hw', ?_⟩
  rw [Process.locals, here]
  rfl

namespace KeepsHandler

theorem pure (a : α) : KeepsHandler (Pure.pure a : M α) := fun _ _ hp hw _ _ => ⟨hp, hw, rfl⟩

theorem bind {m : M α} {f : α → M β} (hm : KeepsHandler m) (hf : ∀ a, KeepsHandler (f a)) :
    KeepsHandler (m >>= f) := by
  intro p w hp hw hc hs
  obtain ⟨hq, hw₁, hpanic⟩ := hm p w hp hw hc hs
  obtain ⟨hr, hw₂, hpanic'⟩ := hf (result m p) _ w hq hw₁ hc hs
  exact ⟨hr, hw₂, hpanic'.trans hpanic⟩

theorem look : KeepsHandler (get : M Process) := fun _ _ hp hw _ _ => ⟨hp, hw, rfl⟩

theorem note {h : Happening} (hs : h.still = true) : KeepsHandler (note h) := fun _ _ hp hw hc _ =>
  ⟨allCalm_note hp hw.running h, hw.note (Watch.step_still hc hs), rfl⟩

theorem shared {f : Process → Process} (hf : ∀ p, SameThreads p (f p)) : KeepsHandler (modify f) :=
  fun p _ hp hw _ _ => ⟨(hf p).allCalm hp, (hf p).view hw, by rw [final_modify, (hf p).locals]⟩

theorem tables (f : Tables → Tables) : KeepsHandler (modifyTables f) := fun _ _ hp hw _ _ =>
  ⟨allCalm_setHere hp hw.running _, hw.setHere hw.fits, by rw [locals_modifyTables]⟩

theorem setPending (e : Option Error) : KeepsHandler (setPending e) := fun p _ hp hw _ _ =>
  ⟨allCalm_setHere hp hw.running _,
    hw.setHere ⟨hw.fits.handler, hw.fits.dispatching, hw.fits.panic⟩, by rw [locals_setPending]⟩

theorem defer (f : List Pointer → List Pointer) :
    KeepsHandler (modifyLocals fun s => { s with deferred := f s.deferred }) := fun _ _ hp hw _ _ =>
  ⟨allCalm_setHere hp hw.running _,
    hw.setHere ⟨hw.fits.handler, hw.fits.dispatching, hw.fits.panic⟩, by rw [locals_modifyLocals]⟩

theorem takeError : KeepsHandler takeError := .bind (.bind look fun _ => pure _) fun _ =>
  .bind (setPending none) fun _ => pure _

theorem ite {c : Prop} [Decidable c] {m n : M α} (hm : KeepsHandler m) (hn : KeepsHandler n) :
    KeepsHandler (if c then m else n) := by
  split
  · exact hm
  · exact hn

theorem forM {f : α → M Unit} (hf : ∀ a, KeepsHandler (f a)) (xs : List α) :
    KeepsHandler (xs.forM f) := by
  induction xs with
  | nil => exact pure _
  | cons x xs ih => exact bind (hf x) fun _ => ih

theorem composed {prim : (α : Type) → (Backend → M α) → Prop}
    (h : ∀ α m, prim α m → KeepsHandler (m native)) {m : Backend → M α}
    (hm : Composed SameButPanics prim m) : KeepsHandler (m native) := by
  induction hm with
  | pure a => exact .pure a
  | bind _ _ first rest => exact .bind first rest
  | look _ _ rest => exact .bind .look rest
  | act hm => exact h _ _ hm

variable (h : LibraryCallsBack native)

include h

theorem checked {call : Call} (hcall : call.pumps = false) :
    KeepsHandler (Windowing.checked (native call)).run := by
  refine .bind takeError fun _ => ?_
  refine .bind (h.onlyCallbacks hcall).keepsHandler fun _ => ?_
  refine .bind takeError fun _ => ?_
  refine .bind (setPending _) fun _ => ?_
  exact pure _

theorem destroy (pointer : Pointer) : KeepsHandler (Window.destroy native pointer) := by
  refine .bind (checked h rfl) fun outcome => ?_
  cases outcome with
  | ok reply => exact pure _
  | error e => exact note rfl

theorem release : KeepsHandler (release native) := by
  refine .bind (shared fun _ => ⟨rfl, rfl, rfl⟩) fun _ => .bind look fun _ => .ite ?_ (pure _)
  refine .bind (checked h rfl) fun outcome => ?_
  cases outcome with
  | ok reply => exact shared fun _ => ⟨rfl, rfl, rfl⟩
  | error e => exact .bind (note rfl) fun _ => shared fun _ => ⟨rfl, rfl, rfl⟩

theorem dropWindow (w : Window) : KeepsHandler (w.drop native) := by
  refine .bind (note rfl) fun _ => ?_
  refine .bind (.bind look fun _ => pure _) fun _ => ?_
  exact .ite (.bind (defer (· ++ [w.pointer])) fun _ => .bind (note rfl) fun _ =>
    release h) (.bind (destroy h _) fun _ => release h)

theorem quiet {m : Backend → M α} (hm : Quiet α m) : KeepsHandler (m native) := by
  cases hm with
  | call call hcall => exact (h.onlyCallbacks (Native.Call.pumps_of_plain hcall)).keepsHandler
  | attempt call hcall => exact checked h (Native.Call.pumps_of_plain hcall)
  | take => exact takeError
  | log l => exact note rfl
  | aside hm =>
    cases hm with
    | lend c => exact note rfl
    | giveBack c => exact note rfl
    | lent f | panics f => exact shared fun _ => ⟨rfl, rfl, rfl⟩
    | contexts f => exact tables _

theorem small {m : Backend → M α} (hm : Small α m) : KeepsHandler (m native) := by
  cases hm with
  | quiet hm => exact quiet h hm
  | call call hcall => exact (h.onlyCallbacks (Native.Call.pumps_of_ordinary hcall)).keepsHandler
  | attempt call hcall => exact checked h (Native.Call.pumps_of_ordinary hcall)
  | obtain _ => exact note rfl
  | dropLibrary _ => exact note rfl
  | dropMonitor _ => exact note rfl
  | tables f => exact tables f
  | shared hf => exact shared hf.threads
  | dropWindow w => exact dropWindow h w

theorem finish (panicked : Bool) : KeepsHandler (finish native panicked) :=
  composed (fun _ _ hm => small h hm) (finish_modest panicked).minor

end KeepsHandler

theorem AtWork.stage_ne {p : Process} {w : Watch} (h : AtWork p w) : w.stage ≠ .listening := by
  rcases h.place with hs | ⟨rfl, -⟩
  · rw [hs]; decide
  · decide

namespace ClientStaysCalm

theorem keepsHandler {m : M α} (h : KeepsHandler m) : ClientStaysCalm m := by
  intro p w hp hw
  obtain ⟨hq, hw', hpanic⟩ := h p w hp hw.sight hw.clear hw.stage_ne
  exact ⟨hq, hw', hw.clear, hw.place.imp id fun hpl => ⟨hpl.1, hpanic.trans hpl.2⟩⟩

theorem pure (a : α) : ClientStaysCalm (Pure.pure a : M α) := keepsHandler (.pure a)

theorem bind {m : M α} {f : α → M β} (hm : ClientStaysCalm m) (hf : ∀ a, ClientStaysCalm (f a)) :
    ClientStaysCalm (m >>= f) := by
  intro p w hp hw
  obtain ⟨hq, hw'⟩ := hm p w hp hw
  exact hf _ _ w hq hw'

end ClientStaysCalm

theorem AtWork.of_idle {p : Process} (hr : p.current ∈ p.running) (hw : p.watch p.current = some {})
    (hi : p.locals.Idle) : AtWork p {} :=
  ⟨⟨hr, hw, hi.fits⟩, ⟨rfl, rfl⟩, .inr ⟨rfl, hi.panic⟩⟩

/-- Code outside all pumps leaves its thread idle. -/
theorem AtWork.calm {p : Process} (h : AtWork p {}) : Calm p p.current := by
  rcases h.place with hs | ⟨-, hpanic⟩
  · cases hs
  · exact ⟨h.sight.watch, h.sight.fits.idle hpanic⟩

/-- A thread at rest begins outside all pumps. -/
theorem onThread_start {t : ThreadId} {p : Process} (hp : AllCalm p) (ht : t ∉ p.running) :
    AllCalm { p with running := t :: p.running } ∧
      AtWork { p with running := t :: p.running } {} := by
  have calm := hp t ht
  refine ⟨fun u hu => ?_, .of_idle List.mem_cons_self calm.watch calm.idle⟩
  have same : Undisturbed u p { p with running := t :: p.running } := ⟨rfl, rfl⟩
  exact same.calm (hp u fun hmem => hu (List.mem_cons_of_mem _ hmem))

/-- What a thread does between two rests leaves every resting thread at rest. -/
theorem allCalm_onThread {t : ThreadId} {body : M α} {p : Process} (hp : AllCalm p)
    (ht : t ∉ p.running) (hb : ∀ q, q.current = t → AllCalm q → AtWork q {} →
      Within q (final body q) ∧ AllCalm (final body q) ∧ Calm (final body q) t) :
    AllCalm (final (onThread t body) p) := by
  obtain ⟨rest, start⟩ := onThread_start hp ht
  obtain ⟨within, hq, hcalm⟩ := hb _ rfl rest start
  intro u hu
  have same : Undisturbed u (final body { p with running := t :: p.running })
      (final (onThread t body) p) := ⟨rfl, rfl⟩
  refine same.calm ?_
  by_cases heq : u = t
  · exact heq ▸ hcalm
  · refine hq u fun hmem => ?_
    rw [within.running] at hmem
    exact (List.mem_cons.1 hmem).elim heq hu

namespace ClientStaysCalm

variable (h : LibraryCallsBack native)

include h

omit h in
/-- With its handler installed the thread is ready for the native call. -/
theorem installed_view {p : Process} (hp : AllCalm p) (hw : AtWork p {}) (handler : Handler) :
    AllCalm (final takeError (final (modifyLocals fun s => { s with handler := some handler }) p)) ∧
      View (final takeError (final (modifyLocals fun s => { s with handler := some handler }) p))
        {} .listening := by
  have idle : p.locals.Idle := hw.calm.idle
  obtain ⟨hq, hv⟩ := hw.sight.modifyLocals hp .listening
    (fun s => { s with handler := some handler })
    ⟨by simp, by simp [idle.dispatching], by simp [idle.panic]⟩
  exact hv.modifyLocals hq .listening (fun s => { s with pending := none })
    ⟨hv.fits.handler, hv.fits.dispatching, hv.fits.panic⟩

/-- After the native call of a pump its handler waits, or has panicked. -/
theorem pumped_view {call : Call} (hcall : call.pumps = true) (handler : Handler) {p : Process}
    (hp : AllCalm p) (hw : AtWork p {}) :
    AllCalm (final (checked (native call)).run
      (final (modifyLocals fun s => { s with handler := some handler }) p)) ∧
      ∃ stage, (stage = .listening ∨ stage = .panicked) ∧ View (final (checked (native call)).run
        (final (modifyLocals fun s => { s with handler := some handler }) p)) {} stage := by
  have pending : ∀ {q : Process} {stage : Stage} (e : Option Error), AllCalm q → View q {} stage →
      AllCalm (final (setPending e) q) ∧ View (final (setPending e) q) {} stage :=
    fun e hq hv => hv.modifyLocals hq _ _ ⟨hv.fits.handler, hv.fits.dispatching, hv.fits.panic⟩
  obtain ⟨h₁, v₁⟩ := installed_view hp hw handler
  obtain ⟨h₂, stage, hstage, v₂⟩ := h.pump call _ hcall h₁ v₁
  obtain ⟨h₃, v₃⟩ := pending none h₂ v₂
  obtain ⟨h₄, v₄⟩ := pending _ h₃ v₃
  exact ⟨h₄, stage, hstage, v₄⟩

omit h in
/-- The handler is removed, and what it left to destroy is taken. -/
theorem removed_view {p : Process} {stage : Stage} (hp : AllCalm p) (hv : View p {} stage)
    (hstage : stage = .listening ∨ stage = .panicked) :
    AllCalm (final takeDeferred (final (modifyLocals fun s => { s with handler := none }) p)) ∧
      View (final takeDeferred (final (modifyLocals fun s => { s with handler := none }) p))
        {} .outside := by
  have quiet := hv.fits.dispatching
  obtain ⟨hq, hv'⟩ := hv.modifyLocals hp .outside (fun s => { s with handler := none })
    ⟨by simp, by rcases hstage with rfl | rfl <;> simpa using quiet, by simp⟩
  exact hv'.modifyLocals hq .outside (fun s => { s with deferred := [] })
    ⟨hv'.fits.handler, hv'.fits.dispatching, hv'.fits.panic⟩

theorem processEvents {call : Call} (hcall : call.pumps = true) (handler : Handler) {p : Process}
    (hp : AllCalm p) (hw : AtWork p {}) :
    AllCalm (final (processEvents native call handler) p) ∧
      Sight (final (processEvents native call handler) p) {} := by
  obtain ⟨h₁, stage, hstage, v₁⟩ := pumped_view h hcall handler hp hw
  obtain ⟨h₂, v₂⟩ := removed_view h₁ v₁ hstage
  obtain ⟨h₃, v₃, -⟩ := KeepsHandler.forM (KeepsHandler.destroy h) _ _ {} h₂ v₂ ⟨rfl, rfl⟩ (by decide)
  exact ⟨h₃, v₃⟩

/-- Within a handler no pump runs; outside, a pump removes the handler that it installs. -/
theorem pump (kind : PumpKind) (handler : Handler) :
    ClientStaysCalm (Windowing.pump native kind handler).run := by
  intro p w hp hw
  by_cases busy : p.locals.dispatching
  · rw [final_pump_refused busy]
    exact ⟨hp, hw⟩
  · obtain ⟨rfl, -⟩ := hw.outside busy
    have hkind : kind.call.pumps = true := by cases kind <;> rfl
    obtain ⟨hq, hv⟩ := processEvents h hkind handler hp hw
    rw [final_pump busy]
    generalize final (Windowing.processEvents native kind.call handler) p = q at hq hv
    have hpanic : (final takePanic q).locals.panic = none := by simp [takePanic]
    exact ⟨allCalm_setHere hq hv.running _,
      hv.setHere ⟨hv.fits.handler, hv.fits.dispatching, by simp⟩, ⟨rfl, rfl⟩, .inr ⟨rfl, hpanic⟩⟩

theorem runPump (slot : Nat) (kind : PumpKind) (reactions : List (List Step)) :
    ClientStaysCalm (runPump native slot kind reactions) := by
  refine .bind (keepsHandler (.bind .look fun _ => .pure _)) fun t => ?_
  split
  · exact pure _
  refine .bind (keepsHandler (.tables _)) fun _ => ?_
  refine .bind (pump h kind reactions) fun outcome => ?_
  refine .bind (keepsHandler (.tables _)) fun _ => ?_
  rcases outcome with message | (e | _) <;> exact pure _

omit h in
theorem catchUnwind {body : M α} (hb : ClientStaysCalm body) : ClientStaysCalm (catchUnwind body) :=
    by
  intro p w hp hw
  obtain ⟨hq, hw'⟩ := hb p w hp hw
  have caught := (catchPanic_alike (final body p)).toSameThreads
  exact ⟨caught.allCalm hq, (caught.undisturbed _).atWork caught.running hw'⟩

theorem runToEnd {body : M (Option String)} (hb : ClientStaysCalm body) :
    ClientStaysCalm (runToEnd native body) := by
  refine .bind hb fun panic => .bind (keepsHandler (.finish h _)) fun kept => ?_
  exact .bind (keepsHandler (.note rfl)) fun _ => pure _

variable (hc : ∀ call, Confined (native call))

include hc

/-- A new thread is at rest before it begins and after it is forgotten. -/
theorem spawn (contexts : List (Option (Context × Nat))) {body : M (Option String)}
    (hb : ClientStaysCalm body) (hbc : Confined body) :
    ClientStaysCalm (spawn native contexts body) := by
  intro p w hp hw
  obtain ⟨same, apart⟩ := Confined.spawn_apart hc contexts hbc p
  have here := apart p.current hw.sight.running
  have fresh : ∀ locals : Locals, locals = {} → locals.Idle := fun _ h => h ▸ ⟨rfl, rfl, rfl⟩
  have start := allCalm_withThread hp contexts
  have ran : AllCalm (final (onThread p.freshThread
      (Windowing.catchUnwind (Client.runToEnd native body))) (p.withThread contexts)) := by
    refine allCalm_onThread start (fresh_notMem_running p) fun q hq hcalm hwork => ?_
    obtain ⟨hcalm', hwork'⟩ := catchUnwind (runToEnd h hb) q {} hcalm hwork
    have within := ((Confined.compositional hc).runToEnd hbc).catchUnwind q
    exact ⟨within, hcalm', within.current.trans hq ▸ hwork'.calm⟩
  have ended : AllCalm (final (Client.spawn native contexts body) p) :=
    allCalm_threads ran (fun u hu => Registry.get_erase_of_ne _ hu)
      (fresh _ (by rw [Registry.get_erase_self]; rfl))
  exact ⟨ended, here.atWork same hw⟩

theorem runThread {body : M (Option String)} (hb : ClientStaysCalm body) (hbc : Confined body) :
    ClientStaysCalm (runThread native body) := by
  refine .bind (keepsHandler .look) fun p => ?_
  split
  · exact pure _
  refine .bind (keepsHandler (.bind .look fun _ => .pure _)) fun t => ?_
  refine .bind (keepsHandler (.tables _)) fun _ => ?_
  refine .bind (spawn h hc _ hb hbc) fun _ => ?_
  refine .bind (keepsHandler (.tables _)) fun _ => ?_
  exact pure _

omit h hc in
theorem withScript (script : Script) {body : M α} (hb : ClientStaysCalm body) :
    ClientStaysCalm (withScript script body) := by
  intro p w hp hw
  have before := (alike_scripts p (script :: p.scripts)).toSameThreads
  obtain ⟨hq, hw'⟩ := hb _ w (before.allCalm hp) ((before.undisturbed _).atWork before.running hw)
  have after := (alike_scripts (final body { p with scripts := script :: p.scripts })
    p.scripts).toSameThreads
  exact ⟨after.allCalm hq, (after.undisturbed _).atWork after.running hw'⟩

theorem law : StepLaw native fun _ m => ClientStaysCalm m ∧ Confined m where
  pure a := ⟨pure a, .pure a⟩
  bind hm hf := ⟨bind hm.1 fun a => (hf a).1, .bind hm.2 fun a => (hf a).2⟩
  operation op small := ⟨keepsHandler (.composed (fun _ _ hm => .small h hm) (runOp_small op small)),
    (Confined.law hc).operation op small⟩
  pump slot kind reactions := ⟨runPump h slot kind reactions,
    (Confined.law hc).pump slot kind reactions⟩
  thread _ hb := ⟨runThread h hc hb.1 hb.2, (Confined.law hc).thread _ hb.2⟩
  step script op hop :=
    ⟨.bind (keepsHandler (.note rfl)) fun _ => .bind (withScript script hop.1) fun _ =>
      .bind (keepsHandler (.note rfl)) fun _ => pure _, (Confined.law hc).step script op hop.2⟩

end ClientStaysCalm

/-! ### Turns -/

theorem allCalm_interject {thread : ThreadId} {body : M Unit} {p : Process} (hp : AllCalm p)
    (hb : ∀ q, q.current = thread → AllCalm q → AtWork q {} →
      Within q (final body q) ∧ AllCalm (final body q) ∧ Calm (final body q) thread) :
    AllCalm (final (interject thread body) p) := by
  by_cases busy : p.running.contains thread
  · simp only [interject, final_bind, final_get, result_get, busy, ↓reduceIte]
    exact hp
  · simp only [interject, final_bind, final_get, result_get, busy]
    exact allCalm_onThread hp (by simpa using busy) hb

section Turns

variable (h : LibraryCallsBack native) (hc : ∀ call, Confined (native call))

include h hc

theorem allCalm_endThread {thread : ThreadId} (panic : Option String) {p : Process}
    (hcurrent : p.current = thread) (hp : AllCalm p) (hw : AtWork p {}) :
    AllCalm (final (endThread native thread panic) p) ∧
      Calm (final (endThread native thread panic) p) thread := by
  obtain ⟨hq, hw'⟩ := ClientStaysCalm.keepsHandler (.finish h true) p {} hp hw
  have within := (Confined.compositional hc).finish true p
  rw [final_endThread]
  generalize final (finish native true) p = q at hq hw' within
  obtain ⟨hr, hw''⟩ := ClientStaysCalm.keepsHandler (.note (h := .threadEnded panic) rfl) q {} hq hw'
  have calm : Calm (q.note (.threadEnded panic)) q.current := hw''.calm
  rw [within.current, hcurrent] at calm
  have idle : ((q.threads.erase thread).get thread).locals.Idle := by
    rw [Registry.get_erase_self]
    exact ⟨rfl, rfl, rfl⟩
  have caught := (catchPanic_alike (q.note (.threadEnded panic))).toSameThreads.allCalm hr
  exact ⟨allCalm_threads caught (fun u hu => Registry.get_erase_of_ne _ hu) idle, calm.watch, idle⟩

theorem allCalm_runTurn (turn : Turn) {p : Process} (hp : AllCalm p) :
    AllCalm (final (runTurn native turn) p) := by
  cases turn with
  | finish thread =>
    refine allCalm_interject hp fun q hq hcalm hwork => ?_
    exact ⟨Confined.endThread hc thread none q hq, allCalm_endThread h hc none hq hcalm hwork⟩
  | step thread step =>
    refine allCalm_interject hp fun q hq hcalm hwork => ?_
    obtain ⟨staysCalm, confined⟩ := (ClientStaysCalm.law h hc).runStep step
    obtain ⟨hcalm', hwork'⟩ := staysCalm q {} hcalm hwork
    have hcurrent := (confined q).current.trans hq
    rw [final_bind]
    cases result (runStep native step) q with
    | panicking message =>
      exact ⟨(confined q).trans (Confined.endThread hc thread _ _ hcurrent),
        allCalm_endThread h hc _ hcurrent hcalm' hwork'⟩
    | _ => exact ⟨confined q, hcalm', hcurrent ▸ hwork'.calm⟩

/-! ### Events -/

omit h hc in
theorem OnlyCallbacks.note {e : Happening} (he : e.still = true) : OnlyCallbacks (note e) :=
  fun _ w hp hw hclear => ⟨allCalm_note hp hw.running e, w, hw.note (Watch.step_still hclear he),
    .of_samePlace hclear .rfl⟩

omit h hc in
theorem final_react (time : Float) (event : Event) (p : Process) :
    final (react native time event) p =
      (final (catchUnwind (runSteps native ((p.locals.handler.getD []).headD [])))
        ((final (modifyLocals fun s => { s with handler := s.handler.map List.tail }) p).note
          (.handling time event))).note (.handled (result (react native time event) p)) :=
  rfl

omit h hc in
/-- A handler that is owed an event starts to work on it. -/
theorem react_entered {time : Float} {event : Event} {p : Process} {w : Watch} (hp : AllCalm p)
    (hw : View p { w with owed := some (time, event) } .handling) (hc' : w.Clear) :
    AllCalm ((final (modifyLocals fun s => { s with handler := s.handler.map List.tail }) p).note
        (.handling time event)) ∧
      AtWork ((final (modifyLocals fun s => { s with handler := s.handler.map List.tail }) p).note
        (.handling time event)) { w with stage := .handling } := by
  have hf := hw.fits
  obtain ⟨hq, hv⟩ := hw.modifyLocals hp .handling
    (fun s => { s with handler := s.handler.map List.tail })
    ⟨by simpa using hf.handler, hf.dispatching, hf.panic⟩
  have start : Watch.step { w with owed := some (time, event) } (.handling time event) =
      some { w with stage := .handling } := by
    simp [Watch.step, hc'.armed, hc'.owed]
  exact ⟨allCalm_note hq hv.running _, hv.note start, ⟨hc'.armed, hc'.owed⟩, .inl rfl⟩

/-- A handler that is owed an event receives it, and then waits again unless it panics. -/
theorem react_watched {time : Float} {event : Event} {p : Process} {w : Watch} (hp : AllCalm p)
    (hw : View p { w with owed := some (time, event) } .handling) (hc' : w.Clear) :
    AllCalm (final (react native time event) p) ∧
      View (final (react native time event) p)
        { w with
          stage := if (result (react native time event) p).isSome then .panicked else .listening }
        .handling := by
  obtain ⟨calm, working⟩ := react_entered hp hw hc'
  obtain ⟨hq, hw'⟩ := (ClientStaysCalm.catchUnwind ((ClientStaysCalm.law h hc).runSteps
    ((p.locals.handler.getD []).headD [])).1) _ _ calm working
  have stop : Watch.step { w with stage := .handling }
      (.handled (result (react native time event) p)) = some { w with
        stage := if (result (react native time event) p).isSome then .panicked else .listening } := by
    have clear : Watch.Clear { w with stage := .handling } := ⟨hc'.armed, hc'.owed⟩
    simp [Watch.step, clear]
  rw [final_react]
  exact ⟨allCalm_note hq hw'.sight.running _, hw'.sight.note stop⟩

omit h hc in
/-- The handler runs from now on. -/
theorem dispatch_entered {time : Float} {event : Event} {p : Process} {w : Watch} (hp : AllCalm p)
    (hw : Sight p { w with owed := some (time, event) }) (hs : w.stage = .listening) :
    AllCalm (final (modifyLocals fun s => { s with dispatching := true }) p) ∧
      View (final (modifyLocals fun s => { s with dispatching := true }) p)
        { w with owed := some (time, event) } .handling := by
  have hf := hw.fits
  exact hw.modifyLocals hp .handling (fun s => { s with dispatching := true })
    ⟨by simpa [hs] using hf.handler, by simp, by simpa [hs] using hf.panic⟩

omit h hc in
theorem dispatch_dropped {react : Reaction} {time : Float} {event : Event} {p : Process}
    {reason : DropReason} (h : p.locals.dropReason = some reason) :
    final (dispatch react time event) p = p.note (.logged (.eventDropped reason event)) := by
  simp [dispatch, h, log]

omit h hc in
theorem dispatch_handled {react : Reaction} {time : Float} {event : Event} {p q : Process}
    {panic : Option String} (h : p.locals.dropReason = none)
    (hpanic : result (react time event)
      (final (modifyLocals fun s => { s with dispatching := true }) p) = panic)
    (hq : final (react time event)
      (final (modifyLocals fun s => { s with dispatching := true }) p) = q) :
    final (dispatch react time event) p =
      final (modifyLocals fun s => { s with dispatching := false, panic := panic.or s.panic }) q := by
  simp only [dispatch, final_bind, result_getLocals, final_getLocals, h, hpanic, hq]

/-- The thread has handed the event to its handler. -/
def Process.handed (time : Float) (event : Event) (p : Process) : Process :=
  (final (modifyLocals fun s => { s with handler := s.handler.map List.tail })
    (final (modifyLocals fun s => { s with dispatching := true }) p)).note (.handling time event)

omit h hc in
/-- A handler that waits runs its steps on the event that it is owed. -/
theorem dispatch_runs (native : Backend) {time : Float} {event : Event} {p : Process} {w : Watch}
    (hp : AllCalm p) (hw : Sight p { w with owed := some (time, event) })
    (hs : w.stage = .listening) (hc' : w.Clear) : AllCalm (p.handed time event) ∧
      AtWork (p.handed time event) { w with stage := .handling } ∧
      ∃ steps panic, final (dispatch (react native) time event) p =
        final (modifyLocals fun s => { s with dispatching := false, panic := panic.or s.panic })
          ((final (catchUnwind (runSteps native steps)) (p.handed time event)).note
            (.handled panic)) := by
  obtain ⟨hp₁, hw₁⟩ := dispatch_entered hp hw hs
  obtain ⟨calm, work⟩ := react_entered hp₁ hw₁ hc'
  have takes : p.locals.dropReason = none := hw.fits.dropReason.2 hs
  exact ⟨calm, work, _, _, dispatch_handled takes rfl (final_react time event _)⟩

/-- The waiting handler takes an event that it is owed. -/
theorem dispatch_watched {time : Float} {event : Event} {p : Process} {w : Watch} (hp : AllCalm p)
    (hw : Sight p { w with owed := some (time, event) }) (hs : w.stage = .listening)
    (hc' : w.Clear) :
    AllCalm (final (dispatch (react native) time event) p) ∧ ∃ w', w'.Clear ∧
      w'.frames = w.frames ∧ (w'.stage = .listening ∨ w'.stage = .panicked) ∧
      Sight (final (dispatch (react native) time event) p) w' := by
  obtain ⟨hp₁, hw₁⟩ := dispatch_entered hp hw hs
  obtain ⟨hq, hv⟩ := react_watched h hc hp₁ hw₁ hc'
  rw [dispatch_handled (hw.fits.dropReason.2 hs) rfl rfl]
  generalize result (react native time event) _ = panic at hv ⊢
  generalize final (react native time event) _ = q at hq hv ⊢
  have hqf := hv.fits
  have hquiet : q.locals.panic = none := by simpa using hqf.panic
  cases panic with
  | none =>
    obtain ⟨hr, hw'⟩ := hv.modifyLocals hq .listening
      (fun s => { s with dispatching := false, panic := Option.or none s.panic })
      ⟨by simpa using hqf.handler, by simp, by simp [hquiet]⟩
    exact ⟨hr, { w with stage := .listening }, ⟨hc'.armed, hc'.owed⟩, rfl, .inl rfl, hw'⟩
  | some message =>
    obtain ⟨hr, hw'⟩ := hv.modifyLocals hq .panicked
      (fun s => { s with dispatching := false, panic := Option.or (some message) s.panic })
      ⟨by simpa using hqf.handler, by simp, by simp⟩
    exact ⟨hr, { w with stage := .panicked }, ⟨hc'.armed, hc'.owed⟩, rfl, .inr rfl, hw'⟩

omit h hc in
/-- The time of an event is asked for when it is fired. -/
theorem deliver_called (event : Event) {p : Process} {w : Watch}
    (hw : Sight p { w with armed := if w.stage = .listening then some event else none })
    (hc' : w.Clear) : Sight (p.note (.called .getTime)) { w with
      armed := none
      frames := (.getTime, if w.stage = .listening then some event else none) :: w.frames } :=
  View.note hw (by simp [Watch.step, Watch.frame, hc'.owed, Call.pumps])

omit hc in
/-- The time of an event is read when it is fired; then the handler is owed the event if it waits,
and otherwise the event is dropped. -/
theorem deliver_read (event : Event) {p : Process} {w : Watch} (hp : AllCalm p)
    (hw : Sight p { w with armed := if w.stage = .listening then some event else none })
    (hc' : w.Clear) :
    AllCalm (final (native .getTime) p) ∧ ∃ w', CalledBack w w' p (final (native .getTime) p) ∧
      (∀ reason, (final (native .getTime) p).locals.dropReason = some reason →
        Sight (final (native .getTime) p) w') ∧
      ((final (native .getTime) p).locals.dropReason = none →
        w.stage = .listening ∧ w'.stage = .listening ∧ Sight (final (native .getTime) p)
          { w' with owed := some ((result (native .getTime) p).time, event) }) := by
  have waiting : (if w.stage = .listening then some event else none) = none ∨
      Call.getTime = .getTime ∧ w.stage = .listening := by
    by_cases hs : w.stage = .listening
    · exact .inr ⟨rfl, hs⟩
    · exact .inl (if_neg hs)
  obtain ⟨hq, w', heard, hv⟩ := h.call .getTime p _ rfl hp hw hc'.owed waiting
  have heard' : CalledBack w w' p (final (native .getTime) p) :=
    ⟨heard.clear, heard.frames, heard.aside, heard.waiting⟩
  generalize (result (native .getTime) p).time = time at hv ⊢
  generalize final (native .getTime) p = q at hq heard' hv ⊢
  refine ⟨hq, w', heard', fun reason hreason => ?_, fun hreason => ?_⟩
  · have hs : w'.stage ≠ .listening := fun hs => by
      rw [hv.fits.dropReason.2 hs] at hreason
      cases hreason
    simpa [Watch.claim, hs, w'.unowed heard.clear] using hv
  · have hs' : w'.stage = .listening := hv.fits.dropReason.1 hreason
    have hs : w.stage = .listening := Decidable.byContradiction fun hne =>
      hne ((heard'.aside hne).1.symm.trans hs')
    exact ⟨hs, hs', by simpa [Watch.claim, Watch.frame, hs, hs'] using hv⟩

/-- What is fired is read, and handled if the handler waits for it. -/
theorem deliver_watched (decoded : Except Log Event) {p : Process} {w : Watch} (hp : AllCalm p)
    (hw : Sight p { w with armed := if w.stage = .listening then decoded.toOption else none })
    (hc' : w.Clear) :
    AllCalm (final (deliver native (react native) decoded) p) ∧ ∃ w',
      Sight (final (deliver native (react native) decoded) p) w' ∧
      CalledBack w w' p (final (deliver native (react native) decoded) p) := by
  cases decoded with
  | error warning =>
    have hw' : Sight p w := by
      simpa [Except.toOption, w.unarmed hc'] using hw
    exact OnlyCallbacks.note rfl p w hp hw' hc'
  | ok event =>
    obtain ⟨hq, w', heard, dropped, owed⟩ := deliver_read h event hp hw hc'
    change AllCalm (final (dispatch (react native) (result (native .getTime) p).time event)
      (final (native .getTime) p)) ∧ ∃ w', Sight (final (dispatch (react native)
      (result (native .getTime) p).time event) (final (native .getTime) p)) w' ∧ CalledBack w w' p
      (final (dispatch (react native) (result (native .getTime) p).time event)
        (final (native .getTime) p))
    generalize (result (native .getTime) p).time = time at owed ⊢
    generalize final (native .getTime) p = q at hq heard dropped owed ⊢
    cases hreason : q.locals.dropReason with
    | some reason =>
      rw [dispatch_dropped hreason]
      obtain ⟨hr, w'', hw'', logged⟩ := OnlyCallbacks.note
        (e := .logged (.eventDropped reason event)) rfl
        q w' hq (dropped reason hreason) heard.clear
      exact ⟨hr, w'', hw'', heard.trans logged⟩
    | none =>
      obtain ⟨hs, hs', owed⟩ := owed hreason
      obtain ⟨hr, w'', hclear, hframes, hstage, hw''⟩ :=
        dispatch_watched h hc hq owed hs' heard.clear
      exact ⟨hr, w'', hw'', hclear, hframes.trans heard.frames, fun hne => absurd hs hne,
        fun _ => hstage⟩

omit h hc in
theorem onError_onlyCallbacks (code : Int32) (description : Option Text.Bytes) :
    OnlyCallbacks (onError code description) :=
  .bind (.note rfl) fun _ _ _ hp hw hclear =>
    ⟨allCalm_setHere hp hw.running _,
      _, hw.setHere ⟨hw.fits.handler, hw.fits.dispatching, hw.fits.panic⟩,
      .of_samePlace hclear ⟨_, Process.here_setHere _ _⟩⟩

omit h hc in
/-- A window's or monitor's callback arms a handler that waits. -/
theorem Sight.invoked {p : Process} {w : Watch} (hw : Sight p w) (hc' : w.Clear)
    (callback : Callback) : Sight (p.note (.invoked callback))
      { w with armed := if w.stage = .listening then callback.event? else none } :=
  hw.note (by simp [Watch.step, hc'])

theorem invoke_onlyCallbacks (callback : Callback) : OnlyCallbacks (invoke native callback) := by
  intro p w hp hw hclear
  cases listens : p.listens callback with
  | true =>
    rw [final, invoke_run listens]
    have fired := hw.invoked hclear callback
    have hp' := allCalm_note hp hw.running (.invoked callback)
    have before : CalledBack w w p (p.note (.invoked callback)) := .of_samePlace hclear (.of_here rfl)
    cases callback with
    | error code description =>
      have fired' : Sight (p.note (.invoked (.error code description))) w := by
        simpa [Callback.event?, w.unarmed hclear] using fired
      obtain ⟨hq, w', hw', heard⟩ := onError_onlyCallbacks code description _ w hp' fired' hclear
      exact ⟨hq, w', hw', before.trans heard⟩
    | monitor monitor event =>
      obtain ⟨hq, w', hw', heard⟩ := deliver_watched h hc _ hp' fired hclear
      exact ⟨hq, w', hw', before.trans heard⟩
    | window window signal =>
      obtain ⟨hq, w', hw', heard⟩ := deliver_watched h hc _ hp' fired hclear
      exact ⟨hq, w', hw', before.trans heard⟩
  | false =>
    rw [final, invoke_unheard listens]
    exact OnlyCallbacks.pure _ p w hp hw hclear

end Turns

/-- What other threads do meanwhile is not seen on this one. -/
theorem OnlyCallbacks.apart {m : M α} (h : Apart m) (hm : ∀ p, AllCalm p → AllCalm (final m p)) :
    OnlyCallbacks m := by
  intro p w hp hw hclear
  obtain ⟨same, apart⟩ := h p
  have here := apart p.current hw.running
  have hcurrent : (final m p).current = p.current := Process.current_eq same
  refine ⟨hm p hp, w, here.view same hw, .of_samePlace hclear (.of_here ?_)⟩
  rw [Process.here, hcurrent, here.thread, Process.here]

theorem backend_callsBack (depth : Nat) : LibraryCallsBack (backend depth) := by
  induction depth with
  | zero => exact callWith_callsBack fun _ => .pure _
  | succ depth ih =>
    have turn : ∀ turn, OnlyCallbacks (runTurn (backend depth) turn) := fun turn =>
      .apart (Confined.runTurn (backend_confined depth) turn)
        fun _ => allCalm_runTurn ih (backend_confined depth) turn
    have turns : OnlyCallbacks takeTurns := fun p w hp hw hclear =>
      have same := (takeTurns_alike p).toSameThreads
      ⟨same.allCalm hp, w, same.view hw, .of_samePlace hclear (.of_here same.here)⟩
    exact callWith_callsBack fun reply => .bind turns fun batch => .bind (.forM turn batch) fun _ =>
      .forM (invoke_onlyCallbacks ih (backend_confined depth)) reply.callbacks

/-! ### Sessions -/

theorem Session.start_thread (s : Session) (t : ThreadId) : s.start.threads.get t = {} := by
  have fresh : ∀ threads : List ThreadId,
      ((threads.map fun u => (u, ({} : Thread))).lookup t).getD {} = {} := by
    intro threads
    induction threads with
    | nil => rfl
    | cons u threads ih =>
      rw [List.map_cons, List.lookup_cons]
      cases t == u with
      | true => rfl
      | false => exact ih
  have all := fresh (0 :: s.schedule.flatten.map (·.thread))
  rw [List.map_cons, List.map_map] at all
  exact all

theorem Session.start_calm (s : Session) : AllCalm s.start ∧ AtWork s.start {} := by
  have idle : ∀ t, (s.start.threads.get t).locals.Idle := by
    intro t
    rw [s.start_thread t]
    exact ⟨rfl, rfl, rfl⟩
  exact ⟨fun t _ => ⟨rfl, idle t⟩, .of_idle List.mem_cons_self rfl (idle 0)⟩

theorem Session.body_staysCalm (s : Session) : ClientStaysCalm s.body ∧ Confined s.body := by
  have callsBack := backend_callsBack s.depth
  have confined := backend_confined s.depth
  have steps := (ClientStaysCalm.law callsBack confined).runSteps s.steps
  exact ⟨.bind steps.1 fun _ => .bind (.keepsHandler (.finish callsBack true)) fun _ =>
      .keepsHandler (.note rfl),
    .bind steps.2 fun _ => (Confined.compositional confined).ended true _⟩

end Windowing
