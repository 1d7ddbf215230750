import Windowing.Proofs.AgreeingDrops

/-!
Operations that show what threads share. Two threads that are alike may be told apart by the lock,
by which contexts are lent and handed over, and by how another thread ended. What tells them apart
is then the first thing in which their steps differ: what one of them does at once, or the outcome
that it ends with.
-/

namespace Windowing

open Native Client

variable {α β : Type} {native native' : Backend} {p p' q q' : Process} {m m' n n' : M Outcome}
  {x y : Happening}

/-! ### First entries -/

/-- The computation begins with the entry. -/
def Begins (x : Happening) (m : M α) (p : Process) : Prop :=
  ∃ later, Passes p (final m p) (x :: later)

namespace Begins

theorem note (h : Happening) (p : Process) : Begins h (note h) p := ⟨[], .note h p⟩

theorem bind {m : M α} {f : α → M β} (h : Begins x m p) (goes : ∀ a, GrowsConfined (f a)) :
    Begins x (m >>= f) p := by
  obtain ⟨later, passes⟩ := h
  obtain ⟨rest, ended⟩ := (goes (result m p)).passes (final m p)
  exact ⟨later ++ rest, passes.trans ended⟩

/-- Nothing is seen of what came before. -/
theorem after {m n : M α} (passes : Passes p q []) (run : m.run p = n.run q) (h : Begins x n q) :
    Begins x m p := by
  obtain ⟨later, ended⟩ := h
  rw [Begins, final, run]
  exact ⟨later, passes.trans ended⟩

theorem call (h : ReliableLibrary native) (call : Call) (hp : Unheeding p) :
    Begins (.called call) (native call) p := by
  obtain ⟨hs, -, left, -⟩ := h.answers call p hp.1 hp.2
  exact ⟨hs, .of_leaves left⟩

/-- A checked call begins with the call. -/
theorem checked (h : ReliableLibrary native) (call : Call) (hp : Unheeding p) :
    Begins (.called call) (checked (native call)).run p := by
  obtain ⟨hs, passes⟩ := Begins.call h call (hp.clientEffects (m := takeError) (.setPending none))
  have opened : Passes p (final takeError p) [] := ⟨rfl, rfl⟩
  have closed : Passes (final (native call) (final takeError p))
      (final (Windowing.checked (native call)).run p) [] := ⟨rfl, rfl⟩
  exact ⟨hs, by simpa using (opened.trans passes).trans closed⟩

/-- A checked call of which only its success matters begins with the call. -/
theorem done (h : ReliableLibrary native) (call : Call) (hp : Unheeding p) :
    Begins (.called call) (done (perform native call)) p := by
  have performed : Begins (.called call) (perform native call).run p := by
    change Begins _ ((Windowing.checked (native call)).run >>= ExceptT.bindCont fun _ => pure ()) p
    exact (checked h call hp).bind fun outcome => by cases outcome <;> exact .pure _
  exact performed.bind fun outcome => by cases outcome <;> exact .pure _

end Begins

/-- The first entry of a step after its beginning, which may be its end. -/
def Reveals (x : Happening) (m : M Outcome) (p : Process) : Prop :=
  ∃ hs rest, Passes p (final m p) hs ∧ hs ++ [.stepEnded (result m p)] = x :: rest

theorem Begins.reveals (h : Begins x m p) : Reveals x m p := by
  obtain ⟨later, passes⟩ := h
  exact ⟨_, _, passes, rfl⟩

theorem Reveals.at_once {outcome : Outcome} (h : m.run p = (outcome, p)) :
    Reveals (.stepEnded outcome) m p := by
  rw [Reveals, final, result, h]
  exact ⟨[], [], .refl, rfl⟩

theorem Reveals.run (run : m.run p = n.run p) (h : Reveals x n p) : Reveals x m p := by
  rw [Reveals, final, result, run]
  exact h

/-- Two steps that have begun part before or at their ends, or they end alike. -/
def Concludes (m m' : M Outcome) (p p' : Process) : Prop :=
  ∃ hs hs', Passes p (final m p) hs ∧ Passes p' (final m' p') hs' ∧
    (Parts (.stepStarted :: (hs ++ [.stepEnded (result m p)]))
        (.stepStarted :: (hs' ++ [.stepEnded (result m' p')])) ∨
      Same hs hs' ∧ result m p = result m' p' ∧ (final m p).here.Akin (final m' p').here)

theorem Agrees.concludes {R : Outcome → Outcome → Process → Process → Prop}
    (h : Agrees R m m' p p') (hR : R (result m p) (result m' p') (final m p) (final m' p') →
      result m p = result m' p' ∧ (final m p).here.Akin (final m' p').here) :
    Concludes m m' p p' := by
  obtain ⟨hs, hs', passes, passes', parted | ⟨same, ended⟩⟩ := h
  · exact ⟨hs, hs', passes, passes', .inl (.prepend (.refl [.stepStarted]) (parted.append _ _))⟩
  · exact ⟨hs, hs', passes, passes', .inr ⟨same, hR ended⟩⟩

theorem Tied.concludes (h : Tied Eq m m') (matched : Matched p p') : Concludes m m' p p' :=
  (h.agrees p p' matched).concludes fun ended => ⟨ended.1, ended.2.akin⟩

namespace Concludes

theorem of_run (run : m.run p = n.run p) (run' : m'.run p' = n'.run p')
    (h : Concludes n n' p p') : Concludes m m' p p' := by
  rw [Concludes, result, result, final, final, run, run']
  exact h

/-- Neither step has done anything, and both have the same outcome. -/
theorem at_once {outcome : Outcome} (akin : p.here.Akin p'.here) (run : m.run p = (outcome, p))
    (run' : m'.run p' = (outcome, p')) : Concludes m m' p p' := by
  rw [Concludes, result, result, final, final, run, run']
  exact ⟨[], [], .refl, .refl, .inr ⟨.refl _, rfl, akin⟩⟩

/-- The steps are told apart by the first entries. -/
theorem apart (h : Reveals x m p) (h' : Reveals y m' p') (hne : x.outline ≠ y.outline)
    (shows : Shows (some .stepStarted) x y ∨ Shows (some .stepStarted) y x) :
    Concludes m m' p p' := by
  obtain ⟨hs, rest, passes, first⟩ := h
  obtain ⟨hs', rest', passes', first'⟩ := h'
  refine ⟨hs, hs', passes, passes', .inl ?_⟩
  rw [first, first']
  exact ⟨[.stepStarted], [.stepStarted], x, y, rest, rest', rfl, rfl, .refl _, hne, shows⟩

/-- The steps do the same and are told apart by their outcomes. -/
theorem at_end {hs hs' : List Happening} {outcome outcome' : Outcome}
    (passes : Passes p (final m p) hs) (passes' : Passes p' (final m' p') hs') (same : Same hs hs')
    (ended : result m p = outcome) (ended' : result m' p' = outcome')
    (akin : (final m p).here.Akin (final m' p').here)
    (shows : Shows (.stepStarted :: hs).getLast? (.stepEnded outcome) (.stepEnded outcome')) :
    Concludes m m' p p' := by
  refine ⟨hs, hs', passes, passes', ?_⟩
  rw [ended, ended']
  by_cases equal : outcome = outcome'
  · exact .inr ⟨same, equal, akin⟩
  · refine .inl ⟨.stepStarted :: hs, .stepStarted :: hs', .stepEnded outcome, .stepEnded outcome',
      [], [], rfl, rfl, congrArg (_ :: ·) same, ?_, .inl shows⟩
    simpa [Happening.outline] using equal

end Concludes

/-! ### Contexts -/

section Contexts

variable (h : ReliableLibrary native) (h' : ReliableLibrary native')
  (calls : ∀ call, Tied Eq (native call) (native' call))

/-- A window that may have lent its context does not get to use it. -/
theorem lent_concludes {key key' : Nat} (akin : p.here.Akin p'.here)
    (refused : p.lent.contains key = true → m.run p = (.failed .contextLent, p))
    (refused' : p'.lent.contains key' = true → m'.run p' = (.failed .contextLent, p'))
    (goes : p.lent.contains key = false → Reveals x m p)
    (goes' : p'.lent.contains key' = false → Reveals y m' p')
    (hx : x.needsContext = true) (hy : y.needsContext = true)
    (free : p.lent.contains key = false → p'.lent.contains key' = false → Concludes m m' p p') :
    Concludes m m' p p' := by
  have other : ∀ {x : Happening}, x.needsContext = true →
      x.outline ≠ .stepEnded (.failed .contextLent) := fun {x} hx => by
    cases x <;> simp [Happening.outline, Happening.needsContext] at hx ⊢
  cases lent : p.lent.contains key with
  | true =>
    cases lent' : p'.lent.contains key' with
    | true => exact .at_once akin (refused lent) (refused' lent')
    | false =>
      exact .apart (.at_once (refused lent)) (goes' lent') (other hy).symm (.inl (.lent hy))
  | false =>
    cases lent' : p'.lent.contains key' with
    | true => exact .apart (goes lent) (.at_once (refused' lent')) (other hx) (.inr (.lent hx))
    | false => exact free lent lent'

theorem answering_run (g : α → Answer) (ξ : Attempt α) (p : Process) :
    (answering g ξ).run p = (match result ξ.run p with
      | .ok a => return .answered (g a)
      | .error e => return .failed e : M Outcome).run (final ξ.run p) := rfl

theorem answering_error {ξ : Attempt α} {f : α → Attempt β} (g : β → Answer) {e : Error}
    (run : ξ.run.run p = (.error e, q)) : (answering g (ξ >>= f)).run p = (.failed e, q) := by
  have failed : (ξ >>= f).run.run p = (.error e, q) := by
    change (fun o : Except Error α × Process => (ExceptT.bindCont f o.1).run o.2) (ξ.run.run p) = _
    rw [run]
    rfl
  rw [answering_run, result, final, failed]
  rfl

theorem answering_ok {ξ : Attempt α} {f : α → Attempt β} (g : β → Answer) {a : α}
    (run : ξ.run.run p = (.ok a, q)) :
    (answering g (ξ >>= f)).run p = (answering g (f a)).run q := by
  have gone : (ξ >>= f).run.run p = (f a).run.run q := by
    change (fun o : Except Error α × Process => (ExceptT.bindCont f o.1).run o.2) (ξ.run.run p) = _
    rw [run]
    rfl
  rw [answering_run, result, final, gone]
  rfl

theorem owned_lent {w : Window} (lent : p.lent.contains w.key = true) :
    w.ensureContextOwned.run.run p = (.error .contextLent, p) := by
  change (if p.lent.contains w.key = true then _ else _ : M _).run p = _
  rw [if_pos lent]
  rfl

theorem owned_free {w : Window} (free : p.lent.contains w.key = false) :
    w.ensureContextOwned.run.run p = (.ok (), p) := by
  change (if p.lent.contains w.key = true then _ else _ : M _).run p = _
  rw [free]
  rfl

theorem lend_lent {w : Window} (lent : p.lent.contains w.key = true) :
    (Context.lend w).run.run p = (.error .contextLent, p) := by
  change (if p.lent.contains w.key = true then _ else _ : Attempt _).run.run p = _
  rw [if_pos lent]
  rfl

theorem lend_unlent {w : Window} (free : p.lent.contains w.key = false) :
    (Context.lend w).run.run p = (.ok ⟨w.pointer, w.key⟩,
      Process.note { p with lent := w.key :: p.lent } (.obtained (.context ⟨w.pointer, w.key⟩))) := by
  change (if p.lent.contains w.key = true then _ else _ : Attempt _).run.run p = _
  rw [free]
  rfl

include h h' calls

/-- A call that needs the window's own context. -/
theorem owned_concludes (paired : Paired p p') (w w' : Window) (call : Call)
    (needs : (Happening.called call).needsContext = true) :
    Concludes (done (do w.ensureContextOwned; perform native call))
      (done (do w'.ensureContextOwned; perform native' call)) p p' := by
  have begins : ∀ {native : Backend} {p : Process} {w : Window}, ReliableLibrary native →
    ReadyToStep p →
      p.lent.contains w.key = false →
      Reveals (.called call) (done (do w.ensureContextOwned; perform native call)) p := by
    intro native p w h readyToStep free
    exact (Begins.done h call readyToStep.unheeding).reveals.run (answering_ok _ (owned_free free))
  refine lent_concludes paired.akin (fun lent => answering_error _ (owned_lent lent))
    (fun lent => answering_error _ (owned_lent lent)) (begins h paired.readyToStep)
    (begins h' paired.readyToStep') needs needs fun free free' => ?_
  have tied : Tied Eq (done (perform native call)) (done (perform native' call)) :=
    .answering (.perform calls call)
  exact .of_run (answering_ok _ (owned_free free)) (answering_ok _ (owned_free free'))
    (tied.concludes paired.matched)

omit h h' calls in
/-- A window lends its context. -/
theorem lends_concludes (paired : Paired p p') (pointer : Pointer) (k k' slot : Nat) :
    Concludes (answering .slot do addContext (← Context.lend ⟨pointer, k⟩) slot)
      (answering .slot do addContext (← Context.lend ⟨pointer, k'⟩) slot) p p' := by
  have granted : ∀ {p : Process} {k : Nat}, p.lent.contains k = false →
      Passes p (final (answering .slot do addContext (← Context.lend ⟨pointer, k⟩) slot) p)
        [.obtained (.context ⟨pointer, k⟩)] ∧
      result (answering .slot do addContext (← Context.lend ⟨pointer, k⟩) slot) p =
        .answered (.slot p.tables.contexts.length) ∧
      (final (answering .slot do addContext (← Context.lend ⟨pointer, k⟩) slot) p).here =
        { p.here with tables := { p.tables with
          contexts := p.tables.contexts ++ [some (⟨pointer, k⟩, slot)] } } := by
    intro p k free
    rw [final, result, answering_ok _ (lend_unlent free)]
    exact ⟨⟨rfl, entriesOf_note_self _ _⟩, rfl, Process.here_setHere _ _⟩
  refine lent_concludes (x := .obtained (.context ⟨pointer, k⟩))
    (y := .obtained (.context ⟨pointer, k'⟩)) paired.akin
    (fun lent => answering_error _ (lend_lent lent))
    (fun lent => answering_error _ (lend_lent lent))
    (fun free => Begins.reveals ⟨_, (granted free).1⟩)
    (fun free => Begins.reveals ⟨_, (granted free).1⟩) rfl rfl fun free free' => ?_
  obtain ⟨passes, ended, here⟩ := granted free
  obtain ⟨passes', ended', here'⟩ := granted free'
  refine .at_end passes passes' rfl ended ended' ?_ (.slot rfl)
  rw [here, here']
  have akin := paired.akin
  exact ⟨akin.locals, ⟨akin.tables.libraries, akin.tables.windows, akin.tables.monitors,
    akin.tables.pumping⟩, akin.spawned⟩

/-- What an operation on a context begins with. -/
def Client.ContextOp.first (c : Context) : ContextOp → Happening
  | .drop => .dropped (.context c)
  | .windowId => .stepEnded (.answered (.pointer c.pointer))
  | .makeCurrent => .called (.makeContextCurrent c.pointer)
  | .swapBuffers => .called (.swapBuffers c.pointer)
  | .unknown => .stepEnded (.refused .unknownOperation)

omit h h' calls in
theorem Client.ContextOp.first_usesContext (op : ContextOp) (c : Context) :
    (op.first c).usesContext = true := by
  cases op <;> rfl

omit h h' calls in
theorem Client.ContextOp.first_ne (op : ContextOp) (c : Context) :
    (op.first c).outline ≠ .stepEnded (.refused .noContext) := by
  cases op <;> simp [first, Happening.outline]

omit h' calls in
theorem operateContext_first (slot : Nat) (c : Context) (op : ContextOp) (hp : Unheeding p) :
    Reveals (op.first c) (operateContext native slot c op) p := by
  cases op with
  | drop =>
    have dropped : Begins (.dropped (.context c)) c.drop (final (takeContext slot) p) :=
      (Begins.note _ _).bind fun _ => .alike fun _ => ⟨rfl, rfl, rfl⟩
    have whole : Begins (.dropped (.context c)) (operateContext native slot c .drop) p :=
      .after (q := final (takeContext slot) p) (n := do c.drop; return .answered .unit) ⟨rfl, rfl⟩
        rfl (dropped.bind fun _ => .pure _)
    exact whole.reveals
  | windowId => exact .at_once rfl
  | makeCurrent => exact (Begins.done h _ hp).reveals
  | swapBuffers => exact (Begins.done h _ hp).reveals
  | unknown => exact .at_once rfl

omit h h' calls in
/-- The contexts themselves are not compared. -/
theorem takeContext_tied (slot : Nat) :
    Tied (fun _ _ => True) (takeContext slot) (takeContext slot) := by
  refine Tied.getTables.bind .refl fun _ _ _ => ?_
  refine .andThen (.tables fun _ _ hu =>
    ⟨hu.libraries, hu.windows, hu.monitors, hu.pumping⟩) fun _ => ?_
  exact .pure trivial

omit h h' in
/-- Contexts that begin alike go on alike. -/
theorem operateContext_tied (slot : Nat) {c c' : Context} (op : ContextOp)
    (same : (op.first c).outline = (op.first c').outline) :
    Tied Eq (operateContext native slot c op) (operateContext native' slot c' op) := by
  cases op with
  | drop =>
    refine (takeContext_tied slot).bind (fun _ => trivial) fun _ _ _ => ?_
    refine .andThen (.andThen (.note same) fun _ => ?_) fun _ => .pure rfl
    exact .alike (fun _ => ⟨rfl, rfl, rfl⟩) fun _ => ⟨rfl, rfl, rfl⟩
  | windowId =>
    have pointers : c.pointer = c'.pointer := by
      simpa [ContextOp.first, Happening.outline] using same
    exact .pure (by rw [pointers])
  | makeCurrent =>
    have call : Call.makeContextCurrent c.pointer = .makeContextCurrent c'.pointer := by
      simpa [ContextOp.first, Happening.outline] using same
    change Tied Eq (done (perform native (.makeContextCurrent c.pointer))) _
    rw [call]
    exact .answering (.perform calls _)
  | swapBuffers =>
    have call : Call.swapBuffers c.pointer = .swapBuffers c'.pointer := by
      simpa [ContextOp.first, Happening.outline] using same
    change Tied Eq (done (perform native (.swapBuffers c.pointer))) _
    rw [call]
    exact .answering (.perform calls _)
  | unknown => exact .pure rfl

omit h h' calls in
theorem runContext_run (slot : Nat) (op : ContextOp) (p : Process) :
    (runContext native slot op).run p = (match occupant p.tables.contexts slot with
      | some (c, _) => operateContext native slot c op
      | none => return .refused .noContext : M Outcome).run p := rfl

theorem runContext_concludes (paired : Paired p p') (slot : Nat) (op : ContextOp) :
    Concludes (runContext native slot op) (runContext native' slot op) p p' := by
  have vacant : ∀ {native : Backend} {p : Process}, occupant p.tables.contexts slot = none →
      (runContext native slot op).run p = (.refused .noContext, p) := by
    intro native p hocc
    rw [runContext_run, hocc]
    rfl
  have taken : ∀ {native : Backend} {p : Process} {c : Context} {origin : Nat},
      occupant p.tables.contexts slot = some (c, origin) →
      (runContext native slot op).run p = (operateContext native slot c op).run p := by
    intro native p c origin hocc
    rw [runContext_run, hocc]
  have reveals : ∀ {native : Backend} {p : Process} {c : Context} {origin : Nat},
      ReliableLibrary native → ReadyToStep p → occupant p.tables.contexts slot = some (c, origin) →
      Reveals (op.first c) (runContext native slot op) p := fun h readyToStep hocc =>
    (operateContext_first h slot _ op readyToStep.unheeding).run (taken hocc)
  cases hocc : occupant p.tables.contexts slot with
  | none =>
    cases hocc' : occupant p'.tables.contexts slot with
    | none => exact .at_once paired.akin (vacant hocc) (vacant hocc')
    | some context =>
      exact .apart (.at_once (vacant hocc)) (reveals h' paired.readyToStep' hocc')
        (op.first_ne context.1).symm (.inl (.context rfl rfl (op.first_usesContext _)))
  | some context =>
    cases hocc' : occupant p'.tables.contexts slot with
    | none =>
      exact .apart (reveals h paired.readyToStep hocc) (.at_once (vacant hocc'))
        (op.first_ne context.1) (.inl (.context rfl (op.first_usesContext _) rfl))
    | some context' =>
      by_cases same : (op.first context.1).outline = (op.first context'.1).outline
      · exact .of_run (taken hocc) (taken hocc')
          ((operateContext_tied calls slot op same).concludes paired.matched)
      · exact .apart (reveals h paired.readyToStep hocc) (reveals h' paired.readyToStep' hocc') same
          (.inl (.context rfl (op.first_usesContext _) (op.first_usesContext _)))

end Contexts

/-! ### Handles -/

section HandlerCodeEffects

variable (h : ReliableLibrary native) (h' : ReliableLibrary native')
  (calls : ∀ call, Tied Eq (native call) (native' call))

/-- A slot has been emptied. -/
theorem Agrees.cleared {m m' : M Unit} (h : Agrees (fun _ _ q q' => Matched q q') m m' p p') :
    Concludes (do m; return .answered .unit) (do m'; return .answered .unit) p p' := by
  have ended : Agrees (fun o o' q q' => o = o' ∧ Matched q q')
      (do m; return Outcome.answered .unit) (do m'; return Outcome.answered .unit) p p' :=
    h.bind (fun _ => .pure _) (fun _ => .pure _) fun matched => .silent .refl .refl ⟨rfl, matched⟩
  exact ended.concludes fun ended => ⟨ended.1, ended.2.akin⟩

theorem runLibrary_run (slot : Nat) (op : LibraryOp) (p : Process) :
    (runLibrary native slot op).run p =
      if (occupant p.tables.libraries slot).isNone then (.refused .noLibrary, p)
      else (operateLibrary native slot op).run p := by
  change (if (occupant p.tables.libraries slot).isNone = true then _ else _ : M Outcome).run p = _
  split <;> rfl

theorem dropLibrary_run (slot : Nat) (p : Process) : (dropLibrary native slot).run p =
    if p.tables.pumping = some slot then (.refused .inUse, p)
    else (do clearLibrary native slot; return .answered .unit : M Outcome).run p := by
  change (if p.tables.pumping = some slot then _ else _ : M Outcome).run p = _
  split <;> rfl

theorem runMonitor_run (slot : Nat) (op : MonitorOp) (p : Process) :
    (runMonitor native slot op).run p = (match occupant p.tables.monitors slot with
      | some m => operateMonitor native slot m op
      | none => return .refused .noMonitor : M Outcome).run p := rfl

/-- A window from which a context is lent is not dropped. -/
theorem dropWindow_held {slot : Nat} (held : lendsFrom p.tables slot = true) :
    (runWindow native slot .drop).run p = (.refused .contextHeld, p) := by
  change (if lendsFrom p.tables slot = true then _ else _ : M Outcome).run p = _
  rw [if_pos held]
  rfl

theorem dropWindow_given (native : Backend) {slot : Nat} (given : lendsFrom p.tables slot = false) :
    (runWindow native slot .drop).run p = (match occupant p.tables.windows slot with
      | some _ => dropWindow native slot
      | none => return .refused .noWindow : M Outcome).run p := by
  change (if lendsFrom p.tables slot = true then _ else _ : M Outcome).run p = _
  rw [given]
  rfl

include h

theorem drop_begins (w : Window) (p : Process) :
    Begins (.dropped (.window w)) (w.drop native) p := by
  have part : Begins (.dropped (.window w)) (w.part native p.locals.dispatching) p := by
    refine (Begins.note _ _).bind fun _ => ?_
    cases p.locals.dispatching with
    | true => exact .bind .setHere fun _ => .note _
    | false => exact h.growsConfined.destroy _
  exact .after .refl (dropWindow_run w p) (part.bind fun _ => h.growsConfined.release)

omit h in
theorem clearWindow_run (native : Backend) (slot : Nat) (p : Process) :
    (clearWindow native slot).run p =
      (if let some w := result (takeWindow slot) p then w.drop native else pure ()).run
        (final (takeWindow slot) p) := rfl

theorem clearWindow_begins {slot : Nat} {w : Window}
    (hocc : occupant p.tables.windows slot = some w) :
    Begins (.dropped (.window w)) (clearWindow native slot) p := by
  have cleared := clearWindow_run native slot p
  rw [show result (takeWindow slot) p = some w from hocc] at cleared
  exact .after (q := final (takeWindow slot) p) ⟨rfl, rfl⟩ cleared (drop_begins h w _)

/-- What the drop of a window in a slot begins with. -/
theorem dropWindow_first {slot : Nat} (given : lendsFrom p.tables slot = false) :
    ∃ x, Reveals x (runWindow native slot .drop) p ∧
      (x = .stepEnded (.refused .noWindow) ∨ ∃ w, x = .dropped (.window w)) := by
  have run := dropWindow_given native given
  cases hocc : occupant p.tables.windows slot with
  | none =>
    rw [hocc] at run
    exact ⟨_, .at_once run, .inl rfl⟩
  | some w =>
    rw [hocc] at run
    have whole : Begins (.dropped (.window w)) (dropWindow native slot) p :=
      (clearWindow_begins h hocc).bind fun _ => .pure _
    exact ⟨_, whole.reveals.run run, .inr ⟨w, rfl⟩⟩

include h' calls

theorem runLibrary_concludes (paired : Paired p p') (slot : Nat) (op : LibraryOp) :
    Concludes (runLibrary native slot op) (runLibrary native' slot op) p p' := by
  by_cases own : op.own = true
  · exact (runLibrary_tied calls slot op own).concludes paired.matched
  cases op with
  | drop =>
    have libraries : p.tables.libraries = p'.tables.libraries := paired.akin.tables.libraries
    have pumping : p.tables.pumping = p'.tables.pumping := paired.akin.tables.pumping
    by_cases vacant : (occupant p.tables.libraries slot).isNone = true
    · exact .at_once paired.akin ((runLibrary_run slot _ p).trans (if_pos vacant))
        ((runLibrary_run slot _ p').trans (if_pos (libraries ▸ vacant)))
    · refine .of_run ((runLibrary_run slot _ p).trans (if_neg vacant))
        ((runLibrary_run slot _ p').trans (if_neg (libraries ▸ vacant))) ?_
      by_cases inUse : p.tables.pumping = some slot
      · exact .at_once paired.akin ((dropLibrary_run slot p).trans (if_pos inUse))
          ((dropLibrary_run slot p').trans (if_pos (pumping ▸ inUse)))
      · exact .of_run ((dropLibrary_run slot p).trans (if_neg inUse))
          ((dropLibrary_run slot p').trans (if_neg (pumping ▸ inUse)))
          (clearLibrary_agrees h h' calls paired slot).cleared
  | _ => exact absurd rfl own

theorem runMonitor_concludes (paired : Paired p p') (slot : Nat) (op : MonitorOp) :
    Concludes (runMonitor native slot op) (runMonitor native' slot op) p p' := by
  by_cases quiet : op.quiet = true
  · exact (runMonitor_tied calls slot op quiet).concludes paired.matched
  cases op with
  | drop =>
    have monitors : p.tables.monitors = p'.tables.monitors := paired.akin.tables.monitors
    refine .of_run (runMonitor_run slot _ p) (runMonitor_run slot _ p') ?_
    rw [monitors]
    cases occupant p'.tables.monitors slot with
    | none => exact .at_once paired.akin rfl rfl
    | some m => exact (clearMonitor_agrees h h' calls paired slot).cleared
  | _ => exact absurd rfl quiet

theorem dropWindow_concludes (paired : Paired p p') (slot : Nat) :
    Concludes (runWindow native slot .drop) (runWindow native' slot .drop) p p' := by
  cases held : lendsFrom p.tables slot with
  | true =>
    cases held' : lendsFrom p'.tables slot with
    | true => exact .at_once paired.akin (dropWindow_held held) (dropWindow_held held')
    | false =>
      obtain ⟨x, reveals, rfl | ⟨w, rfl⟩⟩ := dropWindow_first h' held'
      · exact .apart (.at_once (dropWindow_held held)) reveals (by simp [Happening.outline])
          (.inl .lendsNothing)
      · exact .apart (.at_once (dropWindow_held held)) reveals (by simp [Happening.outline])
          (.inl (.lends w))
  | false =>
    cases held' : lendsFrom p'.tables slot with
    | true =>
      obtain ⟨x, reveals, rfl | ⟨w, rfl⟩⟩ := dropWindow_first h held
      · exact .apart reveals (.at_once (dropWindow_held held')) (by simp [Happening.outline])
          (.inr .lendsNothing)
      · exact .apart reveals (.at_once (dropWindow_held held')) (by simp [Happening.outline])
          (.inr (.lends w))
    | false =>
      refine .of_run (dropWindow_given native held) (dropWindow_given native' held') ?_
      have found : (occupant p.tables.windows slot).map Window.keyless =
          (occupant p'.tables.windows slot).map Window.keyless :=
        paired.akin.tables.occupant_windows slot
      cases hocc : occupant p.tables.windows slot with
      | none =>
        rw [hocc] at found
        rw [Option.map_eq_none_iff.1 found.symm]
        exact .at_once paired.akin rfl rfl
      | some w =>
        rw [hocc] at found
        obtain ⟨w', hw', -⟩ := Option.map_eq_some_iff.1 found.symm
        rw [hw']
        exact (clearWindow_agrees h h' calls paired slot).cleared

theorem runWindow_concludes (paired : Paired p p') (slot : Nat) (op : WindowOp) :
    Concludes (runWindow native slot op) (runWindow native' slot op) p p' := by
  by_cases own : op.own = true
  · exact (runWindow_tied calls slot op own).concludes paired.matched
  by_cases hop : op = .drop
  · subst hop
    exact dropWindow_concludes h h' calls paired slot
  rw [runWindow_kept hop, runWindow_kept hop]
  have found : (occupant p.tables.windows slot).map Window.keyless =
      (occupant p'.tables.windows slot).map Window.keyless :=
    paired.akin.tables.occupant_windows slot
  have run : ∀ {native : Backend} {p : Process}, (do
      let t ← getTables
      match occupant t.windows slot with
      | some w => operateWindow native slot w op
      | none => return .refused .noWindow : M Outcome).run p =
        (match occupant p.tables.windows slot with
          | some w => operateWindow native slot w op
          | none => return .refused .noWindow : M Outcome).run p := rfl
  refine .of_run run run ?_
  cases hocc : occupant p.tables.windows slot with
  | none =>
    rw [hocc] at found
    rw [Option.map_eq_none_iff.1 found.symm]
    exact .at_once paired.akin rfl rfl
  | some w =>
    rw [hocc] at found
    obtain ⟨w', hw', hkey⟩ := Option.map_eq_some_iff.1 found.symm
    rw [hw']
    obtain ⟨pointer, k⟩ := w
    obtain ⟨_, k'⟩ := w'
    cases congrArg Window.pointer hkey
    cases op with
    | lendContext => exact lends_concludes paired pointer k k' slot
    | makeCurrent => exact owned_concludes h h' calls paired ⟨pointer, k⟩ ⟨pointer, k'⟩ _ rfl
    | swapBuffers => exact owned_concludes h h' calls paired ⟨pointer, k⟩ ⟨pointer, k'⟩ _ rfl
    | drop => exact absurd rfl hop
    | _ => exact absurd rfl own

end HandlerCodeEffects

/-! ### Threads -/

section Threads

/-- Another thread is run to its end. The thread that waits for it finds itself as it was, but for its
contexts. -/
theorem runThread_aside (h : ReliableLibrary native) {body : M (Option String)} (hb : Confined body)
    (hr : p.current ∈ p.running) (free : p.here.spawned = false) :
    Passes p (final (runThread native body) p) [] ∧
      (∃ panic, result (runThread native body) p = .joined panic) ∧
      ∃ kept, (final (runThread native body) p).here =
        { p.here with tables := { p.tables with contexts := kept } } := by
  let lending := final (modifyTables fun t => { t with contexts := [] }) p
  let spawning := spawn native p.tables.contexts body
  have run : (runThread native body).run p = (.joined (result spawning lending).1,
      final (modifyTables fun t => { t with contexts := (result spawning lending).2 })
        (final spawning lending)) := by
    change (if p.here.spawned = true then _ else _ : M Outcome).run p = _
    rw [free]
    rfl
  have apart : Apart spawning := Confined.spawn_apart h.libraryKeepsBooks.confined _ hb
  have present : lending.current ∈ lending.running := hr
  have left : Leaves lending (final spawning lending) [] := .of_apart apart present
  have here : (final spawning lending).here =
      { p.here with tables := { p.tables with contexts := [] } } := by
    rw [Process.here, left.current, ((apart lending).2 _ present).thread]
    exact Process.here_setHere _ _
  have lent : Passes p lending [] := ⟨rfl, rfl⟩
  rw [final, result, run]
  generalize final spawning lending = q at left here
  have returned : Passes q (final (modifyTables fun t =>
      { t with contexts := (result spawning lending).2 }) q) [] := ⟨rfl, rfl⟩
  refine ⟨(lent.trans (.of_leaves left)).trans returned, ⟨_, rfl⟩, (result spawning lending).2, ?_⟩
  rw [final_modifyTables, Process.here_setHere, Process.tables, here]

theorem runThread_concludes (h : ReliableLibrary native) (h' : ReliableLibrary native')
    (paired : Paired p p')
    {body body' : M (Option String)} (hb : Confined body) (hb' : Confined body') :
    Concludes (runThread native body) (runThread native' body') p p' := by
  have spawned : p.here.spawned = p'.here.spawned := paired.akin.spawned
  have nested : ∀ {native : Backend} {p : Process} {body : M (Option String)},
      p.here.spawned = true → (runThread native body).run p = (.refused .nestedThread, p) := by
    intro native p body nested
    change (if p.here.spawned = true then _ else _ : M Outcome).run p = _
    rw [if_pos nested]
    rfl
  cases free : p.here.spawned with
  | true => exact .at_once paired.akin (nested free) (nested (spawned ▸ free))
  | false =>
    obtain ⟨passes, ⟨panic, ended⟩, kept, here⟩ := runThread_aside h hb paired.matched.running free
    obtain ⟨passes', ⟨panic', ended'⟩, kept', here'⟩ :=
      runThread_aside h' hb' paired.matched.running' (spawned ▸ free)
    refine .at_end passes passes' (.refl _) ended ended' ?_ (.joined panic panic')
    rw [here, here']
    have akin := paired.akin
    exact ⟨akin.locals, ⟨akin.tables.libraries, akin.tables.windows, akin.tables.monitors,
      akin.tables.pumping⟩, akin.spawned⟩

end Threads

/-! ### Initializations -/

namespace Library

/-- The native library is initialized, with its error callback set. -/
def attempted (native : Backend) : M Reply := do
  let _ ← native .setErrorCallback
  let _ ← takeError
  native .init

/-- The first handle is obtained, and the error of the initialization is taken. -/
def obtained (native : Backend) : M (Option Error) := do
  modify fun p => { p with holders := 1 }
  note (.obtained (.library {}))
  let _ ← native .setMonitorCallback
  takeError

/-- An error that was reported meanwhile ends the initialization. -/
def judged (native : Backend) : Option Error → M (Except InitError Library)
  | some e => do
    Library.drop native {}
    return .error ⟨e⟩
  | none => do
    log (.initialized (← versionString native))
    return .ok {}

def failed : M (Except InitError Library) := do
  let e ← takeError
  unlock
  return .error ⟨e.getD (.unreported Call.init.name)⟩

/-- What follows the native initialization. -/
def sequel (native : Backend) (reply : Reply) : M (Except InitError Library) :=
  if Flag.isSet reply.value then obtained native >>= judged native else failed

theorem start_eq (native : Backend) : start native = attempted native >>= sequel native := rfl

end Library

/-- The first handle is the only one. -/
theorem ReadyToStep.first (hm : LibraryKeepsBooks native) (h : ReadyToStep p)
    (free : p.locked = false)
    (success : Flag.isSet (result (Library.attempted native) p.withLock).value) :
    (final (Library.obtained native)
      (final (Library.attempted native) p.withLock)).holders = 1 := by
  obtain ⟨w, o, calm, work, -, standing⟩ := h
  obtain ⟨-, ready, outset⟩ := work.outset calm standing free
  have errorCallback : BooksUnaffected (native .setErrorCallback) := .call hm rfl rfl
  have monitorCallback : BooksUnaffected (native .setMonitorCallback) := .call hm rfl rfl
  have reported := (outset.unaffected errorCallback).unaffected BooksUnaffected.takeError
  obtain ⟨base, ledger⟩ := reported.initialize hm
  replace ledger := ledger.trans (congrArg some (if_pos success))
  have claimed := initialized_first ready base ledger
  obtain ⟨l, desk⟩ := BooksUnaffected.takeError.first _
    (monitorCallback.first _ claimed)
  have held := desk.account.held.length_eq
  rw [ready.handles] at held
  exact desk.base.guarded.holders.trans held

theorem judged_growsConfined (h : ReliableLibrary native) (e : Option Error) :
    GrowsConfined (Library.judged native e) := by
  cases e with
  | some e => exact .bind (.bind (.note _) fun _ => h.growsConfined.release) fun _ => .pure _
  | none =>
    refine .bind (.bind (h.call .getVersionString) fun _ => .pure _) fun _ => ?_
    refine .bind (.note _) fun _ => ?_
    exact .pure _

theorem sequel_growsConfined (h : ReliableLibrary native) (reply : Reply) :
    GrowsConfined (Library.sequel native reply) := by
  unfold Library.sequel
  split
  · exact .bind (.bind (.alike fun _ => ⟨rfl, rfl, rfl⟩) fun _ => .bind (.note _) fun _ =>
      .bind (h.call _) fun _ => GrowsConfined.closed.takeError) (judged_growsConfined h)
  · refine .bind GrowsConfined.closed.takeError fun _ => ?_
    refine .bind (.alike fun _ => ⟨rfl, rfl, rfl⟩) fun _ => ?_
    exact .pure _

/-- An initialization sets the error callback first. -/
theorem init_begins (h : ReliableLibrary native) (hp : Unheeding p) :
    Begins (.called .setErrorCallback) (Library.init native) p := by
  have begun : Begins (.called .setErrorCallback) (Library.attempted native) p.withLock :=
    (Begins.call h _ (p := p.withLock) hp).bind fun _ =>
      .bind GrowsConfined.closed.takeError fun _ => h.call _
  exact .after (.of_sameThreads (.withLock p)) (Library.init_run native p)
    (begun.bind (sequel_growsConfined h))

section Initializations

variable (h : ReliableLibrary native) (h' : ReliableLibrary native')
  (calls : ∀ call, Tied Eq (native call) (native' call))

include calls

theorem attempted_tied : Tied Eq (Library.attempted native) (Library.attempted native') := by
  refine .andThen (calls _) fun _ => ?_
  refine .andThen .takeError fun _ => ?_
  exact calls _

theorem obtained_tied : Tied Eq (Library.obtained native) (Library.obtained native') := by
  refine .andThen (.alike (fun _ => ⟨rfl, rfl, rfl⟩) fun _ => ⟨rfl, rfl, rfl⟩) fun _ => ?_
  refine .andThen (.note rfl) fun _ => ?_
  refine .andThen (calls _) fun _ => ?_
  exact .takeError

include h h'

theorem init_agrees (paired : Paired p p') (free : p.locked = false) (free' : p'.locked = false) :
    Agrees (fun o o' q q' => o = o' ∧ Matched q q') (Library.init native) (Library.init native')
      p p' := by
  have matched := paired.matched.sameThreads (.withLock p) (.withLock p')
  have failed : Tied Eq Library.failed Library.failed :=
    .andThen .takeError fun _ => .andThen unlock_tied fun _ => .pure rfl
  have version := Tied.tells calls versionString_tells
  have obtained := obtained_tied calls
  refine .after (.of_sameThreads (.withLock p)) (.of_sameThreads (.withLock p')) (.refl _)
    (Library.init_run native p) (Library.init_run native' p') ?_
  rw [Library.start_eq, Library.start_eq]
  have attempts := (attempted_tied calls).agrees _ _ matched
  refine attempts.bind (sequel_growsConfined h) (sequel_growsConfined h') fun ⟨same, attempted⟩ => ?_
  rw [← same]
  unfold Library.sequel
  split
  next success =>
    refine (obtained.agrees _ _ attempted).bind (judged_growsConfined h) (judged_growsConfined h')
      fun ⟨same', claimed⟩ => ?_
    rw [← same']
    cases result (Library.obtained native)
      (final (Library.attempted native) p.withLock) with
    | some e =>
      have holders := (paired.readyToStep.first h.libraryKeepsBooks free success).trans
        (paired.readyToStep'.first h'.libraryKeepsBooks free' (same ▸ success)).symm
      exact (giveUp_agrees h h' calls claimed holders rfl).bind (fun _ => .pure _) (fun _ => .pure _)
        fun ended => .silent .refl .refl ⟨rfl, ended⟩
    | none =>
      have logged : Tied Eq (Library.judged native none) (Library.judged native' none) :=
        .andThen version fun _ => .andThen (.note rfl) fun _ => .pure rfl
      exact logged.agrees _ _ claimed
  next => exact failed.agrees _ _ attempted

/-- The lock lets both threads initialize, or one of them, or none. -/
theorem locked_concludes {f : Except InitError Library → M Outcome} {busy : Outcome}
    (paired : Paired p p') (rest : ∀ o, Tied Eq (f o) (f o))
    (waits : p.locked = true → m.run p = (busy, p))
    (waits' : p'.locked = true → m'.run p' = (busy, p'))
    (goes : p.locked = false → m.run p = (Library.init native >>= f).run p)
    (goes' : p'.locked = false → m'.run p' = (Library.init native' >>= f).run p')
    (shows : Shows (some .stepStarted) (.stepEnded busy) (.called .setErrorCallback)) :
    Concludes m m' p p' := by
  have begins : ∀ {native : Backend} {p : Process}, ReliableLibrary native → ReadyToStep p →
      Begins (.called .setErrorCallback) (Library.init native >>= f) p := fun h readyToStep =>
    (init_begins h readyToStep.unheeding).bind fun o => (rest o).goes
  cases free : p.locked with
  | true =>
    cases free' : p'.locked with
    | true => exact .at_once paired.akin (waits free) (waits' free')
    | false =>
      exact .apart (.at_once (waits free)) ((begins h' paired.readyToStep').reveals.run (goes' free'))
        (by simp [Happening.outline]) (.inl shows)
  | false =>
    cases free' : p'.locked with
    | true =>
      exact .apart ((begins h paired.readyToStep).reveals.run (goes free)) (.at_once (waits' free'))
        (by simp [Happening.outline]) (.inr shows)
    | false =>
      refine .of_run (goes free) (goes' free') ?_
      refine Agrees.concludes (R := fun o o' q q' => o = o' ∧ Matched q q') ?_ fun ended =>
        ⟨ended.1, ended.2.akin⟩
      exact (init_agrees h h' calls paired free free').bind (fun o => (rest o).goes)
        (fun o => (rest o).goes) fun ended => ended.1 ▸ (rest _).agrees _ _ ended.2

omit h h' calls in
theorem addLibrary_tied (l : Library) : Tied Eq (addLibrary l) (addLibrary l) := by
  refine Tied.getTables.bind .refl fun t t' same => ?_
  rw [same.libraries]
  exact .andThen (.tables fun _ _ hu => ⟨congrArg (· ++ [some l]) hu.libraries, hu.windows,
    hu.monitors, hu.pumping⟩) fun _ => .pure rfl

theorem runInit_concludes (paired : Paired p p') :
    Concludes (runInit native) (runInit native') p p' := by
  refine locked_concludes h h' calls paired (fun o => ?_) (runInit_locked native)
    (runInit_locked native') (runInit_unlocked native) (runInit_unlocked native') .locked
  cases o with
  | ok l => exact .andThen (addLibrary_tied l) fun _ => .pure rfl
  | error e => exact .pure rfl

theorem runTryInit_concludes (paired : Paired p p') :
    Concludes (runTryInit native) (runTryInit native') p p' := by
  refine locked_concludes h h' calls paired (fun o => ?_) (runTryInit_locked native)
    (runTryInit_locked native') (runTryInit_unlocked native) (runTryInit_unlocked native') .blocked
  cases o with
  | ok l => exact .andThen (addLibrary_tied l) fun _ => .pure rfl
  | error e => exact .pure rfl

end Initializations

end Windowing
