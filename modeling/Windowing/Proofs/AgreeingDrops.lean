import Windowing.Proofs.AgreeingCalls

/-!
Drops on threads that are alike. Whether a drop ends the initialization depends on how many handles
hold it. All of them belong to the thread that drops one, so two threads that are alike end it
together.
-/

namespace Windowing

open Native Client

variable {α β : Type} {native native' : Backend} {p p' q q' : Process}

/-- A thread may take a step: client code runs on it, in its handler or outside all pumps, and the
books are in order. -/
def ReadyToStep (p : Process) : Prop :=
  ∃ w o, AllCalm p ∧ AtWork p w ∧ (∀ x ∈ o, x.owner ≠ p.current) ∧ Standing p o

namespace ReadyToStep

theorem keepsBooks {m : M α} (hm : OperationKeepsBooks m) (h : ReadyToStep p) :
    ReadyToStep (final m p) := by
  obtain ⟨w, o, calm, work, ho, standing⟩ := h
  obtain ⟨calm', work'⟩ := hm.staysCalm p w calm work
  exact ⟨w, o, calm', work', (hm.confined p).current.symm ▸ ho,
    hm.clientKeepsBooks o p w calm work ho standing⟩

theorem unheeding (h : ReadyToStep p) : Unheeding p := by
  obtain ⟨w, -, -, work, -, -⟩ := h
  refine ⟨work.sight.running, ?_⟩
  rw [Deaf, Option.isSome_iff_ne_none]
  exact fun hn => work.stage_ne (work.sight.fits.dropReason.1 hn)

/-- All that holds the initialization is in the tables of a thread that has some of it. -/
theorem holders (h : ReadyToStep p) (some : p.tables.handles ≠ []) :
    p.holders = p.tables.handles.length := by
  obtain ⟨w, o, -, -, ho, standing⟩ := h
  rcases standing.owner ho with bare | ⟨-, l, kept⟩
  · exact absurd bare.handles some
  · have held := kept.account.held
    rw [List.append_nil] at held
    exact kept.guarded.holders.trans held.length_eq

/-- The same after a window that was outside all handlers has been destroyed. -/
theorem destroys (hm : LibraryKeepsBooks native) (h : ReadyToStep p) {slot : Nat} {x : Window}
    (hocc : occupant p.tables.windows slot = some x) (outside : p.locals.dispatching = false) :
    (final (Window.destroy native x.pointer) ((final (modifyTables fun t =>
      { t with windows := t.windows.set slot none }) p).note (.dropped (.window x)))).holders =
      p.holders := by
  obtain ⟨w, o, calm, work, ho, standing⟩ := h
  rcases standing.here calm work ho with bare | ⟨rfl, l, desk⟩
  · have absent := (bare.occupants slot).2.1
    rw [show occupant p.here.tables.windows slot = some x from hocc] at absent
    cases absent
  · have away := desk.take (fun t => { t with windows := t.windows.set slot none })
      (Tables.handles_window hocc) desk.account.pumping
    have stage : w.stage = .outside := by
      rcases work.place with hs | ⟨rfl, -⟩
      · rw [work.sight.fits.dispatching.2 hs] at outside
        cases outside
      · rfl
    obtain ⟨-, base, -⟩ := away.drop rfl
    exact (away.destroys hm stage).1.guarded.holders.trans base.guarded.holders.symm

end ReadyToStep

/-- Two threads that may take a step and are alike. -/
structure Paired (p p' : Process) : Prop where
  readyToStep : ReadyToStep p
  readyToStep' : ReadyToStep p'
  akin : p.here.Akin p'.here

theorem Paired.matched (h : Paired p p') : Matched p p' :=
  h.readyToStep.unheeding.matched h.readyToStep'.unheeding h.akin

theorem Paired.holders (h : Paired p p') (some : p.tables.handles ≠ []) : p.holders = p'.holders := by
  have length := h.akin.tables.length_handles
  have some' : p'.tables.handles ≠ [] := fun none => by
    rw [show p'.here.tables.handles = [] from none, List.length_nil] at length
    exact some (List.length_eq_zero_iff.1 length)
  rw [h.readyToStep.holders some, h.readyToStep'.holders some']
  exact length

/-! ### Drops -/

section Drops

variable (h : ReliableLibrary native) (h' : ReliableLibrary native')
  (calls : ∀ call, Tied Eq (native call) (native' call))

/-- What happens to a window whose handle is dropped, before the hold is given up. -/
def Window.part (native : Backend) (w : Window) (inside : Bool) : M Unit := do
  note (.dropped (.window w))
  if inside then
    modifyLocals fun s => { s with deferred := s.deferred ++ [w.pointer] }
    log (.destructionDeferred w.id)
  else
    Window.destroy native w.pointer

theorem dropWindow_run (w : Window) (p : Process) : (w.drop native).run p =
    (w.part native p.locals.dispatching >>= fun _ => release native).run p := by
  refine Prod.ext rfl ?_
  change final (w.drop native) p =
    final (w.part native p.locals.dispatching >>= fun _ => release native) p
  cases hd : p.locals.dispatching with
  | true => simp [Window.part, final_drop_deferred hd, log]
  | false => simp [Window.part, final_drop_destroyed hd]

/-- The hold is given up last. -/
theorem ReadyToStep.part (hm : LibraryKeepsBooks native) (h : ReadyToStep p) {slot : Nat} {x : Window}
    (hocc : occupant p.tables.windows slot = some x) :
    (final (x.part native p.locals.dispatching) (final (takeWindow slot) p)).holders =
      p.holders := by
  cases hd : p.locals.dispatching with
  | true => rfl
  | false => exact h.destroys hm hocc hd

include calls

/-- Two threads give up a hold of as many. -/
theorem release_agrees (matched : Matched p p') (holders : p.holders = p'.holders) :
    Agrees (fun _ _ q q' => Matched q q') (release native) (release native') p p' := by
  have run : ∀ {native : Backend} (p : Process), (release native).run p =
      (if p.holders - 1 = 0 then terminate native else pure ()).run
        { p with holders := p.holders - 1 } := fun _ => rfl
  have fewer : ∀ p : Process, SameThreads p { p with holders := p.holders - 1 } :=
    fun _ => ⟨rfl, rfl, rfl⟩
  have tied : Tied Eq (if p.holders - 1 = 0 then terminate native else pure ())
      (if p'.holders - 1 = 0 then terminate native' else pure ()) := by
    rw [← holders]
    exact .ite (terminate_tied calls) (.pure rfl)
  have ended := tied.agrees _ _ (matched.sameThreads (fewer p) (fewer p'))
  exact .after (.of_sameThreads (fewer p)) (.of_sameThreads (fewer p')) (.refl _) (run p) (run p')
    (ended.mono fun both => both.2)

include h h'

/-- Two threads drop a handle that was one of as many. -/
theorem giveUp_agrees (matched : Matched p p') (holders : p.holders = p'.holders) {x x' : Handle}
    (same : x.keyless = x'.keyless) :
    Agrees (fun _ _ q q' => Matched q q') (do note (.dropped x); release native)
      (do note (.dropped x'); release native') p p' := by
  have noted : Tied Eq (note (.dropped x)) (note (.dropped x')) :=
    .note (congrArg Happening.dropped same)
  exact (noted.agrees p p' matched).bind (fun _ => h.growsConfined.release)
    (fun _ => h'.growsConfined.release)
    fun ended => release_agrees calls ended.2 holders

omit h h' calls in
theorem takeLibrary_tied (slot : Nat) : Tied Eq (takeLibrary slot) (takeLibrary slot) := by
  refine Tied.getTables.bind .refl fun t t' same => ?_
  rw [same.libraries]
  exact .andThen (.tables fun _ _ hu => ⟨congrArg (·.set slot none) hu.libraries, hu.windows,
    hu.monitors, hu.pumping⟩) fun _ => .pure rfl

omit h h' calls in
theorem takeMonitor_tied (slot : Nat) : Tied Eq (takeMonitor slot) (takeMonitor slot) := by
  refine Tied.getTables.bind .refl fun t t' same => ?_
  rw [same.monitors]
  exact .andThen (.tables fun _ _ hu => ⟨hu.libraries, hu.windows,
    congrArg (·.set slot none) hu.monitors, hu.pumping⟩) fun _ => .pure rfl

omit h h' calls in
theorem takeWindow_tied (slot : Nat) :
    Tied (fun w w' : Option Window => w.map Window.keyless = w'.map Window.keyless)
      (takeWindow slot) (takeWindow slot) := by
  refine Tied.getTables.bind .refl fun t t' same => ?_
  refine .andThen (.tables fun u u' hu => ⟨hu.libraries, ?_, hu.monitors, hu.pumping⟩) fun _ =>
    .pure (same.occupant_windows slot)
  simp only [List.map_set, hu.windows]

omit h h' calls in
/-- What is done with the occupant of a slot, if there is one. -/
theorem given_growsConfined {f : Option β → M Unit} (vacant : GrowsConfined (f none))
    (taken : ∀ a, GrowsConfined (f (some a))) : ∀ a, GrowsConfined (f a)
  | none => vacant
  | some a => taken a

theorem clearLibrary_agrees (paired : Paired p p') (slot : Nat) :
    Agrees (fun _ _ q q' => Matched q q') (clearLibrary native slot) (clearLibrary native' slot)
      p p' := by
  have growsConfined : ∀ {native : Backend}, ReliableLibrary native → ∀ l : Library,
      GrowsConfined (l.drop native) := fun h _ => .bind (.note _) fun _ => h.growsConfined.release
  refine ((takeLibrary_tied slot).agrees p p' paired.matched).bind
    (given_growsConfined (.pure _) (growsConfined h))
      (given_growsConfined (.pure _) (growsConfined h'))
    fun ⟨same, matched⟩ => ?_
  rw [← same]
  cases hocc : result (takeLibrary slot) p with
  | none => exact .silent .refl .refl matched
  | some l =>
    have holders := paired.holders fun none => by
      have held := (Tables.handles_library hocc).length_eq
      simp [none] at held
    exact giveUp_agrees h h' calls matched holders rfl

theorem clearMonitor_agrees (paired : Paired p p') (slot : Nat) :
    Agrees (fun _ _ q q' => Matched q q') (clearMonitor native slot) (clearMonitor native' slot)
      p p' := by
  have growsConfined : ∀ {native : Backend}, ReliableLibrary native → ∀ m : Monitor,
      GrowsConfined (m.drop native) := fun h _ => .bind (.note _) fun _ => h.growsConfined.release
  refine ((takeMonitor_tied slot).agrees p p' paired.matched).bind
    (given_growsConfined (.pure _) (growsConfined h))
      (given_growsConfined (.pure _) (growsConfined h'))
    fun ⟨same, matched⟩ => ?_
  rw [← same]
  cases hocc : result (takeMonitor slot) p with
  | none => exact .silent .refl .refl matched
  | some m =>
    have holders := paired.holders fun none => by
      have held := (Tables.handles_monitor hocc).length_eq
      simp [none] at held
    exact giveUp_agrees h h' calls matched holders rfl

omit h h' calls in
/-- In a handler the pointer of a dropped window is kept. -/
theorem defer_tied (pointer : Pointer) :
    Tied Eq (modifyLocals fun s => { s with deferred := s.deferred ++ [pointer] })
      (modifyLocals fun s => { s with deferred := s.deferred ++ [pointer] }) :=
  .locals (fun _ _ hs => ⟨hs.pending, hs.handler, hs.dispatching, hs.panic,
    congrArg (· ++ [pointer]) hs.deferred⟩) fun _ => rfl

omit h h' in
theorem part_tied (pointer : Pointer) (k k' : Nat) (inside : Bool) :
    Tied Eq (Window.part native ⟨pointer, k⟩ inside) (Window.part native' ⟨pointer, k'⟩ inside) := by
  refine .andThen (.note rfl) fun _ => ?_
  cases inside with
  | true => exact .andThen (defer_tied pointer) fun _ => .note rfl
  | false => exact destroy_tied calls pointer

theorem clearWindow_agrees (paired : Paired p p') (slot : Nat) :
    Agrees (fun _ _ q q' => Matched q q') (clearWindow native slot) (clearWindow native' slot)
      p p' := by
  refine ((takeWindow_tied slot).agrees p p' paired.matched).bind
    (given_growsConfined (.pure _) (h.growsConfined.dropWindow))
    (given_growsConfined (.pure _) (h'.growsConfined.dropWindow)) fun ⟨same, matched⟩ => ?_
  cases hocc : result (takeWindow slot) p with
  | none =>
    rw [hocc] at same
    rw [Option.map_eq_none_iff.1 same.symm]
    exact .silent .refl .refl matched
  | some w =>
    rw [hocc] at same
    obtain ⟨w', hocc', hkey⟩ := Option.map_eq_some_iff.1 same.symm
    rw [hocc']
    obtain ⟨pointer, k⟩ := w
    obtain ⟨_, k'⟩ := w'
    cases congrArg Window.pointer hkey
    have taken : ∀ p : Process, (final (takeWindow slot) p).locals = p.locals := fun p =>
      locals_modifyTables (fun t => { t with windows := t.windows.set slot none }) p
    have inside : p.locals.dispatching = p'.locals.dispatching :=
      paired.akin.locals.dispatching
    have some : p.tables.handles ≠ [] := fun none => by
      have held := (Tables.handles_window hocc).length_eq
      simp [none] at held
    have holders : (final (Window.part native ⟨pointer, k⟩ p.locals.dispatching)
        (final (takeWindow slot) p)).holders =
          (final (Window.part native' ⟨pointer, k'⟩ p.locals.dispatching)
            (final (takeWindow slot) p')).holders := by
      rw [paired.readyToStep.part h.libraryKeepsBooks hocc, inside,
        paired.readyToStep'.part h'.libraryKeepsBooks hocc']
      exact paired.holders some
    refine .after .refl .refl (.refl _) (dropWindow_run _ _) (dropWindow_run _ _) ?_
    rw [taken, taken, ← inside]
    exact ((part_tied calls pointer k k' _).agrees _ _ matched).bind
      (fun _ => h.growsConfined.release) (fun _ => h'.growsConfined.release) fun ended =>
        release_agrees calls ended.2 holders

end Drops

end Windowing
