import Windowing.Proofs.EventDelivery
import Windowing.Proofs.AgreeingPrograms
import Windowing.Proofs.ContextHandover

/-!
The ends of threads that are alike. A thread that ends drops its contexts first, which tell what it
was lent and what other threads have left it, and then everything else, which is its own.
-/

namespace Windowing

open Native Client

variable {α β : Type} {native native' : Backend} {p p' q q' : Process} {c c' : ThreadId}
  {o o' : Option Pause} {hs hs' : List Happening}

theorem Rest.readyToStep (h : Rest c o p) : ReadyToStep p :=
  ⟨{}, o, h.calm, h.work, h.others, h.standing⟩

/-- Two threads, both outside all pumps, that are alike. -/
structure Rested (p p' : Process) : Prop where
  rest : ∃ c o, Rest c o p
  rest' : ∃ c o, Rest c o p'
  akin : p.here.Akin p'.here

theorem Rested.paired (h : Rested p p') : Paired p p' := by
  obtain ⟨⟨c, o, rest⟩, ⟨c', o', rest'⟩, akin⟩ := h
  exact ⟨rest.readyToStep, rest'.readyToStep, akin⟩

/-! ### Handles -/

/-- Slots are emptied alike. -/
theorem Rested.emptied {f f' : Nat → M Unit} (goes : ∀ slot, GrowsConfined (f slot))
    (goes' : ∀ slot, GrowsConfined (f' slot))
    (agrees : ∀ slot q q', Paired q q' →
      Agrees (fun _ _ r r' => Matched r r') (f slot) (f' slot) q q')
    (rests : ∀ slot c o q, Rest c o q → Rest c o (final (f slot) q))
    (rests' : ∀ slot c o q, Rest c o q → Rest c o (final (f' slot) q))
    (slots : List Nat) (h : Rested p p') :
    Agrees (fun _ _ q q' => Rested q q') (slots.forM f) (slots.forM f') p p' := by
  induction slots generalizing p p' with
  | nil => exact .silent .refl .refl h
  | cons slot rest ih =>
    obtain ⟨c, o, hp⟩ := h.rest
    obtain ⟨c', o', hp'⟩ := h.rest'
    have first : Agrees (fun _ _ q q' => Rested q q') (f slot) (f' slot) p p' :=
      (agrees slot p p' h.paired).mono fun ended =>
        ⟨⟨c, o, rests slot c o p hp⟩, ⟨c', o', rests' slot c' o' p' hp'⟩, ended.akin⟩
    exact first.bind (fun _ => .forM goes rest) (fun _ => .forM goes' rest) ih

section Slots

theorem clearWindow_growsConfined (h : ReliableLibrary native) (slot : Nat) :
    GrowsConfined (clearWindow native slot) := h.growsConfined.minor (clearWindow_modest slot).minor

theorem clearMonitor_growsConfined (h : ReliableLibrary native) (slot : Nat) :
    GrowsConfined (clearMonitor native slot) := h.growsConfined.minor (clearMonitor_modest slot).minor

theorem clearLibrary_growsConfined (h : ReliableLibrary native) (slot : Nat) :
    GrowsConfined (clearLibrary native slot) := h.growsConfined.minor (clearLibrary_modest slot).minor

theorem emptied_agrees (h : ReliableLibrary native) (h' : ReliableLibrary native')
    (calls : ∀ call, Tied Eq (native call) (native' call)) {t t' : Tables}
    (same : t.Akin t') (rested : Rested p p') :
    Agrees (fun _ _ q q' => Rested q q') (emptied native t) (emptied native' t') p p' := by
  have windows : t.windows.length = t'.windows.length := by
    simpa using congrArg List.length same.windows
  rw [emptied, emptied, same.libraries, same.monitors, windows]
  have dropWindows : ∀ {native : Backend}, ReliableLibrary native → ∀ slot c o q, Rest c o q →
      Rest c o (final (clearWindow native slot) q) := fun h slot _ _ q hq =>
    (hq.clearWindows h.libraryKeepsBooks q.tables [slot] ⟨rfl, rfl, rfl⟩).1
  have dropMonitors : ∀ {native : Backend}, ReliableLibrary native → ∀ slot c o q, Rest c o q →
      Rest c o (final (clearMonitor native slot) q) := fun h slot _ _ q hq =>
    (hq.clearMonitors h.libraryKeepsBooks q.tables [slot] ⟨rfl, rfl, rfl⟩).1
  have dropLibraries : ∀ {native : Backend}, ReliableLibrary native → ∀ slot c o q, Rest c o q →
      Rest c o (final (clearLibrary native slot) q) := fun h slot _ _ q hq =>
    (hq.clearLibraries h.libraryKeepsBooks q.tables [slot] ⟨rfl, rfl, rfl⟩).1
  refine (rested.emptied (clearWindow_growsConfined h) (clearWindow_growsConfined h')
    (fun slot _ _ paired => clearWindow_agrees h h' calls paired slot) (dropWindows h)
    (dropWindows h') _).bind (fun _ => ?_) (fun _ => ?_) fun rested => ?_
  · exact .bind (.forM (clearMonitor_growsConfined h) _) fun _ =>
      .forM (clearLibrary_growsConfined h) _
  · exact .bind (.forM (clearMonitor_growsConfined h') _) fun _ =>
      .forM (clearLibrary_growsConfined h') _
  refine (rested.emptied (clearMonitor_growsConfined h) (clearMonitor_growsConfined h')
    (fun slot _ _ paired => clearMonitor_agrees h h' calls paired slot) (dropMonitors h)
    (dropMonitors h') _).bind (fun _ => .forM (clearLibrary_growsConfined h) _)
    (fun _ => .forM (clearLibrary_growsConfined h') _) fun rested => ?_
  exact rested.emptied (clearLibrary_growsConfined h) (clearLibrary_growsConfined h')
    (fun slot _ _ paired => clearLibrary_agrees h h' calls paired slot) (dropLibraries h)
    (dropLibraries h') _

end Slots

/-! ### Contexts -/

/-- The drop of a handle of the thread's own, or the end of the thread. -/
def Happening.lastly : Happening → Bool
  | .dropped (.context _) => false
  | .dropped _ | .threadEnded _ => true
  | _ => false

def contextsDropped (cs : List Context) : List Happening :=
  cs.map fun c => .dropped (.context c)

/-- The contexts that two threads drop are the same, or they tell the threads apart. -/
theorem contexts_part {x x' : Happening} (hx : x.lastly = true) (hx' : x'.lastly = true)
    (cs cs' : List Context) (hs hs' : List Happening) :
    Parts (contextsDropped cs ++ x :: hs) (contextsDropped cs' ++ x' :: hs') ∨
      Same (contextsDropped cs) (contextsDropped cs') := by
  have other : ∀ {x : Happening} (c : Context), x.lastly = true →
      x.afterContexts = true ∧ x.outline ≠ Happening.outline (.dropped (.context c)) := by
    intro x c hx
    cases x with
    | dropped handle =>
      cases handle <;> simp [Happening.lastly, Happening.afterContexts, Happening.outline,
        Handle.keyless] at hx ⊢
    | threadEnded panic => simp [Happening.afterContexts, Happening.outline]
    | _ => cases hx
  induction cs generalizing cs' with
  | nil =>
    cases cs' with
    | nil => exact .inr rfl
    | cons c' cs' => exact .inl (.here (other c' hx).2 (.inr (.left (other c' hx).1)))
  | cons c cs ih =>
    cases cs' with
    | nil => exact .inl (.here (other c hx').2.symm (.inl (.left (other c hx').1)))
    | cons c' cs' =>
      by_cases same : (Happening.dropped (.context c)).outline =
          (Happening.dropped (.context c')).outline
      · have first : Same [Happening.dropped (.context c)] [.dropped (.context c')] := by
          simp [Same, same]
        rcases ih cs' with parted | rest
        · have whole := Parts.prepend first parted
          exact .inl whole
        · exact .inr (first.append rest)
      · exact .inl (.here same (.inl (.left rfl)))

/-- The contexts in the slots are dropped as far as they are picked. -/
theorem pickContext_passes (contexts : List (Option (Context × Nat))) (picked : Context → Bool)
    (slot : Nat) (p : Process) : ∃ cs left,
      Passes p (final (pickContext contexts picked slot) p) (contextsDropped cs) ∧
      (final (pickContext contexts picked slot) p).here =
        { p.here with tables := { p.tables with contexts := left } } := by
  have kept : final (pickContext contexts picked slot) p = p → ∃ cs left,
      Passes p (final (pickContext contexts picked slot) p) (contextsDropped cs) ∧
      (final (pickContext contexts picked slot) p).here =
        { p.here with tables := { p.tables with contexts := left } } := fun same => by
    rw [same]
    exact ⟨[], p.tables.contexts, .refl, rfl⟩
  cases hocc : occupant contexts slot with
  | none => exact kept (by simp [pickContext, hocc])
  | some x =>
    obtain ⟨c, origin⟩ := x
    cases hpick : picked c with
    | false => exact kept (by simp [pickContext, hocc, hpick])
    | true =>
      have dropped : final (pickContext contexts picked slot) p =
          final c.drop (final (takeContext slot) p) := by simp [pickContext, hocc, hpick]
      rw [dropped]
      exact ⟨[c], p.tables.contexts.set slot none, ⟨rfl, entriesOf_note_self _ _⟩,
        Process.here_setHere _ _⟩

theorem clearContexts_passes (picked : Context → Bool) (p : Process) : ∃ cs left,
      Passes p (final (clearContexts picked) p) (contextsDropped cs) ∧
      (final (clearContexts picked) p).here =
        { p.here with tables := { p.tables with contexts := left } } := by
  have all : ∀ (contexts : List (Option (Context × Nat))) (slots : List Nat) (p : Process),
      ∃ cs left, Passes p (final (slots.forM (pickContext contexts picked)) p)
          (contextsDropped cs) ∧
        (final (slots.forM (pickContext contexts picked)) p).here =
          { p.here with tables := { p.tables with contexts := left } } := by
    intro contexts slots
    induction slots with
    | nil => exact fun p => ⟨[], p.tables.contexts, .refl, rfl⟩
    | cons slot rest ih =>
      intro p
      obtain ⟨cs, left, passes, here⟩ := pickContext_passes contexts picked slot p
      obtain ⟨cs', left', passes', here'⟩ := ih (final (pickContext contexts picked slot) p)
      refine ⟨cs ++ cs', left', ?_, here'.trans ?_⟩
      · rw [contextsDropped, List.map_append]
        exact passes.trans passes'
      · rw [Process.tables, here]
  exact all p.tables.contexts (List.range p.tables.contexts.length) p

/-! ### The end -/

/-- Either nothing happens, or something that a thread does last. -/
def Lastly (m : M α) : Prop :=
  ∀ p, Passes p (final m p) [] ∨ ∃ x, x.lastly = true ∧ Begins x m p

theorem Lastly.bind {m : M α} {f : α → M β} (hm : Lastly m) (goes : ∀ a, GrowsConfined (f a))
    (hf : ∀ a, Lastly (f a)) : Lastly (m >>= f) := by
  intro p
  rcases hm p with silent | ⟨x, hx, begins⟩
  · rcases hf (result m p) (final m p) with still | ⟨x, hx, begins⟩
    · exact .inl (silent.trans still)
    · exact .inr ⟨x, hx, .after silent rfl begins⟩
  · exact .inr ⟨x, hx, begins.bind goes⟩

theorem Lastly.forM {f : β → M Unit} (goes : ∀ b, GrowsConfined (f b)) (hf : ∀ b, Lastly (f b))
    (bs : List β) : Lastly (bs.forM f) := by
  induction bs with
  | nil => exact fun _ => .inl .refl
  | cons b bs ih => exact .bind (hf b) (fun _ => .forM goes bs) fun _ => ih

/-- What is taken out of a slot, without a trace, is dropped. -/
theorem Lastly.clear {m : M (Option β)} {f : Option β → M Unit} {x : β → Happening}
    (silent : ∀ p, Passes p (final m p) []) (empty : f none = pure ())
    (last : ∀ b, (x b).lastly = true) (begins : ∀ b p, Begins (x b) (f (some b)) p) :
    Lastly (m >>= f) := by
  intro p
  have taken := silent p
  have rest : (m >>= f).run p = (f (result m p)).run (final m p) := rfl
  cases hocc : result m p with
  | none => exact .inl (by rwa [final_bind, hocc, empty])
  | some b => exact .inr ⟨x b, last b, .after taken (hocc ▸ rest) (begins b _)⟩

section Slots

variable (h : ReliableLibrary native)

include h

theorem clearWindow_lastly (slot : Nat) : Lastly (clearWindow native slot) :=
  .clear (fun _ => ⟨rfl, rfl⟩) rfl (fun _ => rfl) (drop_begins h)

theorem clearMonitor_lastly (slot : Nat) : Lastly (clearMonitor native slot) :=
  .clear (fun _ => ⟨rfl, rfl⟩) rfl (fun _ => rfl) fun m p =>
    .bind (.note (.dropped (.monitor m)) p) fun _ => h.growsConfined.release

theorem clearLibrary_lastly (slot : Nat) : Lastly (clearLibrary native slot) :=
  .clear (fun _ => ⟨rfl, rfl⟩) rfl (fun _ => rfl) fun l p =>
    .bind (.note (.dropped (.library l)) p) fun _ => h.growsConfined.release

theorem emptied_lastly (t : Tables) : Lastly (emptied native t) := by
  refine .bind (.forM (clearWindow_growsConfined h) (clearWindow_lastly h) _)
    (fun _ => .bind (.forM (clearMonitor_growsConfined h) _) fun _ =>
    .forM (clearLibrary_growsConfined h) _) fun _ => ?_
  refine .bind (.forM (clearMonitor_growsConfined h) (clearMonitor_lastly h) _)
    (fun _ => .forM (clearLibrary_growsConfined h) _) fun _ => ?_
  exact .forM (clearLibrary_growsConfined h) (clearLibrary_lastly h) _

/-- A thread that has dropped its contexts drops something else or ends. -/
theorem emptied_begins (t : Tables) (panic : Option String) (p : Process) :
    ∃ x, x.lastly = true ∧
      Begins x (emptied native t >>= fun _ => note (.threadEnded panic)) p := by
  rcases emptied_lastly h t p with silent | ⟨x, last, begins⟩
  · exact ⟨_, rfl, .after (n := note (.threadEnded panic)) silent rfl (.note _ _)⟩
  · exact ⟨x, last, begins.bind fun _ => .note _⟩

end Slots

/-- A thread that ends has dropped contexts, and then does what other threads have no part in. -/
theorem Rest.ended_run (h : ReliableLibrary native) (rest : Rest c o p) (panicked : Bool)
    (panic : Option String) : ∃ cs q, Passes p q (contextsDropped cs) ∧ Rest c o q ∧
      q.here = { p.here with tables := { p.tables with contexts := [] } } ∧
      (ended native panicked panic).run p =
        (emptied native p.tables >>= fun _ => note (.threadEnded panic)).run q := by
  let own := p.tables.windows.filterMap fun w => w.map (·.key)
  let clear : M Unit := clearContexts fun c => panicked || own.contains c.key
  obtain ⟨cs, left, passes, here⟩ :=
    clearContexts_passes (fun c => panicked || own.contains c.key) p
  have contexts : BooksUnaffected clear :=
    .composed (fun _ _ => .quiet h.libraryKeepsBooks) (clearContexts_aside _).aside
  have cleared := (rest.unaffected contexts).1
  refine ⟨cs, final (modifyTables fun t => { t with contexts := [] }) (final clear p), ?_,
    (cleared.unaffected (.contexts fun _ => [])).1, ?_, rfl⟩
  · have forgotten : Passes (final clear p)
        (final (modifyTables fun t => { t with contexts := [] }) (final clear p)) [] := ⟨rfl, rfl⟩
    have whole := passes.trans forgotten
    rwa [List.append_nil] at whole
  · rw [final_modifyTables, Process.here_setHere, Process.tables, here]

/-- Threads that end alike drop the same and say the same, unless they are told apart by the contexts
that they have left. -/
theorem ended_agrees (h : ReliableLibrary native) (h' : ReliableLibrary native')
    (calls : ∀ call, Tied Eq (native call) (native' call)) (rested : Rested p p')
    (panicked panicked' : Bool) (panic : Option String) :
    Agrees (fun _ _ q q' => Rested q q') (ended native panicked panic)
      (ended native' panicked' panic) p p' := by
  obtain ⟨⟨c, o, rest⟩, ⟨c', o', rest'⟩, akin⟩ := rested
  obtain ⟨cs, q, passes, hq, here, run⟩ := rest.ended_run h panicked panic
  obtain ⟨cs', q', passes', hq', here', run'⟩ := rest'.ended_run h' panicked' panic
  obtain ⟨x, hx, later, begins⟩ := emptied_begins h p.tables panic q
  obtain ⟨x', hx', later', begins'⟩ := emptied_begins h' p'.tables panic q'
  rcases contexts_part hx hx' cs cs' later later' with parted | same
  · refine ⟨_, _, passes.trans ?_, passes'.trans ?_, .inl parted⟩
    · rw [final, run]
      exact begins
    · rw [final, run']
      exact begins'
  · have bare : Rested q q' := by
      refine ⟨⟨c, o, hq⟩, ⟨c', o', hq'⟩, ?_⟩
      rw [here, here']
      obtain ⟨locals, ⟨libraries, windows, monitors, pumping⟩, spawned⟩ := akin
      exact ⟨locals, ⟨libraries, windows, monitors, pumping⟩, spawned⟩
    have last : ∀ q q', Rested q q' → Agrees (fun _ _ q q' => Rested q q')
        (note (.threadEnded panic)) (note (.threadEnded panic)) q q' := by
      rintro q q' ⟨⟨c, o, hq⟩, ⟨c', o', hq'⟩, akin⟩
      exact .single (.note _ _) (.note _ _) rfl
        ⟨⟨c, o, hq.keepsBooks (.boundary rfl rfl)⟩, ⟨c', o', hq'.keepsBooks (.boundary rfl rfl)⟩,
          akin⟩
    exact .after passes passes' same run run' <|
      (emptied_agrees h h' calls akin.tables bare).bind (fun _ => .note _) (fun _ => .note _)
        fun rested => last _ _ rested

/-! ### Sessions -/

theorem Session.start_rested (s s' : Session) : Rested s.start s'.start :=
  ⟨⟨0, none, s.start_rest⟩, ⟨0, none, s'.start_rest⟩, by
    rw [Process.here, Process.here, s.start_thread, s'.start_thread]
    exact .fresh⟩

theorem Rested.keepsBooks {m : M α} {m' : M β} (h : Rested p p') (hm : OperationKeepsBooks m)
    (hm' : OperationKeepsBooks m')
    (akin : (final m p).here.Akin (final m' p').here) : Rested (final m p) (final m' p') := by
  obtain ⟨⟨c, o, rest⟩, ⟨c', o', rest'⟩, -⟩ := h
  exact ⟨⟨c, o, rest.keepsBooks hm⟩, ⟨c', o', rest'.keepsBooks hm'⟩, akin⟩

/-- A program and its end. -/
theorem runToEnd_agrees {steps steps' : List Step} (depth depth' : Nat)
    (like : List.Forall₂ Step.Like steps steps') (rested : Rested p p') :
    Agrees (fun _ _ q q' => Rested q q')
      (do let panic ← runSteps (backend depth) steps; ended (backend depth) true panic)
      (do let panic ← runSteps (backend depth') steps'; ended (backend depth') true panic) p p' := by
  have h := backend_reliableLibrary depth
  have h' := backend_reliableLibrary depth'
  have keepsBooks := (OperationKeepsBooks.law h.libraryKeepsBooks).runSteps steps
  have keepsBooks' := (OperationKeepsBooks.law h'.libraryKeepsBooks).runSteps steps'
  refine ((backend_isolates depth depth').2 steps steps' like p p' rested.paired).bind
    (h.growsConfined.ended true) (h'.growsConfined.ended true) fun ⟨same, paired⟩ => ?_
  rw [← same]
  exact ended_agrees h h' (backend_tied depth depth')
    (rested.keepsBooks keepsBooks keepsBooks' paired.akin) _ _ _

/-- The main threads of two sessions do the same until they are told apart. -/
theorem Session.happenings_agree (s s' : Session) (like : List.Forall₂ Step.Like s.steps s'.steps) :
    Parts (s.happenings 0) (s'.happenings 0) ∨ Same (s.happenings 0) (s'.happenings 0) := by
  have whole : ∀ s : Session, ∀ hs, Passes s.start (final s.body s.start) hs →
      s.happenings 0 = hs := fun s hs passes => by
    have entries : (final s.body s.start).entriesOf 0 = hs.reverse ++ [] := passes.entries
    rw [s.happenings_eq, entries, List.append_nil, List.reverse_reverse]
  obtain ⟨hs, hs', passes, passes', outcome⟩ :=
    runToEnd_agrees s.depth s'.depth like (s.start_rested s')
  rw [whole s hs passes, whole s' hs' passes']
  exact outcome.imp id And.left

end Windowing
