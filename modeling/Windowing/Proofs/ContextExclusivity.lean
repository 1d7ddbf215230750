import Windowing.Proofs.ThreadEnds
import Windowing.Proofs.AtomicInterleaving

/-!
Exclusive lending. A run is a sequence of atomic operations, so what every such sequence keeps is true
at every moment of every run: a window has lent its context to one handle at most, and its flag says
whether it has. What the operations on windows and contexts do is read off that.
-/

namespace Windowing

open Native Client

variable {p : Process}

/-! ### Flags -/

/-- A context of the window is alive. -/
def Scene.Lends (s : Scene) (w : Window) : Prop :=
  ∃ c ∈ s.alive, c.key = w.key

/-- One context of a window is alive at most, and the window's flag is set exactly while one is. The
windows have flags of their own; the next one's is not set. -/
structure Scene.Exclusive (s : Scene) : Prop where
  single : (s.alive.map (·.key)).Nodup
  flag : ∀ key, key ∈ s.process.lent ↔ ∃ c ∈ s.alive, c.key = key
  origin : ∀ c ∈ s.alive, ⟨c.pointer, c.key⟩ ∈ s.windows
  distinct : (s.windows.map (·.key)).Nodup
  next : s.process.nextKey ∉ s.windows.map (·.key) ∧ s.process.nextKey ∉ s.process.lent

theorem Scene.Tally.exclusive {s : Scene} (h : s.Tally) : s.Exclusive := by
  have flag : ∀ key, key ∈ s.process.lent ↔ ∃ c ∈ s.alive, c.key = key := fun key => by
    rw [h.lent, List.mem_map]
  have unused : s.process.nextKey ∉ s.windows.map (·.key) := fun used => by
    obtain ⟨w, hw, same⟩ := List.mem_map.1 used
    exact absurd same (Nat.ne_of_lt (h.fresh w hw))
  refine ⟨h.lent ▸ h.single, flag, h.origin, h.distinct, unused, fun lent => ?_⟩
  obtain ⟨c, hc, same⟩ := (flag _).1 lent
  exact unused (List.mem_map.2 ⟨_, h.origin c hc, same⟩)

/-- A window lends its context if none is alive, and then sets its own flag only. Otherwise nothing
happens, and the context that is alive keeps the flag. -/
structure Scene.LendsOnce (s : Scene) (w : Window) : Prop where
  granted : ¬s.Lends w →
    result (Context.lend w).run s.process = .ok ⟨w.pointer, w.key⟩ ∧
    lendings (final (Context.lend w).run s.process).history = ⟨w.pointer, w.key⟩ :: s.alive ∧
    ∀ key, key ∈ (final (Context.lend w).run s.process).lent ↔
      key = w.key ∨ key ∈ s.process.lent
  refused : s.Lends w → result (Context.lend w).run s.process = .error .contextLent ∧
    final (Context.lend w).run s.process = s.process

/-- An operation of a window on its context is a checked call if no context is alive, and otherwise
fails without one. -/
structure Scene.Gates (s : Scene) (w : Window) (native : Backend) (call : Call)
    (use : Attempt Unit) : Prop where
  calls : ¬s.Lends w → result use.run s.process = result (perform native call).run s.process ∧
    final use.run s.process = final (perform native call).run s.process
  refused : s.Lends w → result use.run s.process = .error .contextLent ∧
    final use.run s.process = s.process

/-- A handle that is dropped gives back the context of its own window. -/
structure Scene.GivesBack (s : Scene) (c : Context) : Prop where
  reaches : ∀ inHand, s.inHand.Perm (c :: inHand) → Reaches s ⟨inHand, final c.drop s.process⟩
  gone : lendings (final c.drop s.process).history = s.alive.erase c
  flags : ∀ key, key ∈ (final c.drop s.process).lent ↔ key ≠ c.key ∧ key ∈ s.process.lent

/-- What a thread still drops when its contexts are gone. -/
def Client.clearHandles (native : Backend) (t : Tables) : M Unit := do
  modifyTables fun t => { t with contexts := [] }
  (List.range t.windows.length).forM fun slot => clearWindow native slot
  (List.range t.monitors.length).forM fun slot => clearMonitor native slot
  (List.range t.libraries.length).forM fun slot => clearLibrary native slot

/-- The current thread has dropped all contexts that are in its slots. -/
def Process.unwound (p : Process) : Process :=
  final (clearContexts fun _ => true) p

/-- A thread that panics gives back all contexts that it has. -/
structure Scene.Unwinds (s : Scene) : Prop where
  reaches : Reaches s ⟨s.inHand, s.process.unwound⟩
  flags : ∀ key, key ∈ s.process.unwound.lent ↔
    key ∈ s.process.lent ∧ ∀ c ∈ inSlots s.process.tables.contexts, c.key ≠ key

namespace Scene.Tally

variable {s : Scene} (h : s.Tally)

include h

theorem lends_iff (w : Window) : s.Lends w ↔ w.key ∈ s.process.lent :=
  (h.exclusive.flag w.key).symm

theorem lendsOnce (w : Window) : s.LendsOnce w where
  granted free := by
    have unset : w.key ∉ s.process.lent := fun set => free ((h.lends_iff w).2 set)
    obtain ⟨granted, ran⟩ := lend_free unset
    rw [ran]
    exact ⟨granted, rfl, fun key => List.mem_cons⟩
  refused held := lend_refused ((h.lends_iff w).1 held)

theorem gates (w : Window) (native : Backend) (call : Call) : s.Gates w native call (do
    w.ensureContextOwned
    perform native call) := by
  have ensured : ∀ set : Bool, s.process.lent.contains w.key = set →
      result w.ensureContextOwned.run s.process = (if set then .error .contextLent else .ok ()) ∧
      final w.ensureContextOwned.run s.process = s.process := by
    rintro set rfl
    change result (if s.process.lent.contains w.key then _ else _ : M (Except Error Unit)) _ = _ ∧
      final (if s.process.lent.contains w.key then _ else _ : M (Except Error Unit)) _ = _
    cases s.process.lent.contains w.key <;> exact ⟨rfl, rfl⟩
  constructor
  · intro free
    have unset : s.process.lent.contains w.key = false := by
      simpa using fun set => free ((h.lends_iff w).2 set)
    obtain ⟨owned, same⟩ := ensured false unset
    rw [ExceptT.run_bind, result_bind, final_bind, owned, same]
    exact ⟨rfl, rfl⟩
  · intro held
    have set : s.process.lent.contains w.key = true := by simpa using (h.lends_iff w).1 held
    obtain ⟨refused, same⟩ := ensured true set
    rw [ExceptT.run_bind, result_bind, final_bind, refused, same]
    exact ⟨rfl, rfl⟩

theorem givesBack (stocked : Stocked s.process) (c : Context) : s.GivesBack c where
  reaches _ inFront := ((Evolves.perm inFront).trans (.dropContext c)) stocked
  gone := rfl
  flags _ := h.single.mem_erase_iff

omit h in
/-- Exactly the contexts that are picked are dropped. -/
theorem lent_pickContexts (kept : List (Option (Context × Nat))) (picked : Context → Bool)
    (slots : List Nat) {p : Process} (single : p.lent.Nodup) (key : Nat) :
    key ∈ (final (slots.forM (pickContext kept picked)) p).lent ↔ key ∈ p.lent ∧
      ∀ slot ∈ slots, ∀ x, occupant kept slot = some x → picked x.1 = true → x.1.key ≠ key := by
  induction slots generalizing p with
  | nil => simp
  | cons slot rest ih =>
    change key ∈ (final (rest.forM (pickContext kept picked))
      (final (pickContext kept picked slot) p)).lent ↔ _
    cases hocc : occupant kept slot with
    | none =>
      have idle : final (pickContext kept picked slot) p = p := by simp [pickContext, hocc]
      rw [idle, ih single]
      simp [hocc]
    | some x =>
      obtain ⟨c, origin⟩ := x
      cases hpick : picked c with
      | false =>
        have idle : final (pickContext kept picked slot) p = p := by
          simp [pickContext, hocc, hpick]
        rw [idle, ih single]
        simp [hocc, hpick]
      | true =>
        have dropped : (final (pickContext kept picked slot) p).lent = p.lent.erase c.key := by
          simp only [pickContext, hocc, hpick]
          rfl
        rw [ih (dropped ▸ single.erase _), dropped, single.mem_erase_iff]
        simp [hocc, hpick]
        tauto

theorem unwinds (stocked : Stocked s.process) : s.Unwinds := by
  refine ⟨Evolves.clearContexts _ stocked, fun key => ?_⟩
  have cleared := lent_pickContexts s.process.tables.contexts (fun _ => true)
    (List.range s.process.tables.contexts.length) h.single key
  refine cleared.trans (and_congr_right fun _ => ⟨fun gone c hc => ?_, fun gone slot _ x hx _ => ?_⟩)
  · obtain ⟨entry, hentry, some⟩ := List.mem_filterMap.1 hc
    obtain ⟨x, rfl, rfl⟩ := Option.map_eq_some_iff.1 some
    obtain ⟨slot, hslot⟩ := mem_iff_occupant.1 hentry
    exact gone slot (List.mem_range.2 (occupant_lt hslot)) x hslot rfl
  · exact gone x.1 (List.mem_filterMap.2 ⟨_, mem_iff_occupant.2 ⟨slot, hx⟩, rfl⟩)

end Scene.Tally

/-! ### Sessions -/

theorem Session.start_leased (s : Session) : s.start.leased = [] := by
  refine List.flatMap_eq_nil_iff.2 fun e he => ?_
  have new : e.2 = {} := by
    rcases List.mem_cons.1 he with rfl | later
    · rfl
    · obtain ⟨turn, -, rfl⟩ := List.mem_map.1 later
      rfl
  rw [new]
  rfl

theorem Session.start_tally (s : Session) : Scene.Tally ⟨[], s.start⟩ where
  kept := by
    rw [s.start_leased]
    exact .refl _
  lent := rfl
  single := List.nodup_nil
  origin _ hc := absurd hc List.not_mem_nil
  fresh _ hw := absurd hw List.not_mem_nil
  distinct := List.nodup_nil

theorem Session.start_stocked (s : Session) : Stocked s.start := by
  intro t w hw
  rw [s.start_thread t] at hw
  cases hw

theorem Session.body_atomicSteps (s : Session) : AtomicSteps s.body := by
  have atomicSteps := backend_atomicSteps s.depth
  have emptied : AtomicSteps (finish (backend s.depth) true) := fun inHand p => by
    obtain ⟨left, ended⟩ := AtomicSteps.finish atomicSteps true inHand p
    exact ⟨left, ended⟩
  refine .bind ((AtomicSteps.law atomicSteps).runSteps s.steps) fun _ => ?_
  exact .bind emptied fun _ => .note rfl

/-- Every run of a program is a sequence of atomic operations, and all entries of its history are
made on the way. Whatever sequence of atomic operations there is, of whatever threads: at most one
context of a window is alive, and the window's flag is set exactly while one is. So a window lends
its context exactly when none is alive. Its own operations on it make their calls exactly when none
is alive, and otherwise fail for an invalid value without any effect. Dropping a context resets the
flag of its window and no other, and a thread that panics begins with dropping all that it has. -/
theorem context_exclusivity (s : Session) :
    (∃ inHand, ∀ before, before <+: s.history → ∃ scene, Reaches ⟨[], s.start⟩ scene ∧
      Reaches scene ⟨inHand, final s.body s.start⟩ ∧ scene.history.reverse = before) ∧
    (∀ scene, Reaches ⟨[], s.start⟩ scene → scene.Exclusive ∧ scene.Unwinds ∧
      (∀ c ∈ scene.alive, scene.GivesBack c) ∧ ∀ w : Window, scene.LendsOnce w ∧
        ∀ native, scene.Gates w native (.makeContextCurrent w.pointer) (w.makeContextCurrent native) ∧
          scene.Gates w native (.swapBuffers w.pointer) (w.swapBuffers native)) ∧
    Error.contextLent.kind = some .invalidValue ∧
    (∀ native p, final (finish native true) p =
      final (clearHandles native p.tables) p.unwound) ∧
    ∀ native body message p, result body p = some message → final (runToEnd native body) p =
      (final (finish native true) (final body p)).note (.threadEnded (some message)) := by
  have tally := s.start_tally
  have stocked := s.start_stocked
  refine ⟨?_, fun scene way => ?_, rfl, fun _ _ => rfl, fun native body message p panics => ?_⟩
  · obtain ⟨left, ran⟩ := s.body_atomicSteps [] s.start
    refine ⟨left, fun before hbefore => ?_⟩
    rw [List.append_nil] at ran
    have during : before.reverse <:+ (final s.body s.start).history := by
      have reversed := List.reverse_suffix.2 hbefore
      rwa [Session.history, List.reverse_reverse] at reversed
    obtain ⟨scene, first, rest, found⟩ := (ran stocked).through (List.nil_suffix) during
    exact ⟨scene, first, rest, by rw [found, List.reverse_reverse]⟩
  · have held := way.tally tally
    have known := way.stocked stocked
    exact ⟨held.exclusive, held.unwinds known, fun c _ => held.givesBack known c,
      fun w => ⟨held.lendsOnce w, fun native => ⟨held.gates w native _, held.gates w native _⟩⟩⟩
  · rw [final_runToEnd, panics]
    rfl

end Windowing
