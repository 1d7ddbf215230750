import Windowing.Proofs.ContextLeases
import Windowing.Proofs.ContextHandover

/-!
Interleaving of atomic operations. Whatever threads do in the middle of each other's native calls, a
run is a sequence of the atomic operations on windows and contexts, and of steps that concern none.
Contexts are in hand while they are on their way between tables: when they are lent, when they are
dropped, and when a thread takes them along or leaves them to the one that waits for it.
-/

namespace Windowing

open Native Client

variable {α β ε : Type} {native : Backend} {p q : Process} {inHand : List Context}

/-- Atomic operations lead from a scene to another if all windows are known. -/
def Evolves (s s' : Scene) : Prop :=
  Stocked s.process → Reaches s s'

namespace Evolves

variable {s s' s'' : Scene} {inHand' : List Context}

theorem refl : Evolves s s := fun _ => .refl

theorem trans (h : Evolves s s') (h' : Evolves s' s'') : Evolves s s'' := fun hs =>
  (h hs).trans (h' ((h hs).stocked hs))

theorem move (h : Moves s s') : Evolves s s' := fun _ => .single h

/-- What is in hand has no order. -/
theorem perm (h : inHand.Perm inHand') : Evolves ⟨inHand, p⟩ ⟨inHand', p⟩ :=
  move (.passed rfl rfl rfl (h.symm.append_right _) id)

theorem passed (threads : q.threads = p.threads) (history : q.history = p.history)
    (lent : q.lent = p.lent) (nextKey : q.nextKey = p.nextKey) :
    Evolves ⟨inHand, p⟩ ⟨inHand, q⟩ := by
  refine move (.passed history lent nextKey ?_ fun hs => hs.grow threads ?_)
  · rw [Process.leased, threads, Process.leased]
  · exact history ▸ List.suffix_refl _

theorem note {h : Happening} (hh : h.leaseless = true) : Evolves ⟨inHand, p⟩ ⟨inHand, p.note h⟩ :=
  move (.noted h hh)

/-- Contexts are put into the current thread's tables and taken out of them. -/
theorem setHere {t : Thread} (given taken : List Context)
    (kept : (given ++ inSlots p.tables.contexts).Perm (taken ++ inSlots t.tables.contexts))
    (known : Stocked p → ∀ w, some w ∈ t.tables.windows → w ∈ opened p.history) :
    Evolves ⟨given ++ inHand, p⟩ ⟨taken ++ inHand, p.setHere t⟩ := by
  refine move (.passed rfl rfl rfl (leased_setHere kept inHand) fun hs u w hw => ?_)
  change some w ∈ ((p.threads.set p.current t).get u).tables.windows at hw
  by_cases hu : u = p.current
  · subst hu
    rw [Registry.get_set_self] at hw
    exact known hs w hw
  · rw [Registry.get_set_of_ne _ hu] at hw
    exact hs u w hw

/-- The contexts stay where they are. -/
theorem sameContexts {t : Thread} (contexts : t.tables.contexts = p.tables.contexts)
    (known : Stocked p → ∀ w, some w ∈ t.tables.windows → w ∈ opened p.history) :
    Evolves ⟨inHand, p⟩ ⟨inHand, p.setHere t⟩ :=
  setHere [] [] (by rw [contexts]) known

theorem locals (f : Locals → Locals) : Evolves ⟨inHand, p⟩ ⟨inHand, final (modifyLocals f) p⟩ :=
  sameContexts rfl fun hs w hw => hs p.current w hw

theorem contexts (given taken : List Context)
    (f : List (Option (Context × Nat)) → List (Option (Context × Nat)))
    (kept : (given ++ inSlots p.tables.contexts).Perm (taken ++ inSlots (f p.tables.contexts))) :
    Evolves ⟨given ++ inHand, p⟩
      ⟨taken ++ inHand, final (modifyTables fun t => { t with contexts := f t.contexts }) p⟩ :=
  setHere given taken kept fun hs w hw => hs p.current w hw

/-- A thread's tables are set up or given up. What was in them is in hand. -/
theorem threads {threads : Registry Thread} (given taken : List Context)
    (kept : (taken ++ { p with threads := threads }.leased).Perm (given ++ p.leased))
    (windows : ∀ u w, some w ∈ (threads.get u).tables.windows →
      some w ∈ (p.threads.get u).tables.windows) :
    Evolves ⟨given ++ inHand, p⟩ ⟨taken ++ inHand, { p with threads := threads }⟩ := by
  refine move (.passed rfl rfl rfl ?_ fun hs u w hw => hs u w (windows u w hw))
  refine List.perm_iff_count.2 fun c => ?_
  have same := kept.count_eq c
  simp only [List.count_append] at same ⊢
  omega

end Evolves

/-- A computation that is made of atomic operations. It may leave contexts in nobody's hand. -/
def AtomicSteps (m : M α) : Prop :=
  ∀ inHand p, ∃ left, Evolves ⟨inHand, p⟩ ⟨left ++ inHand, final m p⟩

theorem AtomicSteps.of_evolves {m : M α} (h : ∀ inHand p, Evolves ⟨inHand, p⟩ ⟨inHand, final m p⟩) :
    AtomicSteps m := fun inHand p => ⟨[], h inHand p⟩

namespace AtomicSteps

theorem pure (a : α) : AtomicSteps (Pure.pure a : M α) := of_evolves fun _ _ => .refl

theorem bind {m : M α} {f : α → M β} (hm : AtomicSteps m) (hf : ∀ a, AtomicSteps (f a)) :
    AtomicSteps (m >>= f) := by
  intro inHand p
  obtain ⟨left, first⟩ := hm inHand p
  obtain ⟨left', rest⟩ := hf (result m p) (left ++ inHand) (final m p)
  exact ⟨left' ++ left, by rw [List.append_assoc]; exact first.trans rest⟩

theorem look : AtomicSteps (get : M Process) := of_evolves fun _ _ => .refl

theorem composed {prim : (α : Type) → (Backend → M α) → Prop}
    (h : ∀ α m, prim α m → AtomicSteps (m native)) {m : Backend → M α}
    (hm : Composed SameButPanics prim m) : AtomicSteps (m native) := by
  induction hm with
  | pure a => exact .pure a
  | bind _ _ first rest => exact .bind first rest
  | look _ _ rest => exact .bind .look rest
  | act hm => exact h _ _ hm

theorem forM {f : α → M Unit} (hf : ∀ a, AtomicSteps (f a)) (xs : List α) :
    AtomicSteps (xs.forM f) := by
  induction xs with
  | nil => exact pure _
  | cons x xs ih => exact bind (hf x) fun _ => ih

theorem ite {c : Prop} [Decidable c] {m n : M α} (hm : AtomicSteps m) (hn : AtomicSteps n) :
    AtomicSteps (if c then m else n) := by
  split
  · exact hm
  · exact hn

theorem note {h : Happening} (hh : h.leaseless = true) : AtomicSteps (note h) :=
  of_evolves fun _ _ => .note hh

theorem locals (f : Locals → Locals) : AtomicSteps (modifyLocals f) := of_evolves fun _ _ => .locals f

/-- No window comes into the tables, and the contexts stay. -/
theorem tables {f : Tables → Tables} (contexts : ∀ t, (f t).contexts = t.contexts)
    (windows : ∀ t w, some w ∈ (f t).windows → some w ∈ t.windows) : AtomicSteps (modifyTables f) :=
  of_evolves fun _ p => .sameContexts (contexts p.tables)
    fun hs w hw => hs p.current w (windows p.tables w hw)

theorem shared {f : Process → Process} (same : ∀ p, (f p).threads = p.threads ∧
    (f p).history = p.history ∧ (f p).lent = p.lent ∧ (f p).nextKey = p.nextKey) :
    AtomicSteps (modify f) :=
  of_evolves fun _ p => .passed (same p).1 (same p).2.1 (same p).2.2.1 (same p).2.2.2

theorem catchUnwind {body : M α} (hb : AtomicSteps body) : AtomicSteps (catchUnwind body) := by
  refine .bind hb fun _ => ?_
  refine .bind (.shared fun _ => ⟨rfl, rfl, rfl, rfl⟩) fun _ => ?_
  exact .pure _

theorem getTables : AtomicSteps getTables := .bind .look fun _ => .pure _

theorem takeError : AtomicSteps takeError := by
  refine .bind (.bind .look fun _ => .pure _) fun _ => ?_
  refine .bind (.locals _) fun _ => ?_
  exact .pure _

theorem setPending (e : Option Error) : AtomicSteps (setPending e) := .locals _

theorem withScript (script : Script) {body : M α} (hb : AtomicSteps body) :
    AtomicSteps (withScript script body) := by
  refine .bind .look fun _ => ?_
  refine .bind (.shared fun _ => ⟨rfl, rfl, rfl, rfl⟩) fun _ => ?_
  refine .bind hb fun _ => ?_
  refine .bind (.shared fun _ => ⟨rfl, rfl, rfl, rfl⟩) fun _ => ?_
  exact .pure _

theorem onThread (t : ThreadId) {body : M α} (hb : AtomicSteps body) :
    AtomicSteps (onThread t body) := by
  refine .bind .look fun _ => ?_
  refine .bind (.shared fun _ => ⟨rfl, rfl, rfl, rfl⟩) fun _ => ?_
  refine .bind hb fun _ => ?_
  refine .bind (.shared fun _ => ⟨rfl, rfl, rfl, rfl⟩) fun _ => ?_
  exact .pure _

/-! ### Operations -/

variable (h : ∀ call, AtomicSteps (native call))

include h

theorem checked (call : Call) : AtomicSteps (Windowing.checked (native call)).run := by
  refine .bind takeError fun _ => ?_
  refine .bind (h call) fun _ => ?_
  refine .bind takeError fun _ => ?_
  refine .bind (setPending _) fun _ => ?_
  exact .pure _

theorem asks {windows monitors : List Pointer} {m : Backend → M α}
    (hm : Composed SameButPanics (Asks windows monitors) m) : AtomicSteps (m native) := by
  refine composed (fun α m hm => ?_) hm
  cases hm with
  | attempt call about => exact checked h call

theorem tells {windows : List Pointer} {m : Backend → M α}
    (hm : Composed SameButPanics (Tells windows) m) : AtomicSteps (m native) := by
  refine composed (fun α m hm => ?_) hm
  cases hm with
  | call call about => exact h call

theorem terminate : AtomicSteps (terminate native) := by
  refine .bind (checked h _) fun outcome => ?_
  cases outcome with
  | error e => exact .bind (.note rfl) fun _ => .shared fun _ => ⟨rfl, rfl, rfl, rfl⟩
  | ok reply => exact .shared fun _ => ⟨rfl, rfl, rfl, rfl⟩

theorem release : AtomicSteps (release native) := by
  refine .bind (.shared fun _ => ⟨rfl, rfl, rfl, rfl⟩) fun _ => ?_
  refine .bind .look fun _ => ?_
  exact .ite (terminate h) (.pure _)

theorem dropLibrary (l : Library) : AtomicSteps (l.drop native) :=
  .bind (.note rfl) fun _ => release h

theorem dropMonitor (m : Monitor) : AtomicSteps (m.drop native) :=
  .bind (.note rfl) fun _ => release h

theorem destroy (pointer : Pointer) : AtomicSteps (Window.destroy native pointer) := by
  refine .bind (checked h _) fun outcome => ?_
  cases outcome with
  | error e => exact .note rfl
  | ok reply => exact .pure _

theorem dropWindow (w : Window) : AtomicSteps (w.drop native) := by
  refine .bind (.note rfl) fun _ => ?_
  refine .bind (.bind .look fun _ => .pure _) fun _ => ?_
  exact .ite (.bind (.locals _) fun _ => .bind (.note rfl) fun _ =>
    release h) (.bind (destroy h _) fun _ => release h)

omit h in
theorem some_mem_set {table : List (Option α)} {slot : Nat} {a : α}
    (ha : some a ∈ table.set slot none) : some a ∈ table :=
  (List.mem_or_eq_of_mem_set ha).resolve_right nofun

theorem clearWindow (slot : Nat) : AtomicSteps (clearWindow native slot) := by
  refine .bind (.bind getTables fun _ => .bind (.tables (fun _ => rfl) fun _ _ => some_mem_set)
    fun _ => .pure _) fun w => ?_
  cases w with
  | none => exact .pure _
  | some w => exact dropWindow h w

theorem clearMonitor (slot : Nat) : AtomicSteps (clearMonitor native slot) := by
  refine .bind (.bind getTables fun _ => .bind (.tables (fun _ => rfl) fun _ _ hw => hw)
    fun _ => .pure _) fun m => ?_
  cases m with
  | none => exact .pure _
  | some m => exact dropMonitor h m

theorem clearLibrary (slot : Nat) : AtomicSteps (clearLibrary native slot) := by
  refine .bind (.bind getTables fun _ => .bind (.tables (fun _ => rfl) fun _ _ hw => hw)
    fun _ => .pure _) fun l => ?_
  cases l with
  | none => exact .pure _
  | some l => exact dropLibrary h l

theorem start : AtomicSteps (Library.start native) := by
  refine .bind (h _) fun _ => ?_
  refine .bind takeError fun _ => ?_
  refine .bind (h _) fun reply => ?_
  refine .ite ?_ ?_
  · refine .bind (.shared fun _ => ⟨rfl, rfl, rfl, rfl⟩) fun _ => ?_
    refine .bind (.note rfl) fun _ => ?_
    refine .bind (h _) fun _ => ?_
    refine .bind takeError fun pending => ?_
    cases pending with
    | some e => exact .bind (dropLibrary h _) fun _ => .pure _
    | none =>
      exact .bind (tells h versionString_tells) fun _ => .bind (.note rfl) fun _ => .pure _
  · exact .bind takeError fun _ => .bind (.shared fun _ => ⟨rfl, rfl, rfl, rfl⟩) fun _ => .pure _

theorem init : AtomicSteps (Library.init native) := by
  rw [Library.init, lockInit_eq]
  exact .bind (.bind (.shared fun _ => ⟨rfl, rfl, rfl, rfl⟩) fun _ => .pure _) fun _ => start h

theorem tryInit : AtomicSteps (Library.tryInit native) := by
  rw [Library.tryInit_eq]
  exact .bind .look fun _ => .ite (.pure _) (.bind (init h) fun _ => .pure _)

omit h in
theorem addLibrary (l : Library) : AtomicSteps (addLibrary l) := by
  refine .bind getTables fun _ => ?_
  refine .bind (.tables (fun _ => rfl) fun _ _ hw => hw) fun _ => ?_
  exact .pure _

omit h in
theorem addMonitor (m : Monitor) : AtomicSteps (addMonitor m) := by
  refine .bind getTables fun _ => ?_
  refine .bind (.tables (fun _ => rfl) fun _ _ hw => hw) fun _ => ?_
  exact .pure _

omit h in
theorem adoptMonitor (pointer : Pointer) : AtomicSteps (Monitor.adopt pointer) := by
  refine .bind (.shared fun _ => ⟨rfl, rfl, rfl, rfl⟩) fun _ => ?_
  refine .bind (.note rfl) fun _ => ?_
  exact .pure _

omit h in
theorem optionalMonitor (pointer : Pointer) : AtomicSteps (Monitor.ofPointer? pointer) :=
  .ite (.pure _) (.bind (adoptMonitor pointer) fun _ => .pure _)

omit h in
theorem addOptional (m : Option Monitor) : AtomicSteps (addOptional m) := by
  cases m with
  | none => exact .pure _
  | some m => exact .bind (addMonitor m) fun _ => .pure _

omit h in
theorem adopt (pointer : Pointer) : AtomicSteps (Window.adopt pointer) :=
  of_evolves fun _ _ => .move (.created pointer)

/-! ### Windows and contexts -/

/-- A computation that treads with the given native library. -/
def AtomicStepsWith (native : Backend) (α : Type) (m : Backend → M α) : Prop := AtomicSteps (m native)

omit h in
theorem attempted {x : Backend → ExceptT ε M α}
    (hx : Attempts SameButPanics (AtomicStepsWith native) x) :
    AtomicSteps (x native).run :=
  composed (fun _ _ hm => hm) hx

omit h in
theorem asAttempt {x : Backend → ExceptT ε M α} (hx : AtomicSteps (x native).run) :
    Attempts SameButPanics (AtomicStepsWith native) x :=
  .act hx

omit h in
/-- A computation that calls no native library. -/
theorem lifted {m : M α} (hm : AtomicSteps m) :
    Attempts SameButPanics (AtomicStepsWith native) fun _ => (monadLift m : ExceptT ε M α) :=
  .lift (.act hm)

omit h in
theorem answered {f : α → Answer} {x : Backend → Attempt α}
    (hx : Attempts SameButPanics (AtomicStepsWith native) x) : AtomicSteps (answering f (x native)) :=
  composed (fun _ _ hm => hm) (.answering hx)

theorem create (hints : List WindowHint) (width height : Int32) (title : String)
    (monitor : Option Monitor) (share : Option Window) :
    AtomicSteps (Window.create native hints width height title monitor share).run := by
  have asked : ∀ call, Attempts SameButPanics (AtomicStepsWith native) fun native =>
      Windowing.checked (native call) := fun call => asAttempt (checked h call)
  have made : ∀ title : Text.Bytes, Attempts SameButPanics (AtomicStepsWith native) fun native =>
      Window.createNative native width height title monitor share := fun title =>
    .bind (asked _) fun _ => .ite (.bind (.fail _) fun _ => .pure _) (.pure _)
  have whole : Attempts SameButPanics (AtomicStepsWith native) fun native =>
      Window.create native hints width height title monitor share := by
    refine .bind (.adapt _ (.liftExcept _)) fun _ => ?_
    refine .bind (.adapt _ (.liftExcept _)) fun title => ?_
    refine .bind (.adapt _ (asked _)) fun _ => ?_
    refine .bind (asAttempt (asks h (Window.applyHints_asks _ _))) fun _ => ?_
    refine .bind (.adapt _ (made title)) fun pointer => ?_
    refine .bind (.lift (.act (tells h (Window.listen_tells pointer)))) fun _ => ?_
    exact lifted (adopt pointer)
  exact attempted whole

end AtomicSteps

/-- An attempt that returns no window but one that was opened. -/
def Opens (x : ExceptT ε M Window) : Prop :=
  ∀ p w, result x.run p = .ok w → w ∈ opened (final x.run p).history

theorem Opens.bind {x : ExceptT ε M α} {f : α → ExceptT ε M Window} (hf : ∀ a, Opens (f a)) :
    Opens (x >>= f) := by
  intro p w hw
  rw [ExceptT.run_bind, result_bind] at hw
  rw [ExceptT.run_bind, final_bind]
  cases outcome : result x.run p with
  | error e =>
    rw [outcome] at hw
    cases hw
  | ok a =>
    rw [outcome] at hw
    exact hf a _ w hw

theorem Opens.adopt (pointer : Pointer) :
    Opens (monadLift (Window.adopt pointer) : ExceptT ε M Window) := by
  intro p w hw
  cases hw
  exact List.mem_cons_self

theorem create_opens (hints : List WindowHint) (width height : Int32) (title : String)
    (monitor : Option Monitor) (share : Option Window) :
    Opens (Window.create native hints width height title monitor share) := by
  refine .bind fun _ => ?_
  refine .bind fun _ => ?_
  refine .bind fun _ => ?_
  refine .bind fun _ => ?_
  refine .bind fun _ => ?_
  refine .bind fun _ => ?_
  exact .adopt _

theorem final_answering (f : α → Answer) (x : Attempt α) (p : Process) :
    final (answering f x) p = final x.run p := by
  simp only [answering, final_bind]
  cases result x.run p <;> rfl

theorem inSlots_set {contexts : List (Option (Context × Nat))} {slot : Nat}
    {c : Context × Nat} (h : occupant contexts slot = some c) :
    (inSlots contexts).Perm (c.1 :: inSlots (contexts.set slot none)) := by
  have split : ∀ contexts, inSlots contexts = (contexts.filterMap id).map (·.1) := fun contexts => by
    rw [inSlots, List.map_filterMap]
    rfl
  rw [split, split]
  exact (filterMap_set h).map (·.1)

namespace Evolves

theorem addWindow {w : Window} (known : w ∈ opened p.history) :
    Evolves ⟨inHand, p⟩ ⟨inHand, final (addWindow w) p⟩ := by
  refine sameContexts rfl fun hs w' hw' => ?_
  rcases List.mem_append.1 hw' with hw' | hw'
  · exact hs p.current w' hw'
  · obtain rfl : w' = w := by simpa using hw'
    exact known

theorem addContext (c : Context) (origin : Nat) :
    Evolves ⟨c :: inHand, p⟩ ⟨inHand, final (addContext c origin) p⟩ := by
  refine contexts [c] [] (· ++ [some (c, origin)]) ?_
  rw [inSlots, inSlots, List.filterMap_append]
  exact List.perm_append_comm

/-- The context that was in the slot is in hand. -/
theorem takeContext {slot : Nat} {c : Context} {origin : Nat}
    (hocc : occupant p.tables.contexts slot = some (c, origin)) :
    Evolves ⟨inHand, p⟩ ⟨c :: inHand, final (takeContext slot) p⟩ :=
  contexts [] [c] (·.set slot none) (inSlots_set hocc)

theorem dropContext (c : Context) : Evolves ⟨c :: inHand, p⟩ ⟨inHand, final c.drop p⟩ :=
  move (.returned c)

theorem lendContext {native : Backend} {slot : Nat} {w : Window}
    (hocc : occupant p.tables.windows slot = some w) :
    Evolves ⟨inHand, p⟩ ⟨inHand, final (operateWindow native slot w .lendContext) p⟩ := by
  have ran : final (operateWindow native slot w .lendContext) p =
      final (Context.lend w >>= fun c => (Client.addContext c slot : Attempt Nat)).run p :=
    final_answering _ _ p
  rw [ran, ExceptT.run_bind, final_bind]
  intro hs
  have known : w ∈ opened p.history := hs p.current w (mem_iff_occupant.2 ⟨slot, hocc⟩)
  have lent := move (@Moves.lent inHand p w known)
  by_cases held : w.key ∈ p.lent
  · rw [(lend_refused held).1] at lent ⊢
    exact lent hs
  · rw [(lend_free held).1] at lent ⊢
    exact lent.trans (addContext _ slot) hs

/-- Dropping contexts by slot drops those that are in the slots. -/
theorem pickContexts (kept : List (Option (Context × Nat))) (picked : Context → Bool)
    {slots : List Nat} (once : slots.Nodup)
    (same : ∀ slot ∈ slots, occupant p.tables.contexts slot = occupant kept slot) :
    Evolves ⟨inHand, p⟩ ⟨inHand, final (slots.forM (pickContext kept picked)) p⟩ := by
  induction slots generalizing p with
  | nil => exact refl
  | cons slot rest ih =>
    obtain ⟨absent, once⟩ := List.nodup_cons.1 once
    have later : ∀ i ∈ rest, occupant p.tables.contexts i = occupant kept i := fun i hi =>
      same i (List.mem_cons_of_mem _ hi)
    have here := same slot List.mem_cons_self
    change Evolves _ ⟨inHand, final (rest.forM (pickContext kept picked))
      (final (pickContext kept picked slot) p)⟩
    cases hocc : occupant kept slot with
    | none =>
      have idle : final (pickContext kept picked slot) p = p := by simp [pickContext, hocc]
      exact idle.symm ▸ ih once later
    | some x =>
      obtain ⟨c, origin⟩ := x
      cases hpick : picked c with
      | false =>
        have idle : final (pickContext kept picked slot) p = p := by
          simp [pickContext, hocc, hpick]
        exact idle.symm ▸ ih once later
      | true =>
        have dropped : final (pickContext kept picked slot) p =
            final c.drop (final (Client.takeContext slot) p) := by simp [pickContext, hocc, hpick]
        rw [dropped]
        refine ((takeContext (here.trans hocc)).trans (dropContext c)).trans (ih once ?_)
        intro i hi
        have other : i ≠ slot := fun heq => absent (heq ▸ hi)
        have emptied : (final c.drop (final (Client.takeContext slot) p)).tables.contexts =
            p.tables.contexts.set slot none :=
          congrArg Tables.contexts
            (tables_modifyTables (fun t => { t with contexts := t.contexts.set slot none }) p)
        rw [emptied, occupant_set, if_neg other]
        exact later i hi

theorem clearContexts (picked : Context → Bool) :
    Evolves ⟨inHand, p⟩ ⟨inHand, final (clearContexts picked) p⟩ :=
  pickContexts p.tables.contexts picked List.nodup_range fun _ _ => rfl

end Evolves

namespace AtomicSteps

variable (h : ∀ call, AtomicSteps (native call))

include h

theorem createWindow (r : WindowRequest) : AtomicSteps (createWindow native r) := by
  unfold Client.createWindow
  cases r.hints.mapM id with
  | none => exact .pure _
  | some hints =>
    refine .bind getTables fun t inHand p => ?_
    let x := Window.create native hints r.width r.height r.title (r.monitor.bind
      (occupant t.monitors)) (r.share.bind (occupant t.windows))
    obtain ⟨left, created⟩ := create h hints r.width r.height r.title _ _ inHand p
    refine ⟨left, ?_⟩
    rw [final_bind]
    cases outcome : result x.run p with
    | error e => exact created
    | ok w => exact created.trans (.addWindow (create_opens _ _ _ _ _ _ p w outcome))

theorem runLibrary (slot : Nat) (op : LibraryOp) : AtomicSteps (runLibrary native slot op) := by
  refine .bind getTables fun t => .ite (.pure _) ?_
  cases op with
  | drop =>
    exact .bind getTables fun _ => .ite (.pure _) (.bind (clearLibrary h slot) fun _ => .pure _)
  | getMonitors =>
    have all : Attempts SameButPanics (AtomicStepsWith native) Monitor.all :=
      .bind (asAttempt (checked h _)) fun _ => .mapM (fun _ => lifted (adoptMonitor _)) _
    exact answered (all.bind fun ms => .mapM (fun m => lifted (addMonitor m)) ms)
  | getPrimaryMonitor =>
    have primary : Attempts SameButPanics (AtomicStepsWith native) Monitor.primary :=
      .bind (asAttempt (checked h _)) fun _ => lifted (optionalMonitor _)
    exact answered (primary.bind fun m => lifted (addOptional m))
  | createWindow r => exact createWindow h r
  | _ => exact asks h (operateLibrary_asks slot _ rfl)

theorem runWindow (slot : Nat) (op : WindowOp) : AtomicSteps (runWindow native slot op) := by
  have operated : (∀ w, AtomicSteps (operateWindow native slot w op)) →
      AtomicSteps (Client.runWindow native slot op) := by
    refine fun hw => .bind getTables fun t => .ite (.pure _) ?_
    cases occupant t.windows slot with
    | none => exact .pure _
    | some w => exact hw w
  cases op with
  | lendContext =>
    intro inHand p
    cases hocc : occupant p.tables.windows slot with
    | none => exact ⟨[], by simpa [Client.runWindow, hocc] using .refl⟩
    | some w =>
      have ran : final (Client.runWindow native slot .lendContext) p =
          final (operateWindow native slot w .lendContext) p := by simp [Client.runWindow, hocc]
      exact ⟨[], ran.symm ▸ .lendContext hocc⟩
  | drop => exact operated fun w => .bind (clearWindow h slot) fun _ => .pure _
  | getMonitor =>
    refine operated fun w => ?_
    have monitor : Attempts SameButPanics (AtomicStepsWith native) fun native => w.monitor native :=
      .bind (asAttempt (checked h _)) fun _ => lifted (optionalMonitor _)
    exact answered (monitor.bind fun m => lifted (addOptional m))
  | userPointer => exact operated fun w => tells h (userPointer_tells slot w)
  | setUserPointer pointer => exact operated fun w => tells h (setUserPointer_tells slot w pointer)
  | _ => exact operated fun w => asks h (operateWindow_asks slot w _ rfl)

theorem runMonitor (slot : Nat) (op : MonitorOp) : AtomicSteps (runMonitor native slot op) := by
  refine .bind getTables fun t => ?_
  cases occupant t.monitors slot with
  | none => exact .pure _
  | some m =>
    cases op with
    | drop => exact .bind (clearMonitor h slot) fun _ => .pure _
    | _ => exact asks h (operateMonitor_asks slot m _ rfl)

theorem runContext (slot : Nat) (op : ContextOp) : AtomicSteps (runContext native slot op) := by
  intro inHand p
  rw [Client.runContext, final_bind]
  cases hocc : occupant p.tables.contexts slot with
  | none => exact ⟨[], by simpa [hocc] using .refl⟩
  | some x =>
    obtain ⟨c, origin⟩ := x
    suffices ∃ left, Evolves ⟨inHand, p⟩ ⟨left ++ inHand, final (operateContext native slot c op) p⟩
      by simpa [hocc] using this
    cases op with
    | drop => exact ⟨[], (Evolves.takeContext hocc).trans (.dropContext c)⟩
    | _ => exact asks h (operateContext_asks slot c _ rfl) inHand p

theorem runOp_small (op : Op) (hop : op.small = true) : AtomicSteps (runOp native op) := by
  cases op with
  | pump | onThread => cases hop
  | init =>
    refine .bind .look fun _ => ?_
    refine .ite (.pure _) ?_
    refine .bind (init h) fun outcome => ?_
    cases outcome with
    | error e => exact .pure _
    | ok l => exact .bind (addLibrary l) fun _ => .pure _
  | tryInit =>
    refine .bind (tryInit h) fun outcome => ?_
    cases outcome with
    | error e => exact .pure _
    | ok l => exact .bind (addLibrary l) fun _ => .pure _
  | getError =>
    have taken : AtomicSteps lastError.run := .bind takeError fun pending => by
      cases pending <;> exact .pure _
    have asked : Attempts SameButPanics (AtomicStepsWith native) fun _ => lastError := asAttempt taken
    exact answered asked
  | getVersion => exact .bind (tells h version_tells) fun _ => .pure _
  | getVersionString => exact .bind (tells h versionString_tells) fun _ => .pure _
  | getTime => exact .bind (tells h time_tells) fun _ => .pure _
  | detachCurrent | current | swapInterval _ | extensionSupported _ | getProcAddress _ =>
    exact (runOp_asks _ rfl).elim fun _ asked => asks h asked.2
  | panic message => exact .bind (.shared fun _ => ⟨rfl, rfl, rfl, rfl⟩) fun _ => .pure _
  | library slot op => exact runLibrary h slot op
  | window slot op => exact runWindow h slot op
  | monitor slot op => exact runMonitor h slot op
  | context slot op => exact runContext h slot op

/-! ### Pumps -/

theorem runPump (slot : Nat) (kind : PumpKind) (handler : Handler) :
    AtomicSteps (runPump native slot kind handler) := by
  have taken : AtomicSteps takePanic :=
    .bind (.bind .look fun _ => .pure _) fun _ => .bind (.locals _) fun _ => .pure _
  have processed : AtomicSteps (processEvents native kind.call handler) := by
    refine .bind (.locals _) fun _ => ?_
    refine .bind (checked h _) fun _ => ?_
    refine .bind (.locals _) fun _ => ?_
    refine .bind (.bind (.bind .look fun _ => .pure _) fun _ => .bind (.locals _) fun _ =>
      .pure _) fun doomed => ?_
    refine .bind (.forM (destroy h) doomed) fun _ => ?_
    exact .pure _
  have pumped : AtomicSteps (pump native kind handler).run := by
    intro inHand p
    by_cases busy : p.locals.dispatching
    · exact ⟨[], (final_pump_refused busy).symm ▸ .refl⟩
    · rw [final_pump busy]
      exact bind processed (fun _ => taken) inHand p
  refine .bind getTables fun t => ?_
  refine .ite (.pure _) ?_
  refine .bind (.tables (fun _ => rfl) fun _ _ hw => hw) fun _ => ?_
  refine .bind pumped fun outcome => ?_
  refine .bind (.tables (fun _ => rfl) fun _ _ hw => hw) fun _ => ?_
  rcases outcome with message | (e | _) <;> exact .pure _

/-! ### Threads -/

/-- A thread that ends has the contexts in hand that it leaves to the thread that waits for it. -/
theorem finish (panicked : Bool) (inHand : List Context) (p : Process) : ∃ left,
    Evolves ⟨inHand, p⟩ ⟨inSlots (result (finish native panicked) p) ++ (left ++ inHand),
      final (finish native panicked) p⟩ := by
  let own := p.tables.windows.filterMap fun w => w.map (·.key)
  let q := final (clearContexts fun c => panicked || own.contains c.key) p
  have empties : AtomicSteps (emptied native p.tables) := by
    refine .bind (.forM (clearWindow h) _) fun _ => ?_
    refine .bind (.forM (clearMonitor h) _) fun _ => ?_
    exact .forM (clearLibrary h) _
  have taken : Evolves ⟨inHand, q⟩ ⟨inSlots q.tables.contexts ++ inHand,
      final (modifyTables fun t => { t with contexts := [] }) q⟩ :=
    .contexts [] _ (fun _ => []) (by simp [inSlots])
  obtain ⟨left, emptied⟩ := empties (inSlots q.tables.contexts ++ inHand) _
  have ended := ((Evolves.clearContexts _).trans taken).trans emptied
  cases panicked with
  | true => exact ⟨left ++ inSlots q.tables.contexts, by rw [List.append_assoc]; exact ended⟩
  | false => exact ⟨left, ended.trans (.perm (List.perm_append_comm_assoc _ _ _))⟩

omit h in
/-- A thread is forgotten. -/
theorem erase (t : ThreadId) :
    AtomicSteps (modify fun p => { p with threads := p.threads.erase t }) := by
  refine fun inHand p => ⟨_, .threads [] _ (Registry.flatMap_erase
    (fun t : Thread => inSlots t.tables.contexts) t p.threads.entries) fun u w hw => ?_⟩
  by_cases hu : u = t
  · subst hu
    rw [Registry.get_erase_self] at hw
    cases hw
  · rwa [Registry.get_erase_of_ne _ hu] at hw

theorem runToEnd {body : M (Option String)} (hb : AtomicSteps body) (inHand : List Context)
    (p : Process) : ∃ left, Evolves ⟨inHand, p⟩
      ⟨inSlots (result (runToEnd native body) p).2 ++ (left ++ inHand),
        final (runToEnd native body) p⟩ := by
  obtain ⟨left, ran⟩ := hb inHand p
  obtain ⟨left', finished⟩ := finish h (result body p).isSome (left ++ inHand) (final body p)
  refine ⟨left' ++ left, ?_⟩
  rw [List.append_assoc]
  exact (ran.trans finished).trans (.note rfl)

/-- A new thread takes the contexts out of the hand of the one that starts it. -/
theorem spawn {body : M (Option String)} (hb : AtomicSteps body)
    (contexts : List (Option (Context × Nat))) (inHand : List Context) (p : Process) : ∃ left,
      Evolves ⟨inSlots contexts ++ inHand, p⟩
        ⟨inSlots (result (spawn native contexts body) p).2 ++ (left ++ inHand),
          final (spawn native contexts body) p⟩ := by
  let q : Process := { p.withThread contexts with running := p.freshThread :: p.running }
  have given : Evolves ⟨inSlots contexts ++ inHand, p⟩ ⟨inHand, p.withThread contexts⟩ := by
    refine .threads _ [] ?_ fun u w hw => ?_
    · have exchanged := leased_set p p.freshThread { tables := { contexts }, spawned := true }
      rw [get_fresh] at exchanged
      exact exchanged
    · by_cases hu : u = p.freshThread
      · subst hu
        rw [Registry.get_set_self] at hw
        cases hw
      · rwa [Registry.get_set_of_ne _ hu] at hw
  have begun : Evolves ⟨inHand, p.withThread contexts⟩ ⟨inHand, q⟩ := .passed rfl rfl rfl rfl
  obtain ⟨left, ran⟩ := runToEnd h hb inHand q
  let r : Process :=
    { final (Windowing.catchUnwind (Client.runToEnd native body)) q with running := p.running }
  let kept := inSlots (result (Client.runToEnd native body) q).2
  have stopped : Evolves ⟨kept ++ (left ++ inHand), final (Client.runToEnd native body) q⟩
      ⟨kept ++ (left ++ inHand), r⟩ := .passed rfl rfl rfl rfl
  obtain ⟨left', forgotten⟩ := erase p.freshThread (kept ++ (left ++ inHand)) r
  refine ⟨left' ++ left, ?_⟩
  rw [List.append_assoc]
  exact ((((given.trans begun).trans ran).trans stopped).trans forgotten).trans
    (.perm (List.perm_append_comm_assoc _ _ _))

theorem runThread {body : M (Option String)} (hb : AtomicSteps body) :
    AtomicSteps (runThread native body) := by
  intro inHand p
  by_cases spawned : p.here.spawned = true
  · have refused : final (Client.runThread native body) p = p := by
      simp [Client.runThread, spawned]
    exact ⟨[], refused.symm ▸ .refl⟩
  let contexts := p.tables.contexts
  let q := final (modifyTables fun t => { t with contexts := [] }) p
  let kept := (result (Client.spawn native contexts body) q).2
  let r := final (Client.spawn native contexts body) q
  have ran : final (Client.runThread native body) p =
      final (modifyTables fun t => { t with contexts := kept }) r := by
    simp [Client.runThread, spawned, q, r, kept, contexts]
  have taken : Evolves ⟨inHand, p⟩ ⟨inSlots contexts ++ inHand, q⟩ :=
    .contexts [] _ (fun _ => []) (by simp [inSlots, contexts])
  obtain ⟨left, returned⟩ := spawn h hb contexts inHand q
  have back : Evolves ⟨inSlots kept ++ (left ++ inHand), r⟩
      ⟨inSlots r.tables.contexts ++ (left ++ inHand),
        final (modifyTables fun t => { t with contexts := kept }) r⟩ :=
    .contexts _ _ (fun _ => kept) List.perm_append_comm
  refine ⟨inSlots r.tables.contexts ++ left, ?_⟩
  rw [ran, List.append_assoc]
  exact (taken.trans returned).trans back

theorem law : StepLaw native fun _ m => AtomicSteps m where
  pure := pure
  bind := bind
  operation := runOp_small h
  pump := runPump h
  thread _ hb := runThread h hb
  step script _ hop := .bind (.note rfl) fun _ => .bind (withScript script hop) fun _ =>
    .bind (.note rfl) fun _ => .pure _

theorem endThread (thread : ThreadId) (panic : Option String) :
    AtomicSteps (endThread native thread panic) := by
  have finished : AtomicSteps (Client.finish native true) := fun inHand p =>
    have ⟨left, ended⟩ := finish h true inHand p
    ⟨left, ended⟩
  exact .bind (.catchUnwind (.bind finished fun _ => .note rfl)) fun _ => erase thread

theorem runTurn (turn : Turn) : AtomicSteps (runTurn native turn) := by
  have interjected : ∀ {thread : ThreadId} {body : M Unit}, AtomicSteps body →
      AtomicSteps (interject thread body) := fun hb =>
    .bind .look fun _ => .ite (.pure _) (onThread _ hb)
  cases turn with
  | finish thread => exact interjected (endThread h thread none)
  | step thread step =>
    refine interjected (.bind ((law h).runStep step) fun outcome => ?_)
    cases outcome with
    | panicking message => exact endThread h thread _
    | _ => exact .pure _

/-! ### The native library -/

theorem react (time : Float) (event : Event) : AtomicSteps (react native time event) := by
  refine .bind (.bind .look fun _ => .pure _) fun _ => ?_
  refine .bind (.locals _) fun _ => ?_
  refine .bind (.note rfl) fun _ => ?_
  refine .bind (.catchUnwind ((law h).runSteps _)) fun _ => ?_
  refine .bind (.note rfl) fun _ => ?_
  exact .pure _

theorem deliver (decoded : Except Log Event) :
    AtomicSteps (deliver native (Windowing.react native) decoded) := by
  cases decoded with
  | error warning => exact .note rfl
  | ok event =>
    refine .bind (h _) fun _ => .bind (.bind .look fun _ => .pure _) fun state => ?_
    cases state.dropReason with
    | some reason => exact .note rfl
    | none => exact .bind (.locals _) fun _ => .bind (react h _ _) fun _ => .locals _

theorem invoke (callback : Callback) : AtomicSteps (invoke native callback) := by
  refine .bind .look fun p => .ite (.bind (.note rfl) fun _ => ?_) (.pure _)
  cases callback with
  | error code description => exact .bind (.note rfl) fun _ => .locals _
  | monitor monitor event => exact deliver h _
  | window window signal => exact deliver h _

omit h in
theorem callWith {meanwhile : Reply → M Unit} (hm : ∀ reply, AtomicSteps (meanwhile reply))
    (call : Call) : AtomicSteps (callWith meanwhile call) := by
  have answered : AtomicSteps (takeReply call) := of_evolves fun inHand p => by
    rw [takeReply, final_modifyGet]
    split
    · exact .refl
    · exact .passed rfl rfl rfl rfl
  have settled : AtomicSteps (settle call) := of_evolves fun inHand p => by
    cases call <;> exact .passed rfl rfl rfl rfl
  refine .bind (.note rfl) fun _ => ?_
  refine .bind answered fun reply => ?_
  refine .bind (hm reply) fun _ => ?_
  refine .bind settled fun _ => ?_
  refine .bind (.note rfl) fun _ => ?_
  exact .pure _

end AtomicSteps

theorem backend_atomicSteps (depth : Nat) (call : Call) : AtomicSteps (backend depth call) := by
  induction depth generalizing call with
  | zero => exact .callWith (fun _ => .pure _) call
  | succ depth ih =>
    have turns : AtomicSteps takeTurns := .of_evolves fun inHand p => by
      rw [takeTurns, final_modifyGet]
      split
      · exact .refl
      · exact .passed rfl rfl rfl rfl
    exact .callWith (fun reply => .bind turns fun batch => .bind (.forM (.runTurn ih) batch)
      fun _ => .forM (.invoke ih) reply.callbacks) call

end Windowing
