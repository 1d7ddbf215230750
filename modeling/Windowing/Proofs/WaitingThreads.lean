import Windowing.Proofs.CompositionalLaws

/-!
Threads that wait. Whatever a thread does, the threads that wait for it to come back, because they
are in the middle of something themselves, keep their state and their history. The laws of single
threads rest on this: between the call and the return of a native function nothing happens to the
caller but what the callbacks do.
-/

namespace Windowing

open Native Client

variable {α β ε : Type} {native : Backend}

/-- What happened on a thread; the newest comes first. -/
def Process.entriesOf (p : Process) (t : ThreadId) : List Happening :=
  (p.history.filter fun e => e.thread = t).map (·.what)

theorem entriesOf_note_self (p : Process) (h : Happening) :
    (p.note h).entriesOf p.current = h :: p.entriesOf p.current := by
  simp [Process.entriesOf, Process.note]

theorem entriesOf_note_of_ne (p : Process) (h : Happening) {t : ThreadId} (ht : t ≠ p.current) :
    (p.note h).entriesOf t = p.entriesOf t := by
  simp [Process.entriesOf, Process.note, Ne.symm ht]

/-- Neither the state nor the history of the thread changed. -/
structure Undisturbed (t : ThreadId) (p q : Process) : Prop where
  thread : q.threads.get t = p.threads.get t
  entries : q.entriesOf t = p.entriesOf t

theorem Undisturbed.rfl {t : ThreadId} {p : Process} : Undisturbed t p p := ⟨Eq.refl _, Eq.refl _⟩

theorem Undisturbed.trans {t : ThreadId} {p q r : Process} (h : Undisturbed t p q)
    (h' : Undisturbed t q r) : Undisturbed t p r :=
  ⟨h'.thread.trans h.thread, h'.entries.trans h.entries⟩

/-- The same threads run, and those that wait are undisturbed. -/
structure Within (p q : Process) : Prop where
  running : q.running = p.running
  waiting : ∀ t ∈ p.running, t ≠ p.current → Undisturbed t p q

theorem Within.current {p q : Process} (h : Within p q) : q.current = p.current :=
  Process.current_eq h.running

theorem Within.rfl {p : Process} : Within p p := ⟨Eq.refl _, fun _ _ _ => .rfl⟩

theorem Within.trans {p q r : Process} (h : Within p q) (h' : Within q r) : Within p r where
  running := h'.running.trans h.running
  waiting t ht hne :=
    (h.waiting t ht hne).trans (h'.waiting t (h.running ▸ ht) (h.current ▸ hne))

theorem SameThreads.undisturbed {p q : Process} (h : SameThreads p q) (t : ThreadId) :
    Undisturbed t p q :=
  ⟨by rw [h.threads], by rw [Process.entriesOf, h.history, Process.entriesOf]⟩

theorem SameThreads.within {p q : Process} (h : SameThreads p q) : Within p q :=
  ⟨h.running, fun t _ _ => h.undisturbed t⟩

/-- A computation that disturbs no waiting thread. -/
def Confined (m : M α) : Prop :=
  ∀ p, Within p (final m p)

/-- A computation that disturbs no running thread at all, the current one included. -/
def Apart (m : M α) : Prop :=
  ∀ p, (final m p).running = p.running ∧ ∀ t ∈ p.running, Undisturbed t p (final m p)

namespace Confined

theorem pure (a : α) : Confined (Pure.pure a : M α) := fun _ => .rfl

theorem bind {m : M α} {f : α → M β} (hm : Confined m) (hf : ∀ a, Confined (f a)) :
    Confined (m >>= f) := fun p => (hm p).trans (hf _ _)

theorem look : Confined (get : M Process) := fun _ => .rfl

theorem note (h : Happening) : Confined (note h) := fun p =>
  ⟨rfl, fun _ _ hne => ⟨rfl, entriesOf_note_of_ne p h hne⟩⟩

theorem setHere {f : Process → Thread} : Confined (modify fun p => p.setHere (f p)) := fun _ =>
  ⟨rfl, fun _ _ hne => ⟨Registry.get_set_of_ne _ hne _, rfl⟩⟩

theorem shared {f : Process → Process} (hf : ∀ p, SameThreads p (f p)) : Confined (modify f) :=
  fun p => (hf p).within

theorem catchUnwind {body : M α} (h : Confined body) :
    Confined (catchUnwind body) := by
  refine .bind h fun _ => ?_
  refine .bind (.shared fun p => (catchPanic_alike p).toSameThreads) fun _ => ?_
  exact .pure _

theorem withScript (script : Script) {body : M α} (h : Confined body) :
    Confined (withScript script body) := fun p =>
  (alike_scripts p _).within.trans ((h _).trans (alike_scripts _ _).within)

end Confined

theorem Apart.confined {m : M α} (h : Apart m) : Confined m := fun p =>
  ⟨(h p).1, fun t ht _ => (h p).2 t ht⟩

/-- What runs on a thread that is not running disturbs none that is. -/
theorem onThread_apart {t : ThreadId} {body : M α} {p : Process} (ht : t ∉ p.running)
    (h : Within { p with running := t :: p.running }
      (final body { p with running := t :: p.running })) :
    (final (onThread t body) p).running = p.running ∧
      ∀ u ∈ p.running, Undisturbed u p (final (onThread t body) p) := by
  refine ⟨rfl, fun u hu => ?_⟩
  have hne : u ≠ t := fun heq => ht (heq ▸ hu)
  have waits := h.waiting u (List.mem_cons_of_mem _ hu) hne
  exact ⟨waits.thread, waits.entries⟩

/-- A thread only takes a turn while it is in the middle of nothing. -/
theorem interject_apart {thread : ThreadId} {body : M Unit}
    (hb : ∀ p, p.current = thread → Within p (final body p)) : Apart (interject thread body) := by
  intro p
  by_cases busy : p.running.contains thread
  · simp only [Client.interject, final_bind, final_get, result_get, busy, ↓reduceIte]
    exact ⟨rfl, fun _ _ => .rfl⟩
  · simp only [Client.interject, final_bind, final_get, result_get, busy]
    exact onThread_apart (by simpa using busy) (hb _ rfl)

/-- The number of a new thread is greater than any that is or was in use. -/
theorem lt_freshThread (p : Process) {t : ThreadId}
    (h : t ∈ p.threads.entries.map (·.1) ++ p.running ++ p.history.map (·.thread)) :
    t < p.freshThread := by
  have bound : ∀ (ids : List Nat) (start : Nat), start ≤ ids.foldl max start ∧
      ∀ id ∈ ids, id ≤ ids.foldl max start := by
    intro ids
    induction ids with
    | nil => simp
    | cons id rest ih =>
      intro start
      obtain ⟨hs, hr⟩ := ih (max start id)
      refine ⟨by simp only [List.foldl_cons]; omega, fun i hi => ?_⟩
      rcases List.mem_cons.1 hi with rfl | hi
      · simp only [List.foldl_cons]; omega
      · exact hr i hi
  exact Nat.lt_succ_of_le ((bound _ 0).2 _ h)

theorem fresh_notMem_running (p : Process) : p.freshThread ∉ p.running := fun h =>
  Nat.lt_irrefl _ (lt_freshThread p (List.mem_append_left _ (List.mem_append_right _ h)))

theorem ne_fresh {p : Process} {t : ThreadId} (h : t ∈ p.running) : t ≠ p.freshThread :=
  fun same => fresh_notMem_running p (same ▸ h)

theorem get_fresh (p : Process) : p.threads.get p.freshThread = {} := by
  have absent : p.threads.entries.lookup p.freshThread = none := by
    rw [List.lookup_eq_none_iff]
    intro e he
    have hlt := lt_freshThread p
      (List.mem_append_left _ (List.mem_append_left _ (List.mem_map_of_mem he)))
    have hne : p.freshThread ≠ e.1 := Nat.ne_of_gt hlt
    simpa using hne
  rw [Registry.get, absent]
  rfl

/-! ### Native calls, threads and turns -/

namespace Confined

theorem closed : Closed fun _ m => Confined m where
  unnoticed _ h p := (h p).toSameThreads.within
  bind := bind
  note := note
  setHere _ := setHere

/-- The new thread's state is set up and given up while no other thread looks. -/
theorem spawned (contexts : List (Option (Context × Nat))) {body : M (Option String)}
    (hb : Confined (runToEnd native body)) : Apart (spawn native contexts body) := by
  intro p
  obtain ⟨same, apart⟩ := onThread_apart (p := p.withThread contexts) (fresh_notMem_running p)
    (hb _)
  refine ⟨same, fun t ht => ?_⟩
  have hne := ne_fresh ht
  obtain ⟨hthread, hentries⟩ := apart t ht
  exact ⟨(Registry.get_erase_of_ne _ hne).trans
    (hthread.trans (Registry.get_set_of_ne _ hne _)), hentries⟩

/-- A thread that ends in its turn is forgotten while no other thread looks. -/
theorem turned {turn : Turn} (ht : Confined (turn.taken native)) : Apart (runTurn native turn) := by
  rw [runTurn_eq]
  refine interject_apart fun p hp => ?_
  have took := ht p
  refine took.trans ⟨rfl, fun t _ hne => ⟨?_, rfl⟩⟩
  have other : t ≠ turn.thread := fun same => hne (same.trans (hp.symm.trans took.current.symm))
  simp only [final_bind, final_modify, Process.forgetting]
  split
  · exact Registry.get_erase_of_ne _ other
  · rfl

variable (h : ∀ call, Confined (native call))

include h

theorem compositional : Compositional native fun _ m => Confined m where
  toClosed := closed
  call := h
  spawn contexts _ hb := (spawned contexts hb).confined
  turns ht := closed.bind (.shared fun p => (takeTurns_alike p).toSameThreads) fun batch =>
    closed.forM (fun turn => (turned (ht turn)).confined) batch

theorem law : StepLaw native fun _ m => Confined m := (compositional h).law

theorem spawn_apart (contexts : List (Option (Context × Nat))) {body : M (Option String)}
    (hb : Confined body) : Apart (spawn native contexts body) :=
  spawned contexts ((compositional h).runToEnd hb)

theorem runTurn (turn : Turn) : Apart (runTurn native turn) :=
  turned ((compositional h).taken turn)

theorem endThread (thread : ThreadId) (panic : Option String) :
    ∀ p, p.current = thread → Within p (final (endThread native thread panic) p) := by
  intro p hp
  have before := (compositional h).ended true panic p
  refine before.trans ⟨rfl, fun t _ hne => ⟨Registry.get_erase_of_ne _ ?_, rfl⟩⟩
  exact fun heq => hne (heq.trans (hp.symm.trans before.current.symm))

end Confined

theorem backend_confined (depth : Nat) (call : Call) : Confined (backend depth call) :=
  Confined.closed.backend (fun _ => Confined.compositional) depth call

end Windowing
