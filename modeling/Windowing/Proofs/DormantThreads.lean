import Windowing.Proofs.ThreadIsolation

/-!
Dormant threads. A thread that is in the middle of nothing is woken by its own turns only: programs and
native calls of other threads, and the turns of other threads, leave it as it is. So in every session a
scheduled thread goes through its own turns, one after the other, and nothing happens to it in between.
-/

namespace Windowing

open Native Client

variable {α β : Type} {native : Backend} {p q r : Process} {t : ThreadId} {turn : Turn}
  {turns turns' : List Turn}

/-! ### What every computation keeps -/

/-- The thread is there, or something happened on it. -/
def Process.Knows (p : Process) (t : ThreadId) : Prop :=
  t ∈ p.threads.entries.map (·.1) ∨ t ∈ p.history.map (·.thread)

theorem Process.Knows.ne_fresh (h : p.Knows t) : t ≠ p.freshThread := by
  refine Nat.ne_of_lt (lt_freshThread p ?_)
  simp only [List.mem_append]
  rcases h with there | before
  · exact .inl (.inl there)
  · exact .inr before

theorem Process.Knows.note (h : p.Knows t) (what : Happening) : (p.note what).Knows t :=
  h.imp id (List.mem_cons_of_mem _)

theorem mem_setEntry {u : ThreadId} (thread : Thread) {entries : List (ThreadId × Thread)}
    (h : t ∈ entries.map (·.1)) : t ∈ (Registry.setEntry u thread entries).map (·.1) := by
  induction entries with
  | nil => cases h
  | cons e rest ih =>
    rw [Registry.setEntry]
    rcases List.mem_cons.1 h with rfl | later <;> split
    · simp_all
    · simp
    · simp_all
    · exact List.mem_cons_of_mem _ (ih later)

theorem Process.Knows.set (h : p.Knows t) (u : ThreadId) (thread : Thread) :
    { p with threads := p.threads.set u thread }.Knows t :=
  h.imp (mem_setEntry thread) id

theorem Process.Knows.erase (h : p.Knows t) {u : ThreadId} (other : t ≠ u) :
    { p with threads := p.threads.erase u }.Knows t := by
  refine h.imp (fun there => ?_) id
  obtain ⟨e, he, rfl⟩ := List.mem_map.1 there
  exact List.mem_map_of_mem (List.mem_filter.2 ⟨he, by simpa using other⟩)

/-- The current thread is still the same, no thread is forgotten altogether, and nothing new is
scheduled. -/
structure Advances (p q : Process) : Prop where
  running : q.running = p.running
  known : ∀ t, p.Knows t → q.Knows t
  schedule : q.schedule <:+ p.schedule

namespace Advances

theorem rfl : Advances p p := ⟨Eq.refl _, fun _ => id, List.suffix_refl _⟩

theorem trans (h : Advances p q) (h' : Advances q r) : Advances p r :=
  ⟨h'.running.trans h.running, fun t => h'.known t ∘ h.known t, h'.schedule.trans h.schedule⟩

theorem closed : Closed fun _ m => ∀ p, Advances p (final m p) where
  unnoticed _ h p := by
    obtain ⟨⟨running, threads, history⟩, schedule⟩ := h p
    refine ⟨running, fun t => ?_, schedule ▸ List.suffix_refl _⟩
    rw [Process.Knows, Process.Knows, threads, history]
    exact id
  bind hm hf p := (hm p).trans (hf _ _)
  note what p := ⟨Eq.refl _, fun _ known => known.note what, List.suffix_refl _⟩
  setHere f p := ⟨Eq.refl _, fun _ known => known.set _ _, List.suffix_refl _⟩

theorem spawned (contexts : List (Option (Context × Nat))) {body : M (Option String)}
    (h : ∀ p, Advances p (final (runToEnd native body) p)) (p : Process) :
    Advances p (final (spawn native contexts body) p) := by
  have inside := closed.catchUnwind h { p.withThread contexts with
    running := p.freshThread :: p.running }
  rw [final_spawn]
  refine ⟨Eq.refl _, fun t known => ?_, inside.schedule⟩
  exact (inside.known t (known.set _ _)).erase known.ne_fresh

/-- A thread that ends says so. -/
theorem current_mem_history (gone : result (turn.taken native) p = true) :
    (final (turn.taken native) p).current ∈
      (final (turn.taken native) p).history.map (·.thread) := by
  have said (panicked : Bool) (panic : Option String) (q : Process) :
      (final (catchUnwind (ended native panicked panic)) q).current ∈
        (final (catchUnwind (ended native panicked panic)) q).history.map (·.thread) :=
    List.mem_cons_self
  cases turn with
  | finish thread => exact said true none p
  | step thread step =>
    simp only [Turn.taken, result_bind, final_bind] at gone ⊢
    generalize result (runSteps native [step]) p = panic at gone ⊢
    cases panic with
    | none => cases gone
    | some message => exact said true (some message) _

/-- A thread that has ended is known by what it said. -/
theorem turned (h : ∀ p, Advances p (final (turn.taken native) p)) (p : Process) :
    Advances p (final (runTurn native turn) p) := by
  by_cases busy : turn.thread ∈ p.running
  · rw [final_runTurn_busy busy]
    exact .rfl
  have took := h (p.entering turn.thread)
  rw [final_runTurn_free busy]
  refine ⟨Eq.refl _, fun t before => ?_, took.schedule⟩
  have known := took.known t before
  cases gone : result (turn.taken native) (p.entering turn.thread) with
  | false => exact known
  | true =>
    by_cases own : t = turn.thread
    · have current : (final (turn.taken native) (p.entering turn.thread)).current = t :=
        (Process.current_eq took.running).trans own.symm
      have said := current_mem_history gone
      rw [current] at said
      exact .inr said
    · exact known.erase own

theorem takeTurns (p : Process) : Advances p (final takeTurns p) := by
  rw [final_takeTurns]
  exact ⟨Eq.refl _, fun _ => id, List.tail_suffix _⟩

theorem compositional (h : ∀ call p, Advances p (final (native call) p)) :
    Compositional native fun _ m => ∀ p, Advances p (final m p) where
  toClosed := closed
  call := h
  spawn contexts _ hb := spawned contexts hb
  turns ht := closed.bind takeTurns fun batch => closed.forM (fun turn => turned (ht turn)) batch

end Advances

theorem backend_advances (depth : Nat) (call : Call) (p : Process) :
    Advances p (final (backend depth call) p) :=
  Advances.closed.backend (fun _ => Advances.compositional) depth call p

/-! ### Courses -/

/-- What happens to a thread between two processes: now and then it takes a turn, which begins while it
is in the middle of nothing, and otherwise it is undisturbed. -/
inductive Course (t : ThreadId) : List Turn → Process → Process → Prop where
  | rest {p q : Process} (others : Undisturbed t p q) : Course t [] p q
  | turn {p q r : Process} {turns : List Turn} (turn : Turn) (depth : Nat)
      (others : Undisturbed t p q) (waits : t ∉ q.running) (own : turn.thread = t)
      (later : Course t turns (final (runTurn (backend depth) turn) q) r) :
      Course t (turn :: turns) p r

namespace Course

theorem before (others : Undisturbed t p q) (course : Course t turns q r) :
    Course t turns p r := by
  cases course with
  | rest others' => exact .rest (others.trans others')
  | turn turn depth others' waits own later =>
    exact .turn turn depth (others.trans others') waits own later

theorem trans (course : Course t turns p q) (course' : Course t turns' q r) :
    Course t (turns ++ turns') p r := by
  induction course with
  | rest others => exact course'.before others
  | turn turn depth others waits own _ ih => exact .turn turn depth others waits own (ih course')

theorem after (course : Course t turns p q) (others : Undisturbed t q r) : Course t turns p r := by
  have whole := course.trans (.rest others)
  rwa [List.append_nil] at whole

theorem own (course : Course t turns p q) : ∀ turn ∈ turns, turn.thread = t := by
  induction course with
  | rest others => nofun
  | turn turn depth others waits own later ih =>
    intro turn' there
    rcases List.mem_cons.1 there with rfl | later
    · exact own
    · exact ih turn' later

/-- A thread that takes no turn is undisturbed. -/
theorem undisturbed (course : Course t turns p q) (none : ∀ turn ∈ turns, turn.thread ≠ t) :
    Undisturbed t p q := by
  cases course with
  | rest others => exact others
  | turn turn depth others waits own later => exact absurd own (none turn List.mem_cons_self)

end Course

/-- The thread is in the middle of nothing, and no new thread will have its number. -/
structure Dormant (t : ThreadId) (p : Process) : Prop where
  waits : t ∉ p.running
  other : t ≠ p.current
  known : p.Knows t

theorem Dormant.advance (h : Dormant t p) (advances : Advances p q) : Dormant t q where
  waits := advances.running ▸ h.waits
  other := by
    rw [Process.current_eq advances.running]
    exact h.other
  known := advances.known t h.known

/-- A dormant thread only takes turns that are given and turns that are scheduled. -/
def Wakes (t : ThreadId) (given : List Turn) (p q : Process) : Prop :=
  ∃ turns, Course t turns p q ∧ ∀ turn ∈ turns, turn ∈ given ∨ turn ∈ p.schedule.flatten

namespace Wakes

variable {given given' : List Turn}

theorem rest (others : Undisturbed t p q) : Wakes t given p q := ⟨[], .rest others, nofun⟩

theorem trans (h : Wakes t given p q) (h' : Wakes t given' q r)
    (schedule : q.schedule <:+ p.schedule) :
    Wakes t (given ++ given') p r := by
  obtain ⟨turns, course, scheduled⟩ := h
  obtain ⟨turns', course', scheduled'⟩ := h'
  refine ⟨turns ++ turns', course.trans course', fun turn there => ?_⟩
  rcases List.mem_append.1 there with there | there
  · exact (scheduled turn there).imp (List.mem_append_left _) id
  · refine (scheduled' turn there).imp (List.mem_append_right _) fun later => ?_
    obtain ⟨batch, hbatch, hturn⟩ := List.mem_flatten.1 later
    exact List.mem_flatten.2 ⟨batch, schedule.subset hbatch, hturn⟩

end Wakes

/-- A computation by which a dormant thread is only woken for turns of its own. -/
structure LeavesDormant (t : ThreadId) (m : M α) : Prop where
  advances : ∀ p, Advances p (final m p)
  wakes : ∀ p, Dormant t p → Wakes t [] p (final m p)

namespace LeavesDormant

theorem closed (t : ThreadId) : Closed fun _ m => LeavesDormant t m where
  unnoticed m h := ⟨Advances.closed.unnoticed m h, fun p _ =>
    .rest ((h p).toSameThreads.undisturbed t)⟩
  bind hm hf := by
    refine ⟨Advances.closed.bind hm.advances fun a => (hf a).advances, fun p dormant => ?_⟩
    have first := hm.advances p
    exact (hm.wakes p dormant).trans ((hf _).wakes _ (dormant.advance first)) first.schedule
  note what := ⟨Advances.closed.note what, fun p dormant =>
    .rest ⟨rfl, entriesOf_note_of_ne p what dormant.other⟩⟩
  setHere f := ⟨Advances.closed.setHere f, fun p dormant =>
    .rest ⟨Registry.get_set_of_ne _ dormant.other _, rfl⟩⟩

/-- The number of a new thread is not that of a dormant one. -/
theorem spawned (contexts : List (Option (Context × Nat))) {body : M (Option String)}
    (h : LeavesDormant t (runToEnd native body)) : LeavesDormant t (spawn native contexts body) := by
  refine ⟨Advances.spawned contexts h.advances, fun p dormant => ?_⟩
  have other := dormant.known.ne_fresh
  let q : Process := { p.withThread contexts with running := p.freshThread :: p.running }
  have inside : Dormant t q := ⟨by simp [q, other, dormant.waits], other, dormant.known.set _ _⟩
  obtain ⟨turns, course, scheduled⟩ := ((closed t).catchUnwind h).wakes q inside
  have set : Undisturbed t p q := ⟨Registry.get_set_of_ne _ other _, rfl⟩
  rw [final_spawn]
  exact ⟨turns, (course.before set).after ⟨Registry.get_erase_of_ne _ other, rfl⟩, scheduled⟩

/-- A turn of another thread. -/
theorem turned (h : LeavesDormant t (turn.taken native)) (other : turn.thread ≠ t)
    (dormant : Dormant t p) : Wakes t [] p (final (runTurn native turn) p) := by
  by_cases busy : turn.thread ∈ p.running
  · rw [final_runTurn_busy busy]
    exact .rest .rfl
  have inside : Dormant t (p.entering turn.thread) :=
    ⟨by simp [Process.entering, Ne.symm other, dormant.waits], Ne.symm other, dormant.known⟩
  obtain ⟨turns, course, scheduled⟩ := h.wakes _ inside
  have entered : Undisturbed t p (p.entering turn.thread) := ⟨rfl, rfl⟩
  rw [final_runTurn_free busy]
  refine ⟨turns, (course.before entered).after ⟨?_, rfl⟩, scheduled⟩
  simp only [Process.forgetting]
  split
  · exact Registry.get_erase_of_ne _ (Ne.symm other)
  · rfl

/-- Among the turns that are taken one after the other, a dormant thread has its own. -/
theorem batch (depth : Nat)
    (h : ∀ turn : Turn, LeavesDormant t (turn.taken (backend depth)))
    (dormant : Dormant t p) :
    Wakes t turns p (final (turns.forM fun turn => runTurn (backend depth) turn) p) := by
  induction turns generalizing p with
  | nil => exact .rest .rfl
  | cons turn turns ih =>
    have advances := Advances.turned (h turn).advances p
    have later := ih (dormant.advance advances)
    have first : Wakes t [turn] p (final (runTurn (backend depth) turn) p) := by
      by_cases own : turn.thread = t
      · exact ⟨[turn], .turn turn depth .rfl dormant.waits own (.rest .rfl), fun _ there =>
          .inl there⟩
      · obtain ⟨turns, course, scheduled⟩ := turned (h turn) own dormant
        exact ⟨turns, course, fun turn there => .inr ((scheduled turn there).resolve_left nofun)⟩
    exact first.trans later advances.schedule

theorem compositional (depth : Nat) (h : ∀ call, LeavesDormant t (backend depth call)) :
    Compositional (backend depth) fun _ m => LeavesDormant t m where
  toClosed := closed t
  call := h
  spawn contexts _ hb := spawned contexts hb
  turns ht := by
    have advances := (Advances.compositional fun call => (h call).advances).turns
      fun turn => (ht turn).advances
    refine ⟨advances, fun p dormant => ?_⟩
    have taken := Advances.takeTurns p
    have woken : Wakes t (result takeTurns p) (final takeTurns p)
        (final (takeAllTurns (backend depth)) p) := batch depth ht (dormant.advance taken)
    obtain ⟨turns, course, scheduled⟩ := woken
    refine ⟨turns, course.before ((takeTurns_alike p).toSameThreads.undisturbed t),
      fun turn there => .inr ?_⟩
    rcases scheduled turn there with now | later
    · rw [result_takeTurns] at now
      cases schedule : p.schedule with
      | nil => simp [schedule] at now
      | cons batch later => exact List.mem_append_left _ (by simpa [schedule] using now)
    · obtain ⟨batch, hbatch, hturn⟩ := List.mem_flatten.1 later
      exact List.mem_flatten.2 ⟨batch, taken.schedule.subset hbatch, hturn⟩

end LeavesDormant

theorem backend_leavesDormant (t : ThreadId) (depth : Nat) :
    Compositional (backend depth) fun _ m => LeavesDormant t m :=
  LeavesDormant.compositional depth
    ((LeavesDormant.closed t).backend LeavesDormant.compositional depth)

/-! ### Sessions -/

theorem Session.body_leavesDormant (s : Session) (t : ThreadId) : LeavesDormant t s.body := by
  have law := backend_leavesDormant t s.depth
  refine law.bind (law.law.runSteps s.steps) fun panic => ?_
  exact law.ended true panic

theorem Session.start_dormant (s : Session) (scheduled : turn ∈ s.schedule.flatten)
    (other : turn.thread ≠ 0) : Dormant turn.thread s.start where
  waits := by simpa [Session.start] using other
  other := other
  known := by
    refine .inl (List.mem_cons_of_mem _ ?_)
    rw [List.map_map]
    exact List.mem_map_of_mem scheduled

/-- In every session each scheduled thread takes turns that are scheduled for it, and nothing else
happens to it. -/
theorem Session.course (s : Session) (scheduled : turn ∈ s.schedule.flatten)
    (other : turn.thread ≠ 0) : ∃ turns, Course turn.thread turns s.start (final s.body s.start) ∧
      ∀ own ∈ turns, own ∈ s.schedule.flatten ∧ own.thread = turn.thread := by
  obtain ⟨turns, course, given⟩ :=
    (s.body_leavesDormant turn.thread).wakes _ (s.start_dormant scheduled other)
  exact ⟨turns, course, fun own there => ⟨(given own there).resolve_left nofun, course.own own there⟩⟩

/-! ### Interleavings -/

/-- No turn is scheduled for the thread. -/
def Process.Unscheduled (p : Process) (t : ThreadId) : Prop :=
  ∀ turn ∈ p.schedule.flatten, turn.thread ≠ t

theorem Process.Unscheduled.advance (h : p.Unscheduled t) (advances : Advances p q) :
    q.Unscheduled t := by
  intro turn there
  obtain ⟨batch, hbatch, hturn⟩ := List.mem_flatten.1 there
  exact h turn (List.mem_flatten.2 ⟨batch, advances.schedule.subset hbatch, hturn⟩)

/-- A dormant thread for which no turn is scheduled sleeps through whatever leaves it dormant. -/
theorem Wakes.undisturbed (h : Wakes t [] p q) (unscheduled : p.Unscheduled t) :
    Undisturbed t p q := by
  obtain ⟨turns, course, given⟩ := h
  exact course.undisturbed fun turn there =>
    unscheduled turn ((given turn there).resolve_left nofun)

/-- Neither programs and native calls of other threads nor their turns disturb a dormant thread. -/
structure Asleep (native : Backend) (t : ThreadId) (p : Process) : Prop where
  turns : ∀ turn, turn.thread ≠ t → Undisturbed t p (final (runTurn native turn) p)
  calls : ∀ call, Undisturbed t p (final (native call) p)
  programs : ∀ steps, Undisturbed t p (final (runSteps native steps) p)

theorem Dormant.asleep (dormant : Dormant t p) (unscheduled : p.Unscheduled t) (depth : Nat) :
    Asleep (backend depth) t p := by
  have law := backend_leavesDormant t depth
  constructor
  · intro turn other
    exact (LeavesDormant.turned (law.taken turn) other dormant).undisturbed unscheduled
  · intro call
    exact ((law.call call).wakes p dormant).undisturbed unscheduled
  · intro steps
    exact ((law.law.runSteps steps).wakes p dormant).undisturbed unscheduled

theorem Life.before (others : Undisturbed t p q) (life : Life t turns q r) : Life t turns p r := by
  cases life with
  | rest others' => exact .rest (others.trans others')
  | turn turn depth others' idle own later =>
    exact .turn turn depth (others.trans others') idle own later

/-- Whatever turns of other threads come in between, a thread lives by its own turns. -/
theorem Dormant.life (depth : Nat) (turns : List Turn) (order : p.InOrder) (dormant : Dormant t p)
    (unscheduled : p.Unscheduled t) :
    Life t (turns.filter fun turn => turn.thread = t) p
      (final (turns.forM fun turn => runTurn (backend depth) turn) p) := by
  induction turns generalizing p with
  | nil => exact .rest .rfl
  | cons turn turns ih =>
    have advances := Advances.turned ((backend_leavesDormant t depth).taken turn).advances p
    have later := ih (order.runTurn (backend_libraryKeepsBooks depth) turn) (dormant.advance advances)
      (unscheduled.advance advances)
    by_cases own : turn.thread = t
    · rw [List.filter_cons_of_pos (by simpa using own)]
      exact .turn turn depth .rfl ⟨dormant.waits, order⟩ own later
    · rw [List.filter_cons_of_neg (by simpa using own)]
      exact later.before ((dormant.asleep unscheduled depth).turns turn own)

/-- Two threads that are alike and have the same turns behave alike, whatever turns of other threads
come before, between and after them, until they are told apart. -/
theorem interleavings_agree {p' : Process} {t' : ThreadId} (depth depth' : Nat)
    (order : p.InOrder) (order' : p'.InOrder) (dormant : Dormant t p) (dormant' : Dormant t' p')
    (unscheduled : p.Unscheduled t) (unscheduled' : p'.Unscheduled t')
    (like : List.Forall₂ Turn.Like (turns.filter fun turn => turn.thread = t)
      (turns'.filter fun turn => turn.thread = t'))
    (akin : (p.threads.get t).Akin (p'.threads.get t')) :
    let q := final (turns.forM fun turn => runTurn (backend depth) turn) p
    let q' := final (turns'.forM fun turn => runTurn (backend depth') turn) p'
    ∃ hs hs', Gains t p q hs ∧ Gains t' p' q' hs' ∧
      (Parts hs hs' ∨ Same hs hs' ∧ (q.threads.get t).Akin (q'.threads.get t')) :=
  (dormant.life depth turns order unscheduled).agree
    (dormant'.life depth' turns' order' unscheduled') like akin

/-- When a session makes its first call, the threads whose turns come then are ready for them. -/
theorem Session.first_turns (s : Session) (turns : List Turn) (once : s.schedule = [turns]) :
    (final takeTurns s.start).InOrder ∧ ∀ turn ∈ turns, turn.thread ≠ 0 →
      Dormant turn.thread (final takeTurns s.start) ∧
      (final takeTurns s.start).Unscheduled turn.thread := by
  obtain ⟨⟨c, o, rest⟩, -⟩ := s.start_rested s
  refine ⟨⟨?_, o, rest.standing.same (takeTurns_alike _).sameBooks⟩, fun turn there other => ⟨?_, ?_⟩⟩
  · exact (takeTurns_alike s.start).allCalm rest.calm
  · exact (s.start_dormant (by simpa [once] using there) other).advance (.takeTurns _)
  · intro turn' there'
    rw [final_takeTurns] at there'
    simp [Session.start, once] at there'

end Windowing
