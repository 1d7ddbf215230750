import Windowing.Proofs.AgreeingThreadEnds

/-!
Isolation of threads. A thread lives by turns: it takes one while it is in the middle of
nothing, and between its turns other threads do what they like. What a thread does in its life, and
how it is afterwards, depends on its turns, on what the native library replies to it, and on what
threads share.
-/

namespace Windowing

open Native Client

variable {α : Type} {native native' : Backend} {p p' q q' r : Process} {t t' : ThreadId}
  {turns turns' : List Turn} {hs hs' : List Happening}

/-! ### Turns -/

namespace Client

/-- Two threads each take the same turn. -/
inductive Turn.Like : Turn → Turn → Prop where
  | step (thread thread' : ThreadId) {step step' : Step} (h : Step.Like step step') :
      Turn.Like (.step thread step) (.step thread' step')
  | finish (thread thread' : ThreadId) : Turn.Like (.finish thread) (.finish thread')

end Client

/-- The threads that are in the middle of nothing expect nothing, and the books are in order. -/
def Process.InOrder (p : Process) : Prop :=
  AllCalm p ∧ ∃ o, Standing p o

/-- The thread is in the middle of nothing and may take a turn. -/
structure Idle (t : ThreadId) (p : Process) : Prop where
  waits : t ∉ p.running
  order : p.InOrder

theorem Idle.entering (h : Idle t p) : ∃ o, Rest t o (p.entering t) := by
  obtain ⟨calm, o, standing⟩ := h.order
  exact ⟨o, standing.enter calm h.waits⟩

theorem Process.InOrder.runTurn (hm : LibraryKeepsBooks native) (turn : Turn) (h : p.InOrder) :
    (final (runTurn native turn) p).InOrder := by
  obtain ⟨calm, o, standing⟩ := h
  exact ⟨allCalm_runTurn hm.callsBack hm.confined turn calm, o,
    runTurn_standing hm turn calm standing⟩

/-- Two threads take the same turn alike. -/
theorem taken_agrees (depth depth' : Nat) {turn turn' : Turn} (like : turn.Like turn')
    (rested : Rested p p') :
    Agrees (fun gone gone' q q' => gone = gone' ∧ q.here.Akin q'.here)
      (turn.taken (backend depth)) (turn'.taken (backend depth')) p p' := by
  have h := backend_reliableLibrary depth
  have h' := backend_reliableLibrary depth'
  have left : ∀ q q' : Process, q.here.Akin q'.here →
      Agrees (fun gone gone' q q' => gone = gone' ∧ q.here.Akin q'.here)
        (do catchPanic; return true) (do catchPanic; return true) q q' := fun q q' akin =>
    .silent (.of_sameThreads (catchPanic_alike q).toSameThreads)
      (.of_sameThreads (catchPanic_alike q').toSameThreads) ⟨rfl, akin⟩
  have ending : ∀ panic p p', Rested p p' →
      Agrees (fun gone gone' q q' => gone = gone' ∧ q.here.Akin q'.here)
        (do catchUnwind (ended (backend depth) true panic); return true)
        (do catchUnwind (ended (backend depth') true panic); return true) p p' :=
    fun panic p p' rested =>
    (ended_agrees h h' (backend_tied depth depth') rested true true panic).bind
      (fun _ => (GrowsConfined.closed.catchUnwind (.pure ())).bind fun _ => .pure _)
      (fun _ => (GrowsConfined.closed.catchUnwind (.pure ())).bind fun _ => .pure _) fun ended =>
        left _ _ ended.akin
  cases like with
  | finish thread thread' => exact ending none p p' rested
  | @step thread thread' step step' like =>
    have keepsBooks := (OperationKeepsBooks.law h.libraryKeepsBooks).runSteps [step]
    have keepsBooks' := (OperationKeepsBooks.law h'.libraryKeepsBooks).runSteps [step']
    refine ((backend_isolates depth depth').2 [step] [step']
      (.cons like .nil) p p' rested.paired).bind
      h.growsConfined.endPanicked h'.growsConfined.endPanicked fun ⟨same, paired⟩ => ?_
    rw [← same]
    cases result (runSteps (backend depth) [step]) p with
    | none => exact .silent .refl .refl ⟨rfl, paired.akin⟩
    | some message =>
      exact ending (some message) _ _ (rested.keepsBooks keepsBooks keepsBooks' paired.akin)

/-! ### Lives -/

/-- What a thread has added to its history. -/
def Gains (t : ThreadId) (p q : Process) (hs : List Happening) : Prop :=
  q.entriesOf t = hs.reverse ++ p.entriesOf t

theorem Gains.trans (h : Gains t p q hs) (h' : Gains t q r hs') : Gains t p r (hs ++ hs') := by
  rw [Gains, h', h, List.reverse_append, List.append_assoc]

theorem Undisturbed.gains (h : Undisturbed t p q) : Gains t p q [] := h.entries

/-- The life of a thread between two processes. Each of its turns begins while it is in the middle of
nothing; whatever happens before and after leaves it undisturbed. -/
inductive Life (t : ThreadId) : List Turn → Process → Process → Prop where
  | rest {p q : Process} (others : Undisturbed t p q) : Life t [] p q
  | turn {p q r : Process} {turns : List Turn} (turn : Turn) (depth : Nat)
      (others : Undisturbed t p q) (idle : Idle t q) (own : turn.thread = t)
      (later : Life t turns (final (runTurn (backend depth) turn) q) r) :
      Life t (turn :: turns) p r

/-- A turn adds to the thread's history what the thread does in it. -/
theorem Idle.taken {turn : Turn} (h : Idle turn.thread p)
    (passes : Passes (p.entering turn.thread)
    (final (turn.taken native) (p.entering turn.thread)) hs) :
    Gains turn.thread p (final (runTurn native turn) p) hs ∧
      (final (runTurn native turn) p).threads.get turn.thread =
        if result (turn.taken native) (p.entering turn.thread) then {}
        else (final (turn.taken native) (p.entering turn.thread)).here := by
  rw [final_runTurn_free h.waits]
  refine ⟨passes.entries, ?_⟩
  cases gone : result (turn.taken native) (p.entering turn.thread) with
  | true => exact Registry.get_erase_self _ _
  | false =>
    have current : (final (turn.taken native) (p.entering turn.thread)).current = turn.thread :=
      passes.current
    rw [Process.here, current]
    rfl

/-- Two threads that are alike take the same turn and are alike again, or they are told apart. -/
theorem runTurn_agrees (depth depth' : Nat) {turn turn' : Turn} (like : turn.Like turn')
    (idle : Idle turn.thread p) (idle' : Idle turn'.thread p')
    (akin : (p.threads.get turn.thread).Akin (p'.threads.get turn'.thread)) :
    ∃ hs hs', Gains turn.thread p (final (runTurn (backend depth) turn) p) hs ∧
      Gains turn'.thread p' (final (runTurn (backend depth') turn') p') hs' ∧
      (Parts hs hs' ∨ Same hs hs' ∧
        ((final (runTurn (backend depth) turn) p).threads.get turn.thread).Akin
          ((final (runTurn (backend depth') turn') p').threads.get turn'.thread)) := by
  obtain ⟨o, entered⟩ := idle.entering
  obtain ⟨o', entered'⟩ := idle'.entering
  have rested : Rested (p.entering turn.thread) (p'.entering turn'.thread) :=
    ⟨⟨_, o, entered⟩, ⟨_, o', entered'⟩, akin⟩
  obtain ⟨hs, hs', passes, passes', outcome⟩ := taken_agrees depth depth' like rested
  obtain ⟨gains, left⟩ := idle.taken passes
  obtain ⟨gains', left'⟩ := idle'.taken passes'
  refine ⟨hs, hs', gains, gains', outcome.imp id fun ⟨same, gone, ended⟩ => ⟨same, ?_⟩⟩
  rw [left, left', ← gone]
  split
  · exact .fresh
  · exact ended

theorem Life.gains (life : Life t turns p q) : ∃ hs, Gains t p q hs := by
  induction life with
  | rest others => exact ⟨[], others.gains⟩
  | turn turn depth others idle own _ ih =>
    subst own
    obtain ⟨hs, passes⟩ := ((backend_reliableLibrary depth).growsConfined.taken turn).passes
      (Process.entering _ turn.thread)
    obtain ⟨later, gains⟩ := ih
    exact ⟨_, (others.gains.trans (idle.taken passes).1).trans gains⟩

/-- Two threads that are alike and take the same turns lead alike lives until they are told apart. -/
theorem Life.agree (life : Life t turns p q) (life' : Life t' turns' p' q')
    (like : List.Forall₂ Turn.Like turns turns')
    (akin : (p.threads.get t).Akin (p'.threads.get t')) :
    ∃ hs hs', Gains t p q hs ∧ Gains t' p' q' hs' ∧
      (Parts hs hs' ∨ Same hs hs' ∧ (q.threads.get t).Akin (q'.threads.get t')) := by
  induction life generalizing turns' p' with
  | rest others =>
    cases like
    obtain ⟨others'⟩ := life'
    rw [others.thread, others'.thread]
    exact ⟨[], [], others.gains, others'.gains, .inr ⟨.refl _, akin⟩⟩
  | turn turn depth others idle own later ih =>
    obtain - | ⟨first, rest⟩ := like
    obtain - | ⟨turn', depth', others', idle', own', later'⟩ := life'
    subst own own'
    rw [← others.thread, ← others'.thread] at akin
    obtain ⟨hs, hs', gains, gains', parted | ⟨same, ended⟩⟩ :=
      runTurn_agrees depth depth' first idle idle' akin
    · obtain ⟨after, gained⟩ := later.gains
      obtain ⟨after', gained'⟩ := later'.gains
      exact ⟨_, _, (others.gains.trans gains).trans gained,
        (others'.gains.trans gains').trans gained',
        .inl (parted.append after after')⟩
    · obtain ⟨after, after', gained, gained', outcome⟩ := ih later' rest ended
      exact ⟨_, _, (others.gains.trans gains).trans gained,
        (others'.gains.trans gains').trans gained',
        outcome.imp (.prepend same) fun alike => ⟨same.append alike.1, alike.2⟩⟩

/-! ### Other threads -/

/-- Whatever other threads do leaves a thread that waits for them as it is, and its history too. -/
structure Secluded (native : Backend) (t : ThreadId) (p : Process) : Prop where
  turns : ∀ turn, Undisturbed t p (final (runTurn native turn) p)
  calls : t ≠ p.current → ∀ call, Undisturbed t p (final (native call) p)
  programs : t ≠ p.current → ∀ steps, Undisturbed t p (final (runSteps native steps) p)

theorem backend_secluded (depth : Nat) (ht : t ∈ p.running) : Secluded (backend depth) t p where
  turns turn := (Confined.runTurn (backend_confined depth) turn p).2 t ht
  calls hne call := (backend_confined depth call p).waiting t ht hne
  programs hne steps := ((Confined.law (backend_confined depth)).runSteps steps p).waiting t ht hne

/-- A thread that runs another to its end is as it was, but for its contexts. -/
structure RunsAside (m : M Outcome) (p : Process) : Prop where
  passes : Passes p (final m p) []
  locals : (final m p).locals = p.locals

theorem runThread_runsAside (depth : Nat) (steps : List Step) (hr : p.current ∈ p.running) :
    RunsAside (runThread (backend depth) (runSteps (backend depth) steps)) p := by
  cases free : p.here.spawned with
  | true =>
    have refused : (runThread (backend depth) (runSteps (backend depth) steps)).run p =
        (.refused .nestedThread, p) := by
      change (if p.here.spawned = true then _ else _ : M Outcome).run p = _
      rw [if_pos free]
      rfl
    constructor <;> rw [final, refused]
    exact .refl
  | false =>
    have h := backend_reliableLibrary depth
    obtain ⟨passes, -, kept, here⟩ :=
      runThread_aside h ((Confined.law h.libraryKeepsBooks.confined).runSteps steps) hr free
    refine ⟨passes, ?_⟩
    rw [Process.locals, here]
    rfl

/-! ### Isolation -/

/-- Threads are isolated. In two sessions whose main threads carry out the same operations, whatever is
scheduled and whatever runs on the threads that they start, the same happens on the main threads, up
to a first difference that is not their own: it comes from what the native library does on the thread
or from what threads share. This holds of programs of any thread wherever they run, inside handlers
too, and of native calls while a handler waits: they have the same results, and they leave the pending
error, the handler, the dispatching flag, the stored panic and the deferred windows the same. It holds
of a thread that lives by turns, whatever happens between them. Meanwhile other threads do nothing to
a thread that waits for them and have no event handled on it; a thread that is run to its end inside
an operation leaves the locals of the one that runs it as they are. -/
theorem thread_isolation (s s' : Session) (like : List.Forall₂ Step.Like s.steps s'.steps) :
    (Parts (s.happenings 0) (s'.happenings 0) ∨ Same (s.happenings 0) (s'.happenings 0)) ∧
    Paired s.start s'.start ∧
    (∀ depth depth' steps steps', List.Forall₂ Step.Like steps steps' →
      Isolates (runSteps (backend depth) steps) (runSteps (backend depth') steps')) ∧
    (∀ depth depth', Receives (backend depth) (backend depth')) ∧
    (∀ t t' turns turns' p p' q q', Life t turns p q → Life t' turns' p' q' →
      List.Forall₂ Turn.Like turns turns' → (p.threads.get t).Akin (p'.threads.get t') →
      ∃ hs hs', Gains t p q hs ∧ Gains t' p' q' hs' ∧
        (Parts hs hs' ∨ Same hs hs' ∧ (q.threads.get t).Akin (q'.threads.get t'))) ∧
    (∀ depth turn p, p.InOrder → (final (runTurn (backend depth) turn) p).InOrder) ∧
    (∀ depth t p, t ∈ p.running → Secluded (backend depth) t p) ∧
    ∀ depth steps p, p.current ∈ p.running →
      RunsAside (runThread (backend depth) (runSteps (backend depth) steps)) p :=
  ⟨s.happenings_agree s' like, (s.start_rested s').paired,
    fun depth depth' => (backend_isolates depth depth').2,
    fun depth depth' => (backend_isolates depth depth').1,
    fun _ _ _ _ _ _ _ _ => Life.agree,
    fun depth turn _ order => order.runTurn (backend_libraryKeepsBooks depth) turn,
    fun depth _ _ ht => backend_secluded depth ht,
    fun depth steps _ hr => runThread_runsAside depth steps hr⟩

/-- A program whose handler runs a thread, on which errors are reported and window callbacks invoked;
another thread panics meanwhile. -/
def disturbed : Session where
  steps := [
    .mk {} .init,
    .mk ⟨[("glfwCreateWindow", [{ pointer := 7 }])]⟩ (.library 0 (.createWindow
      { hints := [], width := 4, height := 4, title := "", monitor := none, share := none })),
    .mk ⟨[("glfwPollEvents", [{ callbacks := [.window 7 .close] }])]⟩ (.pump 0 .poll [[
      .mk {} (.onThread [
        .mk ⟨[("glfwGetTime", [{ callbacks := [.error 0x70008 none, .window 7 .close] }])]⟩
          .getTime])]])]
  schedule := [[.step 1 (.mk {} (.panic ""))]]

/-- The same without any disturbance. -/
def undisturbed : Session where
  steps := [
    .mk {} .init,
    .mk ⟨[("glfwCreateWindow", [{ pointer := 7 }])]⟩ (.library 0 (.createWindow
      { hints := [], width := 4, height := 4, title := "", monitor := none, share := none })),
    .mk ⟨[("glfwPollEvents", [{ callbacks := [.window 7 .close] }])]⟩ (.pump 0 .poll [[
      .mk {} (.onThread [])]])]

theorem disturbed_like : List.Forall₂ Step.Like disturbed.steps undisturbed.steps :=
  .cons (.mk _ _ (.small rfl)) (.cons (.mk _ _ (.small rfl)) (.cons (.mk _ _
    (.pump _ _ (.cons (.cons (.mk _ _ (.onThread _ _)) .nil) .nil))) .nil))

theorem thread_isolation_disturbed :
    List.Forall₂ Step.Like disturbed.steps undisturbed.steps ∧
      ¬ Same (disturbed.happenings 1) (undisturbed.happenings 1) ∧
      Same (disturbed.happenings 0) (undisturbed.happenings 0) := by
  have isolated := thread_isolation disturbed undisturbed disturbed_like
  have alone : ¬ Parts (disturbed.happenings 0) (undisturbed.happenings 0) :=
    fun parted => parted.not_same (by unfold Same; decide +kernel)
  exact ⟨disturbed_like, by unfold Same; decide +kernel, isolated.1.resolve_left alone⟩

end Windowing
