import Windowing.Proofs.TurnsWithoutHandles
import Windowing.Proofs.WindowCreation
import Windowing.Proofs.AgreeingDrops

/-!
Exchanges with the native library. What an operation does on its own thread is a sequence of calls,
each with the callbacks that the native library invokes before the call returns; what other threads do
meanwhile is in the history as well, but concerns no handle as long as the operation's thread has
the initialization to itself.
-/

namespace Windowing

open Native Client

variable {α β : Type} {native : Backend} {p q r : Process} {hs hs' : List Happening}

/-- A call with what happens on its thread until it returns. -/
structure Exchange where
  call : Call
  meanwhile : List Happening
  reply : Reply

namespace Exchange

def entries (x : Exchange) : List Happening :=
  .called x.call :: x.meanwhile ++ [.returned x.call x.reply]

/-- The first error that is reported before the call returns. -/
def error? (x : Exchange) : Option Error :=
  (reports x.meanwhile).head?

/-- No client code runs meanwhile: there are callbacks, the times of events, and warnings. -/
def Plain (x : Exchange) : Prop :=
  ∀ h ∈ x.meanwhile, h.Serves fun _ => False

/-- The only call that the exchange may contain besides its own reads a time. -/
theorem Plain.unaffected {x : Exchange} (h : x.Plain) : ∀ e ∈ x.entries, e.Serves (· = x.call) := by
  intro e he
  simp only [entries, List.cons_append, List.mem_cons, List.mem_append, List.not_mem_nil,
    or_false] at he
  rcases he with rfl | he | rfl
  · exact .inl rfl
  · exact (h e he).mono fun _ none => none.elim
  · exact .inl rfl

/-- What a predicate of calls counts in an exchange is its own call. -/
theorem Plain.count {x : Exchange} (h : x.Plain) {call : Call} (hc : call ≠ .getTime) :
    x.entries.count (.called call) = if x.call = call then 1 else 0 := by
  have others : x.meanwhile.count (.called call) = 0 := List.count_eq_zero.2 fun he =>
    (h _ he).elim id hc
  have same : (Happening.called x.call == Happening.called call) = decide (x.call = call) := by
    by_cases heq : x.call = call <;> simp [heq]
  simp [entries, List.count_cons, others, same]

end Exchange

/-- The current thread does what the entries say, and has the initialization to itself. -/
structure Performs (p q : Process) (hs : List Happening) : Prop where
  leaves : Leaves p q hs
  yields : Yields p.current p q

namespace Performs

theorem current (h : Performs p q hs) : q.current = p.current := h.leaves.current

theorem refl (hp : Reserved p.current p) (hd : Deaf p) : Performs p p [] :=
  ⟨.refl, rfl, hp, hd, [], rfl, by simp⟩

theorem trans (h : Performs p q hs) (h' : Performs q r hs') : Performs p r (hs ++ hs') :=
  ⟨h.leaves.trans h'.leaves, h.yields.trans (h.current ▸ h'.yields)⟩

theorem reserved (h : Performs p q hs) : Reserved q.current q := h.current ▸ h.yields.reserved

theorem needsNoHandle {m : M α} (hp : Reserved p.current p) (hd : Deaf p)
    (left : Leaves p (final m p) hs) (hm : NeedsNoHandle p.current p.current m) :
    Performs p (final m p) hs :=
  ⟨left, hm p rfl hp hd⟩

/-- What the current thread did is what the entries say, and what other threads did needs no
handle. -/
theorem history (h : Performs p q hs) : ∃ later, q.history = later ++ p.history ∧
    (later.filter (·.thread = p.current)).map (·.what) = hs.reverse ∧
    ∀ e ∈ later, e.thread ≠ p.current → e.what.common = true := by
  obtain ⟨later, hlater, common⟩ := h.yields.history
  refine ⟨later, hlater, ?_, common⟩
  have entries := h.leaves.entries
  rw [Process.entriesOf, hlater, List.filter_append, List.map_append] at entries
  exact List.append_cancel_right entries

/-- What needs a handle happens as often as the current thread does it. -/
theorem count (h : Performs p q hs) {x : Happening} (hx : x.common = false) :
    ∃ later, q.history = later ++ p.history ∧ (later.map (·.what)).count x = hs.count x := by
  obtain ⟨later, hlater, own, common⟩ := h.history
  refine ⟨later, hlater, ?_⟩
  rw [← List.count_reverse (l := hs), ← own, List.count_eq_countP, List.count_eq_countP,
    List.countP_map, List.countP_map, List.countP_filter]
  refine List.countP_congr fun e he => ?_
  by_cases here : e.thread = p.current
  · simp [here]
  · have other : e.what ≠ x := fun same => by
      have shown := common e he here
      rw [same, hx] at shown
      cases shown
    simp [here, other]

variable (hp : Reserved p.current p) (hd : Deaf p)

include hp hd

theorem note {h : Happening} (hh : h.doomed? = none) : Performs p (p.note h) [h] :=
  needsNoHandle (m := Windowing.note h) hp hd (.note hh p) (.note (.inl rfl))

theorem setPending (e : Option Error) : Performs p (final (setPending e) p) [] :=
  needsNoHandle hp hd (.setPending e p) (.setPending e)

theorem takeError : Performs p (final takeError p) [] := setPending hp hd none

/-- A change of what threads share, but for the lock. -/
theorem shared (h : SameThreads p q) (locked : q.locked = p.locked) : Performs p q [] := by
  refine ⟨.of_sameThreads h, h.running, ?_, ?_, [], by rw [h.history]; rfl, by simp⟩
  · exact hp.same h.running locked h.threads
  · rw [Deaf, h.locals]
    exact hd

/-- An unchecked call adds its first error to what is pending. -/
theorem call (depth : Nat) (call : Call) : ∃ x : Exchange, x.call = call ∧ x.Plain ∧
    Performs p (final (backend depth call) p) x.entries ∧
    result (backend depth call) p = x.reply ∧
    (final (backend depth call) p).locals.pending = (p.locals.pending <|> x.error?) := by
  obtain ⟨meanwhile, plain, left, pending⟩ := backend_replies depth call p hp.running hd
  refine ⟨⟨call, meanwhile, _⟩, rfl, plain, ?_, rfl, pending⟩
  exact needsNoHandle hp hd left ((backend_libraryNeedsNoHandle depth _).calls _ call (.inl rfl))

/-- A checked call fails with its first error. -/
theorem checked (depth : Nat) (call : Call) : ∃ x : Exchange, x.call = call ∧ x.Plain ∧
    Performs p (final (Windowing.checked (backend depth call)).run p) x.entries ∧
    result (Windowing.checked (backend depth call)).run p = verdict x.reply x.error? := by
  obtain ⟨meanwhile, reply, plain, left, outcome⟩ :=
    (backend_replies depth).checked call hp.running hd
  refine ⟨⟨call, meanwhile, reply⟩, rfl, plain, ?_, outcome⟩
  exact needsNoHandle hp hd left (.checked (backend_libraryNeedsNoHandle depth _) (.inl rfl))

end Performs

/-- A thread that has handles has the initialization to itself. -/
theorem ReadyToStep.reserved (h : ReadyToStep p) (has : p.tables.handles ≠ []) :
    Reserved p.current p := by
  obtain ⟨w, o, -, work, others, standing⟩ := h
  obtain ⟨-, l, kept⟩ := (standing.owner others).resolve_left fun bare => has bare.handles
  exact ⟨work.sight.running, kept.guarded.locked, kept.guarded.others⟩

end Windowing
