import Windowing.Proofs.EventDelivery
import Windowing.Proofs.CallSoundness

/-!
What is not done while a handler runs. The native library may not be pumped, initialized or terminated
from a callback, and no window may be destroyed. A handler is refused a pump by its own thread's state
and an initialization by the lock, its drops of windows are put off, and the library whose pump runs
it keeps the native library from being terminated.
-/

namespace Windowing

open Native Client

/-- What an entry may not be while the thread's handler runs. -/
structure Entry.Restrained (t : ThreadId) (e : Entry) : Prop where
  poll : e.thread = t → e.what ≠ .called .pollEvents
  wait : e.thread = t → e.what ≠ .called .waitEvents
  destroy : ∀ pointer, e.what ≠ .called (.destroyWindow pointer)
  init : e.what ≠ .called .init
  terminate : e.what ≠ .called .terminate
  library : ∀ l, e.what ≠ .dropped (.library l)

variable {l l' : Ledger} {w w' : Watch} {t u : ThreadId} {what : Happening} {runs : Bool}
  {entries before after : List Entry} {e : Entry}

/-! ### The watch and the books -/

theorem Watch.step_returned_pump {call : Call} {reply : Reply}
    (h : w.step (.returned call reply) = some w') (hc : call.pumps = true) :
    w.stage ≠ .handling ∧ w' = {} := by
  obtain ⟨-, frame, rest, hframes, -, ⟨-, -, rfl⟩ | ⟨other, -⟩⟩ := step_returned h
  · refine ⟨fun handling => ?_, rfl⟩
    simp [step, hframes, hc, handling] at h
  · rw [hc] at other
    cases other

/-- The watch over a thread knows whether its handler runs. -/
theorem Watch.step_inHandler (h : w.step what = some w')
    (hr : runs = true ↔ w.stage = .handling) :
    Entry.inHandler t runs ⟨t, what⟩ = true ↔ w'.stage = .handling := by
  cases what with
  | called call =>
    cases hcall : call.pumps with
    | true =>
      obtain ⟨rfl, rfl⟩ := step_called_pump h hcall
      simpa [Entry.inHandler] using hr
    | false =>
      obtain ⟨-, -, rfl⟩ := step_called h hcall
      exact hr
  | returned call reply =>
    cases hcall : call.pumps with
    | true =>
      obtain ⟨awake, rfl⟩ := step_returned_pump h hcall
      simpa [Entry.inHandler, awake] using hr
    | false =>
      obtain ⟨-, frame, rest, -, -, ⟨other, -⟩ | ⟨-, rfl⟩⟩ := step_returned h
      · rw [hcall] at other
        cases other
      · exact hr
  | invoked callback =>
    obtain ⟨-, rfl⟩ := step_invoked h
    exact hr
  | handling time event =>
    obtain ⟨-, -, rfl⟩ := step_handling h
    simp [Entry.inHandler]
  | handled panic =>
    obtain ⟨-, -, rfl⟩ := step_handled h
    cases panic <;> simp [Entry.inHandler]
  | logged _ | obtained _ | dropped _ | stepStarted | stepEnded _ | threadEnded _ =>
    obtain ⟨-, rfl⟩ := step_of_still rfl h
    exact hr

theorem Watch.run_inHandler
    (h : w.run ((entries.filter fun e => e.thread = t).map (·.what)) = some w')
    (hr : runs = true ↔ w.stage = .handling) :
    inHandler t runs entries = true ↔ w'.stage = .handling := by
  induction entries generalizing w runs with
  | nil =>
    cases h
    exact hr
  | cons e rest ih =>
    obtain ⟨u, what⟩ := e
    by_cases hu : u = t
    · subst hu
      rw [List.filter_cons_of_pos (by simp), List.map_cons] at h
      obtain ⟨m, hstep, hrest⟩ := Watch.run_cons h
      exact ih hrest (step_inHandler hstep hr)
    · rw [List.filter_cons_of_neg (by simpa using hu)] at h
      have same : Entry.inHandler t runs ⟨u, what⟩ = runs := by
        cases what <;> simp [Entry.inHandler, hu]
      exact ih h (by rw [same]; exact hr)

/-- What is known where an entry of a session stands. -/
structure Session.Place (before : List Entry) (e : Entry) (l l' : Ledger) (w w' : Watch) : Prop where
  books : Ledger.run {} before = some l
  posting : Posting { l with urgent := none } e.thread e.what l'
  watch : Watch.run {} ((before.filter fun e' => e'.thread = e.thread).map (·.what)) = some w
  step : w.step e.what = some w'
  proper : e.what.Proper before.reverse e.thread
  earlier : Proper before.reverse

theorem Session.Place.read_books {w w' : Watch} (h : Session.Place before e l l' w w') :
    Ledger.read before.reverse = some l := by
  rw [Ledger.read_eq_run, List.reverse_reverse]
  exact h.books

theorem Session.Place.read_watch {w w' : Watch} (h : Session.Place before e l l' w w') :
    Watch.read (entriesIn before.reverse e.thread) = some w := by
  rw [Watch.read_eq_run, entriesIn, List.filter_reverse, List.map_reverse, List.reverse_reverse]
  exact h.watch

theorem Session.place (s : Session) (split : s.history = before ++ e :: after) :
    ∃ l l' w w', Session.Place before e l l' w w' := by
  obtain ⟨final, hrun, -⟩ := s.books
  have watched := s.run_happenings e.thread
  have proper := s.proper
  have reversed : (Windowing.final s.body s.start).history =
      after.reverse ++ e :: before.reverse := by
    have h : (Windowing.final s.body s.start).history.reverse = before ++ e :: after := split
    rw [← List.reverse_reverse (Windowing.final s.body s.start).history, h]
    simp
  rw [reversed] at proper
  rw [split] at hrun
  obtain ⟨l, hbefore, hafter⟩ := Ledger.run_append.1 hrun
  obtain ⟨l', hstep, -⟩ := Ledger.run_cons.1 hafter
  rw [Session.happenings, split, List.filter_append, List.map_append,
    List.filter_cons_of_pos (by simp), List.map_cons, Watch.run_append] at watched
  obtain ⟨w, hw, hrest⟩ := Option.bind_eq_some_iff.1 watched
  obtain ⟨w', hstep', -⟩ := Watch.run_cons hrest
  obtain ⟨presupposed, earlier⟩ := proper.split
  exact ⟨l, l', w, w', hbefore, (Ledger.posting_of_step hstep).2, hw, hstep', presupposed, earlier⟩

/-! ### While a handler runs -/

theorem Posting.of_busy (h : Posting l u what l') (alive : l.phase = .alive t)
    (busy : l.busy = true) : (∀ pointer, what ≠ .called (.destroyWindow pointer)) ∧
      what ≠ .called .init ∧ what ≠ .called .terminate := by
  rcases h.of_alive alive with ⟨-, rfl, -⟩ | ⟨-, init, terminate, -⟩
  · rw [h.of_terminate.2.2] at busy
    cases busy
  · refine ⟨?_, init, terminate⟩
    rintro pointer rfl
    rw [h.of_destroyWindow.2.2] at busy
    cases busy

/-- The library whose pump runs is the only one, and it is kept. -/
theorem Ledger.library_kept {x : Library} (hl : Ledger.read entries = some l)
    (proper : Proper entries) (alive : l.phase = .alive t) (held : .library x ∈ l.held)
    (kept : ∃ other, .library other ∈ (possessions (entriesIn entries t)).erase (.library x)) :
    False := by
  obtain ⟨other, hother⟩ := kept
  rw [← (shows_of_read hl).held t alive] at hother
  have unique := proper.library_unique hl
  rw [(List.perm_cons_erase held).countP_eq, List.countP_cons_of_pos rfl] at unique
  have more : 0 < (l.held.erase (.library x)).countP (·.isLibrary) :=
    List.countP_pos_iff.2 ⟨_, hother, rfl⟩
  omega

/-- In every run, at every moment at which a handler runs on some thread: that thread makes no call that
pumps, no thread makes a call that destroys a window or that initializes or terminates the native
library, and no library is dropped, so neither is the one whose pump runs. -/
theorem handler_restraint (s : Session) (t : ThreadId) (before : List Entry) (e : Entry)
    (after : List Entry) (split : s.history = before ++ e :: after)
    (runs : inHandler t false before = true) : e.Restrained t := by
  obtain ⟨l, l', w, w', place⟩ := s.place split
  have inside : l.inHandler t = true := (Ledger.run_inHandler place.books t).trans runs
  obtain ⟨alive, busy⟩ : l.phase = .alive t ∧ l.busy = true := by
    simpa [Ledger.inHandler] using inside
  obtain ⟨destroy, init, terminate⟩ := place.posting.of_busy alive busy
  have handling : e.thread = t → w.stage = .handling := fun same =>
    (Watch.run_inHandler (same ▸ place.watch) (by simp)).1 runs
  have unpumped : ∀ call : Call, call.pumps = true → e.thread = t → e.what ≠ .called call := by
    intro call pumps same called
    have hstep := place.step
    rw [called] at hstep
    obtain ⟨rfl, -⟩ := Watch.step_called_pump hstep pumps
    cases handling same
  refine ⟨unpumped _ rfl, unpumped _ rfl, destroy, init, terminate, fun x dropped => ?_⟩
  have posting := place.posting
  have proper := place.proper
  rw [dropped] at posting proper
  obtain ⟨alive', held, -⟩ := posting.of_dropped rfl
  have same : e.thread = t := Phase.alive.inj (alive'.symm.trans alive)
  have others := proper w place.read_watch (handling same)
  exact Ledger.library_kept place.read_books place.earlier alive' held others

theorem take_cons_drop {i : Nat} (h : entries[i]? = some e) :
    entries = entries.take i ++ e :: entries.drop (i + 1) := by
  obtain ⟨hi, rfl⟩ := List.getElem?_eq_some_iff.1 h
  rw [List.getElem_cons_drop, List.take_append_drop]

theorem handler_restraint_dropInHandler :
    ∃ before after, dropInHandler.history = before ++ ⟨0, .dropped (.window ⟨7, 0⟩)⟩ :: after ∧
      inHandler 0 false before = true ∧ Entry.Restrained 0 ⟨0, .dropped (.window ⟨7, 0⟩)⟩ := by
  have here : dropInHandler.history[50]? = some ⟨0, .dropped (.window ⟨7, 0⟩)⟩ := by decide +kernel
  have runs : inHandler 0 false (dropInHandler.history.take 50) = true := by decide +kernel
  exact ⟨_, _, take_cons_drop here, runs,
    handler_restraint dropInHandler 0 _ _ _ (take_cons_drop here) runs⟩

end Windowing
