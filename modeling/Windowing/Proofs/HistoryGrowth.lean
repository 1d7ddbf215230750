import Windowing.Proofs.ClientCode

/-!
Growth of the history. What happened is never taken back: every computation adds to the history and
leaves the rest of it as it is. Since every computation also gives the turn back to the thread that
it began on, what that thread did is its earlier entries and the new ones.
-/

namespace Windowing

open Native Client

variable {α β : Type} {native : Backend} {p q r : Process} {hs hs' : List Happening}

/-- A computation that only adds to the history. -/
def Grows (m : M α) : Prop :=
  ∀ p, p.history <:+ (final m p).history

namespace Grows

theorem same {m : M α} (h : ∀ p, (final m p).history = p.history) : Grows m := fun p =>
  h p ▸ List.suffix_refl _

theorem bind {m : M α} {f : α → M β} (hm : Grows m) (hf : ∀ a, Grows (f a)) :
    Grows (m >>= f) := fun p => (hm p).trans (hf _ _)

theorem closed : Closed fun _ m => Grows m where
  unnoticed _ h := same fun p => (h p).history
  bind := bind
  note _ _ := List.suffix_cons _ _
  setHere _ := same fun _ => rfl

theorem onThread (t : ThreadId) {body : M α} (hb : Grows body) : Grows (onThread t body) :=
  fun p => hb { p with running := t :: p.running }

theorem interject (t : ThreadId) {body : M Unit} (hb : Grows body) : Grows (interject t body) := by
  refine closed.bind closed.look fun p => ?_
  split
  · exact closed.pure _
  · exact onThread t hb

theorem compositional (h : ∀ call, Grows (native call)) :
    Compositional native fun _ m => Grows m where
  toClosed := closed
  call := h
  spawn contexts _ hb p := onThread p.freshThread (closed.catchUnwind hb) (p.withThread contexts)
  turns ht := by
    refine bind (same fun p => (takeTurns_alike p).history) fun batch => ?_
    refine closed.forM (fun turn => ?_) batch
    rw [runTurn_eq]
    exact interject _ (bind (ht turn) fun _ => same fun _ => rfl)

end Grows

theorem backend_grows (depth : Nat) (call : Call) : Grows (backend depth call) :=
  Grows.closed.backend (fun _ => Grows.compositional) depth call

/-! ### The current thread -/

/-- The thread is back where it was, and its new entries are the given ones. -/
structure Passes (p q : Process) (hs : List Happening) : Prop where
  running : q.running = p.running
  entries : q.entriesOf p.current = hs.reverse ++ p.entriesOf p.current

namespace Passes

theorem current (h : Passes p q hs) : q.current = p.current := Process.current_eq h.running

theorem refl : Passes p p [] := ⟨rfl, rfl⟩

theorem trans (h : Passes p q hs) (h' : Passes q r hs') : Passes p r (hs ++ hs') where
  running := h'.running.trans h.running
  entries := by
    have later := h'.entries
    rw [h.current, h.entries] at later
    rw [later, List.reverse_append, List.append_assoc]

theorem note (h : Happening) (p : Process) : Passes p (p.note h) [h] :=
  ⟨rfl, entriesOf_note_self p h⟩

theorem of_sameThreads (h : SameThreads p q) : Passes p q [] :=
  ⟨h.running, (h.undisturbed p.current).entries⟩

theorem of_leaves (h : Leaves p q hs) : Passes p q hs := ⟨h.running, h.entries⟩

theorem during_eq {m : M α} (h : Passes p (final m p) hs) : during m p = hs :=
  during_of_entries h.entries

end Passes

/-- What a thread does is found in its history. -/
theorem Grows.passes {m : M α} (grows : Grows m) (confined : Confined m) (p : Process) :
    ∃ hs, Passes p (final m p) hs := by
  obtain ⟨later, hlater⟩ := grows p
  refine ⟨((later.filter fun e => e.thread = p.current).map (·.what)).reverse,
    (confined p).running, ?_⟩
  rw [Process.entriesOf, ← hlater, List.filter_append, List.map_append, List.reverse_reverse]
  rfl

end Windowing
