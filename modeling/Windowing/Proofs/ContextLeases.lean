import Mathlib.Data.List.Flatten
import Mathlib.Data.List.Nodup
import Mathlib.Data.List.Perm.Basic
import Mathlib.Logic.Relation
import Windowing.Proofs.WaitingThreads

/-!
Leases of contexts. Windows lend their contexts and get them back in atomic operations, on whichever
thread. A scene is a process between two of these, together with the contexts that are in no table
because a thread has them in hand. Whatever else the threads do to the process, and in whatever
order, the contexts that are lent are those that were obtained and not dropped, at most one for each
window.
-/

namespace Windowing

open Native Client

variable {α : Type} {p q : Process}

/-! ### Tables of contexts -/

/-- The contexts in the slots of a table. -/
def inSlots (contexts : List (Option (Context × Nat))) : List Context :=
  contexts.filterMap fun c => c.map (·.1)

/-- The contexts in the tables of all threads. -/
def Process.leased (p : Process) : List Context :=
  p.threads.entries.flatMap fun e => inSlots e.2.tables.contexts

namespace Registry

variable {β : Type}

/-- What an entry contributes is exchanged when it is set. -/
theorem flatMap_setEntry [Inhabited α] {g : α → List β} (hg : g default = []) (k : Nat) (a : α)
    (entries : List (Nat × α)) :
    (g ((entries.lookup k).getD default) ++ (setEntry k a entries).flatMap fun e => g e.2).Perm
      (g a ++ entries.flatMap fun e => g e.2) := by
  induction entries with
  | nil => simp [setEntry, hg]
  | cons e rest ih =>
    obtain ⟨j, b⟩ := e
    by_cases h : j = k
    · subst h
      simp only [setEntry, ↓reduceIte, List.lookup_cons, beq_self_eq_true, Option.getD_some,
        List.flatMap_cons]
      exact List.perm_append_comm_assoc _ _ _
    · have hk : (k == j) = false := beq_eq_false_iff_ne.2 (Ne.symm h)
      simp only [setEntry, h, ↓reduceIte, List.lookup_cons, hk, List.flatMap_cons]
      exact ((List.perm_append_comm_assoc _ _ _).trans (ih.append_left _)).trans
        (List.perm_append_comm_assoc _ _ _)

theorem flatMap_erase (g : α → List β) (k : Nat) (entries : List (Nat × α)) :
    (((entries.filter fun e => e.1 == k).flatMap fun e => g e.2) ++
      (entries.filter fun e => e.1 != k).flatMap fun e => g e.2).Perm
      (entries.flatMap fun e => g e.2) := by
  rw [← List.flatMap_append]
  exact (List.filter_append_perm _ entries).flatMap_right _

end Registry

theorem leased_set (p : Process) (u : ThreadId) (t : Thread) :
    (inSlots (p.threads.get u).tables.contexts ++
      { p with threads := p.threads.set u t }.leased).Perm
      (inSlots t.tables.contexts ++ p.leased) :=
  Registry.flatMap_setEntry (g := fun t : Thread => inSlots t.tables.contexts) rfl u t
    p.threads.entries

/-- What a thread puts into its tables others have not, and what it takes out it has in hand. -/
theorem leased_setHere {t : Thread} {given taken : List Context}
    (h : (given ++ inSlots p.tables.contexts).Perm (taken ++ inSlots t.tables.contexts))
    (inHand : List Context) :
    (taken ++ inHand ++ (p.setHere t).leased).Perm (given ++ inHand ++ p.leased) := by
  have exchanged := leased_set p p.current t
  refine List.perm_iff_count.2 fun c => ?_
  have same := h.count_eq c
  have moved := exchanged.count_eq c
  simp only [List.count_append] at same moved ⊢
  change _ + List.count c (p.setHere t).leased = _ at moved
  change List.count c (inSlots p.tables.contexts) + _ = _ at moved
  omega

/-! ### Histories -/

/-- The contexts that are alive after a history, whose newest entry comes first. -/
def lendings : List Entry → List Context
  | [] => []
  | e :: older =>
    match e.what with
    | .obtained (.context c) => c :: lendings older
    | .dropped (.context c) => (lendings older).erase c
    | _ => lendings older

/-- The window that an entry opens. -/
def Happening.opened? : Happening → Option Window
  | .obtained (.window w) => some w
  | _ => none

/-- All windows that a history opens. -/
def opened (history : List Entry) : List Window :=
  history.filterMap (·.what.opened?)

/-- An entry that opens no window, and neither lends a context nor gives one back. -/
def Happening.leaseless : Happening → Bool
  | .obtained (.window _) | .obtained (.context _) | .dropped (.context _) => false
  | _ => true

theorem lendings_leaseless {h : Happening} (hh : h.leaseless = true) (t : ThreadId)
    (history : List Entry) : lendings (⟨t, h⟩ :: history) = lendings history := by
  cases h with
  | obtained handle | dropped handle => cases handle <;> first | rfl | cases hh
  | _ => rfl

theorem opened_leaseless {h : Happening} (hh : h.leaseless = true) (t : ThreadId)
    (history : List Entry) : opened (⟨t, h⟩ :: history) = opened history := by
  cases h with
  | obtained handle => cases handle <;> first | rfl | cases hh
  | _ => rfl

theorem opened_subset {older newer : List Entry} (h : older <:+ newer) :
    opened older ⊆ opened newer :=
  (h.sublist.filterMap _).subset

/-- All windows in tables were opened. -/
def Stocked (p : Process) : Prop :=
  ∀ t w, some w ∈ (p.threads.get t).tables.windows → w ∈ opened p.history

theorem Stocked.grow (h : Stocked p) (threads : q.threads = p.threads)
    (history : p.history <:+ q.history) : Stocked q := fun t w hw =>
  opened_subset history (h t w (threads ▸ hw))

/-! ### Scenes -/

structure Scene where
  inHand : List Context
  process : Process

namespace Scene

def history (s : Scene) : List Entry := s.process.history

/-- The contexts that are alive. -/
def alive (s : Scene) : List Context := lendings s.history

/-- All windows that were opened. -/
def windows (s : Scene) : List Window := opened s.history

end Scene

/-- A window lends its context unless it is lent already. -/
theorem lend_free {w : Window} (free : w.key ∉ p.lent) :
    result (Context.lend w).run p = .ok ⟨w.pointer, w.key⟩ ∧ final (Context.lend w).run p =
      { p with lent := w.key :: p.lent }.note (.obtained (.context ⟨w.pointer, w.key⟩)) := by
  have unset : p.lent.contains w.key = false := by simpa using free
  change result (if p.lent.contains w.key then _ else _ : M (Except Error Context)) p = _ ∧
    final (if p.lent.contains w.key then _ else _ : M (Except Error Context)) p = _
  rw [unset]
  exact ⟨rfl, rfl⟩

theorem lend_refused {w : Window} (held : w.key ∈ p.lent) :
    result (Context.lend w).run p = .error .contextLent ∧ final (Context.lend w).run p = p := by
  have set : p.lent.contains w.key = true := by simpa using held
  change result (if p.lent.contains w.key then _ else _ : M (Except Error Context)) p = _ ∧
    final (if p.lent.contains w.key then _ else _ : M (Except Error Context)) p = _
  rw [set]
  exact ⟨rfl, rfl⟩

/-- One atomic operation, by whichever thread. All that concerns neither windows nor contexts may
happen in between. -/
inductive Moves : Scene → Scene → Prop where
  | lent {inHand : List Context} {p : Process} (w : Window) (known : w ∈ opened p.history) :
      Moves ⟨inHand, p⟩ ⟨(result (Context.lend w).run p).toOption.toList ++ inHand,
        final (Context.lend w).run p⟩
  | returned {inHand : List Context} {p : Process} (c : Context) :
      Moves ⟨c :: inHand, p⟩ ⟨inHand, final c.drop p⟩
  | created {inHand : List Context} {p : Process} (pointer : Pointer) :
      Moves ⟨inHand, p⟩ ⟨inHand, final (Window.adopt pointer) p⟩
  | noted {inHand : List Context} {p : Process} (h : Happening) (hh : h.leaseless = true) :
      Moves ⟨inHand, p⟩ ⟨inHand, p.note h⟩
  | passed {inHand inHand' : List Context} {p q : Process} (history : q.history = p.history)
      (lent : q.lent = p.lent) (nextKey : q.nextKey = p.nextKey)
      (kept : (inHand' ++ q.leased).Perm (inHand ++ p.leased)) (known : Stocked p → Stocked q) :
      Moves ⟨inHand, p⟩ ⟨inHand', q⟩

/-- Any number of atomic operations. -/
abbrev Reaches : Scene → Scene → Prop := Relation.ReflTransGen Moves

theorem final_dropContext (c : Context) (p : Process) : final c.drop p =
    { p.note (.dropped (.context c)) with lent := p.lent.erase c.key } := rfl

theorem final_adopt (pointer : Pointer) (p : Process) : final (Window.adopt pointer) p =
    { p with nextKey := p.nextKey + 1, holders := p.holders + 1 }.note
      (.obtained (.window ⟨pointer, p.nextKey⟩)) := rfl

/-- Everything adds up: the contexts that are alive are in the tables or in hand, each is of a window
that was opened, and the flags that are set are theirs. -/
structure Scene.Tally (s : Scene) : Prop where
  kept : s.alive.Perm (s.inHand ++ s.process.leased)
  lent : s.process.lent = s.alive.map (·.key)
  single : s.process.lent.Nodup
  origin : ∀ c ∈ s.alive, ⟨c.pointer, c.key⟩ ∈ s.windows
  fresh : ∀ w ∈ s.windows, w.key < s.process.nextKey
  distinct : (s.windows.map (·.key)).Nodup

theorem map_erase_of_nodup {xs : List Context} (h : (xs.map (·.key)).Nodup) {c : Context}
    (hc : c ∈ xs) : (xs.erase c).map (·.key) = (xs.map (·.key)).erase c.key := by
  induction xs with
  | nil => cases hc
  | cons x xs ih =>
    rw [List.map_cons, List.nodup_cons] at h
    by_cases same : x = c
    · subst same
      simp
    · have rest : c ∈ xs := (List.mem_cons.1 hc).resolve_left (Ne.symm same)
      have other : x.key ≠ c.key := fun heq => h.1 (heq ▸ List.mem_map_of_mem rest)
      rw [List.erase_cons_tail (by simpa using same), List.map_cons, List.map_cons,
        List.erase_cons_tail (by simpa using other), ih h.2 rest]

namespace Moves

variable {s s' : Scene}

theorem tally (h : Moves s s') (hs : s.Tally) : s'.Tally := by
  obtain ⟨kept, lent, single, origin, fresh, distinct⟩ := hs
  cases h with
  | @lent inHand p w known =>
    by_cases held : w.key ∈ p.lent
    · rw [(lend_refused held).1, (lend_refused held).2]
      exact ⟨kept, lent, single, origin, fresh, distinct⟩
    rw [(lend_free held).1, (lend_free held).2]
    refine ⟨kept.cons _, ?_, List.nodup_cons.2 ⟨held, single⟩, fun c hc => ?_, fresh, distinct⟩
    · exact congrArg (w.key :: ·) lent
    · rcases List.mem_cons.1 hc with rfl | hc
      · exact known
      · exact origin c hc
  | @returned inHand p c =>
    rw [final_dropContext]
    have held : c ∈ lendings p.history := kept.mem_iff.2 List.mem_cons_self
    have keys : p.lent = (lendings p.history).map (·.key) := lent
    refine ⟨?_, ?_, single.erase _, fun c' hc => origin c' (List.mem_of_mem_erase hc), fresh,
      distinct⟩
    · have less : ((lendings p.history).erase c).Perm ((c :: (inHand ++ p.leased)).erase c) :=
        kept.erase c
      rwa [List.erase_cons_head] at less
    · have erased := map_erase_of_nodup (keys ▸ single) held
      exact (congrArg (·.erase c.key) keys).trans erased.symm
  | @created inHand p pointer =>
    rw [final_adopt]
    refine ⟨kept, lent, single, fun c hc => List.mem_cons_of_mem _ (origin c hc),
      fun w hw => ?_, ?_⟩
    · rcases List.mem_cons.1 hw with rfl | hw
      · exact Nat.lt_succ_self _
      · exact Nat.lt_succ_of_lt (fresh w hw)
    · refine List.nodup_cons.2 ⟨fun used => ?_, distinct⟩
      obtain ⟨w, hw, same⟩ := List.mem_map.1 used
      exact absurd same (Nat.ne_of_lt (fresh w hw))
  | @noted inHand p h hh =>
    have alive : Scene.alive ⟨inHand, p.note h⟩ = Scene.alive ⟨inHand, p⟩ := lendings_leaseless hh _ _
    have windows : Scene.windows ⟨inHand, p.note h⟩ = Scene.windows ⟨inHand, p⟩ :=
      opened_leaseless hh _ _
    refine ⟨?_, ?_, single, ?_, ?_, ?_⟩
    · rw [alive]; exact kept
    · rw [alive]; exact lent
    · rw [alive, windows]; exact origin
    · rw [windows]; exact fresh
    · rw [windows]; exact distinct
  | @passed inHand inHand' p q history same nextKey moved =>
    have alive : Scene.alive ⟨inHand', q⟩ = Scene.alive ⟨inHand, p⟩ := congrArg lendings history
    have windows : Scene.windows ⟨inHand', q⟩ = Scene.windows ⟨inHand, p⟩ :=
      congrArg opened history
    refine ⟨?_, ?_, same ▸ single, ?_, ?_, ?_⟩
    · rw [alive]; exact kept.trans moved.symm
    · rw [alive]; exact same.trans lent
    · rw [alive, windows]; exact origin
    · rw [windows]; exact nextKey.symm ▸ fresh
    · rw [windows]; exact distinct

/-- An atomic operation adds at most one entry to the history. -/
theorem history (h : Moves s s') :
    s'.history = s.history ∨ ∃ e, s'.history = e :: s.history := by
  cases h with
  | @lent inHand p w known =>
    by_cases held : w.key ∈ p.lent
    · exact .inl (congrArg Process.history (lend_refused held).2)
    · exact .inr ⟨_, congrArg Process.history (lend_free held).2⟩
  | returned c => exact .inr ⟨_, rfl⟩
  | created pointer => exact .inr ⟨_, rfl⟩
  | noted h hh => exact .inr ⟨_, rfl⟩
  | passed history => exact .inl history

theorem stocked (h : Moves s s') (hs : Stocked s.process) : Stocked s'.process := by
  have grown : s.history <:+ s'.history := by
    rcases h.history with same | ⟨e, more⟩
    · exact same ▸ List.suffix_refl _
    · exact more ▸ List.suffix_cons e _
  cases h with
  | @lent inHand p w known =>
    refine hs.grow ?_ grown
    by_cases held : w.key ∈ p.lent
    · rw [(lend_refused held).2]
    · rw [(lend_free held).2]
      rfl
  | returned c | created pointer | noted h hh => exact hs.grow rfl grown
  | passed _ _ _ _ known => exact known hs

end Moves

namespace Reaches

variable {s s' : Scene}

theorem tally (h : Reaches s s') (hs : s.Tally) : s'.Tally := by
  induction h with
  | refl => exact hs
  | tail _ move ih => exact move.tally ih

theorem stocked (h : Reaches s s') (hs : Stocked s.process) : Stocked s'.process := by
  induction h with
  | refl => exact hs
  | tail _ move ih => exact move.stocked ih

theorem history (h : Reaches s s') : s.history <:+ s'.history := by
  induction h with
  | refl => exact List.suffix_refl _
  | tail _ move ih =>
    rcases move.history with same | ⟨e, more⟩
    · rwa [same]
    · exact more ▸ ih.trans (List.suffix_cons e _)

/-- Every history on the way is that of a scene. -/
theorem through (h : Reaches s s') {history : List Entry} (after : s.history <:+ history)
    (before : history <:+ s'.history) :
    ∃ m, Reaches s m ∧ Reaches m s' ∧ m.history = history := by
  induction h with
  | refl =>
    exact ⟨s, .refl, .refl, after.eq_of_length_le before.length_le⟩
  | @tail u v way move ih =>
    rcases move.history with same | ⟨e, more⟩
    · obtain ⟨m, first, rest, found⟩ := ih (same ▸ before)
      exact ⟨m, first, rest.tail move, found⟩
    · rw [more, List.suffix_cons_iff] at before
      rcases before with rfl | before
      · exact ⟨v, way.tail move, .refl, more⟩
      · obtain ⟨m, first, rest, found⟩ := ih before
        exact ⟨m, first, rest.tail move, found⟩

end Reaches

end Windowing
