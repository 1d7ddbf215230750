import Windowing.Proofs.ContextLeases

/-!
The supply of a process: what is left for native calls to use up. These are the replies that the script
in use still holds, the scheduled batches of turns with the replies that they bring, and the replies in
the reactions of the handlers that are installed. A call that has anything done before it returns takes
from the supply, and only programs that are yet to be run add to it.
-/

namespace Windowing

open Native Client

variable {p q r : Process}

/-! ### Scripts -/

namespace Native.Script

/-- How many replies are held for the functions that were not seen before. Of the queues of one function
only the first counts, which is the one that replies are taken from. -/
def heldIn (seen : List String) : List (String × List Reply) → Nat
  | [] => 0
  | q :: rest => if q.1 ∈ seen then heldIn seen rest else q.2.length + heldIn (q.1 :: seen) rest

/-- How many replies a script can give. -/
def held (s : Script) : Nat := heldIn [] s.queues

theorem heldIn_le (seen : List String) (queues : List (String × List Reply)) (n : Nat) :
    n + heldIn seen queues ≤ queues.foldl (fun n q => n + q.2.length) n := by
  induction queues generalizing seen n with
  | nil => simp [heldIn]
  | cons q rest ih =>
    have skipped := ih seen (n + q.2.length)
    have counted := ih (q.1 :: seen) (n + q.2.length)
    rw [heldIn, List.foldl_cons]
    split <;> omega

theorem held_le_size (s : Script) : s.held ≤ s.size := by
  simpa [held, size] using heldIn_le [] s.queues 0

/-- The queues of a function that was seen do not count. -/
theorem heldIn_map_of_mem {function : String} {seen : List String} (h : function ∈ seen)
    (left : List Reply) (queues : List (String × List Reply)) :
    heldIn seen (queues.map fun q => if q.1 = function then (q.1, left) else q) =
      heldIn seen queues := by
  induction queues generalizing seen with
  | nil => rfl
  | cons q rest ih =>
    by_cases hq : q.1 = function
    · simp [heldIn, hq, h, ih h]
    · simp [heldIn, hq, ih h, ih (List.mem_cons_of_mem q.1 h)]

theorem heldIn_map {function : String} {seen : List String} (h : function ∉ seen) {reply : Reply}
    {left : List Reply} {queues : List (String × List Reply)}
    (found : queues.lookup function = some (reply :: left)) :
    heldIn seen (queues.map fun q => if q.1 = function then (q.1, left) else q) + 1 =
      heldIn seen queues := by
  induction queues generalizing seen with
  | nil => simp at found
  | cons q rest ih =>
    by_cases hq : q.1 = function
    · obtain ⟨name, replies⟩ := q
      obtain rfl : name = function := hq
      obtain rfl : replies = reply :: left := by simpa using found
      have later := heldIn_map_of_mem (List.mem_cons_self : name ∈ name :: seen) left rest
      simp only [List.map_cons, ↓reduceIte, heldIn, h, later, List.length_cons]
      omega
    · have other : (function == q.1) = false := beq_eq_false_iff_ne.2 (Ne.symm hq)
      rw [List.lookup_cons, other] at found
      have skipped := ih h found
      have unseen : function ∉ q.1 :: seen := by simp [h, Ne.symm hq]
      have counted := ih unseen found
      simp only [List.map_cons, hq, ↓reduceIte, heldIn]
      split <;> omega

/-- A reply is taken out of the script, or it is the plain one and the script stays as it is. -/
theorem next_cases (s : Script) (function : String) :
    (s.next function).2.held + 1 = s.held ∨ s.next function = (.plain function, s) := by
  rw [next]
  split
  · rename_i found
    exact .inl (heldIn_map (List.not_mem_nil) found)
  · exact .inr rfl

end Native.Script

/-! ### Reactions -/

theorem reactionsSize_append (first second : List (List Step)) :
    reactionsSize (first ++ second) = reactionsSize first + reactionsSize second := by
  induction first with
  | nil => simp [reactionsSize]
  | cons steps rest ih => simp [reactionsSize, ih, Nat.add_assoc]

theorem reactionsSize_perm {first second : List (List Step)} (h : first.Perm second) :
    reactionsSize first = reactionsSize second := by
  induction h with
  | nil => rfl
  | cons steps _ ih => simp [reactionsSize, ih]
  | swap => simp [reactionsSize, Nat.add_left_comm]
  | trans _ _ ih ih' => exact ih.trans ih'

/-- The next reaction and the ones after it. -/
theorem stepsSize_headD (reactions : List (List Step)) :
    stepsSize (reactions.headD []) + reactionsSize reactions.tail = reactionsSize reactions := by
  cases reactions <;> simp [reactionsSize, stepsSize]

/-- The reactions that a thread's handler has left. -/
def Thread.reactions (t : Thread) : List (List Step) := t.locals.handler.getD []

/-- A handler that takes its next reaction. -/
def Locals.nextReaction (s : Locals) : Locals := { s with handler := s.handler.map List.tail }

theorem Thread.reactions_nextReaction (t : Thread) :
    Thread.reactions { t with locals := t.locals.nextReaction } = t.reactions.tail := by
  cases h : t.locals.handler <;> simp [reactions, Locals.nextReaction, h]

/-- The reactions that the handlers of all threads have left. -/
def Process.reactions (p : Process) : List (List Step) :=
  p.threads.entries.flatMap fun e => e.2.reactions

theorem reactionsSize_set (p : Process) (t : ThreadId) (thread : Thread) :
    reactionsSize (p.threads.get t).reactions +
        reactionsSize { p with threads := p.threads.set t thread }.reactions =
      reactionsSize thread.reactions + reactionsSize p.reactions := by
  have exchanged := Registry.flatMap_setEntry (g := Thread.reactions) rfl t thread p.threads.entries
  have counted := reactionsSize_perm exchanged
  rwa [reactionsSize_append, reactionsSize_append] at counted

theorem reactionsSize_erase (p : Process) (t : ThreadId) :
    reactionsSize { p with threads := p.threads.erase t }.reactions ≤ reactionsSize p.reactions := by
  have parted := reactionsSize_perm (Registry.flatMap_erase Thread.reactions t p.threads.entries)
  rw [reactionsSize_append] at parted
  exact parted ▸ Nat.le_add_left _ _

/-! ### Supplies -/

namespace Process

/-- The replies that the script in use holds. -/
def held (p : Process) : Nat := (p.scripts.headD {}).held

/-- What is left besides the script in use. -/
def spare (p : Process) : Nat := scheduleSize p.schedule + reactionsSize p.reactions

def supply (p : Process) : Nat := p.held + p.spare

theorem spare_setHere (p : Process) (t : Thread) :
    reactionsSize p.here.reactions + (p.setHere t).spare = reactionsSize t.reactions + p.spare := by
  have exchanged : reactionsSize p.here.reactions + reactionsSize (p.setHere t).reactions = _ :=
    reactionsSize_set p p.current t
  change _ + (scheduleSize p.schedule + _) = _ + (scheduleSize p.schedule + _)
  omega

/-- A reaction that is taken is no longer in supply. -/
theorem spare_nextReaction (p : Process) :
    (final (modifyLocals Locals.nextReaction) p).spare + stepsSize (p.here.reactions.headD []) =
      p.spare := by
  have exchanged := p.spare_setHere { p.here with locals := p.locals.nextReaction }
  have taken : Thread.reactions { p.here with locals := p.locals.nextReaction } =
      p.here.reactions.tail := p.here.reactions_nextReaction
  have parts := stepsSize_headD p.here.reactions
  rw [taken] at exchanged
  rw [final_modifyLocals]
  omega

end Process

/-- No more is left than there was, besides what was added. Nothing is added to the script in use, since
programs bring scripts of their own. -/
structure SpendsSupply (added : Nat) (p q : Process) : Prop where
  held : q.held ≤ p.held
  spare : q.spare ≤ p.spare + added

namespace SpendsSupply

variable {j k : Nat}

theorem refl : SpendsSupply 0 p p := ⟨Nat.le_refl _, Nat.le_refl _⟩

theorem supply (h : SpendsSupply k p q) : q.supply ≤ p.supply + k := by
  have held := h.held
  have spare := h.spare
  rw [Process.supply, Process.supply]
  omega

theorem trans (h : SpendsSupply j p q) (h' : SpendsSupply k q r) : SpendsSupply (j + k) p r where
  held := Nat.le_trans h'.held h.held
  spare := by
    have first := h.spare
    have second := h'.spare
    omega

theorem mono (h : SpendsSupply j p q) (le : j ≤ k) : SpendsSupply k p q :=
  ⟨h.held, Nat.le_trans h.spare (Nat.add_le_add_left le _)⟩

/-- Neither scripts nor turns are touched. -/
theorem of_reactions (scripts : q.scripts = p.scripts) (schedule : q.schedule = p.schedule)
    (h : reactionsSize q.reactions ≤ reactionsSize p.reactions + k) : SpendsSupply k p q where
  held := Nat.le_of_eq (by rw [Process.held, Process.held, scripts])
  spare := by
    rw [Process.spare, Process.spare, schedule]
    omega

/-- Nothing that counts is touched. -/
theorem same (scripts : q.scripts = p.scripts) (schedule : q.schedule = p.schedule)
    (threads : q.threads = p.threads) : SpendsSupply 0 p q :=
  of_reactions scripts schedule (by rw [Process.reactions, Process.reactions, threads]; omega)

theorem setHere {t : Thread}
    (h : reactionsSize t.reactions ≤ reactionsSize p.here.reactions + k) :
    SpendsSupply k p (p.setHere t) where
  held := Nat.le_refl p.held
  spare := by
    have exchanged := p.spare_setHere t
    omega

theorem setThread {t : ThreadId} {thread : Thread} (h : thread.reactions = []) :
    SpendsSupply 0 p { p with threads := p.threads.set t thread } := by
  refine of_reactions rfl rfl ?_
  have exchanged := reactionsSize_set p t thread
  rw [h, reactionsSize] at exchanged
  omega

theorem erase (t : ThreadId) : SpendsSupply 0 p { p with threads := p.threads.erase t } :=
  of_reactions rfl rfl (reactionsSize_erase p t)

end SpendsSupply

end Windowing
