import Windowing.Proofs.HistoryLedger
import Windowing.Proofs.ClientCode

/-!
Turns without handles. While a thread is in the middle of an operation and has the initialization to
itself, the others have no handle but of lent contexts. They take their turns all the same, but make
no call that needs a handle, obtain none, and handle no event. So what such an operation does to the
native library is undisturbed: the hints that it sets, for one.
-/

namespace Windowing

open Native Client

variable {α β ε : Type} {native : Backend} {p q r : Process} {v c : ThreadId}

/-- The calls that a thread makes without a handle that holds the initialization. -/
def Native.Call.common : Call → Bool
  | .getVersion | .getVersionString | .getTime | .makeContextCurrent _ | .getCurrentContext
  | .swapBuffers _ | .swapInterval _ | .extensionSupported _ | .getProcAddress _ => true
  | _ => false

/-- What a thread does without such a handle. -/
def Happening.common : Happening → Bool
  | .called call | .returned call _ => call.common
  | .obtained h | .dropped h => !h.holds
  | .handling _ _ | .handled _ => false
  | _ => true

/-- The thread is in the middle of something and has the initialization to itself. -/
structure Reserved (v : ThreadId) (p : Process) : Prop where
  running : v ∈ p.running
  locked : p.locked = true
  others : ∀ u, u ≠ v → (p.threads.get u).Bare

/-- No handler of the current thread waits for events, nothing took the initialization away, and since
then no thread but its owner did what needs a handle. -/
structure Yields (v : ThreadId) (p q : Process) : Prop where
  running : q.running = p.running
  reserved : Reserved v q
  deaf : Deaf q
  history : ∃ later, q.history = later ++ p.history ∧
    ∀ e ∈ later, e.thread ≠ v → e.what.common = true

/-- A computation of a thread; unless it is the owner, it does not need a handle. -/
def NeedsNoHandle (v c : ThreadId) (m : M α) : Prop :=
  ∀ p, p.current = c → Reserved v p → Deaf p → Yields v p (final m p)

theorem Yields.current (h : Yields v p q) : q.current = p.current := Process.current_eq h.running

theorem Yields.trans (h : Yields v p q) (h' : Yields v q r) : Yields v p r where
  running := h'.running.trans h.running
  reserved := h'.reserved
  deaf := h'.deaf
  history := by
    obtain ⟨later, hlater, common⟩ := h.history
    obtain ⟨later', hlater', common'⟩ := h'.history
    refine ⟨later' ++ later, by rw [hlater', hlater, List.append_assoc], fun e he => ?_⟩
    exact (List.mem_append.1 he).elim (common' e) (common e)

theorem Reserved.deaf (h : Reserved v p) (hne : p.current ≠ v) : Deaf p := by
  unfold Deaf Locals.dropReason
  rw [Process.locals, Process.here, (h.others _ hne).handler]
  rfl

/-- The same threads under the same lock. -/
theorem Reserved.same (h : Reserved v p) (running : q.running = p.running)
    (locked : q.locked = p.locked) (threads : q.threads = p.threads) : Reserved v q :=
  ⟨running ▸ h.running, locked.trans h.locked, fun u hu => threads ▸ h.others u hu⟩

theorem Reserved.setHere (h : Reserved v p) {t : Thread} (bare : p.current ≠ v → t.Bare) :
    Reserved v (p.setHere t) := by
  refine ⟨h.running, h.locked, fun u hu => ?_⟩
  by_cases hc : u = p.current
  · subst hc
    rw [Process.setHere, Registry.get_set_self]
    exact bare hu
  · rw [Process.setHere, Registry.get_set_of_ne _ hc]
    exact h.others u hu

namespace NeedsNoHandle

/-- A change that no handler and no handle has a part in. -/
theorem quietly {m : M α} (h : ∀ p, Reserved v p → (final m p).running = p.running ∧
    (final m p).history = p.history ∧ Reserved v (final m p) ∧
    (final m p).locals.dropReason = p.locals.dropReason) : NeedsNoHandle v c m := by
  intro p _ hp hd
  obtain ⟨running, history, reserved, same⟩ := h p hp
  refine ⟨running, reserved, ?_, [], by rw [history, List.nil_append], by simp⟩
  rw [Deaf, same]
  exact hd

theorem pure (a : α) : NeedsNoHandle v c (Pure.pure a : M α) := quietly fun _ hp =>
    ⟨rfl, rfl, hp, rfl⟩

theorem look : NeedsNoHandle v c (get : M Process) := quietly fun _ hp => ⟨rfl, rfl, hp, rfl⟩

theorem bind {m : M α} {f : α → M β} (hm : NeedsNoHandle v c m) (hf : ∀ a, NeedsNoHandle v c (f a)) :
    NeedsNoHandle v c (m >>= f) := by
  intro p hc hp hd
  have first := hm p hc hp hd
  exact first.trans (hf _ _ (first.current.trans hc) first.reserved first.deaf)

theorem catchUnwind {m : M α} (hm : NeedsNoHandle v c m) : NeedsNoHandle v c (catchUnwind m) := by
  refine .bind hm fun _ => ?_
  refine .bind (quietly fun _ hp => ⟨rfl, rfl, hp.same rfl rfl rfl, rfl⟩) fun _ => ?_
  exact pure _

theorem ite {b : Prop} [Decidable b] {m n : M α} (hm : NeedsNoHandle v c m)
    (hn : NeedsNoHandle v c n) :
    NeedsNoHandle v c (if b then m else n) := by
  split
  · exact hm
  · exact hn

theorem forM {f : α → M Unit} (hf : ∀ a, NeedsNoHandle v c (f a)) (xs : List α) :
    NeedsNoHandle v c (xs.forM f) := by
  induction xs with
  | nil => exact pure _
  | cons x xs ih => exact bind (hf x) fun _ => ih

theorem composed {prim : (α : Type) → (Backend → M α) → Prop}
    (h : ∀ α m, prim α m → NeedsNoHandle v c (m native)) {m : Backend → M α}
    (hm : Composed SameButPanics prim m) : NeedsNoHandle v c (m native) := by
  induction hm with
  | pure a => exact .pure a
  | bind _ _ first rest => exact .bind first rest
  | look _ _ rest => exact .bind .look rest
  | act hm => exact h _ _ hm

theorem note {h : Happening} (hh : c = v ∨ h.common = true) : NeedsNoHandle v c (note h) := by
  intro p hc hp hd
  refine ⟨rfl, hp.same rfl rfl rfl, hd, [⟨p.current, h⟩], rfl, fun e he hne => ?_⟩
  obtain rfl := List.mem_singleton.1 he
  exact hh.resolve_left fun same => hne (hc.trans same)

theorem alike {m : M α} (h : ∀ p, Alike p (final m p)) : NeedsNoHandle v c m := quietly fun p hp =>
  ⟨(h p).running, (h p).history, hp.same (h p).running (h p).locked (h p).threads,
    by rw [(h p).toSameThreads.locals]⟩

theorem pending (f : Option Error → Option Error) :
    NeedsNoHandle v c (modifyLocals fun s => { s with pending := f s.pending }) :=
      quietly fun p hp => by
  refine ⟨rfl, rfl, hp.setHere fun hne => ?_, ?_⟩
  · have bare : p.here.Bare := hp.others _ hne
    exact ⟨bare.handles, bare.handler, bare.deferred⟩
  · rw [locals_modifyLocals]
    rfl

theorem takeError : NeedsNoHandle v c takeError := bind (bind look fun _ => pure _) fun _ =>
  bind (pending fun _ => none) fun _ => pure _

theorem setPending (e : Option Error) : NeedsNoHandle v c (setPending e) := pending fun _ => e

/-- A change of the tables after which a thread without handles has none. -/
theorem tables {f : Tables → Tables} (hf : ∀ t : Tables, t.handles = [] → (f t).handles = []) :
    NeedsNoHandle v c (modifyTables f) := quietly fun p hp => by
  refine ⟨rfl, rfl, hp.setHere fun hne => ?_, ?_⟩
  · have bare : p.here.Bare := hp.others _ hne
    exact ⟨hf _ bare.handles, bare.handler, bare.deferred⟩
  · rw [locals_modifyTables]

theorem withScript (script : Script) {m : M α} (hm : NeedsNoHandle v c m) :
    NeedsNoHandle v c (withScript script m) := by
  intro p hc hp hd
  obtain ⟨running, reserved, deaf, history⟩ :=
    hm { p with scripts := script :: p.scripts } hc (hp.same rfl rfl rfl) hd
  exact ⟨running, reserved.same rfl rfl rfl, deaf, history⟩

/-- Another thread does something while this one waits. -/
theorem onThread {t : ThreadId} {body : M α} (hb : NeedsNoHandle v t body) (ht : t ∉ p.running)
    (apart : ∀ u ∈ p.running, Undisturbed u p (final (onThread t body) p)) (hp : Reserved v p)
    (hd : Deaf p) : Yields v p (final (onThread t body) p) := by
  have hne : t ≠ v := fun same => ht (same ▸ hp.running)
  have entered : Reserved v { p with running := t :: p.running } :=
    ⟨List.mem_cons_of_mem _ hp.running, hp.locked, hp.others⟩
  obtain ⟨running, reserved, -, history⟩ := hb _ rfl entered (entered.deaf hne)
  have left : Reserved v (final (Windowing.onThread t body) p) :=
    ⟨hp.running, reserved.locked, reserved.others⟩
  refine ⟨rfl, left, ?_, history⟩
  by_cases owner : p.current = v
  · have same := apart p.current (owner ▸ hp.running)
    have current : (final (Windowing.onThread t body) p).current = p.current := rfl
    rw [Deaf, Process.locals, Process.here, current, same.thread]
    exact hd
  · exact left.deaf owner

/-- A thread without a handle may be set up anew or forgotten. -/
theorem forget {t : ThreadId} (ht : t ∉ p.running) (h : Yields v p q) {threads : Registry Thread}
    (same : ∀ u, u ≠ t → threads.get u = q.threads.get u) (bare : (threads.get t).Bare) :
    Yields v p { q with threads := threads } := by
  have running := h.running
  have others : ∀ u, u ≠ v → (threads.get u).Bare := fun u hu => by
    by_cases heq : u = t
    · exact heq ▸ bare
    · exact same u heq ▸ h.reserved.others u hu
  have left : Reserved v { q with threads := threads } :=
    ⟨h.reserved.running, h.reserved.locked, others⟩
  refine ⟨running, left, ?_, h.history⟩
  by_cases owner : q.current = v
  · have hne : q.current ≠ t := fun heq =>
      ht (heq ▸ running ▸ owner ▸ h.reserved.running)
    have deaf := h.deaf
    rw [Deaf, Process.locals, Process.here] at deaf ⊢
    change ((threads.get q.current).locals.dropReason).isSome = true
    rw [same _ hne]
    exact deaf
  · exact left.deaf owner

end NeedsNoHandle

/-! ### Operations -/

/-- An action of a thread that has no handle but of contexts. -/
inductive Mild : (α : Type) → (Backend → M α) → Prop where
  | call (call : Call) (h : call.common = true) : Mild _ fun native => native call
  | attempt (call : Call) (h : call.common = true) :
    Mild _ fun native => (checked (native call)).run
  | take : Mild _ fun _ => takeError
  | aside {α : Type} {m : Backend → M α} (h : Aside α m) : Mild α m

/-- The operations that need no handle but of contexts. -/
def Client.Op.mild : Op → Bool
  | .getError | .getVersion | .getVersionString | .getTime | .detachCurrent | .current
  | .swapInterval _ | .extensionSupported _ | .getProcAddress _ | .panic _ | .context _ _ => true
  | _ => false

theorem Composed.mild {sim : Process → Process → Prop} {m : Backend → M α}
    (h : Composed sim Aside m) : Composed sim Mild m :=
  h.mono fun _ _ => .aside

theorem runContext_mild (slot : Nat) (op : ContextOp) :
    Composed SameButPanics Mild fun native => runContext native slot op := by
  refine .bind .getTables fun t => ?_
  cases occupant t.contexts slot with
  | none => exact .pure _
  | some c =>
    cases op with
    | drop => exact (dropContextIn_aside slot _).mild
    | makeCurrent | swapBuffers =>
      exact .answering (.bind (Composed.act (.attempt _ rfl)) fun _ => .pure _)
    | windowId | unknown => exact .pure _

theorem runOp_mild (op : Op) (h : op.mild = true) :
    Composed SameButPanics Mild fun native => runOp native op := by
  have attempt : ∀ {β : Type} {call : Call} {f : Reply → β}, call.common = true →
      Attempts SameButPanics Mild fun native => do
        return f (← checked (native call)) := fun common =>
    .bind (Composed.act (.attempt _ common)) fun _ => .pure _
  have told : ∀ {β : Type} {call : Call} {f : Reply → β}, call.common = true →
      Composed SameButPanics Mild fun native => do return f (← native call) := fun common =>
    .bind (.act (.call _ common)) fun _ => .pure _
  cases op with
  | getError =>
    refine .answering (Composed.bind (.act .take) fun pending => ?_)
    cases pending <;> exact .pure _
  | getVersion | getVersionString | getTime => exact .bind (told rfl) fun _ => .pure _
  | detachCurrent | swapInterval _ => exact .answering (attempt rfl)
  | current => exact .answering (attempt rfl)
  | extensionSupported _ | getProcAddress _ =>
    exact .answering (.bind (.liftExcept _) fun _ => attempt rfl)
  | panic _ => exact (panic_aside _).mild
  | context slot op => exact runContext_mild slot op
  | _ => cases h

/-- Without a handle any other operation is refused while the lock is held. -/
theorem final_runOp_bare (op : Op) (hop : op.mild = false) (hthread : ∀ steps, op ≠ .onThread steps)
    (bare : p.here.Bare) (locked : p.locked = true) : final (runOp native op) p = p := by
  have none := bare.occupants
  cases op with
  | init => exact congrArg Prod.snd (runInit_locked native locked)
  | tryInit => exact congrArg Prod.snd (runTryInit_locked native locked)
  | library slot op =>
    have absent : occupant p.tables.libraries slot = Option.none := (none slot).1
    simp [runOp, runLibrary, absent]
  | window slot op =>
    have absent : occupant p.tables.windows slot = Option.none := (none slot).2.1
    simp only [runOp, runWindow, final_bind, final_getTables, result_getTables, absent]
    split <;> split <;> rfl
  | monitor slot op =>
    have absent : occupant p.tables.monitors slot = Option.none := (none slot).2.2
    simp [runOp, runMonitor, absent]
  | pump slot kind handler =>
    have absent : occupant p.tables.libraries slot = Option.none := (none slot).1
    simp [runOp, runPump, absent]
  | onThread steps => exact absurd rfl (hthread steps)
  | _ => cases hop

/-- A library on which a thread makes only calls that need no handle, unless it is the owner. -/
structure LibraryNeedsNoHandle (native : Backend) (v : ThreadId) : Prop where
  confined : ∀ call, Confined (native call)
  calls : ∀ c call, c = v ∨ call.common = true → NeedsNoHandle v c (native call)

namespace NeedsNoHandle

variable (h : LibraryNeedsNoHandle native v)

include h

theorem checked {call : Call} (hcall : c = v ∨ call.common = true) :
    NeedsNoHandle v c (Windowing.checked (native call)).run := by
  refine .bind takeError fun _ => ?_
  refine .bind (h.calls c call hcall) fun _ => ?_
  refine .bind takeError fun _ => ?_
  refine .bind (setPending _) fun _ => ?_
  exact pure _

theorem mild {m : Backend → M α} (hm : Mild α m) : NeedsNoHandle v c (m native) := by
  cases hm with
  | call call common => exact h.calls c call (.inr common)
  | attempt call common => exact checked h (.inr common)
  | take => exact takeError
  | aside hm =>
    cases hm with
    | lend context => exact note (.inr rfl)
    | giveBack context => exact note (.inr rfl)
    | lent f | panics f => exact alike fun _ => ⟨⟨rfl, rfl, rfl⟩, rfl, rfl, rfl⟩
    | contexts f => exact tables fun _ empty => empty

section Others

variable (hne : c ≠ v)

include hne

omit h in
/-- Slots that are empty anyway. -/
theorem clear {f : Nat → M Unit} {g : Nat → Tables → Tables}
    (hf : ∀ slot p, p.here.Bare → final (f slot) p = final (modifyTables (g slot)) p)
    (ht : ∀ slot (t : Tables), t.handles = [] → (g slot t).handles = []) (slots : List Nat) :
    NeedsNoHandle v c (slots.forM f) := by
  refine forM (fun slot p hc hp hd => ?_) slots
  rw [hf slot p (hp.others _ (hc ▸ hne))]
  exact tables (ht slot) p hc hp hd

omit h hne in
theorem filterMap_set_none {table : List (Option β)} (empty : table.filterMap id = []) (slot : Nat) :
    (table.set slot none).filterMap id = [] :=
  filterMap_eq_nil fun i => by
    rw [occupant_set, occupant_eq_none empty]
    split <;> rfl

omit h in
theorem clearWindows (slots : List Nat) :
    NeedsNoHandle v c (slots.forM fun slot => clearWindow native slot) := by
  refine clear hne (g := fun slot t => { t with windows := t.windows.set slot none })
    (fun slot p bare => final_clearWindow_none (bare.occupants slot).2.1)
      (fun slot t empty => ?_) slots
  simp only [Tables.handles, List.append_eq_nil_iff, List.map_eq_nil_iff] at empty ⊢
  exact ⟨⟨empty.1.1, filterMap_set_none empty.1.2 slot⟩, empty.2⟩

omit h in
theorem clearMonitors (slots : List Nat) :
    NeedsNoHandle v c (slots.forM fun slot => clearMonitor native slot) := by
  refine clear hne (g := fun slot t => { t with monitors := t.monitors.set slot none })
    (fun slot p bare => final_clearMonitor_none (bare.occupants slot).2.2)
      (fun slot t empty => ?_) slots
  simp only [Tables.handles, List.append_eq_nil_iff, List.map_eq_nil_iff] at empty ⊢
  exact ⟨empty.1, filterMap_set_none empty.2 slot⟩

omit h in
theorem clearLibraries (slots : List Nat) :
    NeedsNoHandle v c (slots.forM fun slot => clearLibrary native slot) := by
  refine clear hne (g := fun slot t => { t with libraries := t.libraries.set slot none })
    (fun slot p bare => final_clearLibrary_none (bare.occupants slot).1)
      (fun slot t empty => ?_) slots
  simp only [Tables.handles, List.append_eq_nil_iff, List.map_eq_nil_iff] at empty ⊢
  exact ⟨⟨filterMap_set_none empty.1.1 slot, empty.1.2⟩, empty.2⟩

theorem finish (panicked : Bool) : NeedsNoHandle v c (finish native panicked) := by
  have contexts : ∀ picked, NeedsNoHandle v c (clearContexts picked) := fun picked =>
    composed (fun _ _ => mild h) (clearContexts_aside picked).mild
  refine .bind (.bind look fun _ => pure _) fun t => ?_
  refine .bind (contexts _) fun _ => ?_
  refine .bind (.bind look fun _ => pure _) fun _ => ?_
  refine .bind (tables fun _ empty => empty) fun _ => ?_
  refine .bind (clearWindows hne _) fun _ => ?_
  refine .bind (clearMonitors hne _) fun _ => ?_
  refine .bind (clearLibraries hne _) fun _ => ?_
  exact pure _

omit hne in
/-- A new thread has no handle before it begins and after it ends. -/
theorem spawn (contexts : List (Option (Context × Nat))) {body : M (Option String)}
    (hb : ∀ c, c ≠ v → NeedsNoHandle v c body) (confined : Confined body) :
    NeedsNoHandle v c (spawn native contexts body) := by
  intro p _ hp hd
  have idle := fresh_notMem_running p
  have bare : ((p.withThread contexts).threads.get p.freshThread).Bare := by
    rw [withThread_fresh]
    exact ⟨rfl, rfl, rfl⟩
  have born : Yields v p (p.withThread contexts) :=
    forget idle ⟨rfl, hp, hd, [], rfl, by simp⟩ (fun _ hu => withThread_of_ne hu contexts) bare
  have hne : p.freshThread ≠ v := fun same => idle (same ▸ hp.running)
  have ended : NeedsNoHandle v p.freshThread (runToEnd native body) := by
    refine .bind (hb _ hne) fun _ => ?_
    refine .bind (finish h hne _) fun _ => ?_
    refine .bind (note (.inr rfl)) fun _ => ?_
    exact pure _
  have ran := ended.catchUnwind
  have apart := onThread_apart (p := p.withThread contexts) idle
    (((Confined.compositional h.confined).runToEnd confined).catchUnwind _)
  have left := ran.onThread (p := p.withThread contexts) idle apart.2 born.reserved born.deaf
  rw [final_spawn]
  refine forget idle (born.trans left) (fun u hu => Registry.get_erase_of_ne _ hu) ?_
  rw [Registry.get_erase_self]
  exact ⟨rfl, rfl, rfl⟩

omit hne in
theorem law : StepLaw native fun _ m => (∀ c, c ≠ v → NeedsNoHandle v c m) ∧ Confined m where
  pure a := ⟨fun _ _ => pure a, .pure a⟩
  bind hm hf := ⟨fun c hc => bind (hm.1 c hc) fun a => (hf a).1 c hc, .bind hm.2 fun a => (hf a).2⟩
  operation op small := by
    refine ⟨fun c hc => ?_, (Confined.law h.confined).operation op small⟩
    by_cases hop : op.mild = true
    · exact composed (fun _ _ => mild h) (runOp_mild op hop)
    · intro p hcurrent hp hd
      rw [final_runOp_bare op (by simpa using hop)
        (fun steps heq => by rw [heq] at small; cases small)
        (hp.others _ (hcurrent ▸ hc)) hp.locked]
      exact ⟨rfl, hp, hd, [], rfl, by simp⟩
  pump slot kind handler := by
    refine ⟨fun c hc p hcurrent hp hd => ?_, (Confined.law h.confined).pump slot kind handler⟩
    have refused : final (runPump native slot kind handler) p = p :=
      final_runOp_bare (.pump slot kind handler) rfl nofun (hp.others _ (hcurrent ▸ hc)) hp.locked
    rw [refused]
    exact ⟨rfl, hp, hd, [], rfl, by simp⟩
  thread body hb := by
    refine ⟨fun c _ => ?_, (Confined.law h.confined).thread _ hb.2⟩
    refine .bind look fun _ => ?_
    refine .ite (pure _) ?_
    refine .bind (.bind look fun _ => pure _) fun _ => ?_
    refine .bind (tables fun _ empty => empty) fun _ => ?_
    refine .bind (spawn h _ hb.1 hb.2) fun _ => ?_
    refine .bind (tables fun _ empty => empty) fun _ => ?_
    exact pure _
  step script op hop := by
    refine ⟨fun c hc => ?_, (Confined.law h.confined).step script op hop.2⟩
    refine .bind (note (.inr rfl)) fun _ => ?_
    refine .bind (withScript script (hop.1 c hc)) fun _ => ?_
    refine .bind (note (.inr rfl)) fun _ => ?_
    exact pure _

end Others

/-! ### Turns and callbacks -/

theorem endThread (hne : c ≠ v) (panic : Option String) :
    NeedsNoHandle v c (endThread native c panic) := by
  have ended : NeedsNoHandle v c (do
      let _ ← Client.finish native true
      Windowing.note (.threadEnded panic)) :=
    bind (finish h hne true) fun _ => note (.inr rfl)
  intro p hc hp hd
  obtain ⟨running, reserved, -, history⟩ := ended p hc hp hd
  have others : ∀ u, u ≠ v → ((final (Client.endThread native c panic) p).threads.get u).Bare :=
    fun u hu => by
      rw [final_endThread]
      by_cases heq : u = c
      · rw [heq, Registry.get_erase_self]
        exact ⟨rfl, rfl, rfl⟩
      · rw [Registry.get_erase_of_ne _ heq]
        exact reserved.others u hu
  have left : Reserved v (final (Client.endThread native c panic) p) :=
    ⟨reserved.running, reserved.locked, others⟩
  have current : (final (Client.endThread native c panic) p).current = c :=
    (Process.current_eq running).trans hc
  exact ⟨running, left, left.deaf (current ▸ hne), history⟩

omit h in
theorem interject {t : ThreadId} {body : M Unit} (hb : t ≠ v → NeedsNoHandle v t body)
    (apart : Apart (interject t body)) : NeedsNoHandle v c (interject t body) := by
  intro p hc hp hd
  have undisturbed := (apart p).2
  by_cases busy : p.running.contains t
  · simp only [Client.interject, final_bind, final_get, result_get, busy, ↓reduceIte]
    exact pure () p hc hp hd
  · have idle : t ∉ p.running := by simpa using busy
    simp only [Client.interject, final_bind, final_get, result_get, busy] at undisturbed ⊢
    exact onThread (hb fun same => idle (same ▸ hp.running)) idle undisturbed hp hd

theorem runTurn (turn : Turn) : NeedsNoHandle v c (runTurn native turn) := by
  have apart := Confined.runTurn h.confined turn
  cases turn with
  | finish thread => exact interject (fun hne => endThread h hne none) apart
  | step thread step =>
    refine interject (fun hne => ?_) apart
    refine bind (((law h).runStep step).1 thread hne) fun outcome => ?_
    cases outcome with
    | panicking message => exact endThread h hne _
    | _ => exact pure _

omit h in
/-- Events are dropped. -/
theorem dispatch (react : Reaction) (time : Float) (event : Event) :
    NeedsNoHandle v c (dispatch react time event) := by
  intro p hc hp hd
  obtain ⟨reason, hreason⟩ := Option.isSome_iff_exists.1 hd
  rw [dispatch_dropped hreason]
  exact note (.inr rfl) p hc hp hd

theorem deliver (react : Reaction) (decoded : Except Log Event) :
    NeedsNoHandle v c (deliver native react decoded) := by
  cases decoded with
  | error warning => exact note (.inr rfl)
  | ok event =>
    exact bind (h.calls c .getTime (.inr rfl)) fun reply => dispatch react reply.time event

theorem invoke (callback : Callback) : NeedsNoHandle v c (invoke native callback) := by
  refine bind look fun p => ite (bind (note (.inr rfl)) fun _ => ?_) (pure _)
  cases callback with
  | error code description =>
    exact bind (note (.inr rfl)) fun _ => pending (· <|> _)
  | monitor monitor event => exact deliver h _ _
  | window window signal => exact deliver h _ _

omit h in
theorem callWith {meanwhile : Reply → M Unit} (h : ∀ reply, NeedsNoHandle v c (meanwhile reply))
    {call : Call} (hcall : c = v ∨ call.common = true) :
    NeedsNoHandle v c (callWith meanwhile call) := by
  refine .bind (note hcall) fun _ => ?_
  refine .bind (alike (takeReply_alike call)) fun reply => ?_
  refine .bind (h reply) fun _ => ?_
  refine .bind (alike (settle_alike call)) fun _ => ?_
  refine .bind (note hcall) fun _ => ?_
  exact pure reply

end NeedsNoHandle

theorem backend_libraryNeedsNoHandle (depth : Nat) (v : ThreadId) :
    LibraryNeedsNoHandle (backend depth) v := by
  refine ⟨backend_confined depth, ?_⟩
  induction depth with
  | zero => exact fun c call hcall => .callWith (fun _ => .pure ()) hcall
  | succ depth ih =>
    have libraryNeedsNoHandle : LibraryNeedsNoHandle (backend depth) v := ⟨backend_confined depth, ih⟩
    refine fun c call hcall => .callWith (fun reply => ?_) hcall
    refine .bind (.alike takeTurns_alike) fun batch => ?_
    refine .bind (.forM (.runTurn libraryNeedsNoHandle) batch) fun _ => ?_
    exact .forM (.invoke libraryNeedsNoHandle) reply.callbacks

end Windowing
