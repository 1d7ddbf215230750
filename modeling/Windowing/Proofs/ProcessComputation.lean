import Windowing.PendingError

/-!
Computations on a process as functions: what a computation returns and which process it leaves. Both
are read off a composite computation part by part, so the laws of the operations can be stated
without the monad.
-/

namespace Windowing

open Native Client

variable {α β ε : Type}

def result (m : M α) (p : Process) : α := (m.run p).1

def final (m : M α) (p : Process) : Process := (m.run p).2

@[simp] theorem result_pure (a : α) (p : Process) : result (pure a) p = a := rfl

@[simp] theorem final_pure (a : α) (p : Process) : final (pure a) p = p := rfl

@[simp] theorem result_modifyGet (f : Process → α × Process) (p : Process) :
    result (modifyGet f) p = (f p).1 := rfl

@[simp] theorem final_modifyGet (f : Process → α × Process) (p : Process) :
    final (modifyGet f) p = (f p).2 := rfl

@[simp] theorem result_bind (m : M α) (f : α → M β) (p : Process) :
    result (m >>= f) p = result (f (result m p)) (final m p) := rfl

@[simp] theorem final_bind (m : M α) (f : α → M β) (p : Process) :
    final (m >>= f) p = final (f (result m p)) (final m p) := rfl

@[simp] theorem result_map (f : α → β) (m : M α) (p : Process) :
    result (f <$> m) p = f (result m p) := rfl

@[simp] theorem final_map (f : α → β) (m : M α) (p : Process) :
    final (f <$> m) p = final m p := rfl

@[simp] theorem result_get (p : Process) : result get p = p := rfl

@[simp] theorem final_get (p : Process) : final get p = p := rfl

@[simp] theorem final_modify (f : Process → Process) (p : Process) :
    final (modify f) p = f p := rfl

@[simp] theorem final_note (h : Happening) (p : Process) : final (note h) p = p.note h := rfl

@[simp] theorem result_getLocals (p : Process) : result getLocals p = p.locals := rfl

@[simp] theorem final_getLocals (p : Process) : final getLocals p = p := rfl

@[simp] theorem result_getTables (p : Process) : result getTables p = p.tables := rfl

@[simp] theorem final_getTables (p : Process) : final getTables p = p := rfl

theorem final_modifyLocals (f : Locals → Locals) (p : Process) :
    final (modifyLocals f) p = p.setHere { p.here with locals := f p.locals } := rfl

theorem final_modifyTables (f : Tables → Tables) (p : Process) :
    final (modifyTables f) p = p.setHere { p.here with tables := f p.tables } := rfl

@[simp] theorem locals_modifyLocals (f : Locals → Locals) (p : Process) :
    (final (modifyLocals f) p).locals = f p.locals := by
  simp [final_modifyLocals, Process.locals]

@[simp] theorem locals_modifyTables (f : Tables → Tables) (p : Process) :
    (final (modifyTables f) p).locals = p.locals := by
  simp [final_modifyTables, Process.locals]

@[simp] theorem tables_modifyTables (f : Tables → Tables) (p : Process) :
    (final (modifyTables f) p).tables = f p.tables := by
  simp [final_modifyTables, Process.tables]

@[simp] theorem tables_modifyLocals (f : Locals → Locals) (p : Process) :
    (final (modifyLocals f) p).tables = p.tables := by
  simp [final_modifyLocals, Process.tables]

@[simp] theorem locals_note (h : Happening) (p : Process) : (p.note h).locals = p.locals := rfl

@[simp] theorem tables_note (h : Happening) (p : Process) : (p.note h).tables = p.tables := rfl

@[simp] theorem result_takeError (p : Process) : result takeError p = p.locals.pending := rfl

@[simp] theorem locals_setPending (e : Option Error) (p : Process) :
    (final (setPending e) p).locals = { p.locals with pending := e } :=
  locals_modifyLocals _ p

@[simp] theorem locals_takeError (p : Process) :
    (final takeError p).locals = { p.locals with pending := none } :=
  locals_setPending none p

@[simp] theorem result_catchUnwind (body : M α) (p : Process) :
    result (catchUnwind body) p = result body p := rfl

theorem final_catchUnwind (body : M α) (p : Process) :
    final (catchUnwind body) p = final catchPanic (final body p) := rfl

/-- An error if there is one, else the value. -/
def verdict (value : α) : Option Error → Except Error α
  | some e => .error e
  | none => .ok value

/-- A checked call runs its body with nothing pending. -/
theorem result_checked (body : M α) (p : Process) :
    result (checked body).run p =
      verdict (result body (final takeError p))
        (final body (final takeError p)).locals.pending := by
  change (match (final body (final takeError p)).locals.pending with
    | some e => Except.error e
    | none => Except.ok (result body (final takeError p))) = _
  cases (final body (final takeError p)).locals.pending <;> rfl

theorem final_checked (body : M α) (p : Process) :
    final (checked body).run p =
      final (setPending p.locals.pending) (final takeError (final body (final takeError p))) :=
  rfl

/-- The error callback records an error unless one is pending already. -/
theorem locals_onError (code : Int32) (description : Option Text.Bytes) (p : Process) :
    (final (onError code description) p).locals = { p.locals with
      pending := p.locals.pending <|>
        some (.reported code ((description.map Text.read).getD "")) } := by
  simp only [onError, log, final_bind, final_note, locals_modifyLocals, locals_note]

/-- The threads and the history are the same. -/
structure SameThreads (p q : Process) : Prop where
  running : q.running = p.running
  threads : q.threads = p.threads
  history : q.history = p.history

/-- Nothing but the native library and the lent contexts may have changed. -/
structure Alike (p q : Process) : Prop extends SameThreads p q where
  locked : q.locked = p.locked
  holders : q.holders = p.holders
  nextKey : q.nextKey = p.nextKey

theorem Process.current_eq {p q : Process} (h : q.running = p.running) : q.current = p.current := by
  rw [Process.current, h, Process.current]

theorem SameThreads.current {p q : Process} (h : SameThreads p q) : q.current = p.current :=
  Process.current_eq h.running

theorem SameThreads.here {p q : Process} (h : SameThreads p q) : q.here = p.here := by
  rw [Process.here, h.threads, h.current, Process.here]

theorem SameThreads.locals {p q : Process} (h : SameThreads p q) : q.locals = p.locals := by
  rw [Process.locals, h.here, Process.locals]

theorem SameThreads.tables {p q : Process} (h : SameThreads p q) : q.tables = p.tables := by
  rw [Process.tables, h.here, Process.tables]

theorem Alike.rfl {p : Process} : Alike p p :=
  ⟨⟨Eq.refl _, Eq.refl _, Eq.refl _⟩, Eq.refl _, Eq.refl _, Eq.refl _⟩

theorem beginPanic_alike (p : Process) : Alike p (final beginPanic p) :=
  ⟨⟨rfl, rfl, rfl⟩, rfl, rfl, rfl⟩

theorem catchPanic_alike (p : Process) : Alike p (final catchPanic p) :=
  ⟨⟨rfl, rfl, rfl⟩, rfl, rfl, rfl⟩

theorem alike_scripts (p : Process) (scripts : List Script) :
    Alike p { p with scripts := scripts } :=
  ⟨⟨rfl, rfl, rfl⟩, rfl, rfl, rfl⟩

end Windowing
