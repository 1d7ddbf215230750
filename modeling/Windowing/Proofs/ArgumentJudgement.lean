import Windowing.Proofs.GammaBits
import Windowing.Proofs.WindowCreation
import Windowing.Proofs.SharedState
import Windowing.Proofs.TextTerminators

/-!
Rejected and accepted arguments. Some operations judge what they are given, or where they are called,
before they call the native library. If there is an objection they return it and leave the process
as it is; otherwise they do what they were called for, with the very arguments that were judged.
-/

namespace Windowing

open Native Client

variable {α β ε : Type} {native : Backend} {p q : Process} {call : Call}

/-! ### Objections -/

namespace Objection

def toSize (width height : Int32) : Option Error :=
  if width.toInt ≤ 0 ∨ height.toInt ≤ 0 then some (.invalidSize width height) else none

def toText (s : String) : Option Error :=
  (Text.nulOffset? s).map .containsNul

def toGamma (gamma : Float32) : Option Error :=
  if Binary32.NotANumber gamma ∨ Binary32.Infinite gamma ∨ Binary32.Zero gamma ∨
      Binary32.Negative gamma then some (.invalidGamma gamma)
  else none

/-- A window may not use its context while that is lent. -/
def toContext (p : Process) (w : Window) : Option Error :=
  if w.key ∈ p.lent then some .contextLent else none

/-- A handler may not pump. -/
def toPump (p : Process) (kind : PumpKind) : Option Error :=
  if p.locals.dispatching = true then some (.insideHandler kind.call.name) else none

end Objection

/-- An operation that judges its arguments, or the state in which it is called. -/
inductive Judged where
  | createWindow (hints : List WindowHint) (width height : Int32) (title : String)
      (monitor : Option Monitor) (share : Option Window)
  | setSize (w : Window) (width height : Int32)
  | setTitle (w : Window) (title : String)
  | setClipboard (w : Window) (text : String)
  | supportsExtension (name : String)
  | procAddress (name : String)
  | setGamma (m : Monitor) (gamma : Float32)
  | makeContextCurrent (w : Window)
  | swapBuffers (w : Window)
  | lendContext (w : Window)
  | pump (kind : PumpKind) (handler : Handler)

namespace Judged

/-- What the operation returns. -/
def Returns : Judged → Type
  | .createWindow _ _ _ _ _ _ => Except CreateError Window
  | .supportsExtension _ => Except Error Bool
  | .procAddress _ => Except Error (Option Pointer)
  | .lendContext _ => Except Error Context
  | .pump _ _ => Except String (Except Error Unit)
  | _ => Except Error Unit

def run (native : Backend) : (j : Judged) → M j.Returns
  | .createWindow hints width height title monitor share =>
    (Window.create native hints width height title monitor share).run
  | .setSize w width height => (w.setSize native width height).run
  | .setTitle w title => (w.setTitle native title).run
  | .setClipboard w text => (w.setClipboard native text).run
  | .supportsExtension name => (Context.supportsExtension native name).run
  | .procAddress name => (Context.procAddress native name).run
  | .setGamma m gamma => (m.setGamma native gamma).run
  | .makeContextCurrent w => (w.makeContextCurrent native).run
  | .swapBuffers w => (w.swapBuffers native).run
  | .lendContext w => (Context.lend w).run
  | .pump kind handler => (Windowing.pump native kind handler).run

/-- What is wrong with the arguments or the state, a size before a title. -/
def objection (p : Process) : Judged → Option Error
  | .createWindow _ width height title _ _ =>
    (Objection.toSize width height).or (Objection.toText title)
  | .setSize _ width height => Objection.toSize width height
  | .setTitle _ text | .setClipboard _ text | .supportsExtension text | .procAddress text =>
    Objection.toText text
  | .setGamma _ gamma => Objection.toGamma gamma
  | .makeContextCurrent w | .swapBuffers w | .lendContext w => Objection.toContext p w
  | .pump kind _ => Objection.toPump p kind

/-- The operation returns with the error. -/
def fails (e : Error) : (j : Judged) → j.Returns
  | .createWindow _ _ _ _ _ _ => .error (.creation e)
  | .setSize _ _ _ | .setTitle _ _ | .setClipboard _ _ | .supportsExtension _ | .procAddress _
  | .setGamma _ _ | .makeContextCurrent _ | .swapBuffers _ | .lendContext _ => .error e
  | .pump _ _ => .ok (.error e)

end Judged

/-- The next that happens is the call. -/
def CallsNext (call : Call) (p q : Process) : Prop :=
  (⟨p.current, .called call⟩ :: p.history) <:+ q.history

/-- A pump that is not refused. -/
def pumpOn (native : Backend) (kind : PumpKind) (handler : Handler) :
    Unwinding (Except Error Unit) := do
  let ended ← processEvents native kind.call handler
  if let some message ← takePanic then throw message
  return ended.map fun _ => ()

namespace Judged

/-- The native call that the arguments are for; a lent context needs none. -/
def call? : Judged → Option Call
  | .createWindow _ width height title monitor share =>
    some (.createWindow width height title.toUTF8.data.toList ((monitor.map (·.pointer)).getD null)
      ((share.map (·.pointer)).getD null))
  | .setSize w width height => some (.setWindowSize w.pointer width height)
  | .setTitle w title => some (.setWindowTitle w.pointer title.toUTF8.data.toList)
  | .setClipboard w text => some (.setClipboardString w.pointer text.toUTF8.data.toList)
  | .supportsExtension name => some (.extensionSupported name.toUTF8.data.toList)
  | .procAddress name => some (.getProcAddress name.toUTF8.data.toList)
  | .setGamma m gamma => some (.setGamma m.pointer gamma)
  | .makeContextCurrent w => some (.makeContextCurrent w.pointer)
  | .swapBuffers w => some (.swapBuffers w.pointer)
  | .lendContext _ => none
  | .pump kind _ => some kind.call

/-- What the operation does if there is no objection: it makes its call next, a creation after the
hints, if none of them fails; and the context of a window is lent without a call. -/
def Performs (native : Backend) (p : Process) (j : Judged) : Prop :=
  match j with
  | .createWindow hints width height title monitor share =>
    let created := (Window.create native hints width height title monitor share).run
    let hinted := (Window.hinted native hints).run
    match result hinted p with
    | .error e => created.run p = (.error e, final hinted p)
    | .ok () => ∀ call ∈ j.call?, CallsNext call (final hinted p) (final created p)
  | .lendContext w => (Context.lend w).run.run p = (.ok ⟨w.pointer, w.key⟩,
      { p with lent := w.key :: p.lent }.note (.obtained (.context ⟨w.pointer, w.key⟩)))
  | j => ∀ call ∈ j.call?, CallsNext call p (final (j.run native) p)

/-- The part of the operation that comes after the judgement. -/
def act (native : Backend) : (j : Judged) → M j.Returns
  | .createWindow hints width height title monitor share =>
    (Window.build native hints width height title.toUTF8.data.toList monitor share).run
  | .setSize w width height => (perform native (.setWindowSize w.pointer width height)).run
  | .setTitle w title => (perform native (.setWindowTitle w.pointer title.toUTF8.data.toList)).run
  | .setClipboard w text =>
    (perform native (.setClipboardString w.pointer text.toUTF8.data.toList)).run
  | .supportsExtension name => ExceptT.run do
    let reply ← checked (native (.extensionSupported name.toUTF8.data.toList))
    return Flag.isSet reply.value
  | .procAddress name => ExceptT.run do
    let reply ← checked (native (.getProcAddress name.toUTF8.data.toList))
    return if reply.pointer = null then none else some reply.pointer
  | .setGamma m gamma => (perform native (.setGamma m.pointer gamma)).run
  | .makeContextCurrent w => (perform native (.makeContextCurrent w.pointer)).run
  | .swapBuffers w => (perform native (.swapBuffers w.pointer)).run
  | .lendContext w => do
    modify fun p => { p with lent := w.key :: p.lent }
    note (.obtained (.context ⟨w.pointer, w.key⟩))
    return .ok ⟨w.pointer, w.key⟩
  | .pump kind handler => (pumpOn native kind handler).run

end Judged

/-! ### Judgements -/

theorem checkSize_eq (width height : Int32) :
    checkSize width height = verdict () (Objection.toSize width height) := by
  have positive : (0 < width ∧ 0 < height) ↔ ¬(width.toInt ≤ 0 ∨ height.toInt ≤ 0) := by
    rw [Int32.lt_iff_toInt_lt, Int32.lt_iff_toInt_lt, Int32.toInt_zero]
    omega
  unfold checkSize Objection.toSize
  by_cases outside : width.toInt ≤ 0 ∨ height.toInt ≤ 0 <;> simp only [positive, outside] <;> rfl

theorem terminated_eq (s : String) :
    terminated s = verdict s.toUTF8.data.toList (Objection.toText s) := by
  rw [terminated, Text.terminable?_eq, Objection.toText]
  cases Text.nulOffset? s <;> rfl

theorem terminated_of_unterminated {s : String} (h : '\x00' ∉ s.toList) :
    terminated s = .ok s.toUTF8.data.toList := by
  rw [terminated_eq, Objection.toText, Text.nulOffset?, if_neg h]
  rfl

theorem checkGamma_eq (gamma : Float32) :
    GammaRamp.checkGamma gamma = verdict () (Objection.toGamma gamma) := by
  unfold GammaRamp.checkGamma Objection.toGamma
  by_cases outside : Binary32.NotANumber gamma ∨ Binary32.Infinite gamma ∨ Binary32.Zero gamma ∨
      Binary32.Negative gamma <;> simp only [Binary32.validGamma_iff, outside] <;> rfl

/-- An objection is an error of an invalid value. -/
theorem Judged.objection_kind {j : Judged} {e : Error} (h : j.objection p = some e) :
    e.kind = some .invalidValue := by
  have size {width height : Int32} (h : Objection.toSize width height = some e) :
      e.kind = some .invalidValue := by
    unfold Objection.toSize at h
    split at h <;> cases h
    rfl
  have text {s : String} (h : Objection.toText s = some e) : e.kind = some .invalidValue := by
    obtain ⟨offset, -, rfl⟩ := Option.map_eq_some_iff.1 h
    rfl
  have context {w : Window} (h : Objection.toContext p w = some e) :
      e.kind = some .invalidValue := by
    unfold Objection.toContext at h
    split at h <;> cases h
    rfl
  cases j with
  | createWindow hints width height title monitor share =>
    rcases Option.or_eq_some_iff.1 h with h | ⟨-, h⟩
    · exact size h
    · exact text h
  | setSize w width height => exact size h
  | setTitle w s | setClipboard w s => exact text h
  | supportsExtension s | procAddress s => exact text h
  | setGamma m gamma =>
    simp only [Judged.objection, Objection.toGamma] at h
    split at h <;> cases h
    rfl
  | makeContextCurrent w | swapBuffers w | lendContext w => exact context h
  | pump kind handler =>
    simp only [Judged.objection, Objection.toPump] at h
    split at h <;> cases h
    rfl

/-- What follows a judgement is done without an objection, and not at all with one. -/
theorem run_verdict_bind (a : α) (o : Option Error) (f : α → Attempt β) (p : Process) :
    (liftExcept (verdict a o) >>= f).run.run p =
      match o with
      | some e => (.error e, p)
      | none => (f a).run.run p := by
  cases o <;> rfl

theorem run_create (native : Backend) (hints : List WindowHint) (width height : Int32)
    (title : String) (monitor : Option Monitor) (share : Option Window) (p : Process) :
    (Window.create native hints width height title monitor share).run.run p =
      match (Objection.toSize width height).or (Objection.toText title) with
      | some e => (.error (.creation e), p)
      | none => (Window.build native hints width height title.toUTF8.data.toList monitor
        share).run.run
          p := by
  rw [Window.create_eq, checkSize_eq, terminated_eq]
  cases Objection.toSize width height <;> cases Objection.toText title <;> rfl

theorem toContext_eq (p : Process) (w : Window) : Objection.toContext p w =
    if p.lent.contains w.key = true then some .contextLent else none := by
  simp [Objection.toContext]

theorem run_owned_bind (w : Window) (f : Unit → Attempt α) (p : Process) :
    (w.ensureContextOwned >>= f).run.run p =
      match Objection.toContext p w with
      | some e => (.error e, p)
      | none => (f ()).run.run p := by
  rw [toContext_eq, ExceptT.run_bind, StateT.run_bind]
  cases lent : p.lent.contains w.key with
  | true =>
    rw [owned_lent lent]
    rfl
  | false =>
    rw [owned_free lent]
    rfl

theorem run_lend (w : Window) (p : Process) :
    (Context.lend w).run.run p =
      match Objection.toContext p w with
      | some e => (.error e, p)
      | none => (.ok ⟨w.pointer, w.key⟩,
          { p with lent := w.key :: p.lent }.note (.obtained (.context ⟨w.pointer, w.key⟩))) := by
  rw [toContext_eq]
  cases lent : p.lent.contains w.key with
  | true => exact lend_lent lent
  | false => exact lend_unlent lent

theorem run_pump (native : Backend) (kind : PumpKind) (handler : Handler) (p : Process) :
    (pump native kind handler).run.run p =
      match Objection.toPump p kind with
      | some e => (.ok (.error e), p)
      | none => (pumpOn native kind handler).run.run p := by
  have looked : (pump native kind handler).run.run p =
      (if p.locals.dispatching then return .error (.insideHandler kind.call.name)
        else pumpOn native kind handler : Unwinding (Except Error Unit)).run.run p := rfl
  rw [looked, Objection.toPump]
  by_cases busy : p.locals.dispatching = true <;> simp only [busy, if_true] <;> rfl

/-- An operation returns the objection and leaves all as it is, or goes on without one. -/
theorem Judged.run_eq (native : Backend) (p : Process) (j : Judged) :
    (j.run native).run p =
      match j.objection p with
      | some e => (j.fails e, p)
      | none => (j.act native).run p := by
  cases j with
  | createWindow hints width height title monitor share =>
    exact run_create native hints width height title monitor share p
  | setSize w width height =>
    simp only [run, Window.setSize, checkSize_eq]
    exact run_verdict_bind _ _ _ p
  | setTitle w title =>
    simp only [run, Window.setTitle, terminated_eq]
    exact run_verdict_bind _ _ _ p
  | setClipboard w text =>
    simp only [run, Window.setClipboard, terminated_eq]
    exact run_verdict_bind _ _ _ p
  | supportsExtension name =>
    simp only [run, Context.supportsExtension, terminated_eq]
    exact run_verdict_bind _ _ _ p
  | procAddress name =>
    simp only [run, Context.procAddress, terminated_eq]
    exact run_verdict_bind _ _ _ p
  | setGamma m gamma =>
    simp only [run, Monitor.setGamma, checkGamma_eq]
    exact run_verdict_bind _ _ _ p
  | makeContextCurrent w => exact run_owned_bind w _ p
  | swapBuffers w => exact run_owned_bind w _ p
  | lendContext w => exact run_lend w p
  | pump kind handler => exact run_pump native kind handler p

/-! ### Performance -/

namespace CallsNext

/-- What happens later does not matter. -/
theorem later {r : Process} (h : CallsNext call p q) (grows : q.history <:+ r.history) :
    CallsNext call p r := List.IsSuffix.trans h grows

theorem callWith {meanwhile : Reply → M Unit} (h : ∀ reply, Grows (meanwhile reply)) (call : Call)
    (p : Process) : CallsNext call p (final (callWith meanwhile call) p) := by
  have rest : Grows (do
      let reply ← takeReply call
      meanwhile reply
      settle call
      note (.returned call reply)
      return reply) := by
    refine .bind (.same fun p => (takeReply_alike call p).history) fun reply => ?_
    refine .bind (h reply) fun _ => ?_
    refine .bind (.same fun p => (settle_alike call p).history) fun _ => ?_
    refine .bind (Grows.closed.note _) fun _ => ?_
    exact Grows.closed.pure _
  exact rest (p.note (.called call))

theorem backend (depth : Nat) (call : Call) (p : Process) :
    CallsNext call p (final (backend depth call) p) := by
  cases depth with
  | zero => exact callWith (fun _ => Grows.closed.pure _) call p
  | succ depth =>
    have grows := Grows.compositional (backend_grows depth)
    refine callWith (fun reply => ?_) call p
    exact .bind (m := takeAllTurns _) grows.takeAllTurns fun _ =>
      grows.forM grows.invoke reply.callbacks

/-- A checked call is made at once. -/
theorem checked (depth : Nat) (call : Call) (p : Process) :
    CallsNext call p (final (checked (Windowing.backend depth call)).run p) := by
  have made := backend depth call (final takeError p)
  have after : Grows (do
      let inner ← takeError
      setPending p.locals.pending
      return inner) := by
    refine .bind Grows.closed.takeError fun _ => ?_
    refine .bind (Grows.closed.setHere _) fun _ => ?_
    exact Grows.closed.pure _
  exact later made (after _)

theorem bind {x : ExceptT ε M α} {f : α → ExceptT ε M β} (h : CallsNext call p (final x.run p))
    (hf : ∀ a, Grows (f a).run) : CallsNext call p (final (x >>= f).run p) := by
  cases reached : result x.run p with
  | error e =>
    rw [(run_bind_error reached).2]
    exact h
  | ok a =>
    rw [(run_bind_ok reached).2]
    exact h.later (hf a _)

theorem perform (depth : Nat) (call : Call) (p : Process) :
    CallsNext call p (final (perform (Windowing.backend depth) call).run p) :=
  bind (checked depth call p) fun _ => Grows.closed.pure _

/-- The native window is created right after the hints. -/
theorem createNative (depth : Nat) (width height : Int32) (title : Text.Bytes)
    (monitor : Option Monitor) (share : Option Window) (p : Process) :
    CallsNext (.createWindow width height title ((monitor.map (·.pointer)).getD null)
      ((share.map (·.pointer)).getD null)) p
      (final (Window.createNative (Windowing.backend depth) width height title monitor share).run
        p) := by
  refine bind (checked depth _ p) fun reply => ?_
  by_cases absent : reply.pointer = null <;> simp only [absent, if_true, if_false] <;>
    exact Grows.closed.pure _

/-- A pump makes its call as soon as its handler is installed. -/
theorem pump (depth : Nat) (kind : PumpKind) (handler : Handler)
    (free : ¬p.locals.dispatching = true) :
    CallsNext kind.call p (final (pump (Windowing.backend depth) kind handler).run p) := by
  let installed := final (modifyLocals fun s => { s with handler := some handler }) p
  have made : CallsNext kind.call p
      (final (Windowing.checked (Windowing.backend depth kind.call)).run installed) :=
    checked depth kind.call installed
  have grows := Grows.compositional (backend_grows depth)
  have tidied : Grows (do
      modifyLocals fun s => { s with handler := none }
      let doomed ← takeDeferred
      doomed.forM fun pointer => Window.destroy (Windowing.backend depth) pointer
      takePanic) := by
    refine .bind (grows.setHere _) fun _ => ?_
    refine .bind grows.takeDeferred fun doomed => ?_
    refine .bind (grows.forM grows.destroy doomed) fun _ => ?_
    exact grows.takePanic
  rw [final_pump free]
  exact later made (tidied _)

/-- The call that creates a window comes right after its hints. -/
theorem build (depth : Nat) (hints : List WindowHint) (width height : Int32) (title : Text.Bytes)
    (monitor : Option Monitor) (share : Option Window)
    (hinted : result (Window.hinted (Windowing.backend depth) hints).run p = .ok ()) :
    CallsNext (.createWindow width height title ((monitor.map (·.pointer)).getD null)
      ((share.map (·.pointer)).getD null))
      (final (Window.hinted (Windowing.backend depth) hints).run p)
      (final (Window.build (Windowing.backend depth) hints width height title monitor share).run
        p) := by
  have kept (pointer : Pointer) : Grows (Window.keep (Windowing.backend depth) pointer) :=
    .bind (Grows.closed.forM
      (fun channel => .bind (backend_grows depth _) fun _ => Grows.closed.pure _) _)
      fun _ => (Window.adopt_growsConfined pointer).grows
  rw [Window.build, (run_bind_ok hinted).2]
  exact bind (createNative depth width height title monitor share _) fun pointer =>
    .bind (kept pointer) fun _ => Grows.closed.pure _

end CallsNext

/-- Without an objection an operation does what it is for. -/
theorem Judged.performs {j : Judged} (h : j.objection p = none) (depth : Nat) :
    j.Performs (backend depth) p := by
  have goes := j.run_eq (backend depth) p
  rw [h] at goes
  have ends : final (j.run (backend depth)) p = final (j.act (backend depth)) p :=
    congrArg Prod.snd goes
  cases j with
  | createWindow hints width height title monitor share =>
    cases hinted : result (Window.hinted (backend depth) hints).run p with
    | error e =>
      simp only [Performs, hinted]
      obtain ⟨failed, ended⟩ := Window.build_unhinted hinted
      exact goes.trans (Prod.ext failed ended)
    | ok _ =>
      simp only [Performs, hinted]
      rintro _ ⟨⟩
      have built : final (Window.create (backend depth) hints width height title monitor share).run
          p = _ := ends
      rw [built]
      exact .build depth hints width height _ monitor share hinted
  | lendContext w => exact goes
  | supportsExtension name =>
    rintro _ ⟨⟩
    rw [ends]
    exact .bind (.checked depth _ p) fun _ => Grows.closed.pure _
  | procAddress name =>
    rintro _ ⟨⟩
    rw [ends]
    exact .bind (.checked depth _ p) fun _ => Grows.closed.pure _
  | pump kind handler =>
    rintro _ ⟨⟩
    exact .pump depth kind handler (by simpa [objection, Objection.toPump] using h)
  | _ =>
    rintro _ ⟨⟩
    rw [ends]
    exact .perform depth _ p

theorem Objection.toGamma_eq_none_iff (gamma : Float32) :
    Objection.toGamma gamma = none ↔ GammaRamp.validGamma gamma = true := by
  simp [Objection.toGamma, Binary32.validGamma_iff]

/-- A ramp can be made from the gammas that are accepted. -/
theorem GammaRamp.ofGamma_ok_iff (gamma : Float32) :
    (∃ ramp, GammaRamp.ofGamma gamma = .ok ramp) ↔ GammaRamp.validGamma gamma = true := by
  unfold GammaRamp.ofGamma GammaRamp.checkGamma
  cases GammaRamp.validGamma gamma with
  | true => exact ⟨fun _ => rfl, fun _ => ⟨_, rfl⟩⟩
  | false =>
    constructor
    · rintro ⟨_, failed⟩
      cases failed
    · intro valid
      exact absurd valid Bool.false_ne_true

/-- Rejected arguments have no effect: the objection to them is returned, an error of an invalid value,
and nothing else is different. Accepted ones are handed over as they are. The accepted gammas are
those with bits between zero and infinity, the same that a ramp can be made from. -/
theorem argument_judgement (depth : Nat) (p : Process) (j : Judged) :
    (match j.objection p with
      | some e => e.kind = some .invalidValue ∧ (j.run (backend depth)).run p = (j.fails e, p)
      | none => j.Performs (backend depth) p) ∧
    ∀ (m : Monitor) (gamma : Float32),
      ((Judged.setGamma m gamma).objection p = none ↔
        0 < gamma.toBits.toNat ∧ gamma.toBits.toNat < 0x7F800000) ∧
      ((Judged.setGamma m gamma).objection p = none ↔
        ∃ ramp, GammaRamp.ofGamma gamma = .ok ramp) := by
  refine ⟨?_, fun m gamma => ⟨?_, ?_⟩⟩
  · have goes := j.run_eq (backend depth) p
    cases objects : j.objection p with
    | some e =>
      rw [objects] at goes
      exact ⟨Judged.objection_kind objects, goes⟩
    | none => exact Judged.performs objects depth
  · exact (Objection.toGamma_eq_none_iff gamma).trans Binary32.validGamma_iff_bits
  · exact (Objection.toGamma_eq_none_iff gamma).trans (GammaRamp.ofGamma_ok_iff gamma).symm

/-- The size of a window is judged before its title. -/
example : (Judged.createWindow [] 0 5 "a\x00" none none).objection default =
    some (.invalidSize 0 5) := rfl

end Windowing
