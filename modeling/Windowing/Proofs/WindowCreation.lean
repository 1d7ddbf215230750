import Windowing.Proofs.PendingErrorFrame
import Windowing.Proofs.ThreadPossessions

/-!
The creation of a window, from its first call to its last. The hints and the native window are
asked for in checked calls, and the first error of theirs is what the creation fails with; the
callbacks are registered in unchecked calls once the window is there. Two things are lost between
these: a window that is returned although an error was reported, and an error that is reported by a
registration.
-/

namespace Windowing

open Native Client

variable {α β ε δ : Type} {native : Backend} {p : Process} {hs : List Happening}
  {outcome : Except CreateError Window}

/-- The calls that set the hints. -/
def Native.Call.hints : Call → Bool
  | .defaultWindowHints | .windowHint .. => true
  | _ => false

/-- The call that creates a window. -/
def Happening.creates : Happening → Bool
  | .called call => call.creates
  | _ => false

/-! ### Calls and their replies -/

/-- A library whose calls return what they answer, and only report errors before, as long as no
handler waits for events. -/
def Replies (native : Backend) : Prop :=
  ∀ call p, p.current ∈ p.running → Deaf p → ∃ hs, (∀ h ∈ hs, h.Serves fun _ => False) ∧
    Leaves p (final (native call) p)
      (.called call :: hs ++ [.returned call (result (native call) p)]) ∧
    (final (native call) p).locals.pending = (p.locals.pending <|> (reports hs).head?)

theorem callWith_replies {meanwhile : Reply → M Unit}
    (h : ∀ reply, Reports (fun _ => False) (meanwhile reply)) : Replies (callWith meanwhile) := by
  intro call p hr hd
  have body : Reports (fun _ => False) (do
      let reply ← takeReply call
      meanwhile reply
      settle call) := by
    refine .bind (.alike (takeReply_alike call)) fun reply => ?_
    refine .bind (h reply) fun _ => ?_
    exact .alike (settle_alike call)
  obtain ⟨hs, unaffected, left, pending⟩ := body (p.note (.called call)) hr hd
  exact ⟨hs, unaffected, ((Leaves.note rfl p).trans left).trans (.note rfl _), pending⟩

theorem backend_replies (depth : Nat) : Replies (backend depth) := by
  cases depth with
  | zero => exact callWith_replies fun _ => .pure ()
  | succ depth =>
    have turns : ∀ turn, Reports (fun _ => False) (runTurn (backend depth) turn) := fun turn =>
      .apart (Confined.runTurn (backend_confined depth) turn)
    exact callWith_replies fun reply => .bind (.alike takeTurns_alike) fun batch =>
      .bind (.forM turns batch) fun _ => .forM (.invoke (backend_answers depth)) reply.callbacks

theorem reports_call (call : Call) (hs : List Happening) (reply : Reply) :
    reports (.called call :: hs ++ [.returned call reply]) = reports hs := by
  rw [reports_append, reports, List.filterMap_cons_none rfl]
  exact List.append_nil _

/-- What a checked call comes to, with the entries between the call and its return. -/
theorem Replies.checked (h : Replies native) (call : Call) (hr : p.current ∈ p.running)
    (hd : Deaf p) : ∃ (hs : List Happening) (reply : Reply),
      (∀ h ∈ hs, h.Serves fun _ => False) ∧
      Leaves p (final (checked (native call)).run p) (.called call :: hs ++ [.returned call reply]) ∧
      result (checked (native call)).run p = verdict reply (reports hs).head? := by
  have taken : Leaves p (final takeError p) [] := .setPending none p
  obtain ⟨hs, unaffected, left, pending⟩ := h call _ (taken.mem_running hr) (taken.deaf hd)
  have through : Leaves p (final (Windowing.checked (native call)).run p) _ :=
    ((taken.trans left).trans (.setPending none _)).trans (.setPending p.locals.pending _)
  rw [List.append_nil, List.append_nil, List.nil_append] at through
  refine ⟨hs, _, unaffected, through, ?_⟩
  rw [result_checked, pending, locals_takeError]
  rfl

/-! ### Hints -/

/-- An attempt that makes no calls but for hints, all of them checked, and fails with the first
error that they report. -/
def Prepares (cause : ε → Error) (x : ExceptT ε M α) : Prop :=
  ∀ p, p.current ∈ p.running → Deaf p → ∃ hs, (∀ h ∈ hs, h.Serves (·.hints = true)) ∧
    Leaves p (final x.run p) hs ∧ match result x.run p with
      | .ok _ => reports hs = []
      | .error e => ∀ first ∈ (reports hs).head?, cause e = first

namespace Prepares

variable {cause : ε → Error}

theorem liftExcept (x : Except ε α) : Prepares cause (liftExcept x) := by
  intro p _ _
  refine ⟨[], by simp, ?_, ?_⟩
  · cases x <;> exact .refl
  · cases x with
    | error e => exact fun first h => by cases h
    | ok a => rfl

theorem bind {x : ExceptT ε M α} {f : α → ExceptT ε M β} (hx : Prepares cause x)
    (hf : ∀ a, Prepares cause (f a)) : Prepares cause (x >>= f) := by
  intro p hr hd
  obtain ⟨hs, unaffected, left, first⟩ := hx p hr hd
  rw [ExceptT.run_bind, result_bind, final_bind]
  cases outcome : result x.run p with
  | error e => exact ⟨hs, unaffected, left, by simpa [outcome] using first⟩
  | ok a =>
    have silent : reports hs = [] := by simpa [outcome] using first
    obtain ⟨hs', unaffected', left', first'⟩ := hf a _ (left.mem_running hr) (left.deaf hd)
    refine ⟨hs ++ hs', fun h hh => ?_, left.trans left', ?_⟩
    · exact (List.mem_append.1 hh).elim (unaffected h) (unaffected' h)
    · rw [reports_append, silent]
      exact first'

theorem adapt {f : ε → δ} {cause : δ → Error} {x : ExceptT ε M α}
    (hx : Prepares (fun e => cause (f e)) x) : Prepares cause (ExceptT.adapt f x) := by
  intro p hr hd
  obtain ⟨hs, unaffected, left, first⟩ := hx p hr hd
  refine ⟨hs, unaffected, left, ?_⟩
  change match (result x.run p).mapError f with
    | .ok _ => reports hs = []
    | .error e => ∀ first ∈ (reports hs).head?, cause e = first
  cases outcome : result x.run p with
  | error e | ok a =>
    rw [outcome] at first
    exact first

theorem checked (h : Replies native) {call : Call} (hc : call.hints = true) :
    Prepares id (checked (native call)) := by
  intro p hr hd
  obtain ⟨hs, reply, unaffected, left, outcome⟩ := h.checked call hr hd
  refine ⟨_, fun e he => ?_, left, ?_⟩
  · simp only [List.cons_append, List.mem_cons, List.mem_append, List.not_mem_nil, or_false] at he
    rcases he with rfl | he | rfl
    · exact .inl hc
    · exact (unaffected e he).mono fun _ h => h.elim
    · exact .inl hc
  · rw [outcome, reports_call]
    cases reports hs <;> simp [verdict]

theorem applyHints (h : Replies native) (index : Nat) (hints : List WindowHint) :
    Prepares CreateError.cause (Window.applyHints native index hints) := by
  induction hints generalizing index with
  | nil => exact .liftExcept (.ok ())
  | cons hint rest ih => exact .bind (.adapt (checked h rfl)) fun _ => ih (index + 1)

end Prepares

/-- The hints of a window, which are set between the judgement of its arguments and their use. -/
def Window.hinted (native : Backend) (hints : List WindowHint) : ExceptT CreateError M Unit := do
  let _ ← ExceptT.adapt .creation (checked (native .defaultWindowHints))
  Window.applyHints native 0 hints

theorem Replies.hinted (h : Replies native) (hints : List WindowHint) :
    Prepares CreateError.cause (Window.hinted native hints) := by
  refine .bind (.adapt (.checked h rfl)) fun _ => ?_
  exact .applyHints h 0 hints

/-! ### The window -/

/-- The end of a creation, once the native window is there. -/
def Window.keep (native : Backend) (pointer : Pointer) : M Window := do
  Window.listen native pointer
  Window.adopt pointer

theorem run_bind_ok {x : ExceptT ε M α} {f : α → ExceptT ε M β} {a : α}
    (h : result x.run p = .ok a) : result (x >>= f).run p = result (f a).run (final x.run p) ∧
      final (x >>= f).run p = final (f a).run (final x.run p) := by
  rw [ExceptT.run_bind, result_bind, final_bind, h]
  exact ⟨rfl, rfl⟩

theorem run_bind_error {x : ExceptT ε M α} {f : α → ExceptT ε M β} {e : ε}
    (h : result x.run p = .error e) : result (x >>= f).run p = .error e ∧
      final (x >>= f).run p = final x.run p := by
  rw [ExceptT.run_bind, result_bind, final_bind, h]
  exact ⟨rfl, rfl⟩

/-- A creation once its arguments are judged. -/
def Window.build (native : Backend) (hints : List WindowHint) (width height : Int32)
    (title : Text.Bytes) (monitor : Option Monitor) (share : Option Window) :
    ExceptT CreateError M Window := do
  Window.hinted native hints
  let pointer ← ExceptT.adapt .creation
    (Window.createNative native width height title monitor share)
  Window.keep native pointer

namespace Window

variable {hints : List WindowHint} {width height : Int32} {title : Text.Bytes}
  {monitor : Option Monitor} {share : Option Window}

theorem create_eq (native : Backend) (hints : List WindowHint) (width height : Int32)
    (title : String) (monitor : Option Monitor) (share : Option Window) :
    create native hints width height title monitor share =
      (do
        ExceptT.adapt .creation (liftExcept (checkSize width height))
        let bytes ← ExceptT.adapt .creation (liftExcept (terminated title))
        build native hints width height bytes monitor share) := by
  simp [create, build, hinted, keep]

/-- A creation ends with its hints if one of them fails, -/
theorem build_unhinted {e : CreateError} (failed : result (hinted native hints).run p = .error e) :
    result (build native hints width height title monitor share).run p = .error e ∧
      final (build native hints width height title monitor share).run p =
        final (hinted native hints).run p :=
  run_bind_error failed

/-- with the native window if that fails, -/
theorem build_rejected {e : Error} (set : result (hinted native hints).run p = .ok ())
    (failed : result (createNative native width height title monitor share).run
      (final (hinted native hints).run p) = .error e) :
    result (build native hints width height title monitor share).run p = .error (.creation e) ∧
      final (build native hints width height title monitor share).run p =
        final (createNative native width height title monitor share).run
          (final (hinted native hints).run p) := by
  have rejected : result (ExceptT.adapt CreateError.creation
      (createNative native width height title monitor share)).run
        (final (hinted native hints).run p) = .error (.creation e) :=
    congrArg (Except.mapError CreateError.creation) failed
  rw [build, (run_bind_ok set).1, (run_bind_ok set).2]
  exact run_bind_error rejected

/-- and otherwise with a handle. -/
theorem build_opened {pointer : Pointer} (set : result (hinted native hints).run p = .ok ())
    (created : result (createNative native width height title monitor share).run
      (final (hinted native hints).run p) = .ok pointer) :
    result (build native hints width height title monitor share).run p =
        .ok (result (keep native pointer) (final (createNative native width height title monitor
          share).run (final (hinted native hints).run p))) ∧
      final (build native hints width height title monitor share).run p =
        final (keep native pointer) (final (createNative native width height title monitor
          share).run (final (hinted native hints).run p)) := by
  have made : result (ExceptT.adapt CreateError.creation
      (createNative native width height title monitor share)).run
        (final (hinted native hints).run p) = .ok pointer :=
    congrArg (Except.mapError CreateError.creation) created
  rw [build, (run_bind_ok set).1, (run_bind_ok set).2]
  rw [(run_bind_ok made).1, (run_bind_ok made).2]
  exact ⟨rfl, rfl⟩

end Window

/-- How the creation of a window can go, with all that happens meanwhile: it fails before the window
is created, it fails when it is created, or there is a window. -/
inductive Opening : Except CreateError Window → List Happening → Prop where
  | unprepared {hs : List Happening} {e : CreateError}
      (hints : ∀ h ∈ hs, h.Serves (·.hints = true))
      (first : ∀ first ∈ (reports hs).head?, e.cause = first) : Opening (.error e) hs
  | rejected {hs meanwhile : List Happening} {call : Call} {reply : Reply} {e : Error}
      (hints : ∀ h ∈ hs, h.Serves (·.hints = true)) (silent : reports hs = [])
      (creates : call.creates = true) (unaffected : ∀ h ∈ meanwhile, h.Serves fun _ => False)
      (cause : (reports meanwhile).head? = some e ∨ reports meanwhile = [] ∧ reply.pointer = null) :
      Opening (.error (.creation e)) (hs ++ .called call :: meanwhile ++ [.returned call reply])
  | opened {hs meanwhile later : List Happening} {call : Call} {reply : Reply} {w : Window}
      (hints : ∀ h ∈ hs, h.Serves (·.hints = true)) (silent : reports hs = [])
      (creates : call.creates = true) (unaffected : ∀ h ∈ meanwhile, h.Serves fun _ => False)
      (accepted : reports meanwhile = []) (pointer : reply.pointer = w.pointer)
      (there : w.pointer ≠ null) (registers : ∀ h ∈ later, h.Serves (·.registers = true)) :
      Opening (.ok w) (hs ++ .called call :: meanwhile ++ .returned call reply ::
        .called (.setWindowCallback w.pointer .pos) :: later ++ [.obtained (.window w)])

namespace Replies

variable (h : Replies native)

include h

theorem createNative (width height : Int32) (title : Text.Bytes) (monitor : Option Monitor)
    (share : Option Window) (hr : p.current ∈ p.running) (hd : Deaf p) :
    ∃ (meanwhile : List Happening) (call : Call) (reply : Reply), call.creates = true ∧
      (∀ h ∈ meanwhile, h.Serves fun _ => False) ∧
      Leaves p (final (Window.createNative native width height title monitor share).run p)
        (.called call :: meanwhile ++ [.returned call reply]) ∧
      match result (Window.createNative native width height title monitor share).run p with
        | .ok pointer => reports meanwhile = [] ∧ reply.pointer = pointer ∧ pointer ≠ null
        | .error e => (reports meanwhile).head? = some e ∨
            reports meanwhile = [] ∧ reply.pointer = null := by
  let call : Call := .createWindow width height title ((monitor.map (·.pointer)).getD null)
    ((share.map (·.pointer)).getD null)
  obtain ⟨meanwhile, reply, unaffected, left, outcome⟩ := h.checked call hr hd
  have same : Window.createNative native width height title monitor share = (do
      let reply ← Windowing.checked (native call)
      if reply.pointer = null then throw (.unreported call.name)
      return reply.pointer) := rfl
  refine ⟨meanwhile, call, reply, rfl, unaffected, ?_⟩
  rw [same]
  simp only [ExceptT.run_bind, result_bind, final_bind, outcome]
  cases reported : reports meanwhile with
  | cons first rest => exact ⟨left, .inl rfl⟩
  | nil =>
    by_cases missing : reply.pointer = null
    · simp only [List.head?_nil, verdict, missing, ↓reduceIte]
      exact ⟨left, .inr ⟨trivial, trivial⟩⟩
    · simp only [List.head?_nil, verdict, missing, ↓reduceIte]
      exact ⟨left, trivial, rfl, missing⟩

omit h in
/-- Once its callbacks are registered, the window has a handle. -/
theorem keep (answers : LibraryOnlyReports native) (pointer : Pointer) (hr : p.current ∈ p.running)
    (hd : Deaf p) : ∃ (w : Window) (later : List Happening), w.pointer = pointer ∧
      (∀ h ∈ later, h.Serves (·.registers = true)) ∧
      result (Window.keep native pointer) p = w ∧
      Leaves p (final (Window.keep native pointer) p)
        (.called (.setWindowCallback w.pointer .pos) :: later ++ [.obtained (.window w)]) := by
  obtain ⟨later, registers, left, -⟩ := listen_reports answers pointer hr hd
  exact ⟨_, later, rfl, registers, rfl, left.trans (.adopt pointer _)⟩

/-- Once its arguments are judged, a creation goes in one of the three ways. -/
theorem opening_build (answers : LibraryOnlyReports native) (hints : List WindowHint)
    (width height : Int32) (title : Text.Bytes) (monitor : Option Monitor) (share : Option Window)
    (hr : p.current ∈ p.running) (hd : Deaf p) : ∃ hs,
      Leaves p (final (Window.build native hints width height title monitor share).run p) hs ∧
      Opening (result (Window.build native hints width height title monitor share).run p) hs := by
  obtain ⟨hs, hinted, left, first⟩ := h.hinted hints p hr hd
  cases set : result (Window.hinted native hints).run p with
  | error e =>
    obtain ⟨failed, ended⟩ := Window.build_unhinted set
    rw [failed, ended]
    exact ⟨hs, left, .unprepared hinted (by simpa [set] using first)⟩
  | ok =>
    have silent : reports hs = [] := by simpa [set] using first
    have running := left.mem_running hr
    have deaf := left.deaf hd
    obtain ⟨meanwhile, call, reply, creates, unaffected, left', came⟩ :=
      h.createNative width height title monitor share running deaf
    have both := left.trans left'
    cases asked : result (Window.createNative native width height title monitor share).run
        (final (Window.hinted native hints).run p) with
    | error e =>
      rw [asked] at came
      obtain ⟨failed, ended⟩ := Window.build_rejected set asked
      rw [failed, ended]
      refine ⟨_, both, ?_⟩
      rw [← List.append_assoc]
      exact .rejected hinted silent creates unaffected came
    | ok pointer =>
      rw [asked] at came
      obtain ⟨accepted, same, there⟩ := came
      obtain ⟨made, ended⟩ := Window.build_opened set asked
      obtain ⟨w, later, rfl, registers, kept, left''⟩ :=
        keep answers pointer (both.mem_running hr) (both.deaf hd)
      rw [made, ended, kept]
      have opened : Opening (.ok w) _ :=
        .opened hinted silent creates unaffected accepted same there registers
      refine ⟨_, both.trans left'', ?_⟩
      simpa only [List.append_assoc, List.cons_append, List.nil_append] using opened

/-- A creation goes in one of the three ways. -/
theorem opening (answers : LibraryOnlyReports native) (hints : List WindowHint) (width height : Int32)
    (title : String) (monitor : Option Monitor) (share : Option Window)
    (hr : p.current ∈ p.running) (hd : Deaf p) : ∃ hs,
      Leaves p (final (Window.create native hints width height title monitor share).run p) hs ∧
      Opening (result (Window.create native hints width height title monitor share).run p) hs := by
  have objected (e : Error) : Opening (.error (.creation e)) [] :=
    .unprepared (by simp) (by simp [reports])
  rw [Window.create_eq]
  cases checkSize width height with
  | error e => exact ⟨[], .refl, objected e⟩
  | ok =>
    cases terminated title with
    | error e => exact ⟨[], .refl, objected e⟩
    | ok bytes => exact h.opening_build answers hints width height bytes monitor share hr hd

end Replies

/-! ### What is lost -/

/-- An entry of plain calls is about no window's creation or destruction. -/
theorem Happening.Serves.plain {h : Happening} (hh : h.Serves (·.plain = true)) :
    h.creates = false ∧ h.created? = none ∧ h.destroyed? = none ∧ h.doomed? = none := by
  cases h with
  | called call | returned call reply =>
    rcases hh with plain | rfl
    · cases call <;> first | exact ⟨rfl, rfl, rfl, rfl⟩ | cases plain
    · exact ⟨rfl, rfl, rfl, rfl⟩
  | invoked _ | logged _ => exact ⟨rfl, rfl, rfl, rfl⟩
  | _ => exact hh.elim

theorem Happening.Serves.unregistered {about : Call → Prop}
    (other : ∀ call, about call → call.registers = false) {h : Happening} (hh : h.Serves about) :
    h.registers = false := by
  cases h with
  | called call =>
    rcases hh with about | rfl
    · exact other call about
    · rfl
  | _ => rfl

theorem Native.Call.plain_of_hints {call : Call} (h : call.hints = true) : call.plain = true := by
  cases call <;> first | rfl | cases h

theorem Native.Call.unregistered_of_hints {call : Call} (h : call.hints = true) :
    call.registers = false := by
  cases call <;> first | rfl | cases h

theorem Native.Call.plain_of_registers {call : Call} (h : call.registers = true) :
    call.plain = true := by
  cases call <;> first | rfl | cases h

theorem Native.Call.of_creates {call : Call} (h : call.creates = true) :
    ∃ width height title monitor share, call = .createWindow width height title monitor share := by
  cases call <;> first | exact ⟨_, _, _, _, _, rfl⟩ | cases h

/-- Plain calls create and destroy nothing. -/
theorem filterMap_plain {hs : List Happening} (h : ∀ h ∈ hs, h.Serves (·.plain = true)) :
    hs.filterMap Happening.created? = [] ∧ hs.filterMap Happening.destroyed? = [] ∧
      hs.filterMap Happening.doomed? = [] :=
  ⟨List.filterMap_eq_nil_iff.2 fun e he => (h e he).plain.2.1,
    List.filterMap_eq_nil_iff.2 fun e he => (h e he).plain.2.2.1,
    List.filterMap_eq_nil_iff.2 fun e he => (h e he).plain.2.2.2⟩

namespace Opening

/-- A creation destroys no window. -/
theorem sparesPending (h : Opening outcome hs) :
    hs.filterMap Happening.destroyed? = [] ∧ hs.filterMap Happening.doomed? = [] := by
  cases h with
  | unprepared hints first =>
    exact (filterMap_plain fun e he => (hints e he).mono fun _ => Call.plain_of_hints).2
  | rejected hints silent creates unaffected cause =>
    have prepared := filterMap_plain fun e he => (hints e he).mono fun _ => Call.plain_of_hints
    have asked := filterMap_plain fun e he => (unaffected e he).mono fun _ none => none.elim
    obtain ⟨_, _, _, _, _, rfl⟩ := Call.of_creates creates
    simp [List.filterMap_append, List.filterMap_cons, prepared, asked, Happening.destroyed?,
      Happening.doomed?]
  | opened hints silent creates unaffected accepted pointer there registers =>
    have prepared := filterMap_plain fun e he => (hints e he).mono fun _ => Call.plain_of_hints
    have asked := filterMap_plain fun e he => (unaffected e he).mono fun _ none => none.elim
    have registered := filterMap_plain fun e he =>
      (registers e he).mono fun _ => Call.plain_of_registers
    obtain ⟨_, _, _, _, _, rfl⟩ := Call.of_creates creates
    simp [List.filterMap_append, List.filterMap_cons, prepared, asked, registered,
      Happening.destroyed?, Happening.doomed?]

/-- The window that a creation returns a handle of is the one that was created. -/
theorem created {w : Window} (h : Opening (.ok w) hs) :
    hs.filterMap Happening.created? = [w.pointer] := by
  cases h with
  | opened hints silent creates unaffected accepted pointer there registers =>
    have prepared := filterMap_plain fun e he => (hints e he).mono fun _ => Call.plain_of_hints
    have asked := filterMap_plain fun e he => (unaffected e he).mono fun _ none => none.elim
    have registered := filterMap_plain fun e he =>
      (registers e he).mono fun _ => Call.plain_of_registers
    obtain ⟨_, _, _, _, _, rfl⟩ := Call.of_creates creates
    simp [List.filterMap_append, List.filterMap_cons, prepared, asked, registered,
      Happening.created?, pointer, there]

/-- A window that a failed creation created came with an error. -/
theorem lost {e : CreateError} (h : Opening (.error e) hs) {w : Pointer}
    (hw : w ∈ hs.filterMap Happening.created?) : ∃ first,
      (reports (hs.dropWhile fun h => !h.creates)).head? = some first ∧ e = .creation first := by
  cases h with
  | unprepared hints first =>
    have prepared := filterMap_plain fun e he => (hints e he).mono fun _ => Call.plain_of_hints
    rw [prepared.1] at hw
    cases hw
  | @rejected hs meanwhile call reply e hints silent creates unaffected cause =>
    have prepared : ∀ h ∈ hs, (!h.creates) = true := fun h hh => by
      simp [((hints h hh).mono fun _ => Call.plain_of_hints).plain.1]
    have before := filterMap_plain fun e he => (hints e he).mono fun _ => Call.plain_of_hints
    have asked := filterMap_plain fun e he => (unaffected e he).mono fun _ none => none.elim
    have begun : Happening.creates (.called call) = true := creates
    obtain ⟨_, _, _, _, _, rfl⟩ := Call.of_creates creates
    have there : reply.pointer ≠ null := fun missing => by
      simp [List.filterMap_append, List.filterMap_cons, before, asked, Happening.created?,
        missing] at hw
    have first : (reports meanwhile).head? = some e := cause.resolve_right fun none => there none.2
    refine ⟨e, ?_, rfl⟩
    rw [List.append_assoc, List.dropWhile_append_of_pos prepared, List.cons_append,
      List.dropWhile_cons_of_neg (by simp [begun]), ← List.cons_append, reports_call]
    exact first

theorem unregistered_hints (hints : ∀ h ∈ hs, h.Serves (·.hints = true)) :
    ∀ h ∈ hs, h.registers = false := fun h hh =>
  (hints h hh).unregistered fun _ => Call.unregistered_of_hints

/-- Nothing is registered before the window is created. -/
theorem unregistered {meanwhile : List Happening} {call : Call} (reply : Reply)
    (hints : ∀ h ∈ hs, h.Serves (·.hints = true)) (creates : call.creates = true)
    (unaffected : ∀ h ∈ meanwhile, h.Serves fun _ => False) :
    ∀ h ∈ hs ++ .called call :: meanwhile ++ [.returned call reply], h.registers = false := by
  intro h hh
  obtain ⟨_, _, _, _, _, rfl⟩ := Call.of_creates creates
  simp only [List.mem_append, List.mem_cons, List.not_mem_nil, or_false] at hh
  rcases hh with (hh | rfl | hh) | rfl
  · exact unregistered_hints hints h hh
  · rfl
  · exact (unaffected h hh).unregistered fun _ none => none.elim
  · rfl

/-- A failed creation fails with the first error that was reported, if one was. -/
theorem cause {e : CreateError} (h : Opening (.error e) hs) :
    (∀ first ∈ (reports hs).head?, e.cause = first) ∧ ∀ h ∈ hs, h.registers = false := by
  cases h with
  | unprepared hints first => exact ⟨first, unregistered_hints hints⟩
  | rejected hints silent creates unaffected cause =>
    refine ⟨fun first hfirst => ?_, unregistered _ hints creates unaffected⟩
    rw [List.append_assoc, reports_append, silent, List.nil_append, reports_call] at hfirst
    rcases cause with found | ⟨none, -⟩
    · exact Option.some.inj (found.symm.trans hfirst)
    · rw [none] at hfirst
      cases hfirst

/-- A creation succeeds only if nothing was reported before the first registration. -/
theorem accepted {w : Window} (h : Opening (.ok w) hs) :
    reports (hs.takeWhile fun h => !h.registers) = [] := by
  cases h with
  | @opened hs meanwhile later call reply _ hints silent creates unaffected accepted =>
    have before : ∀ h ∈ hs ++ .called call :: meanwhile ++ [.returned call reply],
        (!h.registers) = true := fun h hh =>
          by simp [unregistered reply hints creates unaffected h hh]
    have registration : Happening.registers (.called (.setWindowCallback w.pointer .pos)) = true :=
      rfl
    have regrouped : hs ++ .called call :: meanwhile ++ .returned call reply ::
        .called (.setWindowCallback w.pointer .pos) :: later ++ [.obtained (.window w)] =
        (hs ++ .called call :: meanwhile ++ [.returned call reply]) ++
          .called (.setWindowCallback w.pointer .pos) :: (later ++ [.obtained (.window w)]) := by
      simp
    rw [regrouped, List.takeWhile_append_of_pos before,
      List.takeWhile_cons_of_neg (by simp [registration]), List.append_nil, List.append_assoc,
      reports_append, silent, List.nil_append, reports_call, accepted]

end Opening

/-! ### Lost windows and lost errors -/

/-- Client code runs while no handler waits for events. A window that was created although the
creation failed is there only because the creating call reported an error and yet returned a window:
the creation fails with that error, and neither destroys the window nor leaves it to the pump. -/
theorem creation_leak (depth : Nat) (p : Process) (hr : p.current ∈ p.running) (hd : Deaf p)
    (hints : List WindowHint) (width height : Int32) (title : String) (monitor : Option Monitor)
    (share : Option Window) :
    let m := (Window.create (backend depth) hints width height title monitor share).run
    let hs := during m p
    (∀ w, result m p = .ok w → hs.filterMap Happening.created? = [w.pointer]) ∧
    (∀ e, result m p = .error e → ∀ w ∈ hs.filterMap Happening.created?, ∃ first,
      (reports (hs.dropWhile fun h => !h.creates)).head? = some first ∧ e = .creation first) ∧
    hs.filterMap Happening.destroyed? = [] ∧ (final m p).locals.deferred = p.locals.deferred := by
  obtain ⟨hs, left, opening⟩ := (backend_replies depth).opening (backend_answers depth) hints width
    height title monitor share hr hd
  have same := left.during_eq
  simp only [same]
  refine ⟨fun w hw => ?_, fun e he w hw => ?_, opening.sparesPending.1, ?_⟩
  · exact (hw ▸ opening).created
  · exact (he ▸ opening).lost hw
  · rw [left.deferred, opening.sparesPending.2]
    simp

/-- A thread whose next window comes with an error. -/
def doubtful : Process where
  running := [0]
  errorCallback := true
  scripts := [⟨[("glfwCreateWindow", [{ pointer := 7, callbacks := [.error 0x70008 none] }])]⟩]

theorem creation_leak_doubtful : doubtful.current ∈ doubtful.running ∧ Deaf doubtful ∧
    ∃ first, (reports ((during (Window.create (backend 1) [] 4 4 "" none none).run
        doubtful).dropWhile fun h => !h.creates)).head? = some first ∧
      CreateError.creation (.reported 0x70008 "") = .creation first := by
  have leak := creation_leak 1 doubtful (by decide) rfl [] 4 4 "" none none
  exact ⟨by decide, rfl, leak.2.1 _ rfl 7 (by decide +kernel)⟩

/-- A program whose window comes with an error. -/
def doubtfulWindow : Session where
  steps := [
    .mk {} .init,
    .mk ⟨[("glfwCreateWindow", [{ pointer := 7, callbacks := [.error 0x70008 none] }])]⟩
      (.library 0 (.createWindow
        { hints := [], width := 4, height := 4, title := "", monitor := none, share := none }))]

/-- The creation fails, and the window is never destroyed. -/
theorem doubtfulWindow_leaks :
    .stepEnded (.createFailed (.creation (.reported 0x70008 ""))) ∈
        doubtfulWindow.history.map (·.what) ∧
      doubtfulWindow.history.filterMap (·.what.created?) = [7] ∧
      doubtfulWindow.history.filterMap (·.what.destroyed?) = [] := by
  decide +kernel

/-- Client code runs while no handler waits for events. A creation that fails does so with the first
error that was reported, and one that succeeds had none reported before it registered the callbacks.
The error that is pending on the thread stays pending; if none is, none is left behind by a creation
that fails, and by one that succeeds the first that was reported from the first registration on. -/
theorem creation_errors (depth : Nat) (p : Process) (hr : p.current ∈ p.running) (hd : Deaf p)
    (hints : List WindowHint) (width height : Int32) (title : String) (monitor : Option Monitor)
    (share : Option Window) :
    let m := (Window.create (backend depth) hints width height title monitor share).run
    let hs := during m p
    (∀ w, result m p = .ok w → reports (hs.takeWhile fun h => !h.registers) = []) ∧
    (∀ e, result m p = .error e → (∀ first ∈ (reports hs).head?, e.cause = first) ∧
      (final m p).locals.pending = p.locals.pending) ∧
    (final m p).locals.pending =
      (p.locals.pending <|> (reports (hs.dropWhile fun h => !h.registers)).head?) := by
  obtain ⟨hs, left, opening⟩ := (backend_replies depth).opening (backend_answers depth) hints width
    height title monitor share hr hd
  obtain ⟨hs', left', pending⟩ := KeepsFirstReport.create
    (backend_answers depth) hints width height title
    monitor share p hr hd
  obtain rfl : hs = hs' := left.during_eq.symm.trans left'.during_eq
  have same := left.during_eq
  simp only [same]
  refine ⟨fun w hw => (hw ▸ opening).accepted, fun e he => ⟨(he ▸ opening).cause.1, ?_⟩, pending⟩
  have unregistered : hs.dropWhile (fun h => !h.registers) = [] := by
    simpa using dropWhile_registers (he ▸ opening).cause.2 []
  rw [pending, unregistered]
  cases p.locals.pending <;> rfl

/-- A thread whose next window has an error reported when its first callback is registered. -/
def unheard : Process where
  running := [0]
  errorCallback := true
  scripts := [⟨[("glfwCreateWindow", [{ pointer := 7 }]),
    ("glfwSetWindowPosCallback", [{ callbacks := [.error 0x70008 none] }])]⟩]

theorem creation_errors_unheard : unheard.current ∈ unheard.running ∧ Deaf unheard ∧
    (final (Window.create (backend 1) [] 4 4 "" none none).run unheard).locals.pending =
      some (.reported 0x70008 "") := by
  have errors := (creation_errors 1 unheard (by decide) rfl [] 4 4 "" none none).2.2
  exact ⟨by decide, rfl, errors.trans (by decide +kernel)⟩

/-- A program that asks for the pending error when it has a window. -/
def unheardWindow : Session where
  steps := [
    .mk {} .init,
    .mk ⟨[("glfwCreateWindow", [{ pointer := 7 }]),
        ("glfwSetWindowPosCallback", [{ callbacks := [.error 0x70008 none] }])]⟩
      (.library 0 (.createWindow
        { hints := [], width := 4, height := 4, title := "", monitor := none, share := none })),
    .mk {} .getError]

/-- The creation succeeds, and its error is found afterwards. -/
theorem unheardWindow_pends :
    (unheardWindow.history.filterMap fun e => match e.what with
      | .stepEnded outcome => some outcome
      | _ => none) =
      [.answered (.slot 0), .answered (.slot 0), .failed (.reported 0x70008 "")] := by
  decide +kernel

end Windowing
