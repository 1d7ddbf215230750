import Windowing.Proofs.AgreeingCalls

/-!
Nesting of calls. On its own thread a native call is closed by its return and the run of a handler
by its end, and what stands between them is closed before. So the entries of a computation fall into
those that it has itself and those inside its brackets, which belong to the calls that it makes and
to the handlers that it runs.
-/

namespace Windowing

open Native Client

namespace Happening

def opens : Happening → Bool
  | .called _ | .handling _ _ => true
  | _ => false

def closes : Happening → Bool
  | .returned _ _ | .handled _ => true
  | _ => false

/-- How many brackets are open after the entry. -/
def depth (before : Nat) (h : Happening) : Nat :=
  if h.opens then before + 1 else if h.closes then before - 1 else before

end Happening

/-- The entries that stand outside all brackets, with the opening entry of each bracket for what is
inside; that many brackets are open before them. -/
def surface : Nat → List Happening → List Happening
  | _, [] => []
  | depth, h :: hs =>
    if depth = 0 ∧ h.closes = false then h :: surface (h.depth depth) hs
    else surface (h.depth depth) hs

/-- Every bracket that is opened is closed, by an entry of its own kind. -/
inductive Nested : List Happening → Prop where
  | nil : Nested []
  | plain {h : Happening} {hs : List Happening} (opens : h.opens = false)
      (closes : h.closes = false) : Nested hs → Nested (h :: hs)
  | call {inner rest : List Happening} (call : Call) (reply : Reply) :
      Nested inner → Nested rest → Nested (.called call :: inner ++ .returned call reply :: rest)
  | handling {inner rest : List Happening} (time : Float) (event : Event) (panic : Option String) :
      Nested inner → Nested rest → Nested (.handling time event :: inner ++ .handled panic :: rest)

variable {α β : Type} {native : Backend} {p : Process} {hs hs' : List Happening}

namespace Nested

theorem append (h : Nested hs) (h' : Nested hs') : Nested (hs ++ hs') := by
  induction h with
  | nil => exact h'
  | plain opens closes _ ih => exact .plain opens closes ih
  | call c reply inner _ _ ih =>
    simp only [List.cons_append, List.append_assoc]
    exact .call c reply inner ih
  | handling time event panic inner _ _ ih =>
    simp only [List.cons_append, List.append_assoc]
    exact .handling time event panic inner ih

/-- Nothing of it shows while a bracket is open. -/
theorem surface_inside (h : Nested hs) (depth : Nat) (rest : List Happening) :
    surface (depth + 1) (hs ++ rest) = surface (depth + 1) rest := by
  induction h generalizing depth rest with
  | nil => rfl
  | plain opens closes _ ih => simp [surface, Happening.depth, opens, closes, ih]
  | call c reply _ _ ih ih' =>
    simp [surface, Happening.depth, Happening.opens, Happening.closes, ih, ih']
  | handling time event panic _ _ ih ih' =>
    simp [surface, Happening.depth, Happening.opens, Happening.closes, ih, ih']

/-- Of a call only its beginning shows. -/
theorem surface_call (h : Nested hs) (call : Call) (reply : Reply) (rest : List Happening) :
    surface 0 (.called call :: hs ++ .returned call reply :: rest) =
      .called call :: surface 0 rest := by
  simp [surface, Happening.depth, Happening.opens, Happening.closes, h.surface_inside]

/-- Of the run of a handler only its beginning shows. -/
theorem surface_handling (h : Nested hs) (time : Float) (event : Event) (panic : Option String)
    (rest : List Happening) :
    surface 0 (.handling time event :: hs ++ .handled panic :: rest) =
      .handling time event :: surface 0 rest := by
  simp [surface, Happening.depth, Happening.opens, Happening.closes, h.surface_inside]

end Nested

/-! ### Computations -/

/-- A computation whose entries nest. -/
def EntriesNest (m : M α) : Prop :=
  ∀ p, p.current ∈ p.running → ∃ hs, Nested hs ∧ Passes p (final m p) hs

/-- A call whose entries are those between its beginning and its return. -/
def Encloses (call : Call) (m : M Reply) : Prop :=
  ∀ p, p.current ∈ p.running → ∃ hs, Nested hs ∧
    Passes p (final m p) (.called call :: hs ++ [.returned call (result m p)])

theorem Passes.setHere (p : Process) (t : Thread) : Passes p (p.setHere t) [] := ⟨rfl, rfl⟩

theorem Passes.mem_running {q : Process} (h : Passes p q hs) (hr : p.current ∈ p.running) :
    q.current ∈ q.running := by
  rw [h.current, h.running]
  exact hr

theorem Encloses.entriesNest {call : Call} {m : M Reply} (h : Encloses call m) : EntriesNest m :=
    fun p hr => by
  obtain ⟨hs, nested, passes⟩ := h p hr
  exact ⟨_, .call call _ nested .nil, passes⟩

namespace EntriesNest

theorem silent {m : M α} (passes : ∀ p, p.current ∈ p.running → Passes p (final m p) []) :
    EntriesNest m := fun p hr => ⟨[], .nil, passes p hr⟩

theorem pure (a : α) : EntriesNest (Pure.pure a : M α) := silent fun _ _ => .refl

theorem look : EntriesNest (get : M Process) := silent fun _ _ => .refl

theorem setHere {f : Process → Thread} : EntriesNest (modify fun p => p.setHere (f p)) :=
  silent fun p _ => .setHere p _

theorem shared {f : Process → Process} (hf : ∀ p, SameThreads p (f p)) : EntriesNest (modify f) :=
  silent fun p _ => .of_sameThreads (hf p)

theorem apart {m : M α} (hm : Apart m) : EntriesNest m :=
  silent fun p hr => ⟨(hm p).1, ((hm p).2 _ hr).entries⟩

theorem note {h : Happening} (opens : h.opens = false) (closes : h.closes = false) :
    EntriesNest (note h) := fun p _ => ⟨[h], .plain opens closes .nil, .note h p⟩

theorem bind {m : M α} {f : α → M β} (hm : EntriesNest m) (hf : ∀ a, EntriesNest (f a)) :
    EntriesNest (m >>= f) := by
  intro p hr
  obtain ⟨hs, nested, passes⟩ := hm p hr
  obtain ⟨hs', nested', passes'⟩ := hf (result m p) _ (passes.mem_running hr)
  exact ⟨hs ++ hs', nested.append nested', passes.trans passes'⟩

theorem ite {c : Prop} [Decidable c] {m n : M α} (hm : EntriesNest m) (hn : EntriesNest n) :
    EntriesNest (if c then m else n) := by
  split
  · exact hm
  · exact hn

theorem forM {f : α → M Unit} (hf : ∀ a, EntriesNest (f a)) (xs : List α) :
    EntriesNest (xs.forM f) := by
  induction xs with
  | nil => exact .pure _
  | cons x xs ih => exact .bind (hf x) fun _ => ih

theorem composed {prim : (α : Type) → (Backend → M α) → Prop}
    (h : ∀ α m, prim α m → EntriesNest (m native)) {m : Backend → M α}
    (hm : Composed SameButPanics prim m) : EntriesNest (m native) := by
  induction hm with
  | pure a => exact .pure a
  | bind _ _ first rest => exact .bind first rest
  | look _ _ rest => exact .bind .look rest
  | act hm => exact h _ _ hm

theorem getLocals : EntriesNest getLocals := .bind look fun _ => pure _

theorem takeError : EntriesNest takeError := .bind getLocals fun _ => .bind setHere fun _ => pure _

theorem withScript (script : Script) {body : M α} (hb : EntriesNest body) :
    EntriesNest (withScript script body) := fun p hr => by
  obtain ⟨hs, nested, passes⟩ := hb { p with scripts := script :: p.scripts } hr
  exact ⟨hs, nested, passes.running, passes.entries⟩

variable (h : ∀ call, EntriesNest (native call))

include h

theorem checked (call : Call) : EntriesNest (Windowing.checked (native call)).run := by
  refine .bind takeError fun _ => ?_
  refine .bind (h call) fun _ => ?_
  refine .bind takeError fun _ => ?_
  refine .bind setHere fun _ => ?_
  exact pure _

theorem quiet {m : Backend → M α} (hm : Quiet α m) : EntriesNest (m native) := by
  cases hm with
  | call call => exact h call
  | attempt call => exact checked h call
  | take => exact takeError
  | log l => exact note rfl rfl
  | aside hm =>
    cases hm with
    | lend c => exact note rfl rfl
    | giveBack c => exact note rfl rfl
    | lent f | panics f => exact shared fun _ => ⟨rfl, rfl, rfl⟩
    | contexts f => exact setHere

theorem destroy (pointer : Pointer) : EntriesNest (Window.destroy native pointer) := by
  refine .bind (checked h _) fun outcome => ?_
  cases outcome with
  | ok reply => exact pure _
  | error e => exact note rfl rfl

theorem release : EntriesNest (release native) := by
  refine .bind (shared fun _ => ⟨rfl, rfl, rfl⟩) fun _ => .bind look fun _ => .ite ?_ (pure _)
  refine .bind (checked h _) fun outcome => ?_
  cases outcome with
  | ok reply => exact shared fun _ => ⟨rfl, rfl, rfl⟩
  | error e => exact .bind (note rfl rfl) fun _ => shared fun _ => ⟨rfl, rfl, rfl⟩

theorem dropWindow (w : Window) : EntriesNest (w.drop native) := by
  refine .bind (note rfl rfl) fun _ => ?_
  refine .bind getLocals fun _ => ?_
  exact .ite (.bind setHere fun _ => .bind (note rfl rfl) fun _ =>
    release h) (.bind (destroy h _) fun _ => release h)

theorem small {m : Backend → M α} (hm : Small α m) : EntriesNest (m native) := by
  cases hm with
  | quiet hm => exact quiet h hm
  | call call => exact h call
  | attempt call => exact checked h call
  | obtain _ => exact note rfl rfl
  | dropLibrary _ => exact note rfl rfl
  | dropMonitor _ => exact note rfl rfl
  | tables f => exact setHere
  | shared hf => exact shared hf.threads
  | dropWindow w => exact dropWindow h w

theorem processEvents (call : Call) (handler : Handler) :
    EntriesNest (processEvents native call handler) := by
  refine .bind setHere fun _ => ?_
  refine .bind (checked h call) fun _ => ?_
  refine .bind setHere fun _ => ?_
  refine .bind (.bind getLocals fun _ => .bind setHere fun _ => pure _) fun doomed => ?_
  refine .bind (forM (destroy h) doomed) fun _ => ?_
  exact pure _

theorem pump (kind : PumpKind) (handler : Handler) : EntriesNest (pump native kind handler).run := by
  intro p hr
  by_cases busy : p.locals.dispatching
  · rw [final_pump_refused busy]
    exact ⟨[], .nil, .refl⟩
  · rw [final_pump busy]
    have taken : EntriesNest takePanic := .bind getLocals fun _ => .bind setHere fun _ => pure _
    exact bind (processEvents h kind.call handler) (fun _ => taken) p hr

theorem runPump (slot : Nat) (kind : PumpKind) (reactions : List (List Step)) :
    EntriesNest (runPump native slot kind reactions) := by
  refine .bind (.bind look fun _ => pure _) fun t => ?_
  refine .ite (pure _) ?_
  refine .bind setHere fun _ => ?_
  refine .bind (pump h kind reactions) fun outcome => ?_
  refine .bind setHere fun _ => ?_
  rcases outcome with message | (e | _) <;> exact pure _

variable (hc : ∀ call, Confined (native call))

include hc

omit h in
/-- What runs on another thread has no entry on this one. -/
theorem runThread {body : M (Option String)} (hb : Confined body) :
    EntriesNest (runThread native body) := by
  refine .bind look fun _ => ?_
  refine .ite (pure _) ?_
  refine .bind (.bind look fun _ => pure _) fun _ => ?_
  refine .bind setHere fun _ => ?_
  refine .bind (apart (Confined.spawn_apart hc _ hb)) fun _ => ?_
  refine .bind setHere fun _ => ?_
  exact pure _

theorem law : StepLaw native fun _ m => EntriesNest m ∧ Confined m where
  pure a := ⟨pure a, .pure a⟩
  bind hm hf := ⟨bind hm.1 fun a => (hf a).1, .bind hm.2 fun a => (hf a).2⟩
  operation op hop := ⟨composed (fun _ _ hm => small h hm) (runOp_small op hop),
    (Confined.law hc).operation op hop⟩
  pump slot kind reactions := ⟨runPump h slot kind reactions,
    (Confined.law hc).pump slot kind reactions⟩
  thread _ hb := ⟨runThread hc hb.2, (Confined.law hc).thread _ hb.2⟩
  step script op hop :=
    ⟨.bind (note rfl rfl) fun _ => .bind (withScript script hop.1) fun _ =>
      .bind (note rfl rfl) fun _ => pure _, (Confined.law hc).step script op hop.2⟩

/-- The run of a handler is closed by its end. -/
theorem react_encloses (time : Float) (event : Event) (hr : p.current ∈ p.running) :
    ∃ hs panic, Nested hs ∧ Passes p (final (react native time event) p)
      (.handling time event :: hs ++ [.handled panic]) := by
  have entered : Passes p ((final (modifyLocals fun s =>
      { s with handler := s.handler.map List.tail }) p).note (.handling time event))
      [.handling time event] := (Passes.setHere p _).trans (.note _ _)
  obtain ⟨hs, nested, passes⟩ := ((law h hc).runSteps ((p.locals.handler.getD []).headD [])).1 _
    (entered.mem_running hr)
  have caught := passes.trans (.of_sameThreads (catchPanic_alike _).toSameThreads)
  rw [List.append_nil] at caught
  rw [final_react, final_catchUnwind]
  exact ⟨hs, _, nested, (entered.trans caught).trans (.note _ _)⟩

/-- What becomes of an event that is delivered: it is dropped, or the handler runs on it. -/
theorem dispatch_encloses (time : Float) (event : Event) (hr : p.current ∈ p.running) :
    match p.locals.dropReason with
    | some reason => final (dispatch (react native) time event) p =
        p.note (.logged (.eventDropped reason event))
    | none => ∃ hs panic, Nested hs ∧ Passes p (final (dispatch (react native) time event) p)
        (.handling time event :: hs ++ [.handled panic]) := by
  cases takes : p.locals.dropReason with
  | some reason => exact dispatch_dropped takes
  | none =>
    obtain ⟨hs, panic, nested, passes⟩ := react_encloses h hc time event
      (p := final (modifyLocals fun s => { s with dispatching := true }) p) hr
    rw [dispatch_handled takes rfl rfl]
    exact ⟨hs, panic, nested, passes.running, passes.entries⟩

theorem dispatch (time : Float) (event : Event) :
    EntriesNest (dispatch (react native) time event) := by
  intro p hr
  have enclosed := dispatch_encloses h hc time event hr
  cases takes : p.locals.dropReason with
  | some reason =>
    simp only [takes] at enclosed
    rw [enclosed]
    exact ⟨[.logged (.eventDropped reason event)], .plain rfl rfl .nil, .note _ p⟩
  | none =>
    simp only [takes] at enclosed
    obtain ⟨hs, panic, nested, passes⟩ := enclosed
    exact ⟨_, .handling time event panic nested .nil, passes⟩

theorem deliver (decoded : Except Log Event) :
    EntriesNest (deliver native (react native) decoded) := by
  cases decoded with
  | error warning => exact note rfl rfl
  | ok event => exact .bind (h .getTime) fun reply => dispatch h hc reply.time event

theorem invoke (callback : Callback) : EntriesNest (invoke native callback) := by
  have heeded : EntriesNest (heed native callback) := by
    cases callback with
    | error code description => exact .bind (note rfl rfl) fun _ => setHere
    | monitor monitor event => exact deliver h hc _
    | window window signal => exact deliver h hc _
  exact .bind look fun _ => .ite (.bind (note rfl rfl) fun _ => heeded) (pure _)

omit h hc in
/-- Everything that happens to the caller during a call stands between its beginning and its
return. -/
theorem callWith {meanwhile : Reply → M Unit} (h : ∀ reply, EntriesNest (meanwhile reply))
    (call : Call) :
    Encloses call (callWith meanwhile call) := by
  intro p hr
  have begun : Passes p (final (takeReply call) (p.note (.called call))) [.called call] :=
    (Passes.note _ p).trans (.of_sameThreads (takeReply_alike call _).toSameThreads)
  obtain ⟨hs, nested, passes⟩ :=
    h (result (takeReply call) (p.note (.called call))) _ (begun.mem_running hr)
  have settled := Passes.of_sameThreads
    (settle_alike call (final (meanwhile (result (takeReply call) (p.note (.called call))))
      (final (takeReply call) (p.note (.called call))))).toSameThreads
  refine ⟨hs, nested, ?_⟩
  have all := ((begun.trans passes).trans settled).trans
    (.note (.returned call (result (takeReply call) (p.note (.called call)))) _)
  rw [List.append_nil] at all
  exact all

end EntriesNest

/-- The entries of a native call nest, however deep calls nest in its callbacks. -/
theorem backend_encloses (depth : Nat) (call : Call) : Encloses call (backend depth call) := by
  induction depth generalizing call with
  | zero => exact EntriesNest.callWith (fun _ => .pure _) call
  | succ depth ih =>
    rw [backend_eq]
    exact EntriesNest.callWith (fun reply => .bind (.apart (turnsAt_apart _)) fun _ =>
      .forM (EntriesNest.invoke (fun call => (ih call).entriesNest) (backend_confined depth))
        reply.callbacks) call

end Windowing
