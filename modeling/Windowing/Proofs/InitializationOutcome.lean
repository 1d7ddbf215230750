import Windowing.Proofs.CallExchanges
import Windowing.Proofs.InitializationLock

/-!
The outcome of an initialization. The native library is initialized between the registrations of the
error callback and of the monitor callback. What the first of these reports is forgotten, and so is
what was pending before; the initialization fails with the first error that is reported after it. If
the native library was initialized by then, it is terminated again before the lock is free.
-/

namespace Windowing

open Native Client

variable {p q r : Process} {hs : List Happening} {w : Watch} {t : Thread} {depth : Nat}

/-! ### The parts of an initialization -/

/-- A termination that reports errors logs the first. -/
theorem terminate_performs (depth : Nat) (hp : Reserved p.current p) (hd : Deaf p) :
    ∃ (x : Exchange) (r : Process), x.call = .terminate ∧ x.Plain ∧
      Performs p r (x.entries ++ x.error?.toList.map fun e => .logged (.terminateFailed e)) ∧
      final (terminate (backend depth)) p = final unlock r ∧
      r.locals.pending = p.locals.pending := by
  obtain ⟨x, call, plain, performs, outcome⟩ := Performs.checked hp hd depth .terminate
  have pending := pending_checked (backend depth .terminate) p
  cases reported : x.error? with
  | none =>
    refine ⟨x, _, call, plain, ?_, ?_, pending⟩
    · rw [reported]
      simpa using performs
    · simp [terminate, outcome, reported, verdict]
  | some e =>
    refine ⟨x, (final (checked (backend depth .terminate)).run p).note (.logged (.terminateFailed e)),
      call, plain, ?_, ?_, pending⟩
    · rw [reported]
      exact performs.trans (.note performs.reserved performs.yields.deaf rfl)
    · simp [terminate, outcome, reported, verdict, log]

namespace Library

/-- The drop of the only handle terminates the native library. -/
theorem final_drop_only (native : Backend) (only : p.holders = 1) :
    final (Library.drop native {}) p =
      final (terminate native) { p.note (.dropped (.library {})) with holders := 0 } := by
  have noted : (p.note (.dropped (.library {}))).holders = 1 := only
  change final (release native) (p.note (.dropped (.library {}))) = _
  rw [final_release, noted]
  rfl

section Parts

variable (hp : Reserved p.current p) (hd : Deaf p)

include hp hd

/-- What the registration of the error callback reports is forgotten. -/
theorem attempted_performs (depth : Nat) : ∃ listening starting : Exchange,
    listening.call = .setErrorCallback ∧ listening.Plain ∧ starting.call = .init ∧ starting.Plain ∧
    Performs p (final (attempted (backend depth)) p) (listening.entries ++ starting.entries) ∧
    result (attempted (backend depth)) p = starting.reply ∧
    (final (attempted (backend depth)) p).locals.pending = starting.error? := by
  obtain ⟨listening, listens, plain, first, -, -⟩ := Performs.call hp hd depth .setErrorCallback
  have taken := Performs.takeError first.reserved first.yields.deaf
  obtain ⟨starting, starts, plain', second, reply, pending⟩ :=
    Performs.call taken.reserved taken.yields.deaf depth .init
  refine ⟨listening, starting, listens, plain, starts, plain', ?_, reply, pending.trans ?_⟩
  · have whole := (first.trans taken).trans second
    rwa [List.append_nil] at whole
  · rw [locals_takeError]
    exact Option.none_or

theorem obtained_performs (depth : Nat) : ∃ watching : Exchange,
    watching.call = .setMonitorCallback ∧ watching.Plain ∧
    Performs p (final (obtained (backend depth)) p)
      (.obtained (.library {}) :: watching.entries) ∧
    result (obtained (backend depth)) p = (p.locals.pending <|> watching.error?) ∧
    (final (obtained (backend depth)) p).locals.pending = none := by
  have counted : Performs p { p with holders := 1 } [] := .shared hp hd ⟨rfl, rfl, rfl⟩ rfl
  have noted := counted.trans (.note (h := .obtained (.library {})) counted.reserved
    counted.yields.deaf rfl)
  obtain ⟨watching, watches, plain, called, -, pending⟩ :=
    Performs.call noted.reserved noted.yields.deaf depth .setMonitorCallback
  have taken := Performs.takeError called.reserved called.yields.deaf
  refine ⟨watching, watches, plain, ?_, pending, by rw [obtained]; exact locals_takeError _ ▸ rfl⟩
  have whole := (noted.trans called).trans taken
  rwa [List.append_nil] at whole

/-- An error ends the initialization, and the native library is terminated. -/
theorem judged_error (depth : Nat) (only : p.holders = 1) (e : Error) :
    ∃ (ending : Exchange) (r : Process), ending.call = .terminate ∧ ending.Plain ∧
      Performs p r (.dropped (.library {}) :: ending.entries ++
        ending.error?.toList.map fun e => .logged (.terminateFailed e)) ∧
      final (judged (backend depth) (some e)) p = final unlock r ∧
      result (judged (backend depth) (some e)) p = .error ⟨e⟩ ∧
      r.locals.pending = p.locals.pending := by
  have noted : Performs p (p.note (.dropped (.library {}))) [.dropped (.library {})] :=
    .note hp hd rfl
  have given := noted.trans (.shared (q := { p.note (.dropped (.library {})) with holders := 0 })
    noted.reserved noted.yields.deaf ⟨rfl, rfl, rfl⟩ rfl)
  obtain ⟨ending, r, ends, plain, performs, run, pending⟩ :=
    terminate_performs depth given.reserved given.yields.deaf
  exact ⟨ending, r, ends, plain, given.trans performs, (final_drop_only _ only).trans run, rfl,
    pending⟩

theorem judged_ok (depth : Nat) : ∃ asking : Exchange,
    asking.call = .getVersionString ∧ asking.Plain ∧
    Performs p (final (judged (backend depth) none) p) (asking.entries ++
      [.logged (.initialized ((asking.reply.text.map Text.read).getD ""))]) ∧
    result (judged (backend depth) none) p = .ok {} := by
  obtain ⟨asking, asks, plain, called, reply, -⟩ := Performs.call hp hd depth .getVersionString
  refine ⟨asking, asks, plain, ?_, rfl⟩
  have logged := called.trans (.note (h := .logged (.initialized
    ((asking.reply.text.map Text.read).getD ""))) called.reserved called.yields.deaf rfl)
  rw [← reply] at logged ⊢
  exact logged

end Parts

/-- What happens at the end of an initialization: the version is logged, or the native library is
terminated if it was initialized. -/
def Ends (ending : List Happening) : Except InitError Library → (watching : Option Exchange) → Prop
  | .ok _, _ => ∃ asking : Exchange, asking.call = .getVersionString ∧ asking.Plain ∧
    ending = asking.entries ++
      [.logged (.initialized ((asking.reply.text.map Text.read).getD ""))]
  | .error _, some _ => ∃ last : Exchange, last.call = .terminate ∧ last.Plain ∧
    ending = .dropped (.library {}) :: last.entries ++
      last.error?.toList.map fun e => .logged (.terminateFailed e)
  | .error _, none => ending = []

/-- The native library is terminated if the initialization fails after that of the native library. -/
theorem Ends.count {ending : List Happening} {outcome : Except InitError Library}
    {watching : Option Exchange} (h : Ends ending outcome watching) :
    ending.count (.called .terminate) =
      if outcome matches .error _ && watching.isSome then 1 else 0 := by
  cases outcome with
  | ok l =>
    obtain ⟨asking, asks, plain, rfl⟩ := h
    simp [plain.count, asks]
  | error e =>
    cases watching with
    | none =>
      obtain rfl : ending = [] := h
      rfl
    | some x =>
      obtain ⟨last, ends, plain, rfl⟩ := h
      have logs : (last.error?.toList.map fun e => Happening.logged (.terminateFailed e)).count
          (.called .terminate) = 0 := by
        cases last.error? <;> simp
      simp [plain.count, ends, logs]

end Library

/-- While the lock is free, no thread has a handle. -/
theorem Standing.bare (h : Standing p none) (free : p.locked = false) (u : ThreadId) :
    (p.threads.get u).Bare := by
  cases h with
  | free unowned => exact unowned.bare u
  | kept kept =>
    rw [kept.guarded.locked] at free
    cases free

/-- While the lock is free, a thread that takes it has the initialization to itself. -/
theorem ReadyToStep.locks (h : ReadyToStep p) (free : p.locked = false) :
    Performs p p.withLock [] := by
  have deaf := h.unheeding.2
  obtain ⟨w, o, calm, work, -, standing⟩ := h
  obtain ⟨rfl, -⟩ := work.outset calm standing free
  exact ⟨.of_sameThreads ⟨rfl, rfl, rfl⟩, rfl,
    ⟨work.sight.running, rfl, fun u _ => standing.bare free u⟩, deaf, [], rfl, by simp⟩

namespace Library

/-- What an initialization with the given outcome does: one that fails frees the lock in the end, when no
error is pending. -/
def ReleasesOnFailure (p q : Process) (hs : List Happening) : Except InitError Library → Prop
  | .ok _ => Performs p q hs
  | .error _ => ∃ r, Performs p r hs ∧ r.locals.pending = none ∧ q = final unlock r

theorem ReleasesOnFailure.leaves {outcome : Except InitError Library}
    (h : ReleasesOnFailure p q hs outcome) :
    Leaves p q hs := by
  cases outcome with
  | ok l => exact Performs.leaves h
  | error e =>
    obtain ⟨r, performs, -, rfl⟩ := h
    have unlocked : Leaves r (final unlock r) [] := .of_sameThreads ⟨rfl, rfl, rfl⟩
    simpa using performs.leaves.trans unlocked

theorem ReleasesOnFailure.after {hs' : List Happening} {outcome : Except InitError Library}
    (first : Performs p q hs) (h : ReleasesOnFailure q r hs' outcome) :
    ReleasesOnFailure p r (hs ++ hs') outcome := by
  cases outcome with
  | ok l => exact first.trans h
  | error e =>
    obtain ⟨last, performs, pending, rfl⟩ := h
    exact ⟨last, first.trans performs, pending, rfl⟩

/-- After a failure the lock is free and no error is pending, and what needs a handle happened as often
as the thread did it. -/
theorem ReleasesOnFailure.failed {e : InitError} (h : ReleasesOnFailure p q hs (.error e)) :
    q.locked = false ∧ q.locals.pending = none ∧ ∀ x : Happening, x.common = false →
      ∃ later, q.history = later ++ p.history ∧ (later.map (·.what)).count x = hs.count x := by
  obtain ⟨r, performs, pending, rfl⟩ := h
  exact ⟨rfl, pending, fun x => performs.count⟩

/-- How the end of an initialization comes about, once the native library is initialized. -/
theorem obtained_releasesOnFailure (depth : Nat) (hp : Reserved p.current p) (hd : Deaf p)
    (only : (final (obtained (backend depth)) p).holders = 1) :
    let m := obtained (backend depth) >>= judged (backend depth)
    ∃ (watching : Exchange) (ending : List Happening),
      watching.call = .setMonitorCallback ∧ watching.Plain ∧
      Ends ending (result m p) (some watching) ∧
      ReleasesOnFailure p (final m p) (.obtained (.library {}) :: watching.entries ++ ending)
        (result m p) ∧
      result m p = match p.locals.pending <|> watching.error? with
        | none => .ok {}
        | some e => .error ⟨e⟩ := by
  obtain ⟨watching, watches, plain, obtains, error, pending⟩ := obtained_performs hp hd depth
  simp only [result_bind, final_bind, error]
  cases first : p.locals.pending <|> watching.error? with
  | none =>
    obtain ⟨asking, asks, plain', judges, ok⟩ := judged_ok obtains.reserved obtains.yields.deaf depth
    rw [ok]
    exact ⟨watching, _, watches, plain, ⟨asking, asks, plain', rfl⟩, obtains.trans judges,
      by rw [first]⟩
  | some e =>
    obtain ⟨last, r, ends, plain', judges, ended, failed, pending'⟩ :=
      judged_error obtains.reserved obtains.yields.deaf depth only e
    rw [failed]
    exact ⟨watching, _, watches, plain, ⟨last, ends, plain', rfl⟩,
      ⟨r, obtains.trans judges, pending'.trans pending, ended⟩, by rw [first]⟩

/-- The initialization of the native library has failed. -/
theorem failed_releasesOnFailure (hp : Reserved p.current p) (hd : Deaf p) :
    ReleasesOnFailure p (final failed p) [] (result failed p) ∧
      result failed p = .error ⟨p.locals.pending.getD (.unreported Call.init.name)⟩ :=
  ⟨⟨final takeError p, .takeError hp hd, congrArg Locals.pending (locals_takeError p), rfl⟩, rfl⟩

/-- What an initialization comes to, by the first error of its two calls and by whether the native
library was initialized. -/
def judgement (error : Option Error) (initialized : Bool) : Except InitError Library :=
  match error, initialized with
  | none, true => .ok {}
  | e, _ => .error ⟨e.getD (.unreported Call.init.name)⟩

theorem judgement_eq_ok_iff {error : Option Error} {initialized : Bool} :
    judgement error initialized = .ok {} ↔ initialized = true ∧ error = none := by
  cases error <;> cases initialized <;> simp [judgement]

theorem judgement_eq_error {error : Option Error} {initialized : Bool} {e : InitError}
    (h : judgement error initialized = .error e) :
    e.cause = error.getD (.unreported Call.init.name) := by
  cases error <;> cases initialized <;> cases h <;> rfl

/-- An initialization, from the lock on. -/
theorem init_releasesOnFailure (depth : Nat) (h : ReadyToStep p) (free : p.locked = false) :
    let m := init (backend depth)
    ∃ (listening starting : Exchange) (watching : Option Exchange) (ending : List Happening),
      listening.call = .setErrorCallback ∧ listening.Plain ∧
      starting.call = .init ∧ starting.Plain ∧
      (∀ x ∈ watching, x.call = .setMonitorCallback ∧ x.Plain) ∧
      watching.isSome = Flag.isSet starting.reply.value ∧
      Ends ending (result m p) watching ∧
      ReleasesOnFailure p (final m p) (listening.entries ++ starting.entries ++
        (watching.elim [] fun x => .obtained (.library {}) :: x.entries) ++ ending) (result m p) ∧
      result m p = judgement (starting.error? <|> watching.bind (·.error?)) watching.isSome := by
  have locks := h.locks free
  have first := h.first (backend_libraryKeepsBooks depth) free
  obtain ⟨listening, starting, listens, plain, starts, plain', attempts, reply, pending⟩ :=
    attempted_performs locks.reserved locks.yields.deaf depth
  have attempted := locks.trans attempts
  let r := final (Library.attempted (backend depth)) p.withLock
  have outcome : result (init (backend depth)) p = result (sequel (backend depth) starting.reply) r :=
    by rw [← reply, result_init]; rfl
  have ended : final (init (backend depth)) p = final (sequel (backend depth) starting.reply) r := by
    rw [← reply, final_init]; rfl
  rw [reply] at first
  simp only [outcome, ended]
  by_cases success : Flag.isSet starting.reply.value = true
  · obtain ⟨watching, ending, watches, plain'', ends, releasesOnFailure, same⟩ :=
      obtained_releasesOnFailure depth attempted.reserved attempted.yields.deaf (first success)
    rw [sequel, if_pos success]
    refine ⟨listening, starting, some watching, ending, listens, plain, starts, plain',
      fun _ hx => Option.some.inj hx ▸ ⟨watches, plain''⟩, success.symm, ends, ?_, ?_⟩
    · simpa using releasesOnFailure.after attempted
    · rw [same, pending, Option.bind_some]
      cases starting.error? <|> watching.error? <;> rfl
  · obtain ⟨releasesOnFailure, same⟩ := failed_releasesOnFailure attempted.reserved
      attempted.yields.deaf
    rw [sequel, if_neg success]
    refine ⟨listening, starting, none, [], listens, plain, starts, plain', (fun _ hx => by cases hx),
      by simpa using success, ?_, ?_, ?_⟩
    · rw [same]
      rfl
    · simpa using releasesOnFailure.after attempted
    · rw [same, pending]
      cases starting.error? <;> rfl

end Library

/-- Whatever was pending before, whatever the native library returns and reports: an initialization
registers the error callback, initializes the native library and, if that succeeds, registers the
monitor callback. It succeeds exactly if the native library was initialized and neither of the last
two calls reported an error. Otherwise it fails with the first error of these two, or if there is none
with the one that says so. Then the lock is free, no error is pending, no thread has a handle, and the
native library has been terminated once if it was initialized, and not at all if it was not; what that
reported is only logged. -/
theorem initialization_outcome (h : Juncture true p) (free : p.locked = false) (depth : Nat)
    (script : Script) :
    let p := p.stepping script
    let m := Library.init (backend depth)
    let q := final m p
    ∃ (listening starting : Exchange) (watching : Option Exchange) (ending : List Happening),
      listening.call = .setErrorCallback ∧ listening.Plain ∧
      starting.call = .init ∧ starting.Plain ∧
      (∀ x ∈ watching, x.call = .setMonitorCallback ∧ x.Plain) ∧
      watching.isSome = Flag.isSet starting.reply.value ∧
      Library.Ends ending (result m p) watching ∧
      during m p = listening.entries ++ starting.entries ++
        (watching.elim [] fun x => .obtained (.library {}) :: x.entries) ++ ending ∧
      (result m p = .ok {} ↔ Flag.isSet starting.reply.value = true ∧ starting.error? = none ∧
        ∀ x ∈ watching, x.error? = none) ∧
      ∀ e, result m p = .error e →
        e.cause = ((starting.error? <|> watching.bind (·.error?)).getD
          (.unreported Call.init.name)) ∧
        q.locked = false ∧ q.locals.pending = none ∧
        (∀ t, (q.threads.get t).tables.handles = []) ∧
        ∃ later, q.history = later ++ p.history ∧ (later.map (·.what)).count (.called .terminate) =
          if Flag.isSet starting.reply.value then 1 else 0 := by
  intro p m q
  have readyToStep : ReadyToStep p := h.settled.readyToStep.stepping script
  obtain ⟨listening, starting, watching, ending, listens, plain, starts, plain', watches, success,
    ends,
    releasesOnFailure, outcome⟩ := Library.init_releasesOnFailure depth readyToStep free
  refine ⟨listening, starting, watching, ending, listens, plain, starts, plain', watches, success,
    ends,
    releasesOnFailure.leaves.during_eq, ?_, fun e failed => ?_⟩
  · rw [outcome, Library.judgement_eq_ok_iff, success]
    simp
  · have cause := Library.judgement_eq_error (outcome.symm.trans failed)
    rw [failed] at releasesOnFailure ends
    obtain ⟨unlocked, pending, counts⟩ := releasesOnFailure.failed
    obtain ⟨later, hlater, count⟩ := counts (.called .terminate) rfl
    refine ⟨cause, unlocked, pending, fun t => ?_, later, hlater, count.trans ?_⟩
    · obtain ⟨w, o, calm, work, -, standing⟩ := readyToStep
      obtain ⟨-, begun⟩ := init_begun (backend_libraryKeepsBooks depth) calm work standing free
      rw [failed] at begun
      exact (begun.1.bare unlocked t).handles
    · cases watching with
      | none => simp [plain.count, listens, plain'.count, starts, ends.count, ← success]
      | some x =>
        obtain ⟨watches, plain''⟩ := watches x rfl
        simp [plain.count, listens, plain'.count, starts, plain''.count, watches, ends.count,
          ← success]

/-- A program whose first initialization failed. -/
def unstarted : Process :=
  final (runStep (backend 1) (.mk ⟨[("glfwInit", [{}])]⟩ .init)) (Session.start {})

/-- The native library is initialized and terminated again, and reports an error each time. -/
def troubledStart : Script :=
  ⟨[("glfwSetErrorCallback", [{ callbacks := [.error 0x70003 none] }]),
    ("glfwInit", [{ value := 1, callbacks := [.error 0x70008 none] }]),
    ("glfwTerminate", [{ callbacks := [.error 0x70001 none] }])]⟩

theorem initialization_outcome_troubled :
    Juncture true unstarted ∧ unstarted.locked = false ∧
    let p := unstarted.stepping troubledStart
    let q := final (Library.init (backend 1)) p
    result (Library.init (backend 1)) p = .error ⟨.reported 0x70008 ""⟩ ∧ q.locked = false ∧
    q.locals.pending = none ∧ (∀ t, (q.threads.get t).tables.handles = []) ∧
    (q.history.map (·.what)).count (.called .terminate) = 1 := by
  have reached : Juncture true unstarted := .step 1 _ (.start {})
  have free : unstarted.locked = false := by decide +kernel
  have failed : result (Library.init (backend 1)) (unstarted.stepping troubledStart) =
      .error ⟨.reported 0x70008 ""⟩ := by decide +kernel
  obtain ⟨_, _, _, _, -, -, -, -, -, -, -, -, -, fails⟩ :=
    initialization_outcome reached free 1 troubledStart
  obtain ⟨-, unlocked, pending, none, -⟩ := fails _ failed
  exact ⟨reached, free, failed, unlocked, pending, none, by decide +kernel⟩

end Windowing
