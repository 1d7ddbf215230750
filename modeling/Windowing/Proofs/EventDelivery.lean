import Windowing.Proofs.WatchedRuns

/-!
Delivery of events. What the handler of a pump should receive is read off the callbacks that the
native library fires and the calls that run meanwhile; the main statement is that it receives
exactly this, in every run and on every thread, and that no event is delivered elsewhere.
-/

namespace Windowing

open Native Client

/-- What happened on a thread, in order. -/
def Session.happenings (s : Session) (t : ThreadId) : List Happening :=
  (s.history.filter fun e => e.thread = t).map (·.what)

/-- The event that a handler receives, with its time. -/
def Happening.delivery? : Happening → Option (Float × Event)
  | .handling time event => some (time, event)
  | _ => none

def received (hs : List Happening) : List (Float × Event) :=
  hs.filterMap (·.delivery?)

/-- Whether a pumping call returns here. -/
def Happening.endsPump : Happening → Bool
  | .returned call _ => call.pumps
  | _ => false

/-- What happens before the pumping call returns. -/
def inside : List Happening → List Happening
  | [] => []
  | h :: rest => if h.endsPump then [] else h :: inside rest

/-- What happens inside each pumping call. -/
def pumps : List Happening → List (List Happening)
  | [] => []
  | .called call :: rest => if call.pumps then inside rest :: pumps rest else pumps rest
  | _ :: rest => pumps rest

/-- How far the callbacks of a pump have come. -/
structure Intake where
  /-- The event that was just fired, whose time must be read next. -/
  armed : Option Event := none
  /-- The calls that run, the innermost first, each with the event whose time it reads. -/
  reads : List (Option Event) := []
  /-- Whether an invocation of the handler runs. -/
  busy : Bool := false

/-- The events that are fired while no invocation of the handler runs, as far as they can be decoded,
in the order in which the reads of their times return, up to a panic of the handler. There is no
answer if an event's time is not read at once or the read does not return. -/
def due (r : Intake) : List Happening → Option (List (Float × Event))
  | [] => if r.armed = none ∧ r.reads = [] then some [] else none
  | h :: rest =>
    if r.armed.isSome ∧ h ≠ .called .getTime then none
    else match h with
    | .invoked callback =>
      due { r with armed := if r.busy then none else callback.event? } rest
    | .called _ => due { r with armed := none, reads := r.armed :: r.reads } rest
    | .returned _ reply =>
      match r.reads with
      | [] => none
      | read :: outer =>
        (due { r with reads := outer } rest).map
          ((read.map fun event => (reply.time, event)).toList ++ ·)
    | .handling _ _ => due { r with busy := true } rest
    | .handled none => due { r with busy := false } rest
    | .handled (some _) => some []
    | _ => due r rest

/-! ### The watch in order -/

namespace Watch

/-- Reads what happens next on a thread. -/
def run (w : Watch) : List Happening → Option Watch
  | [] => some w
  | h :: rest => (w.step h).bind (·.run rest)

theorem run_append (w : Watch) (first rest : List Happening) :
    w.run (first ++ rest) = (w.run first).bind (·.run rest) := by
  induction first generalizing w with
  | nil => rfl
  | cons h first ih =>
    simp only [List.cons_append, run]
    cases w.step h with
    | none => rfl
    | some w' => exact ih w'

theorem read_eq_run (hs : List Happening) : read hs = run {} hs.reverse := by
  induction hs with
  | nil => rfl
  | cons h older ih =>
    rw [read, ih, List.reverse_cons, run_append]
    cases run {} older.reverse with
    | none => rfl
    | some w =>
      simp only [Option.bind_some, run]
      cases w.step h <;> rfl

variable {w w' : Watch}

theorem step_called {call : Call} (h : w.step (.called call) = some w') (hc : call.pumps = false) :
    w.owed = none ∧ (w.armed = none ∨ call = .getTime) ∧
      w' = { w with armed := none, frames := (call, w.frame call) :: w.frames } := by
  simp only [step, hc, Bool.false_eq_true, ↓reduceIte, Option.ite_none_right_eq_some,
    Option.some.injEq] at h
  exact ⟨h.1.1, h.1.2, h.2.symm⟩

theorem step_called_pump {call : Call} (h : w.step (.called call) = some w')
    (hc : call.pumps = true) : w = {} ∧ w' = { stage := .listening, frames := [(call, none)] } := by
  simp only [step, hc, ↓reduceIte, Option.ite_none_right_eq_some, Option.some.injEq] at h
  exact ⟨h.1, h.2.symm⟩

theorem step_returned {call : Call} {reply : Reply} (h : w.step (.returned call reply) = some w') :
    w.Clear ∧ ∃ frame rest, w.frames = (call, frame) :: rest ∧
      (w.stage = .handling → frame = none) ∧
      (call.pumps = true ∧ rest = [] ∧ w' = {} ∨ call.pumps = false ∧
        w' = { w with frames := rest, owed := w.claim reply.time frame }) := by
  simp only [step] at h
  cases hframes : w.frames with
  | nil => simp [hframes] at h
  | cons top rest =>
    obtain ⟨running, frame⟩ := top
    simp only [hframes] at h
    split at h
    · cases h
    next hw =>
    obtain ⟨hclear, hcall, hreader⟩ : w.Clear ∧ call = running ∧
        (w.stage = .handling → frame = none) := by
      simpa using hw
    subst hcall
    refine ⟨hclear, frame, rest, rfl, hreader, ?_⟩
    split at h
    next hc =>
      simp only [Option.ite_none_right_eq_some, Option.some.injEq] at h
      exact .inl ⟨hc, h.1.1, h.2.symm⟩
    next hc => exact .inr ⟨by simpa using hc, by simpa using h.symm⟩

theorem step_invoked {callback : Callback} (h : w.step (.invoked callback) = some w') :
    w.Clear ∧ w' = { w with armed := if w.stage = .listening then callback.event? else none } := by
  simp only [step, Option.ite_none_right_eq_some, Option.some.injEq] at h
  exact ⟨h.1, h.2.symm⟩

theorem step_handling {time : Float} {event : Event}
    (h : w.step (.handling time event) = some w') :
    w.armed = none ∧ w.owed = some (time, event) ∧
      w' = { w with stage := .handling, owed := none } := by
  simp only [step, Option.ite_none_right_eq_some, Option.some.injEq] at h
  exact ⟨h.1.1, h.1.2, h.2.symm⟩

theorem step_handled {panic : Option String} (h : w.step (.handled panic) = some w') :
    w.Clear ∧ w.stage = .handling ∧
      w' = { w with stage := if panic.isSome then .panicked else .listening } := by
  simp only [step, Option.ite_none_right_eq_some, Option.some.injEq] at h
  exact ⟨h.1.1, h.1.2, h.2.symm⟩

theorem step_of_still {h : Happening} (hs : h.still = true) (hw : w.step h = some w') :
    w.Clear ∧ w' = w := by
  cases h <;> first
    | cases hs; done
    | simp only [step, Option.ite_none_right_eq_some, Option.some.injEq] at hw
      exact ⟨hw.1, hw.2.symm⟩

end Watch

namespace Session

theorem happenings_eq (s : Session) (t : ThreadId) :
    s.happenings t = ((final s.body s.start).entriesOf t).reverse := by
  change ((final s.body s.start).history.reverse.filter _).map _ = _
  rw [List.filter_reverse, List.map_reverse, Process.entriesOf]

/-- A session leaves no thread with an event on its way or a handler installed. -/
theorem run_happenings (s : Session) (t : ThreadId) : Watch.run {} (s.happenings t) = some {} := by
  obtain ⟨calm, work⟩ := s.start_calm
  obtain ⟨staysCalm, confined⟩ := s.body_staysCalm
  obtain ⟨calm', work'⟩ := staysCalm _ _ calm work
  rw [happenings_eq, ← Watch.read_eq_run]
  change (final s.body s.start).watch t = some {}
  have within := confined s.start
  by_cases ht : t ∈ (final s.body s.start).running
  · have hcurrent : t = (final s.body s.start).current := by
      rw [within.current]
      rw [within.running] at ht
      exact List.mem_singleton.1 ht
    rw [hcurrent]
    exact work'.sight.watch
  · exact (calm' t ht).watch

end Session

/-! ### Inside a pump -/

/-- The watch and the intake have read the same entries of a pump. -/
structure Matches (pump : Call) (w : Watch) (r : Intake) : Prop where
  pumps : pump.pumps = true
  stage : w.stage = .listening ∧ r.busy = false ∨ w.stage = .handling ∧ r.busy = true
  armed : r.armed = w.armed
  reads : w.frames.map (·.2) = r.reads ++ [none]
  outermost : w.frames.getLast? = some (pump, none)

theorem Watch.run_cons {w : Watch} {h : Happening} {rest : List Happening} {final : Watch}
    (hrun : w.run (h :: rest) = some final) :
    ∃ w', w.step h = some w' ∧ w'.run rest = some final := by
  simpa only [run, Option.bind_eq_some_iff] using hrun

theorem inside_cons {h : Happening} (hend : h.endsPump = false) (rest : List Happening) :
    inside (h :: rest) = h :: inside rest := by
  rw [inside, hend]
  rfl

theorem due_still {h : Happening} (hs : h.still = true) {r : Intake} (ha : r.armed = none)
    (rest : List Happening) : due r (h :: rest) = due r rest := by
  cases h <;> first
    | cases hs; done
    | simp [due, ha]

theorem received_cons {h : Happening} (hd : h.delivery? = none) (rest : List Happening) :
    received (h :: rest) = received rest :=
  List.filterMap_cons_none hd

/-- A handler that has panicked receives nothing more. -/
theorem received_panicked (hs : List Happening) (w : Watch) (hrun : w.run hs = some {})
    (hstage : w.stage = .panicked) (howed : w.owed = none) : received (inside hs) = [] := by
  induction hs generalizing w with
  | nil => rfl
  | cons h rest ih =>
    obtain ⟨w', hstep, hrest⟩ := Watch.run_cons hrun
    cases h with
    | called call =>
      cases hc : call.pumps with
      | true =>
        obtain ⟨rfl, -⟩ := Watch.step_called_pump hstep hc
        cases hstage
      | false =>
        obtain ⟨-, -, rfl⟩ := Watch.step_called hstep hc
        exact ih _ hrest hstage howed
    | returned call reply =>
      obtain ⟨-, frame, outer, -, -, ⟨hc, -, -⟩ | ⟨hc, rfl⟩⟩ := Watch.step_returned hstep
      · rw [inside, Happening.endsPump, hc]
        rfl
      · rw [inside_cons (by rw [Happening.endsPump, hc])]
        exact ih _ hrest hstage (by simp [Watch.claim, hstage])
    | invoked callback =>
      obtain ⟨-, rfl⟩ := Watch.step_invoked hstep
      exact ih _ hrest hstage howed
    | handling time event =>
      obtain ⟨-, howed', -⟩ := Watch.step_handling hstep
      rw [howed] at howed'
      cases howed'
    | handled panic =>
      obtain ⟨-, hstage', -⟩ := Watch.step_handled hstep
      rw [hstage] at hstage'
      cases hstage'
    | logged _ | obtained _ | dropped _ | stepStarted | stepEnded _ | threadEnded _ =>
      obtain ⟨-, rfl⟩ := Watch.step_of_still rfl hstep
      exact ih _ hrest hstage howed

namespace Matches

variable {pump call : Call} {w : Watch} {r : Intake} {frame : Option Event}
  {outer : List (Call × Option Event)}

/-- A pump runs. -/
theorem not_idle (hm : Matches pump {} r) : False := by
  rcases hm.stage with ⟨hs, -⟩ | ⟨hs, -⟩ <;> cases hs

/-- An event's time is read at once. -/
theorem reads_at_once (hm : Matches pump w r) (harmed : w.armed = none ∨ call = .getTime) :
    w.frame call = r.armed ∧
      ¬(r.armed.isSome = true ∧ Happening.called call ≠ .called .getTime) := by
  rw [hm.armed, Watch.frame]
  rcases harmed with ha | rfl
  · simp [ha]
  · simp

theorem called (hm : Matches pump w r) (harmed : w.armed = none ∨ call = .getTime) :
    Matches pump { w with armed := none, frames := (call, w.frame call) :: w.frames }
      { r with armed := none, reads := r.armed :: r.reads } := by
  refine ⟨hm.pumps, hm.stage, rfl, ?_, ?_⟩
  · simp [(hm.reads_at_once harmed).1, hm.reads]
  · rw [List.getLast?_cons, hm.outermost]
    rfl

/-- When the pump returns no time is being read. -/
theorem reads_nil (hm : Matches pump w r) (hframes : w.frames = [(call, frame)]) :
    r.reads = [] := by
  have same := congrArg List.length hm.reads
  rw [hframes] at same
  simpa using same.symm

/-- The call that returns inside a pump reads the innermost time. -/
theorem returned (hm : Matches pump w r) (hframes : w.frames = (call, frame) :: outer)
    (hc : call.pumps = false) (owed : Option (Float × Event)) :
    ∃ reads, r.reads = frame :: reads ∧
      Matches pump { w with frames := outer, owed := owed } { r with reads := reads } := by
  have hmap := hm.reads
  have hlast := hm.outermost
  rw [hframes] at hmap hlast
  cases hreads : r.reads with
  | nil =>
    rw [hreads] at hmap
    obtain ⟨rfl, houter⟩ := List.cons.inj hmap
    obtain rfl := List.map_eq_nil_iff.1 houter
    obtain ⟨rfl, -⟩ := Prod.mk.inj (Option.some.inj hlast)
    rw [hm.pumps] at hc
    cases hc
  | cons read reads =>
    rw [hreads] at hmap
    obtain ⟨rfl, houter⟩ := List.cons.inj hmap
    have hne : outer ≠ [] := fun hnil => by simp [hnil] at houter
    rw [List.getLast?_cons_of_ne_nil hne] at hlast
    exact ⟨reads, rfl, hm.pumps, hm.stage, hm.armed, houter, hlast⟩

/-- What the handler is owed when a time has been read: the event whose time it is. -/
theorem claim_eq (hm : Matches pump w r) (hreader : w.stage = .handling → frame = none)
    (time : Float) : w.claim time frame = frame.map fun event => (time, event) := by
  rcases hm.stage with ⟨hs, -⟩ | ⟨hs, -⟩
  · exact if_pos hs
  · rw [hreader hs, Watch.claim_none]
    rfl

theorem invoked (hm : Matches pump w r) (callback : Callback) :
    Matches pump { w with armed := if w.stage = .listening then callback.event? else none }
      { r with armed := if r.busy then none else callback.event? } := by
  refine ⟨hm.pumps, hm.stage, ?_, hm.reads, hm.outermost⟩
  rcases hm.stage with ⟨hs, hb⟩ | ⟨hs, hb⟩ <;> simp [hs, hb]

theorem handling (hm : Matches pump w r) :
    Matches pump { w with stage := .handling, owed := none } { r with busy := true } :=
  ⟨hm.pumps, .inr ⟨rfl, rfl⟩, hm.armed, hm.reads, hm.outermost⟩

theorem handled (hm : Matches pump w r) :
    Matches pump { w with stage := .listening } { r with busy := false } :=
  ⟨hm.pumps, .inl ⟨rfl, rfl⟩, hm.armed, hm.reads, hm.outermost⟩

end Matches

/-- What the handler of a pump received is due, but for the event that it was owed already. -/
theorem due_received {pump : Call} (hs : List Happening) (w : Watch) (r : Intake)
    (hm : Matches pump w r) (hrun : w.run hs = some {}) :
    (due r (inside hs)).map (w.owed.toList ++ ·) = some (received (inside hs)) := by
  induction hs generalizing w r with
  | nil =>
    cases hrun
    exact hm.not_idle.elim
  | cons h rest ih =>
    obtain ⟨w', hstep, hrest⟩ := Watch.run_cons hrun
    have unarmed : w.Clear → ¬(r.armed.isSome = true ∧ h ≠ .called .getTime) := fun hclear => by
      simp [hm.armed, hclear.armed]
    cases h with
    | called call =>
      cases hc : call.pumps with
      | true =>
        obtain ⟨rfl, -⟩ := Watch.step_called_pump hstep hc
        exact hm.not_idle.elim
      | false =>
        obtain ⟨-, harmed, rfl⟩ := Watch.step_called hstep hc
        have later := ih _ _ (hm.called harmed) hrest
        rw [inside_cons rfl, due, if_neg (hm.reads_at_once harmed).2, received_cons rfl]
        exact later
    | returned call reply =>
      obtain ⟨hclear, frame, outer, hframes, hreader, ⟨hc, rfl, rfl⟩ | ⟨hc, rfl⟩⟩ :=
        Watch.step_returned hstep
      · have hempty : inside (.returned call reply :: rest) = [] := by
          rw [inside, Happening.endsPump, hc]
          rfl
        rw [hempty, due, hm.armed, hclear.armed, hclear.owed, hm.reads_nil hframes]
        rfl
      · obtain ⟨reads, hreads, hm'⟩ := hm.returned hframes hc (w.claim reply.time frame)
        have later := ih _ _ hm' hrest
        rw [hm.claim_eq hreader] at later
        rw [inside_cons (by rw [Happening.endsPump, hc]), due, if_neg (unarmed hclear), hreads,
          received_cons rfl, ← later, hclear.owed]
        simp [Function.comp_def]
    | invoked callback =>
      obtain ⟨hclear, rfl⟩ := Watch.step_invoked hstep
      have later := ih _ _ (hm.invoked callback) hrest
      rw [inside_cons rfl, due, if_neg (unarmed hclear), received_cons rfl]
      exact later
    | handling time event =>
      obtain ⟨harmed, howed, rfl⟩ := Watch.step_handling hstep
      have later : due { r with busy := true } (inside rest) = some (received (inside rest)) := by
        simpa using ih _ _ hm.handling hrest
      rw [inside_cons rfl, due, if_neg (by simp [hm.armed, harmed]), howed]
      simp [later, received, Happening.delivery?]
    | handled panic =>
      obtain ⟨hclear, hstage, rfl⟩ := Watch.step_handled hstep
      cases panic with
      | some message =>
        rw [inside_cons rfl, due, if_neg (unarmed hclear), received_cons rfl, hclear.owed,
          received_panicked rest _ hrest rfl hclear.owed]
        rfl
      | none =>
        have later := ih _ _ hm.handled hrest
        rw [inside_cons rfl, due, if_neg (unarmed hclear), received_cons rfl]
        exact later
    | logged _ | obtained _ | dropped _ | stepStarted | stepEnded _ | threadEnded _ =>
      obtain ⟨hclear, rfl⟩ := Watch.step_of_still rfl hstep
      have harmed : r.armed = none := hm.armed.trans hclear.armed
      rw [inside_cons rfl, due_still rfl harmed, received_cons rfl]
      exact ih _ r hm hrest

/-! ### Whole runs -/

theorem pumps_cons {h : Happening} (hc : ∀ call, h = .called call → call.pumps = false)
    (rest : List Happening) : pumps (h :: rest) = pumps rest := by
  cases h with
  | called call => simp [pumps, hc call rfl]
  | _ => rfl

/-- Each pump delivers what is due. -/
theorem due_of_mem_pumps (hs : List Happening) (w : Watch) (hrun : w.run hs = some {}) :
    ∀ events ∈ pumps hs, due {} events = some (received events) := by
  induction hs generalizing w with
  | nil => simp [pumps]
  | cons h rest ih =>
    obtain ⟨w', hstep, hrest⟩ := Watch.run_cons hrun
    by_cases hpump : ∃ call, h = .called call ∧ call.pumps = true
    · obtain ⟨call, rfl, hc⟩ := hpump
      obtain ⟨-, rfl⟩ := Watch.step_called_pump hstep hc
      have start : Matches call { stage := .listening, frames := [(call, none)] } {} :=
        ⟨hc, .inl ⟨rfl, rfl⟩, rfl, rfl, rfl⟩
      have first : due {} (inside rest) = some (received (inside rest)) := by
        simpa using due_received rest _ _ start hrest
      intro events hmem
      rw [pumps, if_pos hc, List.mem_cons] at hmem
      rcases hmem with rfl | hmem
      · exact first
      · exact ih _ hrest events hmem
    · rw [pumps_cons (by simpa using hpump)]
      exact ih _ hrest

/-- What neither begins nor ends a pump nor is delivered leaves what is received as it is split. -/
theorem received_split_cons {h : Happening} {rest : List Happening} (hend : h.endsPump = false)
    (hd : h.delivery? = none) (hc : ∀ call, h = .called call → call.pumps = false)
    (outside : Prop) [Decidable outside]
    (later : received rest = (if outside then [] else received (inside rest)) ++
      (pumps rest).flatMap received) :
    received (h :: rest) = (if outside then [] else received (inside (h :: rest))) ++
      (pumps (h :: rest)).flatMap received := by
  rw [inside_cons hend, received_cons hd, received_cons hd, pumps_cons hc]
  exact later

/-- Outside pumps nothing is delivered. -/
theorem received_eq (hs : List Happening) (w : Watch) (hrun : w.run hs = some {})
    (hw : w.stage = .outside → w.owed = none) : received hs =
      (if w.stage = .outside then [] else received (inside hs)) ++ (pumps hs).flatMap received := by
  induction hs generalizing w with
  | nil =>
    cases hrun
    rfl
  | cons h rest ih =>
    obtain ⟨w', hstep, hrest⟩ := Watch.run_cons hrun
    cases h with
    | called call =>
      cases hc : call.pumps with
      | true =>
        obtain ⟨rfl, rfl⟩ := Watch.step_called_pump hstep hc
        have later := ih _ hrest (by simp)
        rw [received_cons rfl, later, pumps, if_pos hc]
        rfl
      | false =>
        obtain ⟨-, -, rfl⟩ := Watch.step_called hstep hc
        have later := ih _ hrest hw
        exact received_split_cons rfl rfl (by simp [hc]) _ later
    | returned call reply =>
      obtain ⟨-, frame, outer, -, -, ⟨hc, -, rfl⟩ | ⟨hc, rfl⟩⟩ := Watch.step_returned hstep
      · have hempty : inside (.returned call reply :: rest) = [] := by
          rw [inside, Happening.endsPump, hc]
          rfl
        have later := ih _ hrest fun _ => rfl
        rw [hempty, received_cons rfl, later, pumps_cons (by simp)]
        simp [received]
      · have hw' : w.stage = .outside → w.claim reply.time frame = none := fun hs => by
          simp [Watch.claim, hs]
        have hend : Happening.endsPump (.returned call reply) = false := hc
        have later := ih _ hrest hw'
        exact received_split_cons hend rfl (by simp) _ later
    | invoked callback =>
      obtain ⟨-, rfl⟩ := Watch.step_invoked hstep
      have later := ih _ hrest hw
      exact received_split_cons rfl rfl (by simp) _ later
    | handling time event =>
      obtain ⟨-, howed, rfl⟩ := Watch.step_handling hstep
      have hs : w.stage ≠ .outside := fun hs => by
        rw [hw hs] at howed
        cases howed
      have later := ih _ hrest (by simp)
      rw [inside_cons rfl, pumps_cons (by simp), if_neg hs]
      rw [if_neg (by simp)] at later
      simp only [received, List.filterMap_cons, Happening.delivery?, List.cons_append] at later ⊢
      rw [later]
    | handled panic =>
      obtain ⟨-, hs, rfl⟩ := Watch.step_handled hstep
      have hs' : (if panic.isSome then Stage.panicked else .listening) ≠ .outside := by
        split <;> decide
      have later := ih _ hrest fun h => absurd h hs'
      rw [if_neg hs'] at later
      refine received_split_cons rfl rfl (by simp) _ ?_
      rw [if_neg (by rw [hs]; decide)]
      exact later
    | logged _ | obtained _ | dropped _ | stepStarted | stepEnded _ | threadEnded _ =>
      obtain ⟨-, rfl⟩ := Watch.step_of_still rfl hstep
      exact received_split_cons rfl rfl (by simp) _ (ih _ hrest hw)

/-- In every run and on every thread, the handler of a pump receives exactly the events that are due
in it, and no handler receives an event that was fired elsewhere. -/
theorem pump_delivery (s : Session) (t : ThreadId) :
    (∀ events ∈ pumps (s.happenings t), due {} events = some (received events)) ∧
      received (s.happenings t) = (pumps (s.happenings t)).flatMap received := by
  have hrun := s.run_happenings t
  have all := received_eq _ _ hrun fun _ => rfl
  rw [if_pos rfl, List.nil_append] at all
  exact ⟨due_of_mem_pumps _ _ hrun, all⟩

end Windowing
