import Mathlib.Logic.Function.Basic
import Windowing.Proofs.CallExchanges
import Windowing.Proofs.InitializationLock

/-!
Plans of calls. The creation of a window resets the hints, sets those that it was given and asks for
the window, up to the first of these calls that fails. No other thread calls the native library for
anything that needs a handle meanwhile, so the hints that the window is created with are those of this
creation alone, whatever was hinted before.
-/

namespace Windowing

open Native Client

variable {α β ε δ : Type} {native : Backend} {p q : Process} {x : Exchange}
  {xs xs' : List Exchange} {outcome : Option ε}

/-- What a call fails with: the first error that it reports, or that it created nothing. -/
def Exchange.failure? (x : Exchange) : Option Error :=
  x.error? <|> if x.call.creates ∧ x.reply.pointer =
    null then some (.unreported x.call.name) else none

/-- Calls to be made one after the other, each with what its failure comes to. -/
abbrev Plan (ε : Type) := List (Call × (Error → ε))

/-- The calls of a plan are made in order, up to the first one that fails. -/
inductive Follows : Plan ε → List Exchange → Option ε → Prop where
  | done : Follows [] [] none
  | failed {x : Exchange} {blame : Error → ε} {plan : Plan ε} {e : Error} (plain : x.Plain)
      (failure : x.failure? = some e) : Follows ((x.call, blame) :: plan) [x] (some (blame e))
  | went {x : Exchange} {blame : Error → ε} {plan : Plan ε} {xs : List Exchange} {outcome : Option ε}
      (plain : x.Plain) (success : x.failure? = none) (rest : Follows plan xs outcome) :
      Follows ((x.call, blame) :: plan) (x :: xs) outcome

namespace Follows

variable {plan plan' : Plan ε}

theorem append (h : Follows plan xs none) (h' : Follows plan' xs' outcome) :
    Follows (plan ++ plan') (xs ++ xs') outcome := by
  generalize hnone : (none : Option ε) = o at h
  induction h with
  | done => exact h'
  | failed => cases hnone
  | went plain success _ ih => exact .went plain success (ih hnone)

/-- Nothing follows a failure. -/
theorem cut {c : ε} (h : Follows plan xs (some c)) : Follows (plan ++ plan') xs (some c) := by
  generalize hsome : some c = o at h
  induction h with
  | done => cases hsome
  | failed plain failure => exact .failed plain failure
  | went plain success _ ih => exact .went plain success (ih hsome)

theorem plain (h : Follows plan xs outcome) : ∀ x ∈ xs, x.Plain := by
  induction h with
  | done => simp
  | failed plain => simpa using plain
  | went plain _ _ ih => simpa using ⟨plain, ih⟩

/-- The outcome of a plan is that of the call at which it fails. -/
theorem fails_iff (h : Follows plan xs outcome) (c : ε) : outcome = some c ↔
    ∃ (n : Nat) (blame : Error → ε) (x : Exchange) (e : Error), plan[n]? = some (x.call, blame) ∧
      xs[n]? = some x ∧ x.failure? = some e ∧ c = blame e := by
  induction h with
  | done => simp
  | @failed x blame plan e plain failure =>
    constructor
    · rintro ⟨⟩
      exact ⟨0, blame, x, e, rfl, rfl, failure, rfl⟩
    · rintro ⟨n, blame', y, e', planned, made, failure', rfl⟩
      cases n with
      | zero =>
        obtain rfl : x = y := Option.some.inj made
        cases planned
        rw [failure] at failure'
        cases failure'
        rfl
      | succ n => cases made
  | @went x blame plan xs outcome plain success rest ih =>
    rw [ih]
    constructor
    · rintro ⟨n, blame', y, e, planned, made, failure, same⟩
      exact ⟨n + 1, blame', y, e, planned, made, failure, same⟩
    · rintro ⟨n, blame', y, e, planned, made, failure, same⟩
      cases n with
      | zero =>
        obtain rfl : x = y := Option.some.inj made
        rw [success] at failure
        cases failure
      | succ n => exact ⟨n, blame', y, e, planned, made, failure, same⟩

/-- The calls that are made are those of the plan. -/
theorem planned (h : Follows plan xs outcome) {n : Nat} (made : xs[n]? = some x) :
    ∃ blame, plan[n]? = some (x.call, blame) := by
  induction h generalizing n with
  | done => cases made
  | @failed y blame =>
    cases n with
    | zero => exact ⟨blame, by rw [← Option.some.inj made]; rfl⟩
    | succ n => cases made
  | @went y blame _ _ _ _ _ _ ih =>
    cases n with
    | zero => exact ⟨blame, by rw [← Option.some.inj made]; rfl⟩
    | succ n => exact ih made

/-- If the last call of a plan is made, all others were made before. -/
theorem reached {step : Call × (Error → ε)} {P : Call → Prop}
    (others : ∀ step ∈ plan, ¬P step.1) (h : Follows (plan ++ [step]) xs outcome)
    (made : ∃ x ∈ xs, P x.call) : ∃ before last, xs = before ++ [last] ∧
      before.map (·.call) = plan.map Prod.fst := by
  induction plan generalizing xs with
  | nil =>
    cases h with
    | @failed x => exact ⟨[], x, rfl, rfl⟩
    | @went x _ _ _ _ _ _ rest =>
      cases rest
      exact ⟨[], x, rfl, rfl⟩
  | cons first plan ih =>
    have other := others first List.mem_cons_self
    obtain ⟨y, hy, creates⟩ := made
    cases h with
    | @failed x =>
      obtain rfl := List.mem_singleton.1 hy
      exact absurd creates other
    | @went x _ _ later _ _ _ rest =>
      have hy : y ∈ later := (List.mem_cons.1 hy).resolve_left fun same => other (same ▸ creates)
      obtain ⟨before, last, rfl, calls⟩ :=
        ih (fun step hstep => others step (List.mem_cons_of_mem _ hstep)) rest ⟨y, hy, creates⟩
      exact ⟨x :: before, last, rfl, by rw [List.map_cons, calls]; rfl⟩

end Follows

/-! ### Attempts that follow a plan -/

/-- What an attempt failed with, if it did. -/
def failed? : Except ε α → Option ε
  | .ok _ => none
  | .error e => some e

/-- An attempt that makes the calls of a plan and fails as the plan does. -/
def FollowsPlan (plan : Plan ε) (m : ExceptT ε M α) : Prop :=
  ∀ p, Reserved p.current p → Deaf p → ∃ xs,
    Performs p (final m.run p) (xs.flatMap Exchange.entries) ∧
    Follows plan xs (failed? (result m.run p))

namespace FollowsPlan

theorem pure (a : α) : FollowsPlan [] (Pure.pure a : ExceptT ε M α) := fun _ hp hd =>
  ⟨[], .refl hp hd, .done⟩

theorem bind {plan plan' : Plan ε} {m : ExceptT ε M α} {f : α → ExceptT ε M β}
    (hm : FollowsPlan plan m)
    (hf : ∀ a, FollowsPlan plan' (f a)) : FollowsPlan (plan ++ plan') (m >>= f) := by
  intro p hp hd
  obtain ⟨xs, performs, follows⟩ := hm p hp hd
  cases outcome : result m.run p with
  | error e =>
    rw [(run_bind_error outcome).1, (run_bind_error outcome).2]
    rw [outcome] at follows
    exact ⟨xs, performs, follows.cut⟩
  | ok a =>
    rw [(run_bind_ok outcome).1, (run_bind_ok outcome).2]
    rw [outcome] at follows
    obtain ⟨xs', performs', follows'⟩ := hf a _ performs.reserved performs.yields.deaf
    refine ⟨xs ++ xs', ?_, follows.append follows'⟩
    rw [List.flatMap_append]
    exact performs.trans performs'

/-- What an attempt fails with may be wrapped. -/
theorem adapted {m : ExceptT ε M α} (f : ε → δ) (p : Process) :
    failed? (result (ExceptT.adapt f m).run p) = (failed? (result m.run p)).map f := by
  change failed? ((result m.run p).mapError f) = _
  cases result m.run p <;> rfl

/-- A checked call that creates nothing. -/
theorem checked (depth : Nat) {call : Call} (hcall : call.creates = false) (blame : Error → ε) :
    FollowsPlan [(call, blame)] (ExceptT.adapt blame (Windowing.checked (backend depth call))) := by
  intro p hp hd
  obtain ⟨x, rfl, plain, performs, outcome⟩ := Performs.checked hp hd depth call
  have failure : x.failure? = x.error? := by
    rw [Exchange.failure?, hcall]
    cases x.error? <;> simp
  refine ⟨[x], by simpa using performs, ?_⟩
  rw [adapted, outcome]
  cases reported : x.error? with
  | none => exact .went plain (failure.trans reported) .done
  | some e => exact .failed plain (failure.trans reported)

end FollowsPlan

/-! ### The creation of a window -/

namespace Window

/-- The calls that set the hints, of which the first has the given place. -/
def hintPlan (index : Nat) (hints : List WindowHint) : Plan CreateError :=
  (hints.zipIdx index).map fun (hint, k) => (.windowHint hint.raw.1 hint.raw.2, .hint k hint)

/-- The calls that create a window: the hints are reset and set, and the window is asked for. -/
def plan (hints : List WindowHint) (width height : Int32) (title : Text.Bytes)
    (monitor : Option Monitor) (share : Option Window) : Plan CreateError :=
  (.defaultWindowHints, .creation) :: hintPlan 0 hints ++
    [(.createWindow width height title ((monitor.map (·.pointer)).getD null)
      ((share.map (·.pointer)).getD null), .creation)]

theorem applyHints_followsPlan (depth : Nat) (index : Nat) (hints : List WindowHint) :
    FollowsPlan (hintPlan index hints) (applyHints (backend depth) index hints) := by
  induction hints generalizing index with
  | nil => exact .pure ()
  | cons hint rest ih =>
    have sets : FollowsPlan [(.windowHint hint.raw.1 hint.raw.2, CreateError.hint index hint)] _ :=
      .checked depth rfl _
    exact .bind sets fun _ => ih (index + 1)

/-- The window is there, or its creation failed. -/
theorem createNative_performs (depth : Nat) (width height : Int32) (title : Text.Bytes)
    (monitor : Option Monitor) (share : Option Window) (hp : Reserved p.current p) (hd : Deaf p) :
    let m := (createNative (backend depth) width height title monitor share).run
    ∃ x : Exchange, x.call = .createWindow width height title ((monitor.map (·.pointer)).getD null)
        ((share.map (·.pointer)).getD null) ∧ x.Plain ∧ Performs p (final m p) x.entries ∧
      failed? (result m p) = x.failure? ∧ ∀ pointer, result m p = .ok pointer →
        x.reply.pointer = pointer := by
  intro m
  let call : Call := .createWindow width height title ((monitor.map (·.pointer)).getD null)
    ((share.map (·.pointer)).getD null)
  have split : m = (Windowing.checked (backend depth call) >>= fun reply => do
      if reply.pointer = null then throw (.unreported call.name)
      return reply.pointer).run := rfl
  obtain ⟨x, asks, plain, performs, outcome⟩ := Performs.checked hp hd depth call
  have creates : x.call.creates = true := by rw [asks]; rfl
  refine ⟨x, asks, plain, ?_⟩
  rw [split, Exchange.failure?, creates, asks]
  cases reported : x.error? with
  | some e =>
    rw [reported] at outcome
    rw [(run_bind_error outcome).1, (run_bind_error outcome).2]
    exact ⟨performs, rfl, nofun⟩
  | none =>
    rw [reported] at outcome
    rw [(run_bind_ok outcome).1, (run_bind_ok outcome).2]
    by_cases missing : x.reply.pointer = null
    · simp only [missing, ↓reduceIte, and_self]
      exact ⟨performs, rfl, nofun⟩
    · simp only [missing, ↓reduceIte, and_false]
      exact ⟨performs, rfl, fun _ same => Except.ok.inj same⟩

/-- The callbacks are registered one after the other, whatever the native library reports. -/
theorem listen_performs (depth : Nat) (pointer : Pointer) (hp : Reserved p.current p) (hd : Deaf p) :
    ∃ registered : List Exchange, (∀ x ∈ registered, x.Plain) ∧
      registered.map (·.call) = Channel.all.map (.setWindowCallback pointer) ∧
      Performs p (final (listen (backend depth) pointer) p) (registered.flatMap Exchange.entries) :=
        by
  unfold listen
  generalize Channel.all = channels
  induction channels generalizing p with
  | nil => exact ⟨[], by simp, rfl, .refl hp hd⟩
  | cons channel channels ih =>
    obtain ⟨x, call, plain, performs, -, -⟩ :=
      Performs.call hp hd depth (.setWindowCallback pointer channel)
    obtain ⟨xs, plain', calls, performs'⟩ := ih performs.reserved performs.yields.deaf
    refine ⟨x :: xs, by simpa using ⟨plain, plain'⟩, by rw [List.map_cons, call, calls]; rfl, ?_⟩
    rw [List.flatMap_cons]
    exact performs.trans performs'

theorem adopt_performs (pointer : Pointer) (hp : Reserved p.current p) (hd : Deaf p) :
    Performs p (final (adopt pointer) p) [.obtained (.window ⟨pointer, p.nextKey⟩)] := by
  have counted : Performs p { p with nextKey := p.nextKey + 1, holders := p.holders + 1 } [] :=
    .shared hp hd ⟨rfl, rfl, rfl⟩ rfl
  exact counted.trans (.note (h := .obtained (.window ⟨pointer, p.nextKey⟩)) counted.reserved
    counted.yields.deaf rfl)

/-- What a creation does, given the calls that it made for the window and for the callbacks. -/
def Makes (asked registered : List Exchange) : Except CreateError Window → List Happening → Prop
  | .ok w, hs => asked.getLast?.map (·.reply.pointer) = some w.pointer ∧
    (∀ x ∈ registered, x.Plain) ∧
    registered.map (·.call) = Channel.all.map (.setWindowCallback w.pointer) ∧
    hs = (asked ++ registered).flatMap Exchange.entries ++ [.obtained (.window w)]
  | .error _, hs => registered = [] ∧ hs = asked.flatMap Exchange.entries

/-- A creation follows its plan, and registers the callbacks if nothing failed. -/
theorem create_performs (depth : Nat) (hints : List WindowHint) {width height : Int32}
    {title : String}
    (monitor : Option Monitor) (share : Option Window) (size : 0 < width ∧ 0 < height)
    (unterminated : 0 ∉ Text.encode title) (hp : Reserved p.current p) (hd : Deaf p) :
    let m := (create (backend depth) hints width height title monitor share).run
    ∃ (asked registered : List Exchange) (hs : List Happening),
      Follows (plan hints width height (Text.encode title) monitor share) asked
        (failed? (result m p)) ∧
      Makes asked registered (result m p) hs ∧ Performs p (final m p) hs := by
  intro m
  have sized : checkSize width height = .ok () := if_pos size
  have handed : terminated title = .ok (Text.encode title) := by
    simp [terminated, Text.terminable?, unterminated, Except.mapError]
  have judged : m = (build (backend depth) hints width height (Text.encode title) monitor
      share).run := by
    simp only [m, create_eq, sized, handed]
    rfl
  have prepares : FollowsPlan ((.defaultWindowHints, .creation) :: hintPlan 0 hints)
      (hinted (backend depth) hints) :=
    .bind (.checked depth rfl _) fun _ => applyHints_followsPlan depth 0 hints
  obtain ⟨xs, performs, follows⟩ := prepares p hp hd
  rw [judged]
  cases set : result (hinted (backend depth) hints).run p with
  | error e =>
    obtain ⟨failed, ended⟩ := build_unhinted set
    rw [failed, ended]
    rw [set] at follows
    exact ⟨xs, [], _, follows.cut, ⟨rfl, rfl⟩, performs⟩
  | ok =>
    rw [set] at follows
    obtain ⟨x, asks, plain, performs', fails, returns⟩ := createNative_performs depth width height
      (Text.encode title) monitor share performs.reserved performs.yields.deaf
    have both := performs.trans performs'
    rw [← List.flatMap_singleton (f := Exchange.entries), ← List.flatMap_append] at both
    cases answered : result (createNative (backend depth) width height (Text.encode title) monitor
        share).run (final (hinted (backend depth) hints).run p) with
    | error e =>
      obtain ⟨failed, ended⟩ := build_rejected set answered
      rw [failed, ended]
      rw [answered] at fails
      have last : Follows [(x.call, .creation)] [x] (some (CreateError.creation e)) :=
        .failed plain fails.symm
      exact ⟨xs ++ [x], [], _, follows.append (asks ▸ last), ⟨rfl, rfl⟩, both⟩
    | ok pointer =>
      obtain ⟨made, ended⟩ := build_opened set answered
      rw [made, ended]
      rw [answered] at fails
      have last : Follows [(x.call, CreateError.creation)] [x] none := .went plain fails.symm .done
      obtain ⟨registered, plain', calls, listens⟩ :=
        listen_performs depth pointer both.reserved both.yields.deaf
      have kept := adopt_performs pointer listens.reserved listens.yields.deaf
      refine ⟨xs ++ [x], registered, _, follows.append (asks ▸ last),
        ⟨?_, plain', calls, rfl⟩, ?_⟩
      · rw [List.getLast?_concat, Option.map_some, returns _ answered]
        rfl
      · rw [List.flatMap_append]
        exact (both.trans listens).trans kept

/-! ### Errors of hints -/

theorem getElem?_hintPlan (hints : List WindowHint) (k : Nat) : (hintPlan 0 hints)[k]? =
    hints[k]?.map fun hint => (.windowHint hint.raw.1 hint.raw.2, .hint k hint) := by
  simp [hintPlan, List.getElem?_zipIdx, Function.comp_def]

section Plan

variable {hints : List WindowHint} {width height : Int32} {title : Text.Bytes}
  {monitor : Option Monitor} {share : Option Window} {asked registered : List Exchange}
  {outcome : Option CreateError}

/-- What blames a hint is the call that sets it. -/
theorem blames_hint {n k : Nat} {call : Call} {blame : Error → CreateError} {hint : WindowHint}
    {e e' : Error} (planned : (plan hints width height title monitor share)[n]? = some (call, blame))
    (blames : CreateError.hint k hint e = blame e') :
    n = k + 1 ∧ hints[k]? = some hint ∧ e' = e ∧ call.creates = false := by
  cases n with
  | zero => cases planned; cases blames
  | succ n =>
    rw [plan, List.cons_append, List.getElem?_cons_succ, List.getElem?_append] at planned
    split at planned
    · rw [getElem?_hintPlan, Option.map_eq_some_iff] at planned
      obtain ⟨hint', there, same⟩ := planned
      cases same
      cases blames
      exact ⟨rfl, there, rfl, rfl⟩
    · rw [List.getElem?_singleton] at planned
      split at planned <;> cases planned
      cases blames

theorem planned_hint {k : Nat} {hint : WindowHint} (there : hints[k]? = some hint) :
    (plan hints width height title monitor share)[k + 1]? =
      some (.windowHint hint.raw.1 hint.raw.2, .hint k hint) := by
  have hk : k < (hintPlan 0 hints).length := by
    obtain ⟨hk, -⟩ := List.getElem?_eq_some_iff.1 there
    simpa [hintPlan] using hk
  rw [plan, List.cons_append, List.getElem?_cons_succ, List.getElem?_append_left hk,
    getElem?_hintPlan, there]
  rfl

/-- A creation fails because of a hint exactly if the call that sets it fails. -/
theorem fails_hint_iff (h : Follows (plan hints width height title monitor share) asked outcome)
    (k : Nat) (hint : WindowHint) (e : Error) : outcome = some (.hint k hint e) ↔
      hints[k]? = some hint ∧ ∃ x, asked[k + 1]? = some x ∧ x.error? = some e := by
  have failure : ∀ {x : Exchange}, x.call.creates = false → x.failure? = x.error? := fun hx => by
    rw [Exchange.failure?, hx]
    simp
  rw [h.fails_iff]
  constructor
  · rintro ⟨n, blame, x, e', planned, made, fails, blames⟩
    obtain ⟨rfl, there, rfl, creates⟩ := blames_hint planned blames
    exact ⟨there, x, made, (failure creates).symm.trans fails⟩
  · rintro ⟨there, x, made, fails⟩
    obtain ⟨blame, planned⟩ := h.planned made
    obtain ⟨call, rfl⟩ := Prod.mk.inj (Option.some.inj (planned.symm.trans (planned_hint there)))
    have creates : x.call.creates = false := by rw [call]; rfl
    exact ⟨k + 1, _, x, e, planned, made, (failure creates).trans fails, rfl⟩

theorem map_fst_hintPlan (index : Nat) (hints : List WindowHint) :
    (hintPlan index hints).map Prod.fst = hints.map fun h => .windowHint h.raw.1 h.raw.2 := by
  induction hints generalizing index with
  | nil => rfl
  | cons hint rest ih => exact congrArg (_ :: ·) (ih (index + 1))

theorem uncreating {about : Call → Prop} (other : ∀ call, about call → call.creates = false)
    {h : Happening} (hh : h.Serves about) : h.creates = false := by
  cases h with
  | called call =>
    rcases hh with hh | rfl
    · exact other call hh
    · rfl
  | _ => rfl

theorem uncreating_entries {xs : List Exchange} (plain : ∀ x ∈ xs, x.Plain)
    (calls : ∀ x ∈ xs, x.call.creates = false) :
    ∀ h ∈ xs.flatMap Exchange.entries, h.creates = false := by
  intro h hh
  obtain ⟨x, hx, hh⟩ := List.mem_flatMap.1 hh
  have own : ∀ call, call = x.call → call.creates = false := fun _ same => same ▸ calls x hx
  exact uncreating own ((plain x hx).unaffected h hh)

/-- Nothing is created after the calls that ask for the window. -/
theorem Makes.entries {made : Except CreateError Window} {hs : List Happening}
    (h : Makes asked registered made hs) :
    ∃ rest, hs = asked.flatMap Exchange.entries ++ rest ∧ ∀ h ∈ rest, h.creates = false := by
  cases made with
  | error e =>
    obtain ⟨-, rfl⟩ := h
    exact ⟨[], (List.append_nil _).symm, by simp⟩
  | ok w =>
    obtain ⟨-, plain, calls, rfl⟩ := h
    have registers : ∀ x ∈ registered, x.call.creates = false := fun x hx => by
      have same : x.call ∈ registered.map (·.call) := List.mem_map_of_mem hx
      rw [calls] at same
      obtain ⟨channel, -, call⟩ := List.mem_map.1 same
      rw [← call]
      rfl
    refine ⟨registered.flatMap Exchange.entries ++ [.obtained (.window w)],
      by rw [List.flatMap_append, List.append_assoc], fun h hh => ?_⟩
    rcases List.mem_append.1 hh with hh | hh
    · exact uncreating_entries plain registers h hh
    · rw [List.mem_singleton.1 hh]
      rfl

/-- The entries before the call for the window are those of the calls that set the hints. -/
theorem before_creation {made : Except CreateError Window} {hs hs' hs'' : List Happening}
    {c : Happening} (h : Follows (plan hints width height title monitor share) asked (failed? made))
    (makes : Makes asked registered made hs) (split : hs = hs' ++ c :: hs'')
    (creates : c.creates = true) : ∃ before : List Exchange, (∀ x ∈ before, x.Plain) ∧
      before.map (·.call) = .defaultWindowHints :: hints.map (fun h => .windowHint h.raw.1 h.raw.2) ∧
      hs' = before.flatMap Exchange.entries := by
  obtain ⟨rest, rfl, idle⟩ := makes.entries
  have plain := h.plain
  have others : ∀ step ∈ (Call.defaultWindowHints, CreateError.creation) :: hintPlan 0 hints,
      step.1.creates = false := by
    simp only [hintPlan, List.mem_cons, List.mem_map]
    rintro step (rfl | ⟨-, -, rfl⟩) <;> rfl
  have asks : ∃ x ∈ asked, x.call.creates = true := by
    by_contra none
    push Not at none
    have there : c ∈ asked.flatMap Exchange.entries ++ rest := by simp [split]
    have absent : c.creates = false := (List.mem_append.1 there).elim
      (uncreating_entries plain (fun x hx => by simpa using none x hx) c) (idle c)
    rw [absent] at creates
    cases creates
  have follows := h
  rw [plan] at follows
  obtain ⟨before, last, rfl, calls⟩ :=
    follows.reached (P := (·.creates = true)) (fun step hstep => by simp [others step hstep]) asks
  have prepared : ∀ h ∈ before.flatMap Exchange.entries, h.creates = false := by
    refine uncreating_entries (fun x hx => plain x (List.mem_append_left _ hx)) fun x hx => ?_
    have same : x.call ∈ before.map (·.call) := List.mem_map_of_mem hx
    rw [calls] at same
    obtain ⟨step, hstep, call⟩ := List.mem_map.1 same
    exact call ▸ others step hstep
  have after : ∀ h ∈ last.meanwhile ++ .returned last.call last.reply :: rest, h.creates = false := by
    intro h hh
    rcases List.mem_append.1 hh with hh | hh
    · exact uncreating (fun _ none => none.elim) (plain last (by simp) h hh)
    · rcases List.mem_cons.1 hh with rfl | hh
      · rfl
      · exact idle h hh
  have regrouped : before.flatMap Exchange.entries ++ .called last.call ::
      (last.meanwhile ++ .returned last.call last.reply :: rest) = hs' ++ c :: hs'' := by
    rw [← split]
    simp [Exchange.entries]
  have absent : ∀ {hs : List Happening}, (∀ h ∈ hs, h.creates = false) → c ∉ hs := fun none hc => by
    rw [none c hc] at creates
    cases creates
  obtain ⟨same, -, -⟩ := (List.append_cons_inj_of_notMem (absent prepared) (absent after)).1 regrouped
  refine ⟨before, fun x hx => plain x (List.mem_append_left _ hx), calls.trans ?_, same.symm⟩
  rw [List.map_cons, map_fst_hintPlan]

end Plan

end Window

/-! ### The table of hints -/

/-- The values that the native library has for the hints. -/
abbrev HintTable := Int32 → Int32

/-- A native library whose hints can be reset and overwritten. -/
def Happening.hinted (defaults table : HintTable) : Happening → HintTable
  | .called .defaultWindowHints => defaults
  | .called (.windowHint target value) => Function.update table target value
  | _ => table

/-- The values of the hints after a history, whose newest entry comes first. -/
def hintTable (initial defaults : HintTable) (history : List Entry) : HintTable :=
  history.foldr (fun e table => e.what.hinted defaults table) initial

variable {defaults table : HintTable}

theorem Happening.hinted_common {h : Happening} (hh : h.common = true) :
    h.hinted defaults table = table := by
  cases h with
  | called call => cases call <;> first | rfl | cases hh
  | _ => rfl

theorem Happening.uncommon_of_creates {h : Happening} (hh : h.creates = true) : h.common = false := by
  cases h with
  | called call => cases call <;> first | rfl | cases hh
  | _ => cases hh

/-- What other threads do without a handle leaves the hints alone. -/
theorem hintTable_append {initial : HintTable} {v : ThreadId} {later past : List Entry}
    (common : ∀ e ∈ later, e.thread ≠ v → e.what.common = true) :
    hintTable initial defaults (later ++ past) = ((later.filter (·.thread = v)).map (·.what)).foldr
      (fun h table => h.hinted defaults table) (hintTable initial defaults past) := by
  induction later with
  | nil => rfl
  | cons e later ih =>
    have rest := ih fun e he => common e (List.mem_cons_of_mem _ he)
    by_cases here : e.thread = v
    · rw [List.filter_cons_of_pos (by simpa using here), List.map_cons, List.foldr_cons, ← rest]
      rfl
    · rw [List.filter_cons_of_neg (by simpa using here), ← rest]
      exact Happening.hinted_common (common e List.mem_cons_self here)

theorem foldl_hinted_idle {hs : List Happening} (h : ∀ e ∈ hs, e.Serves fun _ => False) :
    hs.foldl (fun table h => h.hinted defaults table) table = table := by
  induction hs with
  | nil => rfl
  | cons first hs ih =>
    have idle : first.hinted defaults table = table := by
      have unaffected := h first List.mem_cons_self
      cases first with
      | called call =>
        obtain rfl := unaffected.resolve_left id
        rfl
      | _ => rfl
    rw [List.foldl_cons, idle]
    exact ih fun e he => h e (List.mem_cons_of_mem _ he)

/-- An exchange changes the hints as its call does. -/
theorem Exchange.Plain.hinted (h : x.Plain) :
    x.entries.foldl (fun table h => h.hinted defaults table) table =
      (Happening.called x.call).hinted defaults table := by
  rw [Exchange.entries, List.cons_append, List.foldl_cons, List.foldl_append, foldl_hinted_idle h]
  rfl

/-- The hints are reset and set, whatever they were. -/
theorem hinted_plan {hints : List WindowHint} (plain : ∀ x ∈ xs, x.Plain)
    (calls : xs.map (·.call) =
      .defaultWindowHints :: hints.map fun hint => .windowHint hint.raw.1 hint.raw.2) :
    (xs.flatMap Exchange.entries).foldl (fun table h => h.hinted defaults table) table =
      hints.foldl (fun table hint => Function.update table hint.raw.1 hint.raw.2) defaults := by
  have each : (xs.flatMap Exchange.entries).foldl (fun table h => h.hinted defaults table) table =
      (xs.map (·.call)).foldl (fun table call => (Happening.called call).hinted defaults table)
        table := by
    rw [List.foldl_flatMap, List.foldl_map]
    exact List.foldl_ext _ _ _ fun _ x hx => (plain x hx).hinted
  rw [each, calls, List.foldl_cons, List.foldl_map]
  rfl

/-- A thread that has a library creates a window. Whatever ran before, the calls that it makes are those of
the plan, in order, up to the first one that fails: the hints are reset, the given hints are set from
left to right, and the window is asked for. Only if all succeed, the callbacks of the window are
registered. The creation fails because of a hint exactly if the call that sets it does, and the hints
that the native library has when the window is created are the given ones, and the defaults for the
rest. -/
theorem creation_plan (h : Juncture true p) (script : Script) (depth : Nat) {slot : Nat}
    (library : (occupant p.tables.libraries slot).isSome = true) (hints : List WindowHint)
    {width height : Int32} {title : String} (monitor : Option Monitor) (share : Option Window)
    (size : 0 < width ∧ 0 < height) (unterminated : 0 ∉ Text.encode title) :
    let p := p.stepping script
    let m := (Window.create (backend depth) hints width height title monitor share).run
    ∃ asked registered : List Exchange,
      Follows (Window.plan hints width height (Text.encode title) monitor share) asked
        (failed? (result m p)) ∧
      Window.Makes asked registered (result m p) (during m p) ∧
      (∀ k hint e, result m p = .error (.hint k hint e) ↔
        hints[k]? = some hint ∧ ∃ x, asked[k + 1]? = some x ∧ x.error? = some e) ∧
      ∀ (initial defaults : HintTable) (newer older : List Entry) (e : Entry),
        (final m p).history = newer ++ e :: (older ++ p.history) → e.what.creates = true →
        hintTable initial defaults (older ++ p.history) =
          hints.foldl (fun table hint => Function.update table hint.raw.1 hint.raw.2) defaults := by
  intro p' m
  have readyToStep : ReadyToStep p' := h.settled.readyToStep.stepping script
  have has : p'.tables.handles ≠ [] := fun none => by
    have empty : p.tables.handles = [] := none
    simp only [Tables.handles, List.append_eq_nil_iff, List.map_eq_nil_iff] at empty
    rw [occupant_eq_none empty.1.1] at library
    cases library
  obtain ⟨asked, registered, hs, follows, makes, performs⟩ :=
    Window.create_performs depth hints monitor
    share size unterminated (readyToStep.reserved has) readyToStep.unheeding.2
  rw [performs.leaves.during_eq]
  refine ⟨asked, registered, follows, makes, fun k hint e => ?_, ?_⟩
  · rw [← Window.fails_hint_iff follows]
    cases result m p' <;> simp [failed?]
  · intro initial defaults newer older e split creates
    obtain ⟨later, hlater, own, common⟩ := performs.history
    have same : newer ++ e :: older ++ p'.history = later ++ p'.history := by
      rw [← hlater, split, List.append_assoc, List.cons_append]
    obtain rfl := List.append_cancel_right same
    have here : e.thread = p'.current := by
      by_contra elsewhere
      have shown := common e (by simp) elsewhere
      rw [Happening.uncommon_of_creates creates] at shown
      cases shown
    have apart : hs = ((older.filter (·.thread = p'.current)).map (·.what)).reverse ++
        e.what :: ((newer.filter (·.thread = p'.current)).map (·.what)).reverse := by
      rw [← hs.reverse_reverse, ← own]
      simp [here]
    obtain ⟨before, plain, calls, same⟩ := Window.before_creation follows makes apart creates
    rw [hintTable_append fun e he => common e (by simp [he]), ← List.foldl_reverse, same,
      hinted_plan plain calls]

/-- A thread that has a library, and whose last creation of a window failed half way. -/
def halfHinted : Process :=
  final (runStep (backend 1) (.mk ⟨[("glfwCreateWindow", [{}])]⟩ (.library 0 (.createWindow
      { hints := [some (.visible false)], width := 4, height := 4, title := "", monitor := none,
        share := none }))))
    (final (runStep (backend 1) (.mk {} .init)) (Session.start {}))

/-- The next creation fails with its second hint. -/
theorem creation_plan_halfHinted : Juncture true halfHinted ∧
    ∃ asked : List Exchange,
      Follows (Window.plan [.decorated false, .samples (-1)] 4 4 (Text.encode "") none none) asked
        (some (.hint 1 (.samples (-1)) (.reported 0x70003 ""))) ∧
      ∃ x, asked[2]? = some x ∧ x.error? = some (.reported 0x70003 "") := by
  have reached : Juncture true halfHinted := .step 1 _ (.step 1 _ (.start {}))
  have failed : result (Window.create (backend 1)
    [.decorated false, .samples (-1)] 4 4 "" none none).run
      (halfHinted.stepping ⟨[("glfwWindowHint", [{}, { callbacks := [.error 0x70003 none] }])]⟩) =
      .error (.hint 1 (.samples (-1)) (.reported 0x70003 "")) := by decide +kernel
  obtain ⟨asked, registered, follows, -, fails, -⟩ := creation_plan reached _ 1
    (by decide +kernel : (occupant halfHinted.tables.libraries 0).isSome = true)
    [.decorated false, .samples (-1)] none none (by decide : (0 : Int32) < 4 ∧ (0 : Int32) < 4)
    (by decide +kernel : 0 ∉ Text.encode "")
  rw [failed] at follows
  exact ⟨reached, asked, follows, ((fails _ _ _).1 failed).2⟩

end Windowing
