import Windowing.Proofs.HintRetrieval

/-!
Inspection of the state flags. The flags of a window can be read at once or one by one. Both ways ask
the native library the same, in the same order and up to the first error, so they come to the same and
leave the same behind; read at once, the flags are a set that has a bit for each of them and no others.
-/

namespace Windowing

open Native

variable {α : Type} {native : Backend} {p : Process} {w : Window}

/-! ### Sets of flags -/

namespace StateFlag

theorem toBitVec_bit (f : StateFlag) : f.bit.toBitVec = .twoPow 8 f.ctorIdx := by
  cases f <;> rfl

theorem ctorIdx_lt (f : StateFlag) : f.ctorIdx < 5 := by
  cases f <;> decide

theorem ctorIdx_inj {f g : StateFlag} : f.ctorIdx = g.ctorIdx ↔ f = g := by
  cases f <;> cases g <;> decide

end StateFlag

namespace WindowState

variable {s : WindowState} {f : StateFlag} {i : ℕ}

def testBit (s : WindowState) (i : ℕ) : Bool :=
  s.bits.toBitVec.getLsbD i

theorem ext_testBit {s t : WindowState} (h : ∀ i < 8, s.testBit i = t.testBit i) : s = t := by
  cases s
  cases t
  exact congrArg mk (UInt8.toBitVec_inj.1 (BitVec.eq_of_getLsbD_eq h))

/-- A flag is in the set exactly if its bit is set. -/
theorem has_eq_testBit (s : WindowState) (f : StateFlag) : s.has f = s.testBit f.ctorIdx := by
  have nonzero : 0#8 ≠ .twoPow 8 f.ctorIdx := by cases f <;> decide
  rw [has, contains, inter, testBit, Bool.eq_iff_iff, beq_iff_eq, ← UInt8.toBitVec_inj,
    UInt8.toBitVec_and, f.toBitVec_bit, BitVec.and_twoPow]
  cases s.bits.toBitVec.getLsbD f.ctorIdx <;> simp [nonzero]

theorem testBit_bit (f : StateFlag) (i : ℕ) : testBit ⟨f.bit⟩ i = decide (f.ctorIdx = i) := by
  have inside : f.ctorIdx < 8 := Nat.lt_trans f.ctorIdx_lt (by decide)
  simp [testBit, f.toBitVec_bit, BitVec.getLsbD_twoPow, inside]

theorem testBit_full : ∀ i < 8, full.testBit i = decide (i < 5) := by
  decide

theorem testBit_insert (s : WindowState) (f : StateFlag) (i : ℕ) :
    (s.insert f).testBit i = (s.testBit i || testBit ⟨f.bit⟩ i) := by
  simp [insert, union, testBit]

theorem testBit_erase (s : WindowState) (f : StateFlag) (h : i < 8) :
    (s.erase f).testBit i = (s.testBit i && !testBit ⟨f.bit⟩ i) := by
  simp [erase, diff, testBit, h]

theorem testBit_set (s : WindowState) (f : StateFlag) (on : Bool) (h : i < 8) :
    (s.set f on).testBit i = if f.ctorIdx = i then on else s.testBit i := by
  cases on with
  | true =>
    change (s.insert f).testBit i = _
    rw [testBit_insert, testBit_bit]
    by_cases same : f.ctorIdx = i <;> simp [same]
  | false =>
    change (s.erase f).testBit i = _
    rw [testBit_erase s f h, testBit_bit]
    by_cases same : f.ctorIdx = i <;> simp [same]

theorem has_set (s : WindowState) (f g : StateFlag) (on : Bool) :
    (s.set f on).has g = if f = g then on else s.has g := by
  have inside : g.ctorIdx < 8 := Nat.lt_trans g.ctorIdx_lt (by decide)
  simp only [has_eq_testBit, testBit_set s f on inside, StateFlag.ctorIdx_inj]

/-- Only the bits of flags are set. -/
theorem truncate_eq_iff : s.truncate = s ↔ ∀ i < 8, s.testBit i = true → i < 5 := by
  have kept : ∀ i < 8, s.truncate.testBit i = (s.testBit i && decide (i < 5)) := fun i h => by
    rw [← testBit_full i h]
    simp [truncate, inter, testBit]
  refine ⟨fun same i h => ?_, fun bare => ext_testBit fun i h => ?_⟩
  · have := kept i h
    rw [same] at this
    simp_all
  · have := bare i h
    simp_all

theorem truncate_set (h : s.truncate = s) (f : StateFlag) (on : Bool) :
    (s.set f on).truncate = s.set f on := by
  rw [truncate_eq_iff] at h ⊢
  intro i inside
  rw [testBit_set s f on inside]
  split
  · next same => exact fun _ => same ▸ f.ctorIdx_lt
  · exact h i inside

/-- Sets flags one by one, each as it is given. -/
def setAll (s : WindowState) (flags : List (StateFlag × Bool)) : WindowState :=
  flags.foldl (fun s flag => s.set flag.1 flag.2) s

theorem setAll_cons (s : WindowState) (flag : StateFlag × Bool) (flags : List (StateFlag × Bool)) :
    s.setAll (flag :: flags) = (s.set flag.1 flag.2).setAll flags := rfl

theorem has_setAll_of_notMem {flags : List (StateFlag × Bool)} (h : f ∉ flags.map Prod.fst)
    (s : WindowState) : (s.setAll flags).has f = s.has f := by
  induction flags generalizing s with
  | nil => rfl
  | cons flag flags ih =>
    rw [List.map_cons, List.mem_cons, not_or] at h
    rw [setAll_cons, ih h.2, has_set, if_neg (Ne.symm h.1)]

theorem map_has_setAll {flags : List (StateFlag × Bool)} (once : (flags.map Prod.fst).Nodup)
    (s : WindowState) : (flags.map Prod.fst).map (s.setAll flags).has = flags.map Prod.snd := by
  induction flags generalizing s with
  | nil => rfl
  | cons flag flags ih =>
    rw [List.map_cons, List.nodup_cons] at once
    rw [setAll_cons, List.map_cons, List.map_cons, List.map_cons, ih once.2,
      has_setAll_of_notMem once.1, has_set, if_pos rfl]

theorem truncate_setAll (h : s.truncate = s) (flags : List (StateFlag × Bool)) :
    (s.setAll flags).truncate = s.setAll flags := by
  induction flags generalizing s with
  | nil => exact h
  | cons flag flags ih => exact ih (truncate_set h flag.1 flag.2)

/-- The set that has the flags as they are answered in their order. -/
def ofAnswers (answers : List Bool) : WindowState :=
  setAll .empty (StateFlag.all.zip answers)

theorem map_has_ofAnswers {answers : List Bool} (length : answers.length = StateFlag.all.length) :
    StateFlag.all.map (ofAnswers answers).has = answers := by
  have flags : (StateFlag.all.zip answers).map Prod.fst = StateFlag.all :=
    List.map_fst_zip (Nat.le_of_eq length.symm)
  have values : (StateFlag.all.zip answers).map Prod.snd = answers :=
    List.map_snd_zip (Nat.le_of_eq length)
  have once : ((StateFlag.all.zip answers).map Prod.fst).Nodup := by
    rw [flags]
    decide
  have has := map_has_setAll once .empty
  rwa [flags, values] at has

theorem truncate_ofAnswers (answers : List Bool) :
    (ofAnswers answers).truncate = ofAnswers answers := truncate_setAll rfl _

end WindowState

/-! ### One by one -/

/-- What comes of attempts that are made in turn: the answers up to the first failure, the failure, and
the process after the last attempt that was made. -/
structure Tour (α : Type) where
  answers : List α
  failure : Option Error
  ends : Process

/-- Makes attempts one after the other, and none after the first that fails. -/
def inTurn : List (Attempt α) → Process → Tour α
  | [], p => ⟨[], none, p⟩
  | first :: later, p =>
    match result first.run p with
    | .ok a =>
      let rest := inTurn later (final first.run p)
      ⟨a :: rest.answers, rest.failure, rest.ends⟩
    | .error e => ⟨[], some e, final first.run p⟩

theorem inTurn_ok {first : Attempt α} {a : α} (h : result first.run p = .ok a)
    (later : List (Attempt α)) : inTurn (first :: later) p =
      ⟨a :: (inTurn later (final first.run p)).answers, (inTurn later (final first.run p)).failure,
        (inTurn later (final first.run p)).ends⟩ := by
  rw [inTurn, h]

theorem inTurn_error {first : Attempt α} {e : Error} (h : result first.run p = .error e)
    (later : List (Attempt α)) : inTurn (first :: later) p = ⟨[], some e, final first.run p⟩ := by
  rw [inTurn, h]

/-- If none fails, every attempt is answered. -/
theorem length_inTurn {attempts : List (Attempt α)} (h : (inTurn attempts p).failure = none) :
    (inTurn attempts p).answers.length = attempts.length := by
  induction attempts generalizing p with
  | nil => rfl
  | cons first later ih =>
    cases answered : result first.run p with
    | error e =>
      rw [inTurn_error answered] at h
      cases h
    | ok a =>
      rw [inTurn_ok answered] at h ⊢
      exact congrArg (· + 1) (ih h)

/-- The operation that reads one flag. -/
def StateFlag.getter (native : Backend) (w : Window) : StateFlag → Attempt Bool
  | .focused => w.isFocused native
  | .iconified => w.isIconified native
  | .visible => w.isVisible native
  | .resizable => w.isResizable native
  | .decorated => w.isDecorated native

theorem StateFlag.getter_eq (native : Backend) (w : Window) (f : StateFlag) :
    f.getter native w = w.getFlag native f.attr := by
  cases f <;> rfl

namespace Window

/-- Reads flags in turn and sets each in a set as it was read. -/
def survey (native : Backend) (w : Window) (s : WindowState) (flags : List StateFlag) :
    Attempt WindowState :=
  flags.foldlM (fun s flag => return s.set flag (← getFlag native w flag.attr)) s

theorem survey_cons (s : WindowState) (f : StateFlag) (flags : List StateFlag) :
    w.survey native s (f :: flags) =
      f.getter native w >>= fun on => w.survey native (s.set f on) flags := by
  simp only [survey, List.foldlM_cons, bind_assoc, pure_bind, f.getter_eq]

/-- A survey makes the attempts that read its flags, and nothing else. -/
theorem survey_run (native : Backend) (w : Window) (s : WindowState) (flags : List StateFlag)
    (p : Process) :
    final (w.survey native s flags).run p = (inTurn (flags.map (·.getter native w)) p).ends ∧
      result (w.survey native s flags).run p =
        verdict (s.setAll (flags.zip (inTurn (flags.map (·.getter native w)) p).answers))
          (inTurn (flags.map (·.getter native w)) p).failure := by
  -- The later flags find the set and the process that the earlier ones leave.
  induction flags generalizing s p with
  | nil => exact ⟨rfl, rfl⟩
  | cons f flags ih =>
    rw [survey_cons, List.map_cons]
    cases read : result (f.getter native w).run p with
    | error e =>
      rw [inTurn_error read, (run_bind_error read).1, (run_bind_error read).2]
      exact ⟨rfl, rfl⟩
    | ok on =>
      rw [inTurn_ok read, (run_bind_ok read).1, (run_bind_ok read).2]
      exact ih (s.set f on) (final (f.getter native w).run p)

/-! ### Exchanges -/

/-- Asks for flags in turn and sets each in a set as it is answered. -/
def stateParams (w : Window) (s : WindowState) : List StateFlag → Dialogue WindowState
  | [] => .done (.ok s)
  | f :: flags => w.param f.attr fun value => w.stateParams (s.set f (Flag.isSet value)) flags

theorem stateParams_run (native : Backend) (w : Window) (s : WindowState)
    (flags : List StateFlag) : (w.stateParams s flags).run native = w.survey native s flags := by
  induction flags generalizing s with
  | nil => rfl
  | cons f flags ih =>
    simp only [survey_cons, f.getter_eq, getFlag, getParam, bind_assoc, pure_bind, ← ih]
    rfl

/-- The exchange asks for the flag and nothing is reported in it. -/
structure Tells (w : Window) (f : StateFlag) (x : Exchange) : Prop where
  asked : x.call = .getWindowParam w.pointer f.attr.code
  silent : x.error? = none

/-- The calls that come of reading all flags, and the outcome. The flags are asked for in turn; the first
error that is reported ends this with the call that reported it, and otherwise the set has the flags
whose value is exactly 1, and no other bits. -/
inductive Inspects (w : Window) : List Exchange → Except Error WindowState → Prop where
  | failed {before : List Exchange} {last : Exchange} {told others : List StateFlag}
      {f : StateFlag} {e : Error} (order : StateFlag.all = told ++ f :: others)
      (tells : List.Forall₂ w.Tells told before)
      (asked : last.call = .getWindowParam w.pointer f.attr.code)
      (reported : last.error? = some e) : Inspects w (before ++ [last]) (.error e)
  | read {xs : List Exchange} {s : WindowState} (tells : List.Forall₂ w.Tells StateFlag.all xs)
      (has : List.Forall₂ (fun f x => s.has f = true ↔ x.reply.value = 1) StateFlag.all xs)
      (bare : s.truncate = s) : Inspects w xs (.ok s)

/-- What the replies say of the flags. -/
def answers (xs : List Exchange) : List Bool :=
  xs.map fun x => Flag.isSet x.reply.value

theorem unfolds_stateParams {s : WindowState} {flags : List StateFlag} {xs : List Exchange}
    {outcome : Except Error WindowState} (h : (w.stateParams s flags).Unfolds xs outcome) :
    match outcome with
    | .ok s' => List.Forall₂ w.Tells flags xs ∧ s' = s.setAll (flags.zip (answers xs))
    | .error e => ∃ told f others before last, flags = told ++ f :: others ∧
        xs = before ++ [last] ∧ List.Forall₂ w.Tells told before ∧
        last.call = .getWindowParam w.pointer f.attr.code ∧ last.error? = some e := by
  induction flags generalizing s xs with
  | nil =>
    cases h
    exact ⟨.nil, rfl⟩
  | cons f flags ih =>
    cases h with
    | @failed _ _ x e asked _ reported =>
      exact ⟨[], f, flags, [], x, rfl, rfl, .nil, asked, reported⟩
    | @went _ _ x xs _ asked _ silent rest =>
      cases outcome with
      | ok s' =>
        obtain ⟨tells, set⟩ := ih rest
        exact ⟨.cons ⟨asked, silent⟩ tells, set⟩
      | error e =>
        obtain ⟨told, g, others, before, last, rfl, rfl, tells, failed⟩ := ih rest
        exact ⟨f :: told, g, others, x :: before, last, rfl, rfl,
          .cons ⟨asked, silent⟩ tells, failed⟩

theorem Inspects.of_unfolds {xs : List Exchange} {outcome : Except Error WindowState}
    (h : (w.stateParams .empty StateFlag.all).Unfolds xs outcome) : w.Inspects xs outcome := by
  have unfolded := unfolds_stateParams h
  cases outcome with
  | error e =>
    obtain ⟨told, f, others, before, last, order, rfl, tells, asked, reported⟩ := unfolded
    exact .failed order tells asked reported
  | ok s =>
    obtain ⟨tells, rfl⟩ : _ ∧ s = .ofAnswers (answers xs) := unfolded
    have length : (answers xs).length = StateFlag.all.length := by
      rw [answers, List.length_map, tells.length_eq]
    have has := WindowState.map_has_ofAnswers length
    have bare := WindowState.truncate_ofAnswers (answers xs)
    generalize WindowState.ofAnswers (answers xs) = s at has bare ⊢
    rw [answers, ← List.forall₂_eq_eq_eq, List.forall₂_map_left_iff,
      List.forall₂_map_right_iff] at has
    refine .read tells (has.imp fun f x same => ?_) bare
    rw [same]
    exact beq_iff_eq

end Window

/-- The set of state flags is read by the same calls as the flags one by one, in the same order and up
to the first that fails, and leaves the same behind, including the error that is pending. It fails with
the error of that call; otherwise it has the flags that are read as set, and no other bits. Client code
runs while no handler waits for events; each call is then an exchange, of which a flag is set exactly if
its value is 1. -/
theorem state_inspection :
    (∀ (native : Backend) (w : Window) (p : Process),
      let m := (w.state native).run
      let tour := inTurn [w.isFocused native, w.isIconified native, w.isVisible native,
        w.isResizable native, w.isDecorated native] p
      final m p = tour.ends ∧ (final m p).locals.pending = p.locals.pending ∧
      (∀ e, tour.failure = some e → result m p = .error e) ∧
      (tour.failure = none → ∃ s, result m p = .ok s ∧ s.truncate = s ∧
        tour.answers = [s.has .focused, s.has .iconified, s.has .visible, s.has .resizable,
          s.has .decorated])) ∧
    ∀ (depth : ℕ) (w : Window) (p : Process), p.current ∈ p.running → Deaf p →
      let m := (w.state (backend depth)).run
      ∃ xs : List Exchange, (∀ x ∈ xs, x.Plain) ∧ during m p = xs.flatMap Exchange.entries ∧
        w.Inspects xs (result m p) := by
  refine ⟨fun native w p => ?_, fun depth w p hr hd => ?_⟩
  · intro m tour
    obtain ⟨ends, returns⟩ : final m p = tour.ends ∧
        result m p = verdict (.ofAnswers tour.answers) tour.failure :=
      w.survey_run native .empty StateFlag.all p
    have kept : (final m p).locals.pending = p.locals.pending := by
      have same := (w.stateParams .empty StateFlag.all).pending_run native p
      rwa [w.stateParams_run] at same
    refine ⟨ends, kept, fun e failed => ?_, fun silent => ?_⟩
    · rw [returns, failed]
      rfl
    · have length : tour.answers.length = StateFlag.all.length := length_inTurn silent
      rw [returns, silent]
      exact ⟨.ofAnswers tour.answers, rfl, WindowState.truncate_ofAnswers _,
        (WindowState.map_has_ofAnswers length).symm⟩
  · intro m
    obtain ⟨xs, unfolds, left⟩ := (w.stateParams .empty StateFlag.all).run_unfolds depth hr hd
    rw [w.stateParams_run] at unfolds left
    exact ⟨xs, unfolds.plain, left.during_eq, .of_unfolds unfolds⟩

/-- A thread with a pending error, whose next requests for parameters have these replies. -/
def inspected (replies : List Reply) : Process where
  running := [0]
  errorCallback := true
  threads := ⟨[(0, { locals := { pending := some (.unreported "glfwInit") } })]⟩
  scripts := [⟨[("glfwGetWindowParam", replies)]⟩]

/-- A window that says 2 when it is asked whether it is visible. -/
def halfShown : Process :=
  inspected [{ value := 1 }, {}, { value := 2 }, { value := 1 }, { value := 1 }]

/-- A window that says that it is iconified, but with an error. -/
def halfIconified : Process :=
  inspected [{}, { value := 1, callbacks := [.error 0x70003 none] }, { value := 1 }]

theorem state_inspection_halfway :
    halfShown.current ∈ halfShown.running ∧ Deaf halfShown ∧
    (∃ xs, Window.Inspects ⟨4096, 0⟩ xs (.ok ⟨25⟩)) ∧
    (inTurn [Window.isFocused (backend 1) ⟨4096, 0⟩, Window.isIconified (backend 1) ⟨4096, 0⟩,
      Window.isVisible (backend 1) ⟨4096, 0⟩, Window.isResizable (backend 1) ⟨4096, 0⟩,
      Window.isDecorated (backend 1) ⟨4096, 0⟩] halfIconified).answers = [false] ∧
    result (Window.state (backend 1) ⟨4096, 0⟩).run halfIconified =
      .error (.reported 0x70003 "") := by
  have shown : result (Window.state (backend 1) ⟨4096, 0⟩).run halfShown = .ok ⟨25⟩ := by
    decide +kernel
  obtain ⟨xs, -, -, inspects⟩ := state_inspection.2 1 ⟨4096, 0⟩ halfShown (by decide) rfl
  obtain ⟨-, -, fails, -⟩ := state_inspection.1 (backend 1) ⟨4096, 0⟩ halfIconified
  rw [shown] at inspects
  exact ⟨by decide, rfl, ⟨xs, inspects⟩, by decide +kernel, fails _ (by decide +kernel)⟩

end Windowing
