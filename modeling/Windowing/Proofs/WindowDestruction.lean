import Windowing.Proofs.InitializationLifetime

/-!
The destruction of windows. As long as the native library does not give two windows the same pointer,
every window with a handle is destroyed once, when its handle is gone: at once, or, if the handle is
dropped in a handler, before the pump that runs the handler is over. A pointer is the concern of one
party at a time: the window that was just created, a handle, or the queue of dropped windows.
-/

namespace Windowing

open Native Client

/-- The native window that is there after an entry and was not before. -/
def Happening.created? : Happening → Option Pointer
  | .returned (.createWindow ..) reply =>
    if reply.pointer = null then none else some reply.pointer
  | _ => none

/-- The native windows after an entry. -/
def Happening.windows (ps : List Pointer) : Happening → List Pointer
  | .called (.destroyWindow pointer) => ps.erase pointer
  | .called .terminate => []
  | h => h.created?.toList ++ ps

/-- The native windows after some entries. -/
def windowsAfter (ps : List Pointer) (entries : List Entry) : List Pointer :=
  entries.foldl (fun ps e => e.what.windows ps) ps

/-- No window is created with the pointer of a native window that was not destroyed. -/
def Unshared (ps : List Pointer) : List Entry → Prop
  | [] => True
  | e :: rest => (∀ p ∈ e.what.created?, p ∉ ps) ∧ Unshared (e.what.windows ps) rest

instance decidableUnshared (ps : List Pointer) (entries : List Entry) :
    Decidable (Unshared ps entries) :=
  match entries with
  | [] => .isTrue trivial
  | e :: rest =>
    have : Decidable (∀ p ∈ e.what.created?, p ∉ ps) :=
      match e.what.created? with
      | none => .isTrue (by simp)
      | some p => decidable_of_iff (p ∉ ps) (by simp)
    have := decidableUnshared (e.what.windows ps) rest
    inferInstanceAs (Decidable ((∀ p ∈ e.what.created?, p ∉ ps) ∧ Unshared (e.what.windows ps) rest))

/-- The window that an entry destroys. -/
def Happening.destroyed? : Happening → Option Pointer
  | .called (.destroyWindow pointer) => some pointer
  | _ => none

/-- The window whose handle an entry drops. -/
def Happening.doomed? : Happening → Option Pointer
  | .dropped h => h.window?.map (·.pointer)
  | _ => none

/-- Whether a thread's handler runs after an entry. -/
def Entry.inHandler (t : ThreadId) (runs : Bool) (e : Entry) : Bool :=
  match e.what with
  | .handling _ _ => e.thread == t || runs
  | .handled _ => e.thread != t && runs
  | _ => runs

/-- Whether a thread's handler runs after some entries. -/
def inHandler (t : ThreadId) (runs : Bool) (entries : List Entry) : Bool :=
  entries.foldl (Entry.inHandler t) runs

/-- The window is not destroyed, nor is the native library terminated. -/
def Spared (p : Pointer) (entries : List Entry) : Prop :=
  ∀ e ∈ entries, e.what ≠ .called (.destroyWindow p) ∧ e.what ≠ .called .terminate

/-- Other steps of the thread begin and end only while its handler runs. -/
def Timely (t : ThreadId) (runs : Bool) (entries : List Entry) : Prop :=
  ∀ first e rest, entries = first ++ e :: rest → e.thread = t → e.what.boundary = true →
    inHandler t runs first = true

/-- A dropped window waits to be destroyed: not at all unless a handler runs, and otherwise at most
until the pump that runs the handler is over. -/
structure Waits (t : ThreadId) (p : Pointer) (runs : Bool) (entries : List Entry) : Prop where
  spared : Spared p entries
  prompt : runs = false → entries = []
  timely : Timely t runs entries

/-- What may come after a window's handle was obtained: it is alive to the end, or until it is dropped.
Then the window is destroyed, and not once more unless it is created anew. -/
inductive Fate (t : ThreadId) (x : Window) (runs : Bool) : List Entry → Prop where
  | alive {entries : List Entry} (held : ∀ e ∈ entries, e.what ≠ .dropped (.window x))
    (spared : Spared x.pointer entries) : Fate t x runs entries
  | destroyed {life wait rest : List Entry} (held : ∀ e ∈ life, e.what ≠ .dropped (.window x))
    (spared : Spared x.pointer life) (waits : Waits t x.pointer (inHandler t runs life) wait)
    (once : ∀ e ∈ rest.takeWhile (·.what.created? != some x.pointer),
      e.what ≠ .called (.destroyWindow x.pointer)) :
    Fate t x runs (life ++ ⟨t, .dropped (.window x)⟩ ::
      (wait ++ ⟨t, .called (.destroyWindow x.pointer)⟩ :: rest))

/-! ### Single entries -/

def Handle.isAt (p : Pointer) (h : Handle) : Bool := h.window?.any (·.pointer == p)

/-- Whether the thread's handler runs. -/
def Ledger.inHandler (l : Ledger) (t : ThreadId) : Bool :=
  l.phase = .alive t ∧ l.busy = true

/-- How many parties are concerned with a pointer. -/
def Ledger.mentions (l : Ledger) (p : Pointer) : Nat :=
  l.created.toList.count p + l.held.countP (·.isAt p) + l.owing.count p

variable {l l' final : Ledger} {t u : ThreadId} {what : Happening} {p : Pointer} {ps : List Pointer}
  {x : Window} {e : Entry} {entries : List Entry}

theorem windows_of_neutral (h : what.neutral = true) (ps : List Pointer) :
    what.windows ps = ps := by
  cases what with
  | called call | returned call reply => cases call <;> first | rfl | cases h
  | _ => rfl

theorem windows_of_boundary (h : what.boundary = true) (ps : List Pointer) :
    what.windows ps = ps := by
  cases what <;> first | rfl | cases h

theorem windows_cases (what : Happening) (ps : List Pointer) :
    (∃ pointer, what.windows ps = ps.erase pointer) ∨ what.windows ps = [] ∨
      what.windows ps = what.created?.toList ++ ps := by
  cases what with
  | called call =>
    cases call with
    | destroyWindow pointer => exact .inl ⟨pointer, rfl⟩
    | terminate => exact .inr (.inl rfl)
    | _ => exact .inr (.inr rfl)
  | _ => exact .inr (.inr rfl)

@[simp] theorem mentions_fresh (phase : Phase) (urgent : Option Entry) (p : Pointer) :
    Ledger.mentions { phase, urgent } p = 0 := rfl

theorem count_pointer (h : Handle) (p : Pointer) :
    (h.window?.toList.map (·.pointer)).count p = if h.isAt p then 1 else 0 := by
  cases hw : h.window? <;> simp [Handle.isAt, hw, List.count_singleton]

theorem count_created {h : Handle} (created : ∀ w ∈ h.window?, l.created = some w.pointer) :
    (if h.isAt p then 1 else 0) ≤ l.created.toList.count p := by
  cases hw : h.window? with
  | none => simp [Handle.isAt, hw]
  | some w => simp [Handle.isAt, hw, created w hw, List.count_singleton]

/-- The parties that are concerned with a pointer are at most as many as the native windows that have
it. -/
theorem Posting.mentions (h : Posting l u what l') (hl : l.mentions p ≤ ps.count p) :
    l'.mentions p ≤ (what.windows ps).count p := by
  cases h with
  | neutral hn => rwa [windows_of_neutral hn]
  | boundary hb => rwa [windows_of_boundary hb]
  | initCalled | initialized | uninitialized | terminate | terminated => simp
  | creating | destroyed | handling | handled => exact hl
  | created alive =>
    simp only [Ledger.mentions, Happening.windows.eq_def, Happening.created?.eq_def,
      List.count_append] at hl ⊢
    omega
  | destroy alive busy owing =>
    rename_i q
    obtain ⟨rest, hrest⟩ := List.head?_eq_some_iff.1 owing
    simp only [Ledger.mentions, Happening.windows.eq_def, hrest, List.tail_cons, List.count_cons,
      List.count_erase] at hl ⊢
    omega
  | first => simp [Ledger.mentions, Handle.isAt, Handle.window?]
  | obtain holds alive held created =>
    rename_i h
    refine Nat.le_trans ?_ hl
    have moved := count_created (p := p) created
    simp only [Ledger.mentions, List.countP_cons, Option.toList_none, List.count_nil]
    omega
  | drop holds alive held =>
    rename_i h
    refine Nat.le_trans (Nat.le_of_eq ?_) hl
    have left : l.held.countP (·.isAt p) = (h :: l.held.erase h).countP (·.isAt p) :=
      (List.perm_cons_erase held).countP_eq _
    simp only [Ledger.mentions, Ledger.dropped, left, List.countP_cons, List.count_append,
      count_pointer]
    omega

theorem countP_of_held (held : .window x ∈ l.held) : 0 < l.held.countP (·.isAt x.pointer) :=
  List.countP_pos_iff.2 ⟨_, held, by simp [Handle.isAt, Handle.window?]⟩

theorem Posting.of_destroyWindow (h : Posting l u (.called (.destroyWindow p)) l') :
    l.owing.head? = some p ∧ l.phase = .alive u ∧ l.busy = false := by
  cases h with
  | neutral hn => cases hn
  | boundary hb => cases hb
  | destroy alive busy owing => exact ⟨owing, alive, busy⟩

/-- Until its handle is dropped, a window is not destroyed. -/
theorem Posting.of_window (h : Posting l u what l') (alive : l.phase = .alive t)
    (held : .window x ∈ l.held) (one : l.mentions x.pointer ≤ 1) :
    (what ≠ .called (.destroyWindow x.pointer) ∧ what ≠ .called .terminate) ∧
      l'.phase = .alive t ∧ (what ≠ .dropped (.window x) → .window x ∈ l'.held) := by
  have ne : l.held ≠ [] := List.ne_nil_of_mem held
  rcases h.of_alive alive with ⟨-, -, empty, -⟩ | ⟨phase, -, hterminate, -⟩
  · exact absurd empty ne
  refine ⟨⟨?_, hterminate⟩, phase, fun hne => ?_⟩
  · rintro rfl
    have waiting : 0 < l.owing.count x.pointer :=
      List.count_pos_iff.2 (List.mem_of_head? h.of_destroyWindow.1)
    have alive := countP_of_held held
    simp only [Ledger.mentions] at one
    omega
  · rw [(h.held (.inl ⟨t, alive⟩)).1]
    cases what with
    | obtained h' =>
      simp only [Happening.survivors]
      split
      · exact List.mem_cons_of_mem _ held
      · exact held
    | dropped h' =>
      simp only [Happening.survivors]
      split
      · exact (List.mem_erase_of_ne fun he => hne (congrArg _ he.symm)).2 held
      · exact held
    | _ => exact held

/-- A dropped window stays in the queue until it is destroyed. -/
theorem Posting.of_owing (h : Posting l u what l') (alive : l.phase = .alive t)
    (owing : p ∈ l.owing) :
    (u = t ∧ what = .called (.destroyWindow p) ∧ l' = { l with owing := l.owing.tail }) ∨
      (what ≠ .called (.destroyWindow p) ∧ what ≠ .called .terminate) ∧
        l'.phase = .alive t ∧ p ∈ l'.owing ∧ (u = t → what.boundary = true → l.busy = true) := by
  have waits : l.owing ≠ [] := List.ne_nil_of_mem owing
  have same : ∀ {v}, l.phase = .alive v → v = t := fun hv => Phase.alive.inj (hv.symm.trans alive)
  cases h with
  | neutral hn =>
    refine .inr ⟨⟨?_, ?_⟩, alive, owing, fun _ hb => ?_⟩
    · rintro rfl
      cases hn
    · rintro rfl
      cases hn
    · cases what <;> first | cases hn; done | cases hb
  | boundary hb settled =>
    refine .inr ⟨⟨?_, ?_⟩, alive, owing, fun hu _ => ?_⟩
    · rintro rfl
      cases hb
    · rintro rfl
      cases hb
    · exact (settled (by rw [alive, hu]; rfl)).2.2.resolve_left waits
  | initCalled other | initialized other | uninitialized other | terminated other | first other =>
    rw [alive] at other
    cases other
  | terminate _ _ empty => exact absurd empty waits
  | @destroy q other _ hq =>
    obtain ⟨rest, hrest⟩ := List.head?_eq_some_iff.1 hq
    by_cases hpq : q = p
    · subst hpq
      exact .inl ⟨same other, rfl, rfl⟩
    · refine .inr ⟨⟨by simpa using hpq, by simp⟩, alive, ?_, fun _ hb => by cases hb⟩
      simp only [hrest, List.tail_cons, List.mem_cons] at owing ⊢
      exact owing.resolve_left fun he => hpq he.symm
  | drop =>
    exact .inr ⟨⟨by simp, by simp⟩, alive, List.mem_append_left _ owing, fun _ hb => by cases hb⟩
  | _ => exact .inr ⟨⟨by simp, by simp⟩, alive, owing, fun _ hb => by cases hb⟩

/-- A pointer that concerns no one is destroyed only after it is created anew. -/
theorem Posting.of_forgotten (h : Posting l u what l') (forgotten : l.mentions p = 0)
    (hcreated : what.created? ≠ some p) :
    what ≠ .called (.destroyWindow p) ∧ l'.mentions p = 0 := by
  have mentions : l'.mentions p ≤ (what.windows []).count p := h.mentions (by simp [forgotten])
  refine ⟨?_, Nat.le_zero.1 (Nat.le_trans mentions ?_)⟩
  · rintro rfl
    have waiting : 0 < l.owing.count p :=
      List.count_pos_iff.2 (List.mem_of_head? h.of_destroyWindow.1)
    simp only [Ledger.mentions] at forgotten
    omega
  · have absent : p ∉ what.created?.toList ++ [] := by simpa using hcreated
    rcases windows_cases what [] with ⟨pointer, erased⟩ | emptied | created
    · simp [erased]
    · simp [emptied]
    · rw [created]
      exact Nat.le_of_eq (List.count_eq_zero.2 absent)

theorem Posting.of_obtained_window (h : Posting l u (.obtained (.window x)) l') :
    l'.phase = .alive u ∧ .window x ∈ l'.held := by
  cases h with
  | neutral hn => cases hn
  | boundary hb => cases hb
  | obtain _ alive => exact ⟨alive, List.mem_cons_self⟩

/-- The books know whether a handler runs. -/
theorem Posting.inHandler (h : Posting l u what l') (t : ThreadId) :
    l'.inHandler t = Entry.inHandler t (l.inHandler t) ⟨u, what⟩ := by
  symm
  unfold Ledger.inHandler
  cases h with
  | neutral hn => cases what <;> first | rfl | cases hn
  | boundary hb => cases what <;> first | rfl | cases hb
  | initCalled other | initialized other | uninitialized other | terminated other | first other =>
    simp [Entry.inHandler, other]
  | terminate _ _ _ busy => simp [Entry.inHandler, busy]
  | handling alive _ busy | handled alive _ busy =>
    by_cases hu : u = t <;> simp [Entry.inHandler, alive, busy, hu]
  | _ => rfl

/-- Windows leave the queue in the order in which their handles were dropped. -/
theorem Posting.owing (h : Posting l u what l') (tidy : l.Tidy) :
    l.owing ++ what.doomed?.toList = what.destroyed?.toList ++ l'.owing := by
  have empty : (∀ v, l.phase ≠ .alive v) → l.owing = [] := fun hne =>
    (tidy.resolve_left fun ⟨v, hv⟩ => hne v hv).2
  cases h with
  | neutral hn =>
    cases what with
    | called call => cases call <;> first | exact List.append_nil _ | cases hn
    | dropped h => cases h <;> first | exact List.append_nil _ | cases hn
    | _ => exact List.append_nil _
  | boundary hb => cases what <;> first | exact List.append_nil _ | cases hb
  | initCalled other | initialized other | uninitialized other | terminated other | first other =>
    rw [empty fun v => by simp [other]]
    rfl
  | terminate _ _ owing =>
    rw [owing]
    rfl
  | destroy _ _ owing =>
    obtain ⟨rest, hrest⟩ := List.head?_eq_some_iff.1 owing
    simp [Happening.doomed?, Happening.destroyed?, hrest]
  | drop => simp [Happening.doomed?, Happening.destroyed?, Ledger.dropped, Option.toList_map]
  | _ => exact List.append_nil _

/-! ### Stretches of entries -/

theorem Spared.cons (h : e.what ≠ .called (.destroyWindow p) ∧ e.what ≠ .called .terminate)
    (rest : Spared p entries) : Spared p (e :: entries) := by
  intro e' he
  rcases List.mem_cons.1 he with rfl | he
  · exact h
  · exact rest e' he

theorem Timely.cons {runs : Bool} (boundary : e.thread = t → e.what.boundary = true → runs = true)
    (rest : Timely t (e.inHandler t runs) entries) : Timely t runs (e :: entries) := by
  intro first e' last hsplit hu hb
  cases first with
  | nil =>
    obtain ⟨rfl, -⟩ := List.cons.inj hsplit
    exact boundary hu hb
  | cons e'' first =>
    obtain ⟨rfl, hsplit'⟩ := List.cons.inj hsplit
    exact rest first e' last hsplit' hu hb

theorem Fate.cons {runs : Bool} (held : e.what ≠ .dropped (.window x))
    (spared : e.what ≠ .called (.destroyWindow x.pointer) ∧ e.what ≠ .called .terminate)
    (rest : Fate t x (e.inHandler t runs) entries) : Fate t x runs (e :: entries) := by
  have holds : ∀ {es : List Entry}, (∀ e ∈ es, e.what ≠ .dropped (.window x)) →
      ∀ e' ∈ e :: es, e'.what ≠ .dropped (.window x) := by
    intro es hes e' he
    rcases List.mem_cons.1 he with rfl | he
    · exact held
    · exact hes e' he
  cases rest with
  | alive hheld hspared => exact .alive (holds hheld) (hspared.cons spared)
  | destroyed hheld hspared waits once =>
    exact .destroyed (holds hheld) (hspared.cons spared) waits once

/-- Each native window is the concern of one party at most, as long as the windows that follow are
not shared. -/
structure Ledger.Sole (l : Ledger) (ps : List Pointer) (entries : List Entry) : Prop where
  nodup : ps.Nodup
  unshared : Unshared ps entries
  mentions : ∀ p, l.mentions p ≤ ps.count p

theorem Ledger.Sole.one (h : l.Sole ps entries) (p : Pointer) : l.mentions p ≤ 1 :=
  Nat.le_trans (h.mentions p) (List.nodup_iff_count.1 h.nodup p)

theorem nodup_windows (what : Happening) (nodup : ps.Nodup) (h : ∀ p ∈ what.created?, p ∉ ps) :
    (what.windows ps).Nodup := by
  rcases windows_cases what ps with ⟨pointer, erased⟩ | emptied | created
  · rw [erased]
    exact nodup.erase _
  · rw [emptied]
    exact List.nodup_nil
  · rw [created]
    cases hc : what.created? with
    | none => exact nodup
    | some p => exact List.nodup_cons.2 ⟨h p hc, nodup⟩

theorem Ledger.Sole.step (h : l.Sole ps (e :: entries)) (hstep : l.step e = some l') :
    l'.Sole (e.what.windows ps) entries where
  nodup := nodup_windows e.what h.nodup h.unshared.1
  unshared := h.unshared.2
  mentions p := (posting_of_step hstep).2.mentions (h.mentions p)

/-- The books know whether a handler runs. -/
theorem Ledger.run_inHandler (hrun : l.run entries = some l') (t : ThreadId) :
    l'.inHandler t = Windowing.inHandler t (l.inHandler t) entries := by
  induction entries generalizing l with
  | nil =>
    cases hrun
    rfl
  | cons e entries ih =>
    obtain ⟨m, hstep, hrest⟩ := Ledger.run_cons.1 hrun
    have first : m.inHandler t = e.inHandler t (l.inHandler t) :=
      (posting_of_step hstep).2.inHandler t
    rw [ih hrest, first]
    rfl

theorem Ledger.Sole.run {rest : List Entry} (sole : l.Sole ps (entries ++ rest))
    (hrun : l.run entries = some l') : l'.Sole (windowsAfter ps entries) rest := by
  induction entries generalizing l ps with
  | nil =>
    cases hrun
    exact sole
  | cons e entries ih =>
    obtain ⟨m, hstep, hrest⟩ := Ledger.run_cons.1 hrun
    exact ih (sole.step hstep) hrest

/-- What is true before a run about the handler and the windows is true after it. -/
theorem run_sole (hrun : l.run entries = some l') {rest : List Entry}
    (sole : l.Sole ps (entries ++ rest)) (t : ThreadId) :
    l'.inHandler t = inHandler t (l.inHandler t) entries ∧ ∃ ps', l'.Sole ps' rest :=
  ⟨Ledger.run_inHandler hrun t, _, sole.run hrun⟩

/-- A window that no one is concerned with is not destroyed, unless it is created anew. -/
theorem run_forgotten (hrun : l.run entries = some final) (forgotten : l.mentions p = 0) :
    ∀ e ∈ entries.takeWhile (·.what.created? != some p), e.what ≠ .called (.destroyWindow p) := by
  induction entries generalizing l with
  | nil => simp
  | cons e rest ih =>
    obtain ⟨m, hstep, hrest⟩ := Ledger.run_cons.1 hrun
    by_cases hcreated : e.what.created? = some p
    · simp [hcreated]
    · obtain ⟨hdestroy, hm⟩ := (Ledger.posting_of_step hstep).2.of_forgotten forgotten hcreated
      rw [List.takeWhile_cons_of_pos (by simpa using hcreated)]
      intro x hx
      rcases List.mem_cons.1 hx with rfl | hx
      · exact hdestroy
      · exact ih hrest hm x hx

/-- A dropped window is destroyed, in time and once. -/
theorem run_owing (hrun : l.run entries = some final) (alive : l.phase = .alive t)
    (owing : p ∈ l.owing) (sole : l.Sole ps entries) (rest : final.AtRest) : ∃ wait later,
      entries = wait ++ ⟨t, .called (.destroyWindow p)⟩ :: later ∧ Spared p wait ∧
        Timely t (l.inHandler t) wait ∧
        ∀ e ∈ later.takeWhile (·.what.created? != some p), e.what ≠ .called (.destroyWindow p) := by
  induction entries generalizing l ps with
  | nil =>
    cases hrun
    rcases rest with rfl | ⟨-, -, empty, -⟩
    · cases alive
    · rw [empty] at owing
      cases owing
  | cons e entries ih =>
    obtain ⟨m, hstep, hrest⟩ := Ledger.run_cons.1 hrun
    have posting := (Ledger.posting_of_step hstep).2
    have next := sole.step hstep
    have one := sole.one p
    obtain ⟨u, what⟩ := e
    rcases posting.of_owing alive owing with
      ⟨rfl, rfl, rfl⟩ | ⟨spared, alive', owing', boundary⟩
    · obtain ⟨waiting, hwaiting⟩ := List.head?_eq_some_iff.1 posting.of_destroyWindow.1
      have queue : l.owing = p :: waiting := hwaiting
      have gone : Ledger.mentions { l with owing := l.owing.tail, urgent := none } p = 0 := by
        simp only [Ledger.mentions, queue, List.count_cons_self, List.tail_cons] at one ⊢
        omega
      exact ⟨[], entries, rfl, by simp [Spared], by simp [Timely], run_forgotten hrest gone⟩
    · obtain ⟨wait, later, rfl, hspared, timely, once⟩ := ih hrest alive' owing' next
      have runs : m.inHandler t = Entry.inHandler t (l.inHandler t) ⟨u, what⟩ := posting.inHandler t
      rw [runs] at timely
      refine ⟨_ :: wait, later, rfl, hspared.cons spared, timely.cons fun hu hb => ?_, once⟩
      simpa [Ledger.inHandler, alive] using boundary hu hb

/-- A handle lasts, or its window is destroyed. -/
theorem run_window (hrun : l.run entries = some final) (alive : l.phase = .alive t)
    (held : .window x ∈ l.held) (sole : l.Sole ps entries) (rest : final.AtRest) :
    Fate t x (l.inHandler t) entries := by
  induction entries generalizing l ps with
  | nil => exact .alive (by simp) (by simp [Spared])
  | cons e entries ih =>
    obtain ⟨m, hstep, hrest⟩ := Ledger.run_cons.1 hrun
    have posting := (Ledger.posting_of_step hstep).2
    have next := sole.step hstep
    obtain ⟨spared, alive', held'⟩ := posting.of_window alive held (sole.one x.pointer)
    obtain ⟨u, what⟩ := e
    by_cases hdrop : what = .dropped (.window x)
    · subst hdrop
      obtain ⟨hu, -, rfl⟩ := posting.of_dropped rfl
      obtain rfl : t = u := Phase.alive.inj (alive.symm.trans hu)
      have owing : x.pointer ∈ (Ledger.dropped { l with urgent := none } t (.window x)).owing := by
        simp [Ledger.dropped, Handle.window?]
      obtain ⟨wait, later, rfl, hspared, timely, once⟩ := run_owing hrest alive' owing next rest
      change Fate t x _ ([] ++ ⟨t, .dropped (.window x)⟩ :: _)
      refine .destroyed (by simp) (by simp [Spared]) ⟨hspared, fun hidle => ?_, timely⟩ once
      have lbusy : l.busy = false := by simpa [inHandler, Ledger.inHandler, alive] using hidle
      have urgent : (Ledger.dropped { l with urgent := none } t (.window x)).urgent =
          some ⟨t, .called (.destroyWindow x.pointer)⟩ := by
        simp [Ledger.dropped, Ledger.sequel, Handle.window?, lbusy]
      obtain ⟨after, hafter⟩ := Ledger.run_urgent hrest urgent rest
      cases wait with
      | nil => rfl
      | cons e wait =>
        cases hafter
        exact absurd rfl (hspared _ List.mem_cons_self).1
    · have runs : m.inHandler t = Entry.inHandler t (l.inHandler t) ⟨u, what⟩ := posting.inHandler t
      exact Fate.cons hdrop spared (runs ▸ ih hrest alive' (held' hdrop) next)

/-- The windows that were destroyed are the first that were dropped. -/
theorem run_queue (hrun : l.run entries = some final) (tidy : l.Tidy) :
    l.owing ++ entries.filterMap (·.what.doomed?) =
      entries.filterMap (·.what.destroyed?) ++ final.owing := by
  induction entries generalizing l with
  | nil =>
    cases hrun
    simp
  | cons e rest ih =>
    obtain ⟨m, hstep, hrest⟩ := Ledger.run_cons.1 hrun
    have posting := (Ledger.posting_of_step hstep).2
    have first : l.owing ++ e.what.doomed?.toList = e.what.destroyed?.toList ++ m.owing :=
      posting.owing tidy
    have cons : ∀ f : Entry → Option Pointer,
        (e :: rest).filterMap f = (f e).toList ++ rest.filterMap f := fun f => by
      cases h : f e <;> simp [h]
    rw [cons, cons, ← List.append_assoc, first, List.append_assoc,
      ih hrest (posting.held tidy).2, List.append_assoc]

/-- In every run, under every schedule of the threads, and if the native library shares no pointer
among windows that exist together: every window with a handle is destroyed exactly once after its
handle is dropped and never before, at once or before the end of the pump in whose handler it is
dropped, and before the native library is terminated. The windows are destroyed in the order in
which their handles are dropped. -/
theorem window_destruction (s : Session) (unshared : Unshared [] s.history) :
    (∀ before t x after, s.history = before ++ ⟨t, .obtained (.window x)⟩ :: after →
      Fate t x (inHandler t false before) after) ∧
    (∀ before after, s.history = before ++ after →
      before.filterMap (·.what.destroyed?) <+: before.filterMap (·.what.doomed?)) ∧
    s.history.filterMap (·.what.destroyed?) = s.history.filterMap (·.what.doomed?) := by
  obtain ⟨final, hrun, rest⟩ := s.books
  have sole : Ledger.Sole {} [] s.history := ⟨List.nodup_nil, unshared, fun _ => Nat.zero_le _⟩
  refine ⟨?_, ?_, ?_⟩
  · intro before t x after hsplit
    rw [hsplit] at hrun sole
    obtain ⟨l, hbefore, hafter⟩ := Ledger.run_append.1 hrun
    obtain ⟨m, hstep, hafter⟩ := Ledger.run_cons.1 hafter
    obtain ⟨runs, ps, sole'⟩ := run_sole hbefore sole t
    have posting := (Ledger.posting_of_step hstep).2
    obtain ⟨alive, held⟩ := posting.of_obtained_window
    have same : m.inHandler t = inHandler t false before := (posting.inHandler t).trans runs
    exact same ▸ run_window hafter alive held (sole'.step hstep) rest
  · intro before after hsplit
    rw [hsplit] at hrun
    obtain ⟨l, hbefore, -⟩ := Ledger.run_append.1 hrun
    exact ⟨l.owing, (run_queue hbefore (.inr ⟨rfl, rfl⟩)).symm⟩
  · have settled : final.owing = [] := by
      rcases rest with rfl | ⟨-, -, owing, -⟩
      · rfl
      · exact owing
    simpa [settled] using (run_queue hrun (.inr ⟨rfl, rfl⟩)).symm

/-- A program that drops its window in a handler. -/
def dropInHandler : Session where
  steps := [
    .mk {} .init,
    .mk ⟨[("glfwCreateWindow", [{ pointer := 7 }])]⟩ (.library 0 (.createWindow
      { hints := [], width := 4, height := 4, title := "", monitor := none, share := none })),
    .mk ⟨[("glfwPollEvents", [{ callbacks := [.window 7 .close] }])]⟩
      (.pump 0 .poll [[.mk {} (.window 0 .drop)]])]

theorem exists_split {entries : List Entry} {e : Entry} {P : List Entry → List Entry → Prop}
    (he : e ∈ entries) (h : ∀ before after, entries = before ++ e :: after → P before after) :
    ∃ before after, entries = before ++ e :: after ∧ P before after := by
  obtain ⟨before, after, hsplit⟩ := List.append_of_mem he
  exact ⟨before, after, hsplit, h before after hsplit⟩

theorem window_destruction_dropInHandler :
    Unshared [] dropInHandler.history ∧
      (∃ before after,
        dropInHandler.history = before ++ ⟨0, .obtained (.window ⟨7, 0⟩)⟩ :: after ∧
          Fate 0 ⟨7, 0⟩ (inHandler 0 false before) after) ∧
      dropInHandler.history.filterMap (·.what.destroyed?) = [7] := by
  have destruction := window_destruction dropInHandler (by decide +kernel)
  refine ⟨by decide +kernel, ?_, destruction.2.2.trans (by decide +kernel)⟩
  exact exists_split (by decide +kernel) fun before after => destruction.1 before 0 ⟨7, 0⟩ after

end Windowing
