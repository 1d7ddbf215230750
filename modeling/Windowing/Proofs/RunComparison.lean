import Windowing.Proofs.ThreadLikeness

/-!
Comparison of two runs. Two computations on two processes, each on a thread of its own, agree if the
same happens on the two threads and they end alike, or if they part by something that is not their
own. Agreement is kept by composition, since what follows the first difference only adds to it.
-/

namespace Windowing

open Native Client

variable {α β γ ε δ : Type} {native native' : Backend} {p p' q q' : Process}
  {hs hs' : List Happening}

/-- A computation that adds to the history and leaves waiting threads alone. -/
structure GrowsConfined (m : M α) : Prop where
  grows : Grows m
  confined : Confined m

namespace GrowsConfined

theorem mem_running {m : M α} (h : GrowsConfined m) (hr : p.current ∈ p.running) :
    (final m p).current ∈ (final m p).running := by
  rw [(h.confined p).current, (h.confined p).running]
  exact hr

theorem passes {m : M α} (h : GrowsConfined m) (p : Process) : ∃ hs, Passes p (final m p) hs :=
  h.grows.passes h.confined p

theorem bind {m : M α} {f : α → M β} (hm : GrowsConfined m) (hf : ∀ a, GrowsConfined (f a)) :
    GrowsConfined (m >>= f) :=
  ⟨.bind hm.grows fun a => (hf a).grows, .bind hm.confined fun a => (hf a).confined⟩

theorem alike {m : M α} (h : ∀ p, SameThreads p (final m p)) : GrowsConfined m :=
  ⟨.same fun p => (h p).history, fun p => (h p).within⟩

theorem closed : Closed fun _ m => GrowsConfined m where
  unnoticed _ h := alike fun p => (h p).toSameThreads
  bind := bind
  note h := ⟨Grows.closed.note h, .note h⟩
  setHere f := ⟨Grows.closed.setHere f, .setHere⟩

theorem pure (a : α) : GrowsConfined (Pure.pure a : M α) := closed.pure a

theorem note (h : Happening) : GrowsConfined (note h) := closed.note h

theorem setHere {f : Process → Thread} : GrowsConfined (modify fun p => p.setHere (f p)) :=
  closed.setHere f

theorem forM {f : β → M Unit} (hf : ∀ b, GrowsConfined (f b)) (bs : List β) :
    GrowsConfined (bs.forM f) :=
  closed.forM hf bs

theorem compositional (h : ∀ call, GrowsConfined (native call)) :
    Compositional native fun _ m => GrowsConfined m where
  toClosed := closed
  call := h
  spawn contexts body hb :=
    ⟨(Grows.compositional fun call => (h call).grows).spawn contexts body hb.grows,
      (Confined.compositional fun call => (h call).confined).spawn contexts body hb.confined⟩
  turns ht :=
    ⟨(Grows.compositional fun call => (h call).grows).turns fun turn => (ht turn).grows,
      (Confined.compositional fun call => (h call).confined).turns fun turn => (ht turn).confined⟩

end GrowsConfined

/-- The two threads part, or the same happens on them and they end as the relation says. -/
def Agrees (R : α → α → Process → Process → Prop) (m m' : M α) (p p' : Process) : Prop :=
  ∃ hs hs', Passes p (final m p) hs ∧ Passes p' (final m' p') hs' ∧
    (Parts hs hs' ∨
      Same hs hs' ∧ R (result m p) (result m' p') (final m p) (final m' p'))

namespace Agrees

variable {R R' : α → α → Process → Process → Prop} {S : β → β → Process → Process → Prop}
  {m m' : M α} {f f' : α → M β}

theorem mono (h : Agrees R m m' p p')
    (hR : R (result m p) (result m' p') (final m p) (final m' p') →
      R' (result m p) (result m' p') (final m p) (final m' p')) : Agrees R' m m' p p' := by
  obtain ⟨hs, hs', passes, passes', outcome⟩ := h
  exact ⟨hs, hs', passes, passes', outcome.imp id fun same => ⟨same.1, hR same.2⟩⟩

theorem bind (h : Agrees R m m' p p') (goes : ∀ a, GrowsConfined (f a))
    (goes' : ∀ a, GrowsConfined (f' a))
    (rest : R (result m p) (result m' p') (final m p) (final m' p') →
      Agrees S (f (result m p)) (f' (result m' p')) (final m p) (final m' p')) :
    Agrees S (m >>= f) (m' >>= f') p p' := by
  obtain ⟨hs, hs', passes, passes', parted | ⟨same, related⟩⟩ := h
  · obtain ⟨later, hlater⟩ := (goes (result m p)).passes (final m p)
    obtain ⟨later', hlater'⟩ := (goes' (result m' p')).passes (final m' p')
    exact ⟨_, _, passes.trans hlater, passes'.trans hlater', .inl (parted.append later later')⟩
  · obtain ⟨later, later', hlater, hlater', outcome⟩ := rest related
    exact ⟨_, _, passes.trans hlater, passes'.trans hlater',
      outcome.imp (.prepend same) fun ended => ⟨same.append ended.1, ended.2⟩⟩

/-- Neither thread does anything. -/
theorem silent (passes : Passes p (final m p) []) (passes' : Passes p' (final m' p') [])
    (h : R (result m p) (result m' p') (final m p) (final m' p')) : Agrees R m m' p p' :=
  ⟨[], [], passes, passes', .inr ⟨.refl _, h⟩⟩

/-- Both threads do the same single thing. -/
theorem single {x y : Happening} (passes : Passes p (final m p) [x])
    (passes' : Passes p' (final m' p') [y]) (same : x.outline = y.outline)
    (hR : R (result m p) (result m' p') (final m p) (final m' p')) : Agrees R m m' p p' :=
  ⟨[x], [y], passes, passes', .inr ⟨by simp [Same, same], hR⟩⟩

/-- What happens first is the native library's doing, and it differs. -/
theorem apart {x y : Happening} (passes : Passes p (final m p) (x :: hs))
    (passes' : Passes p' (final m' p') (y :: hs')) (foreign : x.foreign = true)
    (foreign' : y.foreign = true) (differ : x.outline ≠ y.outline) : Agrees R m m' p p' :=
  ⟨_, _, passes, passes', .inl (.here differ (.inl (.native foreign foreign')))⟩

/-- What happened before is the same, and from then on the threads agree. -/
theorem after {n k : M α} (passes : Passes p q hs) (passes' : Passes p' q' hs') (same : Same hs hs')
    (run : m.run p = n.run q) (run' : m'.run p' = k.run q') (h : Agrees R n k q q') :
    Agrees R m m' p p' := by
  obtain ⟨later, later', hlater, hlater', outcome⟩ := h
  rw [Agrees, result, result, final, final, run, run']
  exact ⟨_, _, passes.trans hlater, passes'.trans hlater',
    outcome.imp (.prepend same) fun ended => ⟨same.append ended.1, ended.2⟩⟩

end Agrees

theorem Locals.Akin.setPending {s s' : Locals} (h : s.Akin s') (e : Option Error) :
    Locals.Akin { s with pending := e } { s' with pending := e } :=
  ⟨rfl, h.handler, h.dispatching, h.panic, h.deferred⟩

/-- Two processes whose current threads are alike, and in which no handler of theirs waits. -/
structure Matched (p p' : Process) : Prop where
  akin : p.here.Akin p'.here
  running : p.current ∈ p.running
  running' : p'.current ∈ p'.running
  deaf : Deaf p

theorem Matched.deaf' (h : Matched p p') : Deaf p' := by
  have deaf := h.deaf
  rwa [Deaf, Process.locals, h.akin.locals.dropReason] at deaf

/-- The same threads are current, and they are as they were. -/
theorem Matched.same (h : Matched p p') (hq : q.running = p.running) (hq' : q'.running = p'.running)
    (here : q.here.Akin q'.here) (deaf : Deaf q) : Matched q q' :=
  ⟨here, by rw [Process.current_eq hq, hq]; exact h.running,
    by rw [Process.current_eq hq', hq']; exact h.running', deaf⟩

theorem Matched.setHere (h : Matched p p') {t t' : Thread} (akin : t.Akin t')
    (deaf : t.locals.dropReason = p.locals.dropReason) :
    Matched (p.setHere t) (p'.setHere t') := by
  refine h.same rfl rfl (by simpa using akin) ?_
  rw [Deaf, Process.locals, Process.here_setHere, deaf]
  exact h.deaf

theorem Matched.sameThreads (h : Matched p p') (hq : SameThreads p q) (hq' : SameThreads p' q') :
    Matched q q' := by
  refine h.same hq.running hq'.running (by rw [hq.here, hq'.here]; exact h.akin) ?_
  rw [Deaf, hq.locals]
  exact h.deaf

/-- Two computations of client code, outside pumps and other threads, that agree wherever they run.
Their results are related as given. -/
structure Tied (R : α → α → Prop) (m m' : M α) : Prop where
  goes : GrowsConfined m
  goes' : GrowsConfined m'
  agrees : ∀ p p', Matched p p' →
    Agrees (fun a a' q q' => R a a' ∧ Matched q q') m m' p p'

namespace Tied

variable {R : α → α → Prop} {S : β → β → Prop} {m m' : M α} {f f' : α → M β}

theorem pure {a a' : α} (h : R a a') : Tied R (Pure.pure a : M α) (Pure.pure a') :=
  ⟨.pure _, .pure _, fun _ _ hp => .silent .refl .refl ⟨h, hp⟩⟩

/-- Related results are bound; every result is related to itself. -/
theorem bind (hm : Tied R m m') (refl : ∀ a, R a a) (hf : ∀ a a', R a a' → Tied S (f a) (f' a')) :
    Tied S (m >>= f) (m' >>= f') where
  goes := .bind hm.goes fun a => (hf a a (refl a)).goes
  goes' := .bind hm.goes' fun a => (hf a a (refl a)).goes'
  agrees p p' hp := (hm.agrees p p' hp).bind (fun a => (hf a a (refl a)).goes)
    (fun a => (hf a a (refl a)).goes') fun related => (hf _ _ related.1).agrees _ _ related.2

/-- Equal results are bound. -/
theorem andThen (hm : Tied Eq m m') (hf : ∀ a, Tied S (f a) (f' a)) :
    Tied S (m >>= f) (m' >>= f') :=
  hm.bind (fun _ => rfl) fun a _ same => same ▸ hf a

theorem ite {c : Prop} [Decidable c] {n n' : M α} (hm : Tied R m m') (hn : Tied R n n') :
    Tied R (if c then m else n) (if c then m' else n') := by
  split
  · exact hm
  · exact hn

theorem note {h h' : Happening} (same : h.outline = h'.outline) :
    Tied Eq (Windowing.note h) (Windowing.note h') :=
  ⟨.note h, .note h', fun p p' hp => .single (.note h p) (.note h' p') same
    ⟨rfl, hp.same rfl rfl hp.akin hp.deaf⟩⟩

theorem alike {m m' : M Unit} (h : ∀ p, SameThreads p (final m p))
    (h' : ∀ p, SameThreads p (final m' p)) : Tied Eq m m' :=
  ⟨.alike h, .alike h', fun p p' hp => .silent (.of_sameThreads (h p)) (.of_sameThreads (h' p'))
    ⟨rfl, hp.sameThreads (h p) (h' p')⟩⟩

theorem getTables : Tied Tables.Akin getTables getTables :=
  ⟨GrowsConfined.closed.getTables, GrowsConfined.closed.getTables,
    fun _ _ hp => .silent .refl .refl ⟨hp.akin.tables, hp⟩⟩

theorem tables {g g' : Tables → Tables}
    (h : ∀ t t', t.Akin t' → (g t).Akin (g' t')) :
    Tied Eq (modifyTables g) (modifyTables g') :=
  ⟨.setHere, .setHere, fun _ _ hp => .silent ⟨rfl, rfl⟩ ⟨rfl, rfl⟩
    ⟨rfl, hp.setHere ⟨hp.akin.locals, h _ _ hp.akin.tables, hp.akin.spawned⟩ rfl⟩⟩

theorem locals {g g' : Locals → Locals} (h : ∀ s s', s.Akin s' → (g s).Akin (g' s'))
    (deaf : ∀ s, (g s).dropReason = s.dropReason) : Tied Eq (modifyLocals g) (modifyLocals g') :=
  ⟨.setHere, .setHere, fun p _ hp => .silent ⟨rfl, rfl⟩ ⟨rfl, rfl⟩
    ⟨rfl, hp.setHere ⟨h _ _ hp.akin.locals, hp.akin.tables, hp.akin.spawned⟩ (deaf p.locals)⟩⟩

/-- Both look, and go on in the same way if their threads are alike. -/
theorem look {f f' : Process → M β} (h : ∀ p, Tied S (f p) (f' p))
    (same : ∀ p p', p.here.Akin p'.here → f' p = f' p') :
    Tied S ((get : M Process) >>= f) (get >>= f') where
  goes := .bind GrowsConfined.closed.look fun p => (h p).goes
  goes' := .bind GrowsConfined.closed.look fun p => (h p).goes'
  agrees p p' hp := by
    have agree := (h p).agrees p p' hp
    rw [same p p' hp.akin] at agree
    exact agree

/-- What is composed of parts that are tied is tied, if alike threads look the same. -/
theorem composed {prim : (α : Type) → (Backend → M α) → Prop}
    (h : ∀ α m, prim α m → Tied Eq (m native) (m native')) {m : Backend → M α}
    (hm : Composed (fun p q => p.here.Akin q.here) prim m) : Tied Eq (m native) (m native') := by
  induction hm with
  | pure a => exact .pure rfl
  | bind _ _ first rest => exact .andThen first rest
  | look same _ rest => exact .look rest fun p q akin => congrArg (· native') (same p q akin)
  | act hm => exact h _ _ hm

theorem setPending (e : Option Error) : Tied Eq (setPending e) (setPending e) :=
  locals (fun _ _ h => h.setPending e) fun _ => rfl

theorem takeError : Tied Eq takeError takeError where
  goes := GrowsConfined.closed.takeError
  goes' := GrowsConfined.closed.takeError
  agrees _ _ hp := .silent ⟨rfl, rfl⟩ ⟨rfl, rfl⟩ ⟨hp.akin.locals.pending,
    hp.setHere ⟨hp.akin.locals.setPending none, hp.akin.tables, hp.akin.spawned⟩ rfl⟩

theorem forM {g g' : β → M Unit} (h : ∀ b, Tied Eq (g b) (g' b)) (bs : List β) :
    Tied Eq (bs.forM g) (bs.forM g') := by
  induction bs with
  | nil => exact .pure rfl
  | cons b bs ih => exact .andThen (h b) fun _ => ih

end Tied

/-! ### Attempts -/

/-- The same of computations that can fail. -/
def Ties (x x' : ExceptT ε M α) : Prop :=
  Tied Eq x.run x'.run

namespace Ties

variable {x x' : ExceptT ε M α}

theorem pure (a : α) : Ties (Pure.pure a : ExceptT ε M α) (Pure.pure a) := Tied.pure rfl

theorem fail (e : ε) : Ties (throw e : ExceptT ε M α) (throw e) := Tied.pure rfl

theorem lift {m m' : M α} (h : Tied Eq m m') :
    Ties (monadLift m : ExceptT ε M α) (monadLift m') :=
  Tied.andThen h fun _ => .pure rfl

theorem liftExcept (x : Except ε α) :
    Ties (liftExcept x : ExceptT ε M α) (liftExcept x) := by
  cases x
  · exact fail _
  · exact pure _

/-- What follows a success. A failure ends both. -/
theorem follow {S : Except ε β → Except ε β → Prop} (hS : ∀ e, S (.error e) (.error e))
    {f f' : α → ExceptT ε M β} (first : Ties x x') (rest : ∀ a, Tied S (f a).run (f' a).run) :
    Tied S (x >>= f).run (x' >>= f').run := by
  change Tied S (x.run >>= ExceptT.bindCont f) (x'.run >>= ExceptT.bindCont f')
  refine .andThen first fun outcome => ?_
  cases outcome with
  | error e => exact .pure (hS e)
  | ok a => exact rest a

theorem bind {f f' : α → ExceptT ε M β} (first : Ties x x') (rest : ∀ a, Ties (f a) (f' a)) :
    Ties (x >>= f) (x' >>= f') :=
  follow (fun _ => rfl) first rest

theorem adapt (f : ε → δ) (h : Ties x x') : Ties (ExceptT.adapt f x) (ExceptT.adapt f x') :=
  Tied.andThen h fun _ => .pure rfl

theorem ite {c : Prop} [Decidable c] {y y' : ExceptT ε M α} (hx : Ties x x') (hy : Ties y y') :
    Ties (if c then x else y) (if c then x' else y') := by
  split
  · exact hx
  · exact hy

theorem mapM {f f' : α → ExceptT ε M β} (hf : ∀ a, Ties (f a) (f' a)) (xs : List α) :
    Ties (xs.mapM f) (xs.mapM f') := by
  induction xs with
  | nil => exact .pure _
  | cons x xs ih =>
    rw [List.mapM_cons, List.mapM_cons]
    exact .bind (hf x) fun _ => .bind ih fun _ => .pure _

end Ties

theorem Tied.answering {f : α → Answer} {x x' : Attempt α} (h : Ties x x') :
    Tied Eq (answering f x) (answering f x') := by
  refine .andThen h fun outcome => ?_
  cases outcome <;> exact .pure rfl

end Windowing
