import Windowing.Proofs.InitializationCustody

/-!
Books are kept by every computation. Native calls keep them while other threads take their turns and
handlers run; the operations of a client keep them whether the initialization is free, in the hands
of the client's thread, or in the hands of another thread that waits.
-/

namespace Windowing

open Native Client

variable {α β ε : Type} {native : Backend}

/-- If the owner is the current thread and waits, its handler receives nothing. -/
def Gate (o : Option Pause) (p : Process) (w : Watch) : Prop :=
  ∀ x ∈ o, x.owner = p.current → w.stage ≠ .listening

/-- A computation of callbacks and turns that keeps the books. -/
structure CallbackKeepsBooks (m : M α) : Prop where
  onlyCallbacks : OnlyCallbacks m
  confined : Confined m
  standing : ∀ o p w, AllCalm p → Sight p w → w.Clear → Gate o p w → Standing p o →
    Standing (final m p) o

/-- A library whose calls keep the books. If the owner itself calls in the middle of an operation,
the books show the call and nothing else. -/
structure LibraryKeepsBooks (native : Backend) : Prop where
  callsBack : LibraryCallsBack native
  confined : ∀ call, Confined (native call)
  neutral : ∀ call o p w, call.neutral = true → AllCalm p → Sight (p.note (.called call)) w →
    w.Clear → Gate o p w → Standing p o → Standing (final (native call) p) o
  own : ∀ call o p w, AllCalm p → Sight (p.note (.called call)) w → w.Clear →
    w.stage ≠ .listening → o.owner = p.current → Standing (p.note (.called call)) (some o) →
    Guarded o.owner o.holders (final (native call) p) ∧
      (final (native call) p).ledger =
        o.ledger.step ⟨o.owner, .returned call (result (native call) p)⟩

namespace CallbackKeepsBooks

theorem pure (a : α) : CallbackKeepsBooks (Pure.pure a : M α) :=
  ⟨.pure a, .pure a, fun _ _ _ _ _ _ _ hs => hs⟩

theorem bind {m : M α} {f : α → M β} (hm : CallbackKeepsBooks m)
    (hf : ∀ a, CallbackKeepsBooks (f a)) :
    CallbackKeepsBooks (m >>= f) where
  onlyCallbacks := .bind hm.onlyCallbacks fun a => (hf a).onlyCallbacks
  confined := .bind hm.confined fun a => (hf a).confined
  standing o p w hp hw hc hg hs := by
    obtain ⟨hq, w', hw', heard⟩ := hm.onlyCallbacks p w hp hw hc
    refine (hf _).standing o _ w' hq hw' heard.clear (fun x hx hcurrent => ?_)
      (hm.standing o p w hp hw hc hg hs)
    have hstage := hg x hx (hcurrent.trans (hm.confined p).current)
    rw [(heard.aside hstage).1]
    exact hstage

theorem forM {f : α → M Unit} (hf : ∀ a, CallbackKeepsBooks (f a)) (xs : List α) :
    CallbackKeepsBooks (xs.forM f) := by
  induction xs with
  | nil => exact pure _
  | cons x xs ih => exact bind (hf x) fun _ => ih

/-- A change that neither the watch nor the books show. -/
theorem same {m : M α} (h : OnlyCallbacks m) (hc : Confined m) (hb : ∀ p, SameBooks p (final m p)) :
    CallbackKeepsBooks m :=
  ⟨h, hc, fun _ p _ _ _ _ _ hs => hs.same (hb p)⟩

end CallbackKeepsBooks

section Calls

variable {meanwhile : Reply → M Unit} (h : ∀ reply, CallbackKeepsBooks (meanwhile reply))

include h

/-- What happens between the entries of a call keeps the books. -/
theorem callWith_standing {call : Call} {o : Option Pause} {p : Process} {w : Watch}
    (hp : AllCalm p) (hw : Sight (p.note (.called call)) w) (hc : w.Clear) (hg : Gate o p w)
    (hs : Standing (p.note (.called call)) o) :
    ∃ q, Standing q o ∧ q.current = p.current ∧ final (callWith meanwhile call) p =
      q.note (.returned call (result (callWith meanwhile call) p)) := by
  have taken := takeReply_alike call (p.note (.called call))
  have between := h (result (callWith meanwhile call) p)
  have settled := settle_alike call (final (meanwhile (result (callWith meanwhile call) p))
    (final (takeReply call) (p.note (.called call))))
  refine ⟨_, (between.standing o _ w (taken.allCalm (allCalm_note hp hw.running _))
    (taken.view hw) hc (fun x hx hcurrent => hg x hx ?_) (hs.same taken.sameBooks)).same
    settled.sameBooks, ?_, final_callWith _ _ _⟩
  · exact hcurrent.trans taken.current
  · rw [settled.current, (between.confined _).current, taken.current]
    rfl

theorem callWith_libraryKeepsBooks : LibraryKeepsBooks (callWith meanwhile) where
  callsBack := callWith_callsBack fun reply => (h reply).onlyCallbacks
  confined := Confined.closed.callWith fun reply => (h reply).confined
  neutral call o p w hcall hp hw hc hg hs := by
    obtain ⟨q, hq, -, hfinal⟩ :=
      callWith_standing h hp hw hc hg (hs.same (sameBooks_note p hcall))
    rw [hfinal]
    exact hq.same (sameBooks_note q hcall)
  own call o p w hp hw hc hstage howner hs := by
    obtain ⟨q, hq, hcurrent, hfinal⟩ := callWith_standing h hp hw hc (fun _ _ _ => hstage) hs
    cases hq with
    | paused _ _ guarded reads =>
      rw [hfinal, ledger_note, reads.ledger, hcurrent, ← howner]
      exact ⟨⟨guarded.locked, guarded.holders, guarded.others⟩, rfl⟩

end Calls

/-! ### Queries and settings -/

/-- A computation of a client that neither the books nor the current thread's tables show. -/
structure BooksUnaffected (m : M α) : Prop where
  keepsHandler : KeepsHandler m
  confined : Confined m
  book : ∀ p w, AllCalm p → Sight p w → w.Clear → w.stage ≠ .listening →
    SameBook p.here (final m p).here
  standing : ∀ o p w, AllCalm p → Sight p w → w.Clear → w.stage ≠ .listening → Standing p o →
    Standing (final m p) o

theorem SamePlace.book {p q : Process} (h : SamePlace p q) : SameBook p.here q.here := by
  obtain ⟨e, h⟩ := h
  rw [h]
  exact ⟨Eq.refl _, Eq.refl _, Eq.refl _, Eq.refl _, Eq.refl _, Eq.refl _, Eq.refl _⟩

namespace BooksUnaffected

theorem pure (a : α) : BooksUnaffected (Pure.pure a : M α) :=
  ⟨.pure a, .pure a, fun _ _ _ _ _ _ => .rfl, fun _ _ _ _ _ _ _ hs => hs⟩

theorem bind {m : M α} {f : α → M β} (hm : BooksUnaffected m) (hf : ∀ a, BooksUnaffected (f a)) :
    BooksUnaffected (m >>= f) where
  keepsHandler := .bind hm.keepsHandler fun a => (hf a).keepsHandler
  confined := .bind hm.confined fun a => (hf a).confined
  book p w hp hw hc hstage := by
    obtain ⟨hq, hw', -⟩ := hm.keepsHandler p w hp hw hc hstage
    exact (hm.book p w hp hw hc hstage).trans ((hf _).book _ w hq hw' hc hstage)
  standing o p w hp hw hc hstage hs := by
    obtain ⟨hq, hw', -⟩ := hm.keepsHandler p w hp hw hc hstage
    exact (hf _).standing o _ w hq hw' hc hstage (hm.standing o p w hp hw hc hstage hs)

theorem look : BooksUnaffected (get : M Process) :=
  ⟨.look, .look, fun _ _ _ _ _ _ => .rfl, fun _ _ _ _ _ _ _ hs => hs⟩

theorem note {h : Happening} (hs : h.still = true) (hn : h.neutral = true) :
    BooksUnaffected (note h) :=
  ⟨.note hs, .note h, fun _ _ _ _ _ _ => .rfl,
    fun _ p _ _ _ _ _ hp => hp.same (sameBooks_note p hn)⟩

/-- A change of the current thread that the books do not show. -/
theorem setHere {f : Process → Thread} (hs : KeepsHandler (modify fun p => p.setHere (f p)))
    (hb : ∀ p, SameBook p.here (f p)) : BooksUnaffected (modify fun p => p.setHere (f p)) where
  keepsHandler := hs
  confined := .setHere
  book p _ _ _ _ _ := by
    rw [final_modify, Process.here_setHere]
    exact hb p
  standing _ p _ _ _ _ _ hp := hp.same (sameBooks_setHere p (hb p))

theorem setPending (e : Option Error) : BooksUnaffected (setPending e) :=
  setHere (.setPending e) fun _ => ⟨rfl, rfl, rfl, rfl, rfl, rfl, rfl⟩

theorem contexts (f : List (Option (Context × Nat)) → List (Option (Context × Nat))) :
    BooksUnaffected (modifyTables fun t => { t with contexts := f t.contexts }) :=
  setHere (KeepsHandler.tables fun t => { t with contexts := f t.contexts })
    fun _ => ⟨rfl, rfl, rfl, rfl, rfl, rfl, rfl⟩

theorem alike {f : Process → Process} (h : ∀ p, Alike p (f p)) : BooksUnaffected (modify f) :=
  ⟨.shared fun p => (h p).toSameThreads, .shared fun p => (h p).toSameThreads,
    fun p _ _ _ _ _ => (h p).toSameThreads.here ▸ .rfl,
    fun _ p _ _ _ _ _ hp => hp.same (h p).sameBooks⟩

theorem takeError : BooksUnaffected takeError := .bind (.bind look fun _ => pure _) fun _ =>
  .bind (setPending none) fun _ => pure _

theorem composed {prim : (α : Type) → (Backend → M α) → Prop}
    (h : ∀ α m, prim α m → BooksUnaffected (m native)) {m : Backend → M α}
    (hm : Composed SameButPanics prim m) : BooksUnaffected (m native) := by
  induction hm with
  | pure a => exact .pure a
  | bind _ _ first rest => exact .bind first rest
  | look _ _ rest => exact .bind .look rest
  | act hm => exact h _ _ hm

variable (h : LibraryKeepsBooks native)

include h

theorem call {call : Call} (hpumps : call.pumps = false) (hn : call.neutral = true) :
    BooksUnaffected (native call) where
  keepsHandler := (h.callsBack.onlyCallbacks hpumps).keepsHandler
  confined := h.confined call
  book p w hp hw hc hstage := by
    obtain ⟨-, w', -, heard⟩ := h.callsBack.onlyCallbacks hpumps p w hp hw hc
    exact (heard.aside hstage).2.book
  standing o p w hp hw hc hstage hs := by
    have start : w.step (.called call) =
        some { w with armed := none, frames := (call, w.frame call) :: w.frames } := by
      simp [Watch.step, hpumps, hc.owed, hc.armed]
    have called : Sight (p.note (.called call))
        { w with armed := none, frames := (call, w.frame call) :: w.frames } := hw.note start
    exact h.neutral call o p _ hn hp called ⟨rfl, hc.owed⟩ (fun _ _ _ => hstage) hs

theorem checked {call : Call} (hpumps : call.pumps = false) (hn : call.neutral = true) :
    BooksUnaffected (Windowing.checked (native call)).run := by
  refine .bind takeError fun _ => ?_
  refine .bind (BooksUnaffected.call h hpumps hn) fun _ => ?_
  refine .bind takeError fun _ => ?_
  refine .bind (setPending _) fun _ => ?_
  exact pure _

theorem quiet {m : Backend → M α} (hm : Quiet α m) : BooksUnaffected (m native) := by
  cases hm with
  | call call hcall =>
    exact BooksUnaffected.call h (Native.Call.pumps_of_plain hcall)
      (Native.Call.neutral_of_plain hcall)
  | attempt call hcall =>
    exact checked h (Native.Call.pumps_of_plain hcall) (Native.Call.neutral_of_plain hcall)
  | take => exact takeError
  | log l => exact note rfl rfl
  | aside hm =>
    cases hm with
    | lend c => exact note rfl rfl
    | giveBack c => exact note rfl rfl
    | lent f | panics f => exact alike fun _ => ⟨⟨rfl, rfl, rfl⟩, rfl, rfl, rfl⟩
    | contexts f => exact contexts f

end BooksUnaffected

/-- A computation of a client that keeps the books, whoever has the initialization. -/
def ClientKeepsBooks (m : M α) : Prop :=
  ∀ o p w, AllCalm p → AtWork p w → (∀ x ∈ o, x.owner ≠ p.current) → Standing p o →
    Standing (final m p) o

theorem BooksUnaffected.clientKeepsBooks {m : M α} (h : BooksUnaffected m) : ClientKeepsBooks m :=
    fun o p w hp hw _ hs =>
  h.standing o p w hp hw.sight hw.clear hw.stage_ne hs

/-- An operation of a client. -/
structure OperationKeepsBooks (m : M α) : Prop where
  staysCalm : ClientStaysCalm m
  confined : Confined m
  clientKeepsBooks : ClientKeepsBooks m

namespace OperationKeepsBooks

theorem unaffected {m : M α} (h : BooksUnaffected m) : OperationKeepsBooks m :=
  ⟨.keepsHandler h.keepsHandler, h.confined, h.clientKeepsBooks⟩

theorem pure (a : α) : OperationKeepsBooks (Pure.pure a : M α) := unaffected (.pure a)

theorem bind {m : M α} {f : α → M β} (hm : OperationKeepsBooks m)
    (hf : ∀ a, OperationKeepsBooks (f a)) :
    OperationKeepsBooks (m >>= f) where
  staysCalm := .bind hm.staysCalm fun a => (hf a).staysCalm
  confined := .bind hm.confined fun a => (hf a).confined
  clientKeepsBooks o p w hp hw ho hs := by
    obtain ⟨hq, hw'⟩ := hm.staysCalm p w hp hw
    refine (hf _).clientKeepsBooks o _ w hq hw' (fun x hx => ?_)
      (hm.clientKeepsBooks o p w hp hw ho hs)
    have hne := ho x hx
    rwa [← (hm.confined p).current] at hne

theorem catchPanic : OperationKeepsBooks catchPanic := unaffected (.alike catchPanic_alike)

theorem catchUnwind {body : M α} (h : OperationKeepsBooks body) :
    OperationKeepsBooks (catchUnwind body) := by
  refine .bind h fun _ => ?_
  refine .bind catchPanic fun _ => ?_
  exact pure _

end OperationKeepsBooks

end Windowing
