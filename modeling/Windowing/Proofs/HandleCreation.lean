import Windowing.Proofs.HandleSlots

/-!
Creation of handles. A new handle holds the initialization before it has a slot; until then it is
on its way. Every operation that creates handles ends with all of them in slots, or with none.
-/

namespace Windowing

open Native Client

/-- What a computation makes of a condition. -/
def Triple {α : Type} (P : Process → Prop) (m : M α) (Q : α → Process → Prop) : Prop :=
  ∀ p, P p → Q (result m p) (final m p)

/-- What an attempt makes of a condition if it succeeds, and if it fails. -/
def Tries {α ε : Type} (P : Process → Prop) (x : ExceptT ε M α) (Q : α → Process → Prop)
    (E : Process → Prop) : Prop :=
  ∀ p, P p → match result x.run p with
    | .ok a => Q a (final x.run p)
    | .error _ => E (final x.run p)

section Triples

variable {α β ε δ : Type} {P E E' : Process → Prop} {Q Q' : α → Process → Prop}
  {R : β → Process → Prop}

theorem Triple.bind {m : M α} {f : α → M β} (hm : Triple P m Q) (hf : ∀ a, Triple (Q a) (f a) R) :
    Triple P (m >>= f) R := fun p hp => hf _ _ (hm p hp)

theorem Triple.pure {a : α} (h : ∀ p, P p → Q a p) : Triple P (Pure.pure a) Q := h

theorem Triple.mono {m : M α} (hm : Triple P m Q) (h : ∀ a p, Q a p → Q' a p) : Triple P m Q' :=
  fun p hp => h _ _ (hm p hp)

theorem Tries.bind {x : ExceptT ε M α} {f : α → ExceptT ε M β} (hx : Tries P x Q E)
    (hf : ∀ a, Tries (Q a) (f a) R E) : Tries P (x >>= f) R E := by
  intro p hp
  have first := hx p hp
  rw [ExceptT.run_bind, result_bind, final_bind]
  cases hr : result x.run p with
  | error e =>
    rw [hr] at first
    exact first
  | ok a =>
    rw [hr] at first
    exact hf a _ first

theorem Tries.weaken {x : ExceptT ε M α} (hx : Tries P x Q E) (h : ∀ p, E p → E' p) :
    Tries P x Q E' := by
  intro p hp
  have after := hx p hp
  cases hr : result x.run p with
  | ok a =>
    rw [hr] at after
    exact after
  | error e =>
    rw [hr] at after
    exact h _ after

theorem Tries.lift {m : M α} (h : Triple P m Q) : Tries P (monadLift m : ExceptT ε M α) Q E :=
  h

theorem Tries.pure {a : α} (h : ∀ p, P p → Q a p) : Tries P (Pure.pure a : ExceptT ε M α) Q E :=
  h

theorem Tries.adapt (f : ε → δ) {x : ExceptT ε M α} (h : Tries P x Q E) :
    Tries P (ExceptT.adapt f x) Q E := by
  intro p hp
  have first := h p hp
  change match (result x.run p).mapError f with
    | .ok a => Q a (final x.run p)
    | .error _ => E (final x.run p)
  cases hr : result x.run p with
  | error e =>
    rw [hr] at first
    exact first
  | ok a =>
    rw [hr] at first
    exact first

theorem Triple.answering {f : α → Answer} {x : Attempt α} (h : Tries P x (fun _ => E) E) :
    Triple P (answering f x) fun _ => E := by
  intro p hp
  have first := h p hp
  simp only [Client.answering, final_bind]
  cases hr : result x.run p with
  | error e =>
    rw [hr] at first
    exact first
  | ok a =>
    rw [hr] at first
    exact first

end Triples

/-- The owner is in the middle of an operation: some handles are on their way, and a window may have
been created that has no handle yet. -/
def Busy (v : ThreadId) (w : Watch) (flying : List Handle) (created : Option Pointer)
    (p : Process) : Prop :=
  ∃ t l, OwnerMidOperation v w t l flying p ∧ ∀ x ∈ created, l.created = some x

section Busy

variable {α ε : Type} {native : Backend} {v : ThreadId} {w : Watch} {flying : List Handle}
  {created : Option Pointer} {p : Process}

theorem Busy.perm {flying' : List Handle} (h : flying.Perm flying') (hp : Busy v w flying created p) :
    Busy v w flying' created p := by
  obtain ⟨t, l, desk, hc⟩ := hp
  refine ⟨t, l, ⟨desk.base, desk.reads, desk.alive, desk.held, ?_⟩, hc⟩
  exact ⟨desk.account.held.trans (h.append_left _), desk.account.owing, desk.account.busy,
    desk.account.deferred, desk.account.pumping⟩

theorem BooksUnaffected.busy {m : M α} (hm : BooksUnaffected m) :
    Triple (Busy v w flying created) m fun _ => Busy v w flying created := by
  rintro p ⟨t, l, desk, hc⟩
  exact ⟨t, l, desk.unaffected hm, hc⟩

theorem BooksUnaffected.tries {x : ExceptT ε M α} (hx : BooksUnaffected x.run) :
    Tries (Busy v w flying created) x (fun _ => Busy v w flying created)
      (Busy v w flying created) := by
  intro p hp
  have after := hx.busy p hp
  cases result x.run p <;> exact after

/-- A handle that is on its way gets a slot. -/
theorem OwnerMidOperation.place {t : Thread} {l : Ledger} {handle : Handle}
    (h : OwnerMidOperation v w t l (handle :: flying) p) {f : Tables → Tables}
    (hperm : (f p.tables).handles.Perm (handle :: p.tables.handles))
    (hpump : ∀ slot, p.tables.pumping = some slot →
      (occupant p.tables.libraries slot).isSome = true →
      (f p.tables).pumping = some slot ∧ (occupant (f p.tables).libraries slot).isSome = true) :
    OwnerMidOperation v w { p.here with tables := f p.tables } l flying
      (final (modifyTables f) p) := by
  have account := h.account.same h.base.book
  refine h.tables f .rfl ⟨?_, account.owing, account.busy, account.deferred, fun installed => ?_⟩
  · refine account.held.trans ?_
    exact List.perm_middle.trans ((hperm.append_right flying).symm)
  · obtain ⟨slot, hslot, hlib⟩ := account.pumping installed
    exact ⟨slot, hpump slot hslot hlib⟩

theorem addWindow_busy (x : Window) :
    Triple (Busy v w (.window x :: flying) created) (addWindow x)
      fun _ => Busy v w flying created := by
  rintro p ⟨t, l, desk, hc⟩
  exact ⟨_, l, desk.place (f := fun t => { t with windows := t.windows ++ [some x] })
    (Tables.handles_add_window x) fun _ h hlib => ⟨h, hlib⟩, hc⟩

theorem addMonitor_busy (x : Monitor) :
    Triple (Busy v w (.monitor x :: flying) created) (addMonitor x)
      fun _ => Busy v w flying created := by
  rintro p ⟨t, l, desk, hc⟩
  exact ⟨_, l, desk.place (f := fun t => { t with monitors := t.monitors ++ [some x] })
    (Tables.handles_add_monitor x) fun _ h hlib => ⟨h, hlib⟩, hc⟩

theorem occupant_append {α : Type} {table : List (Option α)} {slot : Nat}
    (h : (occupant table slot).isSome = true) (later : List (Option α)) :
    occupant (table ++ later) slot = occupant table slot := by
  have hlt : slot < table.length := by
    rcases Nat.lt_or_ge slot table.length with hlt | hge
    · exact hlt
    · simp [occupant, List.getElem?_eq_none hge] at h
  simp [occupant, List.getElem?_append_left hlt]

theorem addLibrary_busy (x : Library) :
    Triple (Busy v w (.library x :: flying) created) (addLibrary x)
      fun _ => Busy v w flying created := by
  rintro p ⟨t, l, desk, hc⟩
  exact ⟨_, l, desk.place (f := fun t => { t with libraries := t.libraries ++ [some x] })
    (Tables.handles_add_library x) fun _ h hlib => ⟨h, (occupant_append hlib _).symm ▸ hlib⟩, hc⟩

/-! ### Windows -/

/-- The books show which window was created. -/
theorem checkedCreate_busy (hm : LibraryKeepsBooks native) (width height : Int32) (title : Text.Bytes)
    (monitor share : Pointer) :
    Tries (Busy v w flying none)
      (checked (native (.createWindow width height title monitor share)))
      (fun reply => Busy v w flying (if reply.pointer = null then none else some reply.pointer))
      (Busy v w flying none) := by
  rintro p ⟨t, l, desk, -⟩
  have start : l.step ⟨v, .called (.createWindow width height title monitor share)⟩ = some l := by
    rw [Ledger.step_eq_advance desk.reads.urgent]
    rfl
  obtain ⟨base, ledger⟩ :=
    desk.base.checked hm rfl desk.reads.ledger start desk.reads.urgent desk.reads.owner
  rw [result_checked]
  generalize result (native (.createWindow width height title monitor share))
    (final takeError p) = reply at ledger ⊢
  let shown : Ledger :=
    { l with created := if reply.pointer = null then none else some reply.pointer }
  have stop : l.step ⟨v, .returned (.createWindow width height title monitor share) reply⟩ =
      some shown := by
    rw [Ledger.step_eq_advance desk.reads.urgent]
    exact if_pos desk.alive
  have after : OwnerMidOperation v w t shown flying
      (final (checked (native (.createWindow width height title monitor share))).run p) :=
    ⟨base, ⟨ledger.trans stop, desk.reads.urgent, desk.reads.owner⟩, desk.alive, desk.held,
      desk.account.held, desk.account.owing, desk.account.busy, desk.account.deferred,
      desk.account.pumping⟩
  cases (final (native (.createWindow width height title monitor share))
    (final takeError p)).locals.pending with
  | some e => exact ⟨t, shown, after, by simp⟩
  | none => exact ⟨t, shown, after, fun x hx => hx⟩

theorem createNative_busy (hm : LibraryKeepsBooks native) (width height : Int32) (title : Text.Bytes)
    (monitor : Option Monitor) (share : Option Window) :
    Tries (Busy v w flying none) (Window.createNative native width height title monitor share)
      (fun x => Busy v w flying (some x)) (Busy v w flying none) := by
  refine .bind (checkedCreate_busy hm _ _ _ _ _) fun reply => ?_
  by_cases hnull : reply.pointer = null
  · rw [if_pos hnull, if_pos hnull]
    exact fun _ hp => hp
  · rw [if_neg hnull, if_neg hnull]
    exact .pure fun _ hp => hp

theorem adopt_busy (pointer : Pointer) :
    Triple (Busy v w flying (some pointer)) (Window.adopt pointer)
      fun x => Busy v w (.window x :: flying) none := by
  rintro p ⟨t, l, desk, hc⟩
  have holds : (Handle.window ⟨pointer, p.nextKey⟩).holds = true := rfl
  have obtained := desk.obtain
    (q := { p with nextKey := p.nextKey + 1, holders := p.holders + 1 }) holds
    (by simpa [Handle.window?] using hc) ⟨rfl, rfl, rfl⟩ rfl rfl
  exact ⟨t, _, obtained, by simp⟩

theorem create_busy (hm : LibraryKeepsBooks native) (hints : List WindowHint) (width height : Int32)
    (title : String) (monitor : Option Monitor) (share : Option Window) :
    Tries (Busy v w flying none)
      (Window.create native hints width height title monitor share)
      (fun x => Busy v w (.window x :: flying) none) (Busy v w flying none) := by
  have asking : ∀ {α ε : Type} {x : Backend → ExceptT ε M α},
      Attempts SameButPanics (Asks [] []) x → Tries (Busy v w flying none) (x native)
        (fun _ => Busy v w flying none) (Busy v w flying none) :=
    fun hx => BooksUnaffected.tries (.composed (fun _ _ => .quiet hm) (Composed.asking hx))
  refine .bind (asking (.adapt _ (.liftExcept _))) fun _ => ?_
  refine .bind (asking (.adapt _ (.liftExcept _))) fun title => ?_
  refine .bind (asking (.adapt _ (.checked ⟨rfl, rfl, rfl⟩))) fun _ => ?_
  refine .bind (asking (Window.applyHints_asks _ _)) fun _ => ?_
  refine .bind (.adapt _ (createNative_busy hm width height title monitor share)) fun pointer => ?_
  have listens : BooksUnaffected (Window.listen native pointer) :=
    .composed (fun _ _ => .quiet hm) (Window.listen_tells pointer).telling
  exact .bind (.lift listens.busy) fun _ => .lift (adopt_busy pointer)

/-! ### Monitors -/

theorem Monitor.adopt_busy (pointer : Pointer) :
    Triple (Busy v w flying none) (Monitor.adopt pointer)
      fun m => Busy v w (.monitor m :: flying) none := by
  rintro p ⟨t, l, desk, -⟩
  have holds : (Handle.monitor ⟨pointer⟩).holds = true := rfl
  have obtained := desk.obtain (q := { p with holders := p.holders + 1 }) holds
    (by simp [Handle.window?]) ⟨rfl, rfl, rfl⟩ rfl rfl
  exact ⟨t, _, obtained, by simp⟩

/-- All monitors of a list are on their way before the first has a slot. -/
theorem adoptAll_busy {E : Process → Prop} (pointers : List Pointer) :
    Tries (Busy v w flying none)
      (pointers.mapM fun pointer => (monadLift (Monitor.adopt pointer) : Attempt Monitor))
      (fun ms => Busy v w (ms.map .monitor ++ flying) none) E := by
  induction pointers generalizing flying with
  | nil => exact .pure fun _ hp => hp
  | cons pointer rest ih =>
    rw [List.mapM_cons]
    refine .bind (.lift (Monitor.adopt_busy pointer)) fun m => .bind ih fun ms => ?_
    exact .pure fun _ hp => hp.perm List.perm_middle

theorem addAll_busy {E : Process → Prop} (ms : List Monitor) :
    Tries (Busy v w (ms.map .monitor ++ flying) none)
      (ms.mapM fun m => (monadLift (addMonitor m) : Attempt Nat))
      (fun _ => Busy v w flying none) E := by
  induction ms with
  | nil => exact .pure fun _ hp => hp
  | cons m rest ih =>
    rw [List.mapM_cons]
    exact .bind (.lift (addMonitor_busy m)) fun _ => .bind ih fun _ => .pure fun _ hp => hp

theorem ofPointer_busy (pointer : Pointer) :
    Triple (Busy v w flying none) (Monitor.ofPointer? pointer)
      fun m => Busy v w (m.toList.map .monitor ++ flying) none := by
  by_cases hnull : pointer = null
  · have missing : Monitor.ofPointer? pointer = pure none := if_pos hnull
    rw [missing]
    exact .pure fun _ hp => hp
  · have found : Monitor.ofPointer? pointer = do return some (← Monitor.adopt pointer) :=
      if_neg hnull
    rw [found]
    exact .bind (Monitor.adopt_busy pointer) fun m => .pure fun _ hp => hp

theorem addOptional_busy (m : Option Monitor) :
    Triple (Busy v w (m.toList.map .monitor ++ flying) none) (addOptional m)
      fun _ => Busy v w flying none := by
  cases m with
  | none => exact .pure fun _ hp => hp
  | some m => exact .bind (addMonitor_busy m) fun _ => .pure fun _ hp => hp

/-! ### Operations -/

theorem createWindow_busy (hm : LibraryKeepsBooks native) (r : WindowRequest) :
    Triple (Busy v w [] none) (createWindow native r) fun _ => Busy v w [] none := by
  unfold createWindow
  cases r.hints.mapM id with
  | none => exact .pure fun _ hp => hp
  | some hints =>
    intro p hp
    have created := create_busy hm hints r.width r.height r.title
      (r.monitor.bind (occupant p.tables.monitors)) (r.share.bind (occupant p.tables.windows)) p hp
    simp only [final_bind, result_getTables, final_getTables]
    cases hr : result (Window.create native hints r.width r.height r.title
        (r.monitor.bind (occupant p.tables.monitors))
        (r.share.bind (occupant p.tables.windows))).run p with
    | error e =>
      rw [hr] at created
      exact created
    | ok x =>
      rw [hr] at created
      exact addWindow_busy x _ created

/-- What the owner does with its handles leaves them all in slots. -/
theorem Busy.standing (h : Busy v w [] none p) : Standing p none := by
  obtain ⟨t, l, desk, -⟩ := h
  exact desk.standing

end Busy

section Operations

variable {native : Backend} (hm : LibraryKeepsBooks native)

include hm

theorem runLibrary_clientKeepsBooks (slot : Nat) (op : LibraryOp) :
    ClientKeepsBooks (runLibrary native slot op) := by
  intro o p w hp hw ho hs
  cases hocc : occupant p.tables.libraries slot with
  | none =>
    have refused : final (runLibrary native slot op) p = p := by simp [runLibrary, hocc]
    rw [refused]
    exact hs
  | some library =>
    have hfinal : final (runLibrary native slot op) p =
        final (operateLibrary native slot op) p := by simp [runLibrary, hocc]
    obtain ⟨rfl, l, desk⟩ := (hs.here hp hw ho).resolve_left fun bare => by
      have absent : occupant p.tables.libraries slot = none := (bare.occupants slot).1
      rw [hocc] at absent
      cases absent
    have busy : Busy p.current w [] none p := ⟨_, l, desk, by simp⟩
    rw [hfinal]
    cases op with
    | drop =>
      by_cases inUse : p.tables.pumping = some slot
      · have refused : final (dropLibrary native slot) p = p := by simp [dropLibrary, inUse]
        exact refused.symm ▸ hs
      · have hclear : final (dropLibrary native slot) p = final (clearLibrary native slot) p := by
          simp [dropLibrary, inUse]
        exact hclear ▸ (hs.clearLibrary hm hp hw ho slot fun _ => inUse).1
    | getMonitors =>
      have tried : Tries (Busy p.current w [] none)
          (do (← Monitor.all native).mapM fun m => (monadLift (addMonitor m) : Attempt Nat))
          (fun _ => Busy p.current w [] none) (Busy p.current w [] none) :=
        .bind (.bind (BooksUnaffected.checked hm rfl rfl).tries fun _ => adoptAll_busy _) fun ms =>
          addAll_busy ms
      exact (Triple.answering tried p busy).standing
    | getPrimaryMonitor =>
      have tried : Tries (Busy p.current w [] none)
          (do (monadLift (addOptional (← Monitor.primary native)) : Attempt (Option Nat)))
          (fun _ => Busy p.current w [] none) (Busy p.current w [] none) :=
        .bind (.bind (BooksUnaffected.checked hm rfl rfl).tries fun _ => .lift (ofPointer_busy _))
          fun m =>
          .lift (addOptional_busy m)
      exact (Triple.answering tried p busy).standing
    | createWindow r => exact (createWindow_busy hm r p busy).standing
    | _ =>
      exact (BooksUnaffected.composed (fun _ _ => .quiet hm)
        (operateLibrary_asks slot _ rfl).asking).clientKeepsBooks
        _ p w hp hw ho hs

omit hm in
theorem final_ite_or {α : Type} {c : Prop} [Decidable c] (m n : M α) (p : Process) :
    final (if c then m else n) p = final m p ∨ final (if c then m else n) p = final n p := by
  split
  · exact .inl rfl
  · exact .inr rfl

omit hm in
/-- An operation on a window is refused without effect, or finds the window in its slot. -/
theorem final_runWindow (slot : Nat) (op : WindowOp) (p : Process) :
    final (runWindow native slot op) p = p ∨ ∃ x, occupant p.tables.windows slot = some x ∧
      final (runWindow native slot op) p = final (operateWindow native slot x op) p := by
  simp only [runWindow, final_bind, result_getTables, final_getTables]
  cases hocc : occupant p.tables.windows slot with
  | none => exact .inl ((final_ite_or _ _ p).elim id id)
  | some x => exact (final_ite_or _ _ p).imp id fun h => ⟨x, rfl, h⟩

theorem runWindow_clientKeepsBooks (slot : Nat) (op : WindowOp) :
    ClientKeepsBooks (runWindow native slot op) := by
  intro o p w hp hw ho hs
  have ran : final (runWindow native slot op) p = p ∨ _ := final_runWindow slot op p
  rcases ran with refused | ⟨x, hocc, hfinal⟩
  · rw [refused]
    exact hs
  · rw [hfinal]
    cases op with
    | drop => exact (hs.clearWindow hm hp hw ho slot).1
    | getMonitor =>
      obtain ⟨rfl, l, desk⟩ := (hs.here hp hw ho).resolve_left fun bare => by
        have absent : occupant p.tables.windows slot = none := (bare.occupants slot).2.1
        rw [hocc] at absent
        cases absent
      have tried : Tries (Busy p.current w [] none)
          (do (monadLift (addOptional (← x.monitor native)) : Attempt (Option Nat)))
          (fun _ => Busy p.current w [] none) (Busy p.current w [] none) :=
        .bind (.bind (BooksUnaffected.checked hm rfl rfl).tries fun _ => .lift (ofPointer_busy _))
          fun m =>
          .lift (addOptional_busy m)
      exact (Triple.answering tried p ⟨_, l, desk, by simp⟩).standing
    | _ =>
      exact (BooksUnaffected.composed (fun _ _ => .quiet hm)
        (operateWindow_quiet slot x _ rfl)).clientKeepsBooks
        o p w hp hw ho hs

theorem runMonitor_clientKeepsBooks (slot : Nat) (op : MonitorOp) :
    ClientKeepsBooks (runMonitor native slot op) := by
  intro o p w hp hw ho hs
  cases hocc : occupant p.tables.monitors slot with
  | none =>
    have refused : final (runMonitor native slot op) p = p := by simp [runMonitor, hocc]
    rw [refused]
    exact hs
  | some m =>
    have hfinal : final (runMonitor native slot op) p =
        final (operateMonitor native slot m op) p := by simp [runMonitor, hocc]
    rw [hfinal]
    cases op with
    | drop => exact (hs.clearMonitor hm hp hw ho slot).1
    | _ =>
      exact (BooksUnaffected.composed (fun _ _ => .quiet hm)
        (operateMonitor_asks slot m _ rfl).asking).clientKeepsBooks
        o p w hp hw ho hs

end Operations

end Windowing
