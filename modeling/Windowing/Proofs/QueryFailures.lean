import Windowing.Proofs.CallDialogues
import Windowing.Proofs.ArgumentJudgement

/-!
Detection of failures. A query asks the native library for a value. It can fail in two ways: an error
is reported before the call returns, or what is returned is no value. The first counts more, whatever
is returned; a null pointer is a failure for some queries, and for others it is the answer that there is
nothing.
-/

namespace Windowing

open Native Client

variable {α : Type} {p : Process} {reply : Reply}

/-- An operation that asks for one value of the given type. -/
inductive Query : Type → Type where
  | monitorName (m : Monitor) : Query String
  | videoModes (m : Monitor) : Query (List VideoMode)
  | videoMode (m : Monitor) : Query VideoMode
  | clientApi (w : Window) : Query ClientApi
  | openGlProfile (w : Window) : Query OpenGlProfile
  | contextRobustness (w : Window) : Query ContextRobustness
  | cursorMode (w : Window) : Query CursorMode
  | keyState (w : Window) (key : Key) : Query Action
  | mouseButtonState (w : Window) (button : MouseButton) : Query Action
  | monitors : Query (List Monitor)
  | primaryMonitor : Query (Option Monitor)
  | windowMonitor (w : Window) : Query (Option Monitor)
  | joystickName (j : Joystick) : Query (Option String)
  | clipboard (w : Window) : Query (Option String)
  | currentContext : Query (Option WindowId)
  | procAddress (name : String) (unterminated : '\x00' ∉ name.toList) : Query (Option Pointer)

namespace Query

def run (native : Backend) : Query α → Attempt α
  | .monitorName m => m.name native
  | .videoModes m => m.videoModes native
  | .videoMode m => m.videoMode native
  | .clientApi w => w.clientApi native
  | .openGlProfile w => w.openGlProfile native
  | .contextRobustness w => w.contextRobustness native
  | .cursorMode w => w.cursorMode native
  | .keyState w key => w.keyState native key
  | .mouseButtonState w button => w.mouseButtonState native button
  | .monitors => Monitor.all native
  | .primaryMonitor => Monitor.primary native
  | .windowMonitor w => w.monitor native
  | .joystickName j => j.deviceName native
  | .clipboard w => w.clipboard native
  | .currentContext => Context.current native
  | .procAddress name _ => Context.procAddress native name

def call : Query α → Call
  | .monitorName m => .getMonitorName m.pointer
  | .videoModes m => .getVideoModes m.pointer
  | .videoMode m => .getVideoMode m.pointer
  | .clientApi w => .getWindowParam w.pointer Attribute.clientApi.code
  | .openGlProfile w => .getWindowParam w.pointer Attribute.openGlProfile.code
  | .contextRobustness w => .getWindowParam w.pointer Attribute.contextRobustness.code
  | .cursorMode w => .getInputMode w.pointer Window.InputMode.cursor.code
  | .keyState w key => .getKey w.pointer key.code
  | .mouseButtonState w button => .getMouseButton w.pointer button.code
  | .monitors => .getMonitors
  | .primaryMonitor => .getPrimaryMonitor
  | .windowMonitor w => .getWindowMonitor w.pointer
  | .joystickName j => .getJoystickName j.code
  | .clipboard w => .getClipboardString w.pointer
  | .currentContext => .getCurrentContext
  | .procAddress name _ => .getProcAddress name.toUTF8.data.toList

/-! ### What a reply means -/

/-- The reply holds no value: a null pointer where there should be something, a mode of zeros, or an
integer that is no code. -/
def Fails : Query α → Reply → Prop
  | .monitorName _, r => r.text = none
  | .videoModes _, r => r.modes = none
  | .videoMode _, r => ∀ v ∈ r.mode.fields, v = 0
  | .clientApi _, r => ∀ a : ClientApi, a.code ≠ r.value
  | .openGlProfile _, r => ∀ a : OpenGlProfile, a.code ≠ r.value
  | .contextRobustness _, r => ∀ a : ContextRobustness, a.code ≠ r.value
  | .cursorMode _, r => ∀ a : CursorMode, a.code ≠ r.value
  | .keyState _ _, r | .mouseButtonState _ _, r => ∀ a : Action, a.code ≠ r.value
  | _, _ => False

/-- What a reply without a value is reported as. -/
def Blames (q : Query α) (e : Error) : Prop :=
  match q with
  | .clientApi _ | .openGlProfile _ | .contextRobustness _ | .cursorMode _ | .keyState _ _
  | .mouseButtonState _ _ => e.kind = some .invalidEnum
  | _ => e.code = -1 ∧ e.kind = none

/-- The first entries of an array that is not null, as many as are counted. -/
def counted {α : Type} (array : Option (List α)) (count : Int32) : List α :=
  (array.getD []).take (max count.toInt 0).toNat

/-- What is at an address, which is nothing if that is null. -/
def present (pointer : Pointer) : Option Pointer :=
  if pointer = null then none else some pointer

/-- The value that a reply stands for. -/
def Decodes : Query α → Reply → α → Prop
  | .monitorName _, r, name => r.text.map Text.read = some name
  | .videoModes _, r, modes => modes = counted r.modes r.count
  | .videoMode _, r, mode => mode = r.mode
  | .clientApi _, r, a => ClientApi.code a = r.value
  | .openGlProfile _, r, a => OpenGlProfile.code a = r.value
  | .contextRobustness _, r, a => ContextRobustness.code a = r.value
  | .cursorMode _, r, a => CursorMode.code a = r.value
  | .keyState _ _, r, a | .mouseButtonState _ _, r, a => Action.code a = r.value
  | .monitors, r, ms => ms = (counted r.pointers r.count).map Monitor.mk
  | .primaryMonitor, r, m | .windowMonitor _, r, m => m = (present r.pointer).map Monitor.mk
  | .joystickName _, r, name | .clipboard _, r, name => name = r.text.map Text.read
  | .currentContext, r, w => w = (present r.pointer).map WindowId.mk
  | .procAddress _ _, r, address => address = present r.pointer

/-- The monitors to which the answer gives handles. -/
def gained : Query α → Except Error α → List Monitor
  | .monitors, .ok ms => ms
  | .primaryMonitor, .ok m | .windowMonitor _, .ok m => Option.toList m
  | _, _ => []

/-- What the query makes of a reply. -/
def rest : Query α → Reply → Attempt α
  | .monitorName m, r => do
    return Text.read (← liftExcept (expectSome (Call.getMonitorName m.pointer).name r.text))
  | .videoModes m, r => do
    let modes ← liftExcept (expectSome (Call.getVideoModes m.pointer).name r.modes)
    return Reply.entries (some modes) r.count
  | .videoMode m, r => do
    if r.mode = .zero then throw (.unreported (Call.getVideoMode m.pointer).name)
    return r.mode
  | .clientApi _, r => liftExcept (expectCode ClientApi "GLFW_CLIENT_API" r.value)
  | .openGlProfile _, r => liftExcept (expectCode OpenGlProfile "GLFW_OPENGL_PROFILE" r.value)
  | .contextRobustness _, r =>
    liftExcept (expectCode ContextRobustness "GLFW_CONTEXT_ROBUSTNESS" r.value)
  | .cursorMode _, r => liftExcept (expectCode CursorMode "GLFW_CURSOR_MODE" r.value)
  | .keyState _ _, r => liftExcept (expectCode Action "key state" r.value)
  | .mouseButtonState _ _, r => liftExcept (expectCode Action "mouse button state" r.value)
  | .monitors, r =>
    (Reply.entries r.pointers r.count).mapM fun pointer =>
      (monadLift (Monitor.adopt pointer) : Attempt Monitor)
  | .primaryMonitor, r | .windowMonitor _, r => monadLift (Monitor.ofPointer? r.pointer)
  | .joystickName _, r | .clipboard _, r => return r.text.map Text.read
  | .currentContext, r => return if r.pointer = null then none else some ⟨r.pointer⟩
  | .procAddress _ _, r => return if r.pointer = null then none else some r.pointer

end Query

/-- A query is one checked call and what is made of its reply. -/
theorem Query.run_eq (native : Backend) (q : Query α) :
    q.run native = checked (native q.call) >>= q.rest := by
  cases q with
  | procAddress name unterminated =>
    simp only [run, Context.procAddress, terminated_of_unterminated unterminated]
    rfl
  | clientApi w => simp only [run, Window.clientApi, Window.getParam, bind_assoc, pure_bind]; rfl
  | openGlProfile w =>
    simp only [run, Window.openGlProfile, Window.getParam, bind_assoc, pure_bind]; rfl
  | contextRobustness w =>
    simp only [run, Window.contextRobustness, Window.getParam, bind_assoc, pure_bind]; rfl
  | cursorMode w =>
    simp only [run, Window.cursorMode, Window.getInputMode, bind_assoc, pure_bind]; rfl
  | _ => rfl

/-! ### What becomes of a reply -/

/-- An outcome that is an error if there is no value, and otherwise the value. -/
def Resolved {α : Type} (fails : Prop) (blames : Error → Prop) (decodes : α → Prop) :
    Except Error α → Prop
  | .ok a => ¬fails ∧ decodes a
  | .error e => fails ∧ blames e

theorem run_liftExcept {α ε : Type} (x : Except ε α) (p : Process) :
    (liftExcept x : ExceptT ε M α).run.run p = (x, p) := by
  cases x <;> rfl

/-- An integer is read as the member whose code it is, if there is one. -/
theorem expectCode_resolved [Coded α] (subject : String) (value : Int32) :
    Resolved (∀ a : α, Coded.code a ≠ value) (fun e => e.kind = some .invalidEnum)
      (fun a => Coded.code a = value) (expectCode α subject value) := by
  unfold expectCode
  cases found : Coded.ofCode? α value with
  | some a =>
    have same := Coded.ofCode?_eq_some_iff.1 found
    exact ⟨fun none => none a same, same⟩
  | none =>
    refine ⟨fun a same => ?_, rfl⟩
    rw [Coded.ofCode?_eq_some_iff.2 same] at found
    cases found

theorem mode_eq_zero_iff (m : VideoMode) : m = .zero ↔ ∀ v ∈ m.fields, v = 0 := by
  cases m
  simp [VideoMode.fields, VideoMode.zero]

/-- The entries of an array are the first ones, as many as are counted. -/
theorem entries_eq_counted {α : Type} (array : Option (List α)) (count : Int32) :
    Reply.entries array count = Query.counted array count := by
  have same : count.toNatClampNeg = (max count.toInt 0).toNat := by
    rw [Int32.toNatClampNeg]
    omega
  rw [Reply.entries, Query.counted, same]

/-- A new handle of a monitor is noted. -/
theorem Leaves.adoptMonitor (pointer : Pointer) (p : Process) :
    Leaves p (final (Monitor.adopt pointer) p) [.obtained (.monitor ⟨pointer⟩)] := by
  have counted : Leaves p { p with holders := p.holders + 1 } [] := .of_sameThreads ⟨rfl, rfl, rfl⟩
  exact counted.trans (.note (h := .obtained (.monitor ⟨pointer⟩)) rfl _)

theorem adoptAll_run (pointers : List Pointer) (p : Process) :
    result (pointers.mapM fun pointer =>
        (monadLift (Monitor.adopt pointer) : Attempt Monitor)).run p =
      .ok (pointers.map Monitor.mk) ∧
    Leaves p (final (pointers.mapM fun pointer =>
        (monadLift (Monitor.adopt pointer) : Attempt Monitor)).run p)
      ((pointers.map Monitor.mk).map fun monitor => .obtained (.monitor monitor)) := by
  induction pointers generalizing p with
  | nil => exact ⟨rfl, .refl⟩
  | cons pointer pointers ih =>
    have first : result (monadLift (Monitor.adopt pointer) : Attempt Monitor).run p =
        .ok ⟨pointer⟩ := rfl
    obtain ⟨returns, left⟩ := ih (final (monadLift (Monitor.adopt pointer) : Attempt Monitor).run p)
    rw [List.mapM_cons, (run_bind_ok first).1, (run_bind_ok first).2, (run_bind_ok returns).1,
      (run_bind_ok returns).2]
    exact ⟨rfl, (Leaves.adoptMonitor pointer p).trans left⟩

theorem ofPointer?_run (pointer : Pointer) (p : Process) :
    result (Monitor.ofPointer? pointer) p = (Query.present pointer).map Monitor.mk ∧
      Leaves p (final (Monitor.ofPointer? pointer) p)
        (((Query.present pointer).map Monitor.mk).toList.map fun monitor =>
          .obtained (.monitor monitor)) := by
  by_cases missing : pointer = null
  · simp only [Monitor.ofPointer?, Query.present, missing, if_true]
    exact ⟨rfl, .refl⟩
  · simp only [Monitor.ofPointer?, Query.present, missing, if_false]
    exact ⟨rfl, .adoptMonitor pointer p⟩

namespace Query

variable {q : Query α}

/-- What comes of a reply when no error was reported, and what is noted of it. -/
def Settles (q : Query α) (reply : Reply) (p : Process) : Prop :=
  let m := (q.rest reply).run
  Resolved (q.Fails reply) q.Blames (q.Decodes reply) (result m p) ∧
    Leaves p (final m p) ((q.gained (result m p)).map fun monitor => .obtained (.monitor monitor))

/-- A query that only judges the reply. -/
theorem settles_of_run {x : Except Error α} (run : (q.rest reply).run.run p = (x, p))
    (settled : Resolved (q.Fails reply) q.Blames (q.Decodes reply) x) (gains : q.gained x = []) :
    q.Settles reply p := by
  have returns : result (q.rest reply).run p = x := congrArg Prod.fst run
  have ends : final (q.rest reply).run p = p := congrArg Prod.snd run
  rw [Settles, returns, ends, gains]
  exact ⟨settled, .refl⟩

/-- Without a reported error the reply alone decides what becomes of a query. -/
theorem settles (q : Query α) (reply : Reply) (p : Process) : q.Settles reply p := by
  cases q with
  | monitorName m =>
    cases named : reply.text with
    | none => exact settles_of_run (x := .error _) (by rw [rest, named]; rfl) ⟨named, rfl, rfl⟩ rfl
    | some bytes =>
      exact settles_of_run (x := .ok (Text.read bytes)) (by rw [rest, named]; rfl)
        ⟨by simp [Fails, named], by simp [Decodes, named]⟩ rfl
  | videoModes m =>
    cases given : reply.modes with
    | none => exact settles_of_run (x := .error _) (by rw [rest, given]; rfl) ⟨given, rfl, rfl⟩ rfl
    | some modes =>
      exact settles_of_run (x := .ok (Reply.entries reply.modes reply.count))
        (by rw [rest, given]; rfl) ⟨by simp [Fails, given], entries_eq_counted _ _⟩ rfl
  | videoMode m =>
    by_cases zero : reply.mode = .zero
    · exact settles_of_run (x := .error _) (by rw [rest, if_pos zero]; rfl)
        ⟨(mode_eq_zero_iff _).1 zero, rfl, rfl⟩ rfl
    · exact settles_of_run (x := .ok reply.mode) (by rw [rest, if_neg zero]; rfl)
        ⟨fun fails => zero ((mode_eq_zero_iff _).2 fails), rfl⟩ rfl
  | clientApi w => exact settles_of_run (run_liftExcept _ p) (expectCode_resolved _ _) rfl
  | openGlProfile w => exact settles_of_run (run_liftExcept _ p) (expectCode_resolved _ _) rfl
  | contextRobustness w => exact settles_of_run (run_liftExcept _ p) (expectCode_resolved _ _) rfl
  | cursorMode w => exact settles_of_run (run_liftExcept _ p) (expectCode_resolved _ _) rfl
  | keyState w key => exact settles_of_run (run_liftExcept _ p) (expectCode_resolved _ _) rfl
  | mouseButtonState w button =>
    exact settles_of_run (run_liftExcept _ p) (expectCode_resolved _ _) rfl
  | monitors =>
    obtain ⟨returns, left⟩ := adoptAll_run (Reply.entries reply.pointers reply.count) p
    have returned : result (rest .monitors reply).run p = _ := returns
    rw [Settles, returned]
    exact ⟨⟨id, congrArg _ (entries_eq_counted _ _)⟩, left⟩
  | primaryMonitor | windowMonitor w =>
    obtain ⟨returns, left⟩ := ofPointer?_run reply.pointer p
    rw [← returns] at left
    exact ⟨⟨id, returns⟩, left⟩
  | joystickName j | clipboard w => exact settles_of_run rfl ⟨id, rfl⟩ rfl
  | currentContext | procAddress name unterminated =>
    refine settles_of_run rfl ⟨id, ?_⟩ rfl
    by_cases missing : reply.pointer = null <;> simp [Decodes, present, missing]

theorem gained_error (q : Query α) (e : Error) : q.gained (.error e) = [] := by
  cases q <;> rfl

/-- A query fails with the first error that is reported, and otherwise its reply decides. -/
theorem run_settles (depth : Nat) (q : Query α) (hr : p.current ∈ p.running) (hd : Deaf p) :
    let m := (q.run (backend depth)).run
    ∃ x : Exchange, x.call = q.call ∧ x.Plain ∧
      Leaves p (final m p) (x.entries ++
        (q.gained (result m p)).map fun monitor => .obtained (.monitor monitor)) ∧
      match x.error? with
      | some e => result m p = .error e
      | none => Resolved (q.Fails x.reply) q.Blames (q.Decodes x.reply) (result m p) := by
  intro m
  obtain ⟨x, asked, plain, left, checks⟩ := checked_exchange depth q.call hr hd
  have split : m = (checked (backend depth q.call) >>= q.rest).run :=
    congrArg ExceptT.run (q.run_eq _)
  refine ⟨x, asked, plain, ?_⟩
  rw [split]
  cases reported : x.error? with
  | some e =>
    rw [reported] at checks
    rw [(run_bind_error checks).1, (run_bind_error checks).2, gained_error]
    exact ⟨by simpa using left, rfl⟩
  | none =>
    rw [reported] at checks
    rw [(run_bind_ok checks).1, (run_bind_ok checks).2]
    obtain ⟨settled, left'⟩ := q.settles x.reply (final (checked (backend depth q.call)).run p)
    exact ⟨left.trans left', settled⟩

end Query

/-- Client code runs while no handler waits for events. A query makes its call and succeeds exactly if
nothing was reported and the reply holds a value, which it then returns; of what it returns, only
monitors have handles. If an error was reported, the first one is returned whatever the reply is; if
none was, a reply without a value is an error of its own. -/
theorem query_outcome (depth : Nat) (p : Process) (hr : p.current ∈ p.running) (hd : Deaf p)
    {α : Type} (q : Query α) :
    let m := (q.run (backend depth)).run
    ∃ x : Exchange, x.call = q.call ∧ x.Plain ∧
      during m p = x.entries ++
        (q.gained (result m p)).map (fun monitor => .obtained (.monitor monitor)) ∧
      ((∃ a, result m p = .ok a) ↔ x.error? = none ∧ ¬q.Fails x.reply) ∧
      (∀ a, result m p = .ok a → q.Decodes x.reply a) ∧
      (∀ e, x.error? = some e → result m p = .error e) ∧
      (x.error? = none → q.Fails x.reply → ∃ e, result m p = .error e ∧ q.Blames e) := by
  intro m
  obtain ⟨x, asked, plain, left, settled⟩ := q.run_settles depth hr hd
  refine ⟨x, asked, plain, left.during_eq, ?_⟩
  change match x.error? with
    | some e => result m p = .error e
    | none => Resolved (q.Fails x.reply) q.Blames (q.Decodes x.reply) (result m p) at settled
  cases reported : x.error? with
  | some e =>
    rw [reported] at settled
    simp [settled]
  | none =>
    rw [reported] at settled
    cases outcome : result m p with
    | error e =>
      rw [outcome] at settled
      exact ⟨by simp [settled.1], nofun, nofun, fun _ _ => ⟨e, rfl, settled.2⟩⟩
    | ok a =>
      rw [outcome] at settled
      refine ⟨by simp [settled.1], fun b same => ?_, nofun, fun _ fails => absurd fails settled.1⟩
      cases same
      exact settled.2

/-- A thread whose next list of video modes has a length that makes no sense. -/
def miscounted : Process where
  running := [0]
  errorCallback := true
  scripts := [⟨[("glfwGetVideoModes", [{ modes := some [⟨640, 480, 8, 8, 8⟩], count := -1 }])]⟩]

theorem query_outcome_miscounted : miscounted.current ∈ miscounted.running ∧ Deaf miscounted ∧
    ∃ x : Exchange, x.call = .getVideoModes 9 ∧ x.error? = none ∧ x.reply.modes ≠ none ∧
      [] = Query.counted x.reply.modes x.reply.count := by
  have none : result ((Query.videoModes ⟨9⟩).run (backend 1)).run miscounted = .ok [] := by
    decide +kernel
  obtain ⟨x, asked, -, -, succeeds, decodes, -⟩ :=
    query_outcome 1 miscounted (by decide) rfl (.videoModes ⟨9⟩)
  obtain ⟨silent, present⟩ := succeeds.1 ⟨[], none⟩
  exact ⟨by decide, rfl, x, asked, silent, present, decodes [] none⟩

end Windowing
