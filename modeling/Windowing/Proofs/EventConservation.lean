import Windowing.Proofs.CodeConversion
import Windowing.Proofs.DroppedEvents
import Windowing.Proofs.CallNesting

/-!
Conservation of events. A callback either has arguments that mean no event, about which it warns, or
it reads the time once and the event that its arguments mean is consumed in one way: the handler runs
on it, or it is logged why it does not. What arguments mean is said here by the codes of buttons,
actions and keys, and not by how they are decoded.
-/

namespace Windowing

open Native Client

variable {α β : Type} {native : Backend} {p : Process} {callback : Callback}
  {means : α → Prop} {undecodable : Prop}

/-! ### Meaning -/

/-- A code stands for the key that has it, and for the unknown key if no key has it. -/
def Key.Meant (code : Int32) (key : Key) : Prop :=
  key.code = code ∨ key = .unknown ∧ ∀ other : Key, other.code ≠ code

namespace Native

def Signal.Means : Signal → WindowEvent → Prop
  | .pos x y, e => e = .pos x y
  | .size width height, e => e = .size width height
  | .close, e => e = .close
  | .refresh, e => e = .refresh
  | .focus value, e => ∃ focused : Bool, (focused = true ↔ value = 1) ∧ e = .focus focused
  | .iconify value, e => ∃ iconified : Bool, (iconified = true ↔ value = 1) ∧ e = .iconify iconified
  | .mouseButton button action, e =>
    ∃ b a, MouseButton.code b = button ∧ Action.code a = action ∧ e = .mouseButton b a
  | .cursorPos x y, e => e = .cursorPos x y
  | .cursorEnter value, e =>
    ∃ entered : Bool, (entered = true ↔ value = 1) ∧ e = .cursorEnter entered
  | .scroll x y, e => e = .scroll x y
  | .key code action, e => ∃ key a, Key.Meant code key ∧ Action.code a = action ∧ e = .key key a
  | .char codepoint, e => ∃ c : Char, c.val = codepoint ∧ e = .char c

/-- The arguments have a button, an action or a codepoint that there is not. -/
def Signal.Undecodable : Signal → Prop
  | .mouseButton button action =>
    ¬(0 ≤ button.toInt ∧ button.toInt ≤ 7) ∨ ¬(0 ≤ action.toInt ∧ action.toInt ≤ 2)
  | .key _ action => ¬(0 ≤ action.toInt ∧ action.toInt ≤ 2)
  | .char codepoint =>
    0x10FFFF < codepoint.toNat ∨ 0xD800 ≤ codepoint.toNat ∧ codepoint.toNat ≤ 0xDFFF
  | _ => False

/-- The callback is one for events, of a window or of a monitor. -/
def Callback.announces : Callback → Bool
  | .error _ _ => false
  | .monitor _ _ | .window _ _ => true

def Callback.Means : Callback → Event → Prop
  | .error _ _, _ => False
  | .monitor m code, e => code = 0x61000 ∧ e = .monitor (.connected ⟨m⟩) ∨
      code = 0x61001 ∧ e = .monitor (.disconnected ⟨m⟩)
  | .window w signal, e => ∃ event, signal.Means event ∧ e = .window ⟨w⟩ event

def Callback.Undecodable : Callback → Prop
  | .error _ _ => False
  | .monitor _ code => code ≠ 0x61000 ∧ code ≠ 0x61001
  | .window _ signal => signal.Undecodable

end Native

/-! ### Decoding -/

/-- What is decoded is the one meaning there is; without one there is a warning. -/
inductive Decodes (undecodable : Prop) (means : α → Prop) : Except Log α → Prop where
  | event (event : α) (decodable : ¬undecodable) (meaning : ∀ e, means e ↔ e = event) :
      Decodes undecodable means (.ok event)
  | warning (warning : Log) (level : warning.level = .warn) (undecoded : undecodable)
      (meaningless : ∀ e, ¬means e) : Decodes undecodable means (.error warning)

theorem Decodes.map {decoded : Except Log α} (h : Decodes undecodable means decoded) (f : α → β) :
    Decodes undecodable (fun b => ∃ a, means a ∧ b = f a) (decoded.map f) := by
  cases h with
  | event event decodable meaning => exact .event _ decodable fun e => by simp [meaning]
  | warning warning level undecoded meaningless =>
    exact .warning _ level undecoded fun e => by simp [meaningless]

theorem MouseButton.exists_code_iff (c : Int32) :
    (∃ b, MouseButton.code b = c) ↔ 0 ≤ c.toInt ∧ c.toInt ≤ 7 :=
  MouseButton.consecutive.exists_code_iff c

theorem Action.exists_code_iff (c : Int32) :
    (∃ a, Action.code a = c) ↔ 0 ≤ c.toInt ∧ c.toInt ≤ 2 :=
  Action.consecutive.exists_code_iff c

theorem Key.meant_iff (code : Int32) (key : Key) :
    Key.Meant code key ↔ key = (Coded.ofCode? Key code).getD .unknown := by
  cases found : Coded.ofCode? Key code with
  | some known =>
    have has : known.code = code := Coded.ofCode?_eq_some_iff.1 found
    constructor
    · rintro (same | ⟨-, none⟩)
      · exact Coded.code_injective (same.trans has.symm)
      · exact absurd has (none known)
    · rintro rfl
      exact .inl has
  | none =>
    have none : ∀ other : Key, other.code ≠ code := fun other same =>
      Coded.ofCode?_eq_none_iff.1 found ⟨other, same⟩
    constructor
    · rintro (same | ⟨rfl, -⟩)
      · exact absurd same (none key)
      · rfl
    · rintro rfl
      exact .inr ⟨rfl, none⟩

/-- Only 1 is true. -/
theorem Flag.meant_iff (value : Int32) (b : Bool) :
    (b = true ↔ value = 1) ↔ b = Flag.isSet value := by
  cases b <;> simp [Flag.isSet]

theorem Decodes.at_once {event : α} (meaning : ∀ e, means e ↔ e = event) :
    Decodes False means (.ok event) := .event event id meaning

theorem Decodes.flag {f : Bool → α} {value : Int32}
    (meaning : ∀ e, means e ↔ ∃ b : Bool, (b = true ↔ value = 1) ∧ e = f b) :
    Decodes False means (.ok (f (Flag.isSet value))) :=
  .at_once fun e => by simp [meaning, Flag.meant_iff]

theorem Decodes.mouseButton (button action : Int32) :
    Decodes (Signal.mouseButton button action).Undecodable (Signal.mouseButton button action).Means
      (WindowEvent.decode (.mouseButton button action)) := by
  have button_iff := MouseButton.exists_code_iff button
  have action_iff := Action.exists_code_iff action
  cases known : Coded.ofCode? MouseButton button with
  | none =>
    have none := Coded.ofCode?_eq_none_iff.1 known
    have decoded : WindowEvent.decode (.mouseButton button action) =
        .error (.unknownButton button action) := by simp [WindowEvent.decode, known]
    rw [decoded]
    refine .warning _ rfl (.inl fun within => none (button_iff.2 within)) ?_
    rintro e ⟨b, _, hb, -⟩
    exact none ⟨b, hb⟩
  | some b =>
    have hb : b.code = button := Coded.ofCode?_eq_some_iff.1 known
    cases acted : Coded.ofCode? Action action with
    | none =>
      have none := Coded.ofCode?_eq_none_iff.1 acted
      have decoded : WindowEvent.decode (.mouseButton button action) =
          .error (.unknownButton button action) := by simp [WindowEvent.decode, acted]
      rw [decoded]
      refine .warning _ rfl (.inr fun within => none (action_iff.2 within)) ?_
      rintro e ⟨_, a, -, ha, -⟩
      exact none ⟨a, ha⟩
    | some a =>
      have ha : a.code = action := Coded.ofCode?_eq_some_iff.1 acted
      have decoded : WindowEvent.decode (.mouseButton button action) = .ok (.mouseButton b a) := by
        simp [WindowEvent.decode, known, acted]
      rw [decoded]
      refine .event _ ?_ fun e => ⟨?_, fun he => ⟨b, a, hb, ha, he⟩⟩
      · rintro (outside | outside)
        · exact outside (button_iff.1 ⟨b, hb⟩)
        · exact outside (action_iff.1 ⟨a, ha⟩)
      · rintro ⟨b', a', hb', ha', rfl⟩
        have same : b' = b := Coded.code_injective (hb'.trans hb.symm)
        have same' : a' = a := Coded.code_injective (ha'.trans ha.symm)
        rw [same, same']

theorem Decodes.key (code action : Int32) :
    Decodes (Signal.key code action).Undecodable (Signal.key code action).Means
      (WindowEvent.decode (.key code action)) := by
  have action_iff := Action.exists_code_iff action
  cases acted : Coded.ofCode? Action action with
  | none =>
    have none := Coded.ofCode?_eq_none_iff.1 acted
    simp only [WindowEvent.decode, acted]
    refine .warning _ rfl (fun within => none (action_iff.2 within)) ?_
    rintro e ⟨_, a, -, ha, -⟩
    exact none ⟨a, ha⟩
  | some a =>
    have ha : a.code = action := Coded.ofCode?_eq_some_iff.1 acted
    simp only [WindowEvent.decode, acted]
    refine .event _ (fun outside => outside (action_iff.1 ⟨a, ha⟩)) fun e =>
      ⟨?_, fun he => ⟨_, a, (Key.meant_iff code _).2 rfl, ha, he⟩⟩
    rintro ⟨key, a', meant, ha', rfl⟩
    have same : a' = a := Coded.code_injective (ha'.trans ha.symm)
    rw [(Key.meant_iff code key).1 meant, same]

theorem Decodes.char (codepoint : UInt32) :
    Decodes (Signal.char codepoint).Undecodable (Signal.char codepoint).Means
      (WindowEvent.decode (.char codepoint)) := by
  by_cases valid : codepoint.isValidChar
  · have within : codepoint.toNat < 0xD800 ∨
        0xDFFF < codepoint.toNat ∧ codepoint.toNat < 0x110000 := valid
    simp only [WindowEvent.decode, valid, dif_pos]
    refine .event _ ?_ fun e => ⟨?_, fun he => ⟨_, rfl, he⟩⟩
    · rintro (beyond | surrogate) <;> omega
    · rintro ⟨c, rfl, rfl⟩
      rfl
  · have outside : ¬(codepoint.toNat < 0xD800 ∨
        0xDFFF < codepoint.toNat ∧ codepoint.toNat < 0x110000) := valid
    simp only [WindowEvent.decode, valid, dif_neg, not_false_eq_true]
    refine .warning _ rfl ?_ ?_
    · show _ ∨ _
      omega
    · rintro e ⟨c, rfl, -⟩
      exact valid c.valid

theorem Decodes.signal (signal : Signal) :
    Decodes signal.Undecodable signal.Means (WindowEvent.decode signal) := by
  cases signal with
  | focus value | iconify value | cursorEnter value => exact .flag fun _ => .rfl
  | mouseButton button action => exact .mouseButton button action
  | key code action => exact .key code action
  | char codepoint => exact .char codepoint
  | _ => exact .at_once fun _ => .rfl

theorem Decodes.monitor (monitor : Pointer) (code : Int32) :
    Decodes (Callback.monitor monitor code).Undecodable (Callback.monitor monitor code).Means
      ((MonitorEvent.decode monitor code).map .monitor) := by
  unfold MonitorEvent.decode
  split
  case isTrue connected =>
    subst connected
    exact .event _ (fun other => other.1 rfl) fun e => by
      simp [Callback.Means, MonitorEvent.connectedCode]
  case isFalse unconnected =>
    split
    case isTrue disconnected =>
      subst disconnected
      exact .event _ (fun other => other.2 rfl) fun e => by
        simp [Callback.Means, MonitorEvent.disconnectedCode]
    case isFalse undisconnected =>
      refine .warning _ rfl ⟨unconnected, undisconnected⟩ ?_
      rintro e (⟨same, -⟩ | ⟨same, -⟩)
      · exact unconnected same
      · exact undisconnected same

/-- A callback for events delivers what its arguments mean. -/
theorem heed_delivers (native : Backend) (announces : callback.announces = true) :
    ∃ decoded, Decodes callback.Undecodable callback.Means decoded ∧
      heed native callback = deliver native (react native) decoded := by
  cases callback with
  | error code description => cases announces
  | monitor monitor code => exact ⟨_, .monitor monitor code, rfl⟩
  | window window signal => exact ⟨_, (Decodes.signal signal).map _, rfl⟩

/-! ### Consumption -/

/-- Whether events are dropped for the reason. -/
def Locals.gives (s : Locals) : DropReason → Bool
  | .noHandler => s.handler.isNone
  | .handlerPanicked => s.panic.isSome
  | .insideHandler => s.dispatching

/-- What becomes of an event: it is logged that it is dropped for the first reason there is, or
handed to the handler. -/
def Locals.consumption (s : Locals) (time : Float) (event : Event) : Happening :=
  match [DropReason.noHandler, .handlerPanicked, .insideHandler].find? s.gives with
  | some reason => .logged (.eventDropped reason event)
  | none => .handling time event

theorem Locals.dropReason_eq (s : Locals) :
    s.dropReason = [DropReason.noHandler, .handlerPanicked, .insideHandler].find? s.gives := by
  obtain ⟨pending, handler, dispatching, panic, deferred⟩ := s
  cases handler <;> cases panic <;> cases dispatching <;> rfl

/-- Outside the brackets of the handler an event leaves one entry. -/
theorem dispatch_surface (depth : Nat) (time : Float) (event : Event)
    (running : p.current ∈ p.running) :
    ∃ hs, Passes p (final (dispatch (react (backend depth)) time event) p) hs ∧
      surface 0 hs = [p.locals.consumption time event] := by
  have enclosed := EntriesNest.dispatch_encloses
    (fun call => (backend_encloses depth call).entriesNest)
    (backend_confined depth) time event running
  have reasons := p.locals.dropReason_eq
  cases first : p.locals.dropReason with
  | some reason =>
    simp only [first] at enclosed
    have logged : p.locals.consumption time event = .logged (.eventDropped reason event) := by
      rw [Locals.consumption, ← reasons, first]
    rw [enclosed, logged]
    exact ⟨_, .note _ p, rfl⟩
  | none =>
    simp only [first] at enclosed
    obtain ⟨hs, panic, nested, passes⟩ := enclosed
    have handled : p.locals.consumption time event = .handling time event := by
      rw [Locals.consumption, ← reasons, first]
    rw [handled]
    exact ⟨_, passes, nested.surface_handling time event panic []⟩

/-- A callback whose arguments mean nothing logs one warning and does nothing else. Any other callback
reads the time itself once, and then its event has one entry: the handler runs on it, or a trace log
says why it was dropped. -/
theorem callback_conservation (depth : Nat) (p : Process) (callback : Callback)
    (running : p.current ∈ p.running) (announces : callback.announces = true) :
    (callback.Undecodable ∧ (∀ e, ¬callback.Means e) ∧ ∃ warning : Log, warning.level = .warn ∧
      final (heed (backend depth) callback) p = p.note (.logged warning)) ∨
    (¬callback.Undecodable ∧ ∃ event, (∀ e, callback.Means e ↔ e = event) ∧
      ∃ entry, entry = (final (backend depth .getTime) p).locals.consumption
          (result (backend depth .getTime) p).time event ∧
        (∀ l, entry = .logged l → l.level = .trace) ∧
        surface 0 (during (heed (backend depth) callback) p) = [.called .getTime, entry]) := by
  obtain ⟨decoded, decodes, delivers⟩ := heed_delivers (backend depth) announces
  rw [delivers]
  cases decodes with
  | warning warning level undecodable meaningless =>
    exact .inl ⟨undecodable, meaningless, warning, level, rfl⟩
  | event event decodable meaning =>
    refine .inr ⟨decodable, event, meaning, _, rfl, fun l => ?_, ?_⟩
    · unfold Locals.consumption
      split <;> rintro ⟨⟩
      rfl
    · obtain ⟨hs, nested, called⟩ := backend_encloses depth .getTime p running
      obtain ⟨hs', dispatched, consumed⟩ := dispatch_surface depth
        (result (backend depth .getTime) p).time event (called.mem_running running)
      have passes : Passes p (final (deliver (backend depth) (react (backend depth)) (.ok event)) p)
          _ := called.trans dispatched
      rw [passes.during_eq, List.append_assoc, List.singleton_append, nested.surface_call, consumed]

/-- A key that nobody knows does not block its event, here on a thread without a handler. -/
theorem callback_conservation_unknown : ∃ entry,
    surface 0 (during (heed (backend 1) (.window 5 (.key 999 1))) (Session.start {})) =
      [.called .getTime, entry] ∧
    entry = .logged (.eventDropped .noHandler (.window ⟨5⟩ (.key .unknown .press))) := by
  rcases callback_conservation 1 (Session.start {}) (.window 5 (.key 999 1)) (by decide) rfl with
    ⟨undecodable, -⟩ | ⟨-, event, meaning, entry, consumed, -, surface⟩
  · exact absurd ⟨by decide, by decide⟩ undecodable
  · have unknown : event = .window ⟨5⟩ (.key .unknown .press) :=
      ((meaning _).1 ⟨_, ⟨.unknown, .press, (Key.meant_iff _ _).2 rfl, rfl, rfl⟩, rfl⟩).symm
    exact ⟨entry, surface, by rw [consumed, unknown]; rfl⟩

end Windowing
