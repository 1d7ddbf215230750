import Windowing.Proofs.CallDialogues
import Windowing.Proofs.ArgumentJudgement

/-!
Texts across the native boundary. A text without the character U+0000 is handed over as its UTF-8
bytes, and the same bytes are read as the same text wherever the native library hands them back, whatever
comes after their terminator. A text with that character is not handed over.
-/

namespace Windowing

open Native Client

variable {α : Type} {p : Process} {s : String} {bytes : Text.Bytes}

namespace Text

/-- A text is rejected for the first of its characters U+0000. -/
theorem nulOffset?_of_mem (h : '\x00' ∈ s.toList) : ∃ before after : String,
    '\x00' ∉ before.toList ∧ s = before ++ "\x00" ++ after ∧
      nulOffset? s = some before.utf8ByteSize := by
  obtain ⟨before, after, split, first⟩ := List.eq_append_cons_of_mem h
  refine ⟨.ofList before, .ofList after, by rwa [String.toList_ofList], ?_, ?_⟩
  · rw [← String.toList_inj]
    simp [split]
  · have plain : ∀ c ∈ before, decide (c ≠ '\x00') = true := fun c hc =>
      decide_eq_true fun nul => first (nul ▸ hc)
    rw [nulOffset?, if_pos h, split, List.takeWhile_append_of_pos plain]
    simp

/-- The offset counts bytes, not characters. -/
example : nulOffset? "é\x00" = some 2 := by decide

/-- What is read of the bytes of a text and anything after a terminator is the text. -/
theorem read_terminated (h : '\x00' ∉ s.toList) (rest : Bytes) :
    read (s.toUTF8.data.toList ++ 0 :: rest) = s := by
  have plain : ∀ b ∈ encode s, decide (b ≠ 0) = true := fun b hb =>
    decide_eq_true fun zero => h ((zero_mem_encode_iff s).1 (zero ▸ hb))
  rw [← encode_eq, read, untilNul, List.takeWhile_append_of_pos plain]
  simp

end Text

/-! ### Handing over -/

/-- An operation that hands a text over. -/
inductive Outlet where
  | title (w : Window)
  | clipboard (w : Window)
  | extension
  | procAddress
  | windowTitle (hints : List WindowHint) (width height : Int32) (positive : 0 < width ∧ 0 < height)
      (monitor : Option Monitor) (share : Option Window)

namespace Outlet

def hand : Outlet → String → Judged
  | .title w, s => .setTitle w s
  | .clipboard w, s => .setClipboard w s
  | .extension, s => .supportsExtension s
  | .procAddress, s => .procAddress s
  | .windowTitle hints width height _ monitor share, s =>
    .createWindow hints width height s monitor share

/-- The native call that hands the bytes over. -/
def call : Outlet → Text.Bytes → Call
  | .title w, bytes => .setWindowTitle w.pointer bytes
  | .clipboard w, bytes => .setClipboardString w.pointer bytes
  | .extension, bytes => .extensionSupported bytes
  | .procAddress, bytes => .getProcAddress bytes
  | .windowTitle _ width height _ monitor share, bytes =>
    .createWindow width height bytes ((monitor.map (·.pointer)).getD null)
      ((share.map (·.pointer)).getD null)

/-- The text comes with an error that names an offset, and nothing else happens. -/
def Rejects (o : Outlet) (native : Backend) (p : Process) (s : String) (offset : ℕ) : Prop :=
  ((o.hand s).run native).run p = ((o.hand s).fails (.containsNul offset), p) ∧
    (Error.containsNul offset).description =
      "string contains a NUL byte at offset " ++ toString offset

/-- The operation goes on to hand the bytes of the text over. -/
def Accepts (o : Outlet) (native : Backend) (p : Process) (s : String) : Prop :=
  (o.hand s).call? = some (o.call s.toUTF8.data.toList) ∧ (o.hand s).Performs native p

theorem objection_hand (o : Outlet) (p : Process) (s : String) :
    (o.hand s).objection p = (Text.nulOffset? s).map .containsNul := by
  cases o with
  | windowTitle hints width height positive monitor share =>
    obtain ⟨wide, high⟩ := positive
    rw [Int32.lt_iff_toInt_lt, Int32.toInt_zero] at wide high
    have sized : Objection.toSize width height = none := if_neg (by omega)
    simp [hand, Judged.objection, sized, Objection.toText]
  | _ => rfl

theorem accepts (o : Outlet) (depth : Nat) (p : Process) (h : '\x00' ∉ s.toList) :
    o.Accepts (backend depth) p s := by
  have fine : (o.hand s).objection p = none := by
    rw [objection_hand, Text.nulOffset?, if_neg h, Option.map_none]
  refine ⟨?_, Judged.performs fine depth⟩
  cases o <;> rfl

theorem rejects (o : Outlet) (native : Backend) (p : Process) {offset : ℕ}
    (h : Text.nulOffset? s = some offset) : o.Rejects native p s offset := by
  have goes := (o.hand s).run_eq native p
  rw [objection_hand, h] at goes
  exact ⟨goes, rfl⟩

end Outlet

/-- The size of a window is judged before its title, whatever that is. -/
theorem Judged.createWindow_unsized (native : Backend) (p : Process) (hints : List WindowHint)
    {width height : Int32} (title : String) (monitor : Option Monitor) (share : Option Window)
    (h : ¬(0 < width ∧ 0 < height)) :
    ((createWindow hints width height title monitor share).run native).run p =
      ((createWindow hints width height title monitor share).fails (.invalidSize width height),
        p) := by
  have sized : Objection.toSize width height = some (.invalidSize width height) := by
    rw [Int32.lt_iff_toInt_lt, Int32.lt_iff_toInt_lt, Int32.toInt_zero] at h
    exact if_pos (by omega)
  have goes := (createWindow hints width height title monitor share).run_eq native p
  rw [objection, sized] at goes
  exact goes

/-! ### Reading back -/

/-- The code and the bytes with which an entry reports an error. -/
def Happening.described? : Happening → Option (Int32 × Option Text.Bytes)
  | .invoked (.error code description) => some (code, description)
  | _ => none

/-- An operation that reads a text, by what it returns. The description of an error is read by any
checked call. -/
inductive Inlet : Type → Type where
  | clipboard (w : Window) : Inlet (Option String)
  | monitorName (m : Monitor) : Inlet String
  | joystickName (j : Joystick) : Inlet (Option String)
  | version : Inlet String
  | description (call : Call) (code : Int32) : Inlet Reply

namespace Inlet

def run (native : Backend) : Inlet α → M (Except Error α)
  | .clipboard w => (w.clipboard native).run
  | .monitorName m => (m.name native).run
  | .joystickName j => (j.deviceName native).run
  | .version => .ok <$> Library.versionString native
  | .description call _ => (checked (native call)).run

def call : Inlet α → Call
  | .clipboard w => .getClipboardString w.pointer
  | .monitorName m => .getMonitorName m.pointer
  | .joystickName j => .getJoystickName j.code
  | .version => .getVersionString
  | .description call _ => call

/-- The native library hands the bytes back: as what it returns, without a failure of the call, or as
the description of the first error that it reports. -/
def Gives (depth : Nat) (p : Process) (bytes : Text.Bytes) (i : Inlet α) : Prop :=
  let hs := during (i.run (backend depth)) p
  match i with
  | .description _ code => (hs.filterMap Happening.described?).head? = some (code, some bytes)
  | i => reports hs = [] ∧ ∀ reply, .returned i.call reply ∈ hs → reply.text = some bytes

/-- The outcome with a text in it. -/
def outcome : Inlet α → String → Except Error α
  | .clipboard _, s | .joystickName _, s => .ok (some s)
  | .monitorName _, s | .version, s => .ok s
  | .description _ code, s => .error (.reported code s)

end Inlet

theorem reports_eq_described (hs : List Happening) :
    reports hs = (hs.filterMap Happening.described?).map fun report =>
      .reported report.1 ((report.2.map Text.read).getD "") := by
  rw [reports, List.map_filterMap]
  congr 1
  funext h
  cases h with
  | invoked callback => cases callback <;> rfl
  | _ => rfl

/-- Whatever bytes are handed back, they are read, and only those before the first terminator. -/
theorem Inlet.reads (i : Inlet α) {depth : Nat} (hr : p.current ∈ p.running) (hd : Deaf p)
    (h : i.Gives depth p bytes) :
    result (i.run (backend depth)) p = i.outcome (Text.read bytes) := by
  cases i with
  | clipboard w =>
    exact Dialogue.result_of_reply (fun reply => .ok (reply.text.map Text.read)) rfl hr hd h.1 h.2
      fun reply given => by rw [given]; rfl
  | monitorName m =>
    let next (reply : Reply) : Except Error String :=
      (expectSome (Call.getMonitorName m.pointer).name reply.text).map Text.read
    have asks : m.name (backend depth) =
        (Dialogue.ask (.getMonitorName m.pointer) fun reply => .done (next reply)).run
          (backend depth) := by
      rw [Monitor.name, Dialogue.run]
      congr 1
      funext reply
      simp only [next]
      cases reply.text <;> rfl
    exact Dialogue.result_of_reply next asks hr hd h.1 h.2 fun reply given => by
      simp only [next, given]
      rfl
  | joystickName j =>
    exact Dialogue.result_of_reply (fun reply => .ok (reply.text.map Text.read)) rfl hr hd h.1 h.2
      fun reply given => by rw [given]; rfl
  | version =>
    obtain ⟨-, given⟩ := h
    obtain ⟨hs, -, left, -⟩ := backend_replies depth .getVersionString p hr hd
    have returned : Happening.returned .getVersionString
      (result (backend depth .getVersionString) p) ∈
        during (run (backend depth) .version) p := by
      have same : Leaves p (final (run (backend depth) .version) p) _ := left
      rw [same.during_eq]
      simp
    have text := given _ returned
    have read : result (run (backend depth) .version) p =
        .ok (((result (backend depth .getVersionString) p).text.map Text.read).getD "") := rfl
    rw [read, text]
    rfl
  | description call code =>
    obtain ⟨x, asked, plain, left, checks⟩ := checked_exchange depth call hr hd
    have first : x.error? = some (.reported code (Text.read bytes)) := by
      have during : during (run (backend depth) (.description call code)) p = x.entries :=
        left.during_eq
      simp only [Gives, during] at h
      rw [Exchange.error?, ← x.reports_entries, reports_eq_described, List.head?_map, h]
      rfl
    rw [first] at checks
    exact checks

/-! ### There and back -/

/-- What is read from the clipboard right after a text was put there. -/
def Window.throughClipboard (native : Backend) (w w' : Window) (s : String) :
    Attempt (Option String) := do
  w.setClipboard native s
  w'.clipboard native

/-- The native library hands back what was put on its clipboard, and anything after a terminator. -/
def Recalls (hs : List Happening) : Prop :=
  ∀ w w' bytes reply, .called (.setClipboardString w bytes) ∈ hs →
    .returned (.getClipboardString w') reply ∈ hs → ∃ rest, reply.text = some (bytes ++ 0 :: rest)

def Window.clipboardDialogue (w w' : Window) (bytes : Text.Bytes) : Dialogue (Option String) :=
  .ask (.setClipboardString w.pointer bytes) fun _ =>
  .ask (.getClipboardString w'.pointer) fun reply =>
  .done (.ok (reply.text.map Text.read))

theorem Window.throughClipboard_eq (native : Backend) (w w' : Window) (h : '\x00' ∉ s.toList) :
    w.throughClipboard native w' s =
      (w.clipboardDialogue w' s.toUTF8.data.toList).run native := by
  rw [throughClipboard, setClipboard, terminated_of_unterminated h]
  simp only [liftExcept, pure_bind, perform, bind_assoc]
  rfl

theorem result_throughClipboard {depth : Nat} {w w' : Window} (h : '\x00' ∉ s.toList)
    (hr : p.current ∈ p.running) (hd : Deaf p)
    (silent : reports (during (w.throughClipboard (backend depth) w' s).run p) = [])
    (recalls : Recalls (during (w.throughClipboard (backend depth) w' s).run p)) :
    result (w.throughClipboard (backend depth) w' s).run p = .ok (some s) := by
  rw [w.throughClipboard_eq _ w' h] at silent recalls ⊢
  -- Both calls are exchanges of one run, so the bytes of the first can be matched with the reply of the
  -- second.
  obtain ⟨xs, unfolds, left⟩ :=
    (w.clipboardDialogue w' s.toUTF8.data.toList).run_unfolds depth hr hd
  rw [left.during_eq] at silent recalls
  have quiet : ∀ x ∈ xs, x.error? = none := fun x hx => Exchange.error?_of_silent hx silent
  have recalled : ∀ x ∈ xs, ∀ y ∈ xs, x.call = .setClipboardString w.pointer s.toUTF8.data.toList →
      y.call = .getClipboardString w'.pointer →
      ∃ rest, y.reply.text = some (s.toUTF8.data.toList ++ 0 :: rest) := fun x hx y hy put got =>
    recalls _ _ _ _ (List.mem_flatMap.2 ⟨x, hx, put ▸ x.called_mem⟩)
      (List.mem_flatMap.2 ⟨y, hy, got ▸ y.returned_mem⟩)
  generalize result ((w.clipboardDialogue w' _).run (backend depth)).run p = outcome at unfolds ⊢
  rw [Window.clipboardDialogue] at unfolds
  cases unfolds with
  | @failed _ _ x _ _ _ reported =>
    rw [quiet x (by simp)] at reported
    cases reported
  | @went _ _ x _ _ put _ _ rest =>
    cases rest with
    | @failed _ _ y _ _ _ reported =>
      rw [quiet y (by simp)] at reported
      cases reported
    | @went _ _ y _ _ got _ _ rest =>
      cases rest
      obtain ⟨rest, given⟩ := recalled x (by simp) y (by simp) put got
      rw [given, Option.map_some, Text.read_terminated h]

/-- Client code runs while no handler waits for events. A text that contains U+0000 is rejected with
the offset of the bytes before the first such character, and any other is handed over as its UTF-8
bytes; a window without a proper size is rejected for that, whatever its title is. Whatever bytes the
native library hands back are read, and only those before the first terminator count; if they are the
bytes of a text that may be handed over, the text itself is read. So such a text comes back from the
clipboard as it was put there. -/
theorem text_crosses_boundary (depth : Nat) (p : Process) (hr : p.current ∈ p.running)
    (hd : Deaf p) :
    (∀ (o : Outlet) (s : String),
      ('\x00' ∉ s.toList → o.Accepts (backend depth) p s) ∧
      ('\x00' ∈ s.toList → ∃ before after : String, '\x00' ∉ before.toList ∧
        s = before ++ "\x00" ++ after ∧ o.Rejects (backend depth) p s before.utf8ByteSize)) ∧
    (∀ (hints : List WindowHint) (width height : Int32) (title : String) (monitor : Option Monitor)
        (share : Option Window), ¬(0 < width ∧ 0 < height) →
      let j := Judged.createWindow hints width height title monitor share
      (j.run (backend depth)).run p = (j.fails (.invalidSize width height), p)) ∧
    (∀ {α : Type} (i : Inlet α) (bytes : List UInt8), i.Gives depth p bytes →
      result (i.run (backend depth)) p = i.outcome (Text.decode (bytes.takeWhile (· ≠ 0)))) ∧
    (∀ {α : Type} (i : Inlet α) (s : String) (rest : List UInt8), '\x00' ∉ s.toList →
      i.Gives depth p (s.toUTF8.data.toList ++ 0 :: rest) →
      result (i.run (backend depth)) p = i.outcome s) ∧
    ∀ (w w' : Window) (s : String), '\x00' ∉ s.toList →
      let m := (w.throughClipboard (backend depth) w' s).run
      reports (during m p) = [] → Recalls (during m p) → result m p = .ok (some s) := by
  refine ⟨fun o s => ⟨o.accepts depth p, fun nul => ?_⟩,
    fun hints _ _ title monitor share => Judged.createWindow_unsized _ p hints title monitor share,
    fun i bytes given => i.reads hr hd given,
    fun i s rest h given => ?_, fun w w' s h => result_throughClipboard h hr hd⟩
  · obtain ⟨before, after, first, split, offset⟩ := Text.nulOffset?_of_mem nul
    exact ⟨before, after, first, split, o.rejects _ p offset⟩
  · rw [i.reads hr hd given, Text.read_terminated h]

/-- A thread whose native library hands back a letter of two bytes, and more after its terminator. -/
def mirrored : Process where
  running := [0]
  errorCallback := true
  scripts := [⟨[("glfwGetClipboardString", [{ text := some [0xC3, 0xA9, 0, 0x78] }])]⟩]

theorem text_crosses_boundary_mirrored : mirrored.current ∈ mirrored.running ∧ Deaf mirrored ∧
    '\x00' ∉ "é".toList ∧
    result (Window.throughClipboard (backend 1) ⟨9, 0⟩ ⟨9, 0⟩ "é").run mirrored = .ok (some "é") ∧
    result ((Inlet.clipboard ⟨9, 0⟩).run (backend 1)) mirrored = .ok (some "é") := by
  have plain : '\x00' ∉ "é".toList := by decide
  have bytes : "é".toUTF8.data.toList = [0xC3, 0xA9] := rfl
  have copied : during (Window.throughClipboard (backend 1) ⟨9, 0⟩ ⟨9, 0⟩ "é").run mirrored =
      [.called (.setClipboardString 9 [0xC3, 0xA9]),
        .returned (.setClipboardString 9 [0xC3, 0xA9]) {},
        .called (.getClipboardString 9),
        .returned (.getClipboardString 9) { text := some [0xC3, 0xA9, 0, 0x78] }] := rfl
  have read : during ((Inlet.clipboard ⟨9, 0⟩).run (backend 1)) mirrored =
      [.called (.getClipboardString 9),
        .returned (.getClipboardString 9) { text := some [0xC3, 0xA9, 0, 0x78] }] := rfl
  obtain ⟨-, -, -, reads, copies⟩ := text_crosses_boundary 1 mirrored (by decide) rfl
  refine ⟨by decide, rfl, plain, copies _ _ _ plain ?_ ?_, reads _ _ [0x78] plain ?_⟩
  · rw [copied]
    rfl
  · rw [copied]
    rintro w w' bytes reply put got
    simp only [List.mem_cons, reduceCtorEq, Happening.called.injEq, Happening.returned.injEq,
      Call.setClipboardString.injEq, List.not_mem_nil, or_false, false_or, false_and] at put got
    obtain ⟨-, rfl⟩ := put
    obtain ⟨-, rfl⟩ := got
    exact ⟨[0x78], rfl⟩
  · simp only [Inlet.Gives, read, bytes]
    exact ⟨rfl, by simp⟩

end Windowing
