import Windowing.Proofs.WaitingThreads
import Windowing.Proofs.FailedInitializations

/-!
The books of an initialization. A ledger reads the entries of all threads one by one. It knows which
thread the native library is initialized for, which handles are alive, which windows were dropped
and wait to be destroyed, and what must happen at once. An entry that does not belong where it
stands has no successor.
-/

namespace Windowing

open Native Client

/-- The life of an initialization: `starting` is inside the native initialization, `started` before
the first handle, and `ending` inside the native termination. -/
inductive Phase where
  | idle
  | starting (thread : ThreadId)
  | started (thread : ThreadId)
  | alive (thread : ThreadId)
  | ending (thread : ThreadId)
  deriving DecidableEq

def Phase.owner : Phase → Option ThreadId
  | .idle => none
  | .starting t | .started t | .alive t | .ending t => some t

def Handle.window? : Handle → Option Window
  | .window w => some w
  | _ => none

structure Ledger where
  phase : Phase := .idle
  /-- The handles that hold the initialization. -/
  held : List Handle := []
  /-- The windows that were dropped and are not destroyed yet, in the order of their drops. -/
  owing : List Pointer := []
  /-- Whether the handler of the owning thread runs. -/
  busy : Bool := false
  /-- The window that was just created and has no handle yet. -/
  created : Option Pointer := none
  /-- What must happen next. -/
  urgent : Option Entry := none
  deriving DecidableEq

namespace Ledger

/-- Between its steps the initialization that a thread owns is held, and outside handlers no dropped
window waits. -/
def Settled (l : Ledger) (t : ThreadId) : Prop :=
  l.phase.owner = some t → l.phase = .alive t ∧ l.held ≠ [] ∧ (l.owing = [] ∨ l.busy = true)

instance (l : Ledger) (t : ThreadId) : Decidable (l.Settled t) := by
  unfold Settled
  infer_instance

/-- What must follow the drop of a handle at once: outside handlers the destruction of a window, and
the termination after the last handle. -/
def sequel (l : Ledger) (t : ThreadId) (h : Handle) : Option Entry :=
  match h.window? with
  | some w => if l.busy then none else some ⟨t, .called (.destroyWindow w.pointer)⟩
  | none => if l.held.erase h = [] then some ⟨t, .called .terminate⟩ else none

/-- What a thread may do: initialize while no initialization lives; obtain handles while the
initialization that it owns is held, a window's handle only for the window just created; drop what
is alive; destroy what was dropped, in the order of the drops and outside handlers; terminate when
nothing is alive and nothing waits to be destroyed. An initialization that failed is over when its
step ends. -/
def advance (l : Ledger) (t : ThreadId) : Happening → Option Ledger
  | .called .init => if l.phase = .idle then some { phase := .starting t } else none
  | .returned .init reply =>
    if l.phase ≠ .starting t then none
    else if Flag.isSet reply.value then
      some { phase := .started t, urgent := some ⟨t, .obtained (.library {})⟩ }
    else some {}
  | .called .terminate =>
    if l.phase = .alive t ∧ l.held = [] ∧ l.owing = [] ∧ l.busy = false then
      some { phase := .ending t }
    else none
  | .returned .terminate _ => if l.phase = .ending t then some {} else none
  | .returned (.createWindow ..) reply =>
    if l.phase = .alive t then
      some { l with created := if reply.pointer = null then none else some reply.pointer }
    else none
  | .called (.destroyWindow pointer) =>
    if l.phase = .alive t ∧ l.busy = false ∧ l.owing.head? = some pointer then
      some { l with owing := l.owing.tail }
    else none
  | .obtained h =>
    if h.holds = false then some l
    else if l.phase = .started t ∧ h = .library {} then
      some { phase := .alive t, held := [h] }
    else if l.phase = .alive t ∧ l.held ≠ [] ∧
        ∀ w ∈ h.window?, l.created = some w.pointer then
      some { l with held := h :: l.held, created := none }
    else none
  | .dropped h =>
    if h.holds = false then some l
    else if l.phase = .alive t ∧ h ∈ l.held then
      some { l with
        held := l.held.erase h
        owing := l.owing ++ h.window?.toList.map (·.pointer)
        urgent := l.sequel t h }
    else none
  | .handling _ _ =>
    if l.phase = .alive t ∧ l.held ≠ [] ∧ l.busy = false then some { l with busy := true } else none
  | .handled _ =>
    if l.phase = .alive t ∧ l.held ≠ [] ∧ l.busy = true then some { l with busy := false } else none
  | .stepStarted | .threadEnded _ => if l.Settled t then some l else none
  | .stepEnded outcome =>
    if l.Settled t ∧ (outcome.uninitialized = true → l.phase.owner ≠ some t) then some l else none
  | _ => some l

def step (l : Ledger) (e : Entry) : Option Ledger :=
  if l.urgent = none ∨ l.urgent = some e then { l with urgent := none }.advance e.thread e.what
  else none

/-- The ledger over a history, whose newest entry comes first. -/
def read : List Entry → Option Ledger
  | [] => some {}
  | e :: older => (read older).bind (·.step e)

end Ledger

def Process.ledger (p : Process) : Option Ledger := Ledger.read p.history

theorem ledger_note (p : Process) (h : Happening) :
    (p.note h).ledger = p.ledger.bind (·.step ⟨p.current, h⟩) :=
  rfl

/-- The calls that the books do not show. -/
def Native.Call.neutral : Call → Bool
  | .init | .terminate | .createWindow .. | .destroyWindow _ => false
  | _ => true

theorem Native.Call.neutral_of_plain {call : Call} (h : call.plain = true) :
    call.neutral = true := by
  cases call <;> first | rfl | cases h

/-- The entries that the books do not show. -/
def Happening.neutral : Happening → Bool
  | .called call | .returned call _ => call.neutral
  | .invoked _ | .logged _ => true
  | .obtained h | .dropped h => !h.holds
  | _ => false

/-- The ends and beginnings of a client's steps. -/
def Happening.boundary : Happening → Bool
  | .stepStarted | .stepEnded _ | .threadEnded _ => true
  | _ => false

/-- The end of a step that began an initialization and failed. -/
def Happening.uninitialized : Happening → Bool
  | .stepEnded outcome => outcome.uninitialized
  | _ => false

namespace Ledger

variable {l l' : Ledger} {t : ThreadId}

theorem step_eq_advance (hu : l.urgent = none) (h : Happening) :
    l.step ⟨t, h⟩ = l.advance t h := by
  obtain ⟨phase, held, owing, busy, created, urgent⟩ := l
  have hurgent : urgent = none := hu
  subst hurgent
  rfl

theorem advance_neutral {h : Happening} (hn : h.neutral = true) : l.advance t h = some l := by
  cases h with
  | called call | returned call reply => cases call <;> first | rfl | cases hn
  | obtained h | dropped h =>
    have hh : h.holds = false := by simpa [Happening.neutral] using hn
    simp [advance.eq_def, hh]
  | invoked _ | logged _ => rfl
  | _ => cases hn

theorem step_neutral (hu : l.urgent = none) {h : Happening} (hn : h.neutral = true) :
    l.step ⟨t, h⟩ = some l :=
  (step_eq_advance hu h).trans (advance_neutral hn)

theorem step_boundary (hu : l.urgent = none) {h : Happening} (hb : h.boundary = true)
    (hl : l.Settled t) (hi : h.uninitialized = true → l.phase.owner ≠ some t) :
    l.step ⟨t, h⟩ = some l := by
  rw [step_eq_advance hu]
  cases h with
  | stepStarted | threadEnded _ => exact if_pos hl
  | stepEnded outcome => exact if_pos ⟨hl, hi⟩
  | _ => cases hb

end Ledger

end Windowing
