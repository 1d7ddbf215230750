import Windowing.Proofs.ProcessComputation
import Windowing.Client.Run

/-!
Which operations can end with a failed initialization: the two that attempt one, and no other.
-/

namespace Windowing

open Native Client

/-- An initialization was begun and failed. -/
def Client.Outcome.uninitialized : Outcome → Bool
  | .initFailed _ | .tryInitFailed (.failed _) => true
  | _ => false

/-- The operations that attempt an initialization. -/
def Client.Op.initializes : Op → Bool
  | .init | .tryInit => true
  | _ => false

/-- A computation that never ends with a failed initialization. -/
def NeverFailsInit (m : M Outcome) : Prop :=
  ∀ p, (result m p).uninitialized = false

namespace NeverFailsInit

variable {α : Type} {native : Backend}

theorem pure {outcome : Outcome} (h : outcome.uninitialized = false) :
    NeverFailsInit (Pure.pure outcome) := fun _ => h

theorem bind {m : M α} {f : α → M Outcome} (hf : ∀ a, NeverFailsInit (f a)) :
    NeverFailsInit (m >>= f) :=
  fun _ => hf _ _

theorem ite {c : Prop} [Decidable c] {m n : M Outcome} (hm : NeverFailsInit m)
    (hn : NeverFailsInit n) :
    NeverFailsInit (if c then m else n) := by
  split
  · exact hm
  · exact hn

theorem answering (f : α → Answer) (x : Attempt α) : NeverFailsInit (answering f x) :=
  .bind fun outcome => by cases outcome <;> exact .pure rfl

theorem withJoystick (code : Int32) {body : Joystick → M Outcome} (h : ∀ j, NeverFailsInit (body j)) :
    NeverFailsInit (withJoystick code body) := by
  unfold Client.withJoystick
  cases Coded.ofCode? Joystick code with
  | none => exact .pure rfl
  | some j => exact h j

theorem createWindow (r : WindowRequest) : NeverFailsInit (createWindow native r) := by
  unfold Client.createWindow
  cases r.hints.mapM id with
  | none => exact .pure rfl
  | some hints =>
    refine .bind fun t => .bind fun outcome => ?_
    cases outcome with
    | error e => exact .pure rfl
    | ok w => exact .bind fun _ => .pure rfl

theorem runLibrary (slot : Nat) (op : LibraryOp) : NeverFailsInit (runLibrary native slot op) := by
  refine .bind fun t => .ite (.pure rfl) ?_
  cases op with
  | drop => exact .bind fun _ => .ite (.pure rfl) (.bind fun _ => .pure rfl)
  | setTime | getMonitors | getPrimaryMonitor => exact answering _ _
  | joystickPresent | joystickAxes | joystickButtons | joystickName =>
    exact withJoystick _ fun _ => answering _ _
  | createWindow r => exact createWindow r
  | unknown => exact .pure rfl

theorem runWindow (slot : Nat) (op : WindowOp) : NeverFailsInit (runWindow native slot op) := by
  refine .bind fun t => .ite (.pure rfl) ?_
  cases occupant t.windows slot with
  | none => exact .pure rfl
  | some x =>
    cases op with
    | drop | identify | userPointer | setUserPointer | unknown => exact fun _ => rfl
    | setCursorMode | getKey | getMouseButton =>
      simp only [operateWindow]
      split
      · exact answering _ _
      · exact .pure rfl
    | _ => exact answering _ _

theorem runMonitor (slot : Nat) (op : MonitorOp) : NeverFailsInit (runMonitor native slot op) := by
  refine .bind fun t => ?_
  cases occupant t.monitors slot with
  | none => exact .pure rfl
  | some m =>
    cases op with
    | drop | identify | unknown => exact fun _ => rfl
    | setGammaRamp source => cases source <;> exact answering _ _
    | _ => exact answering _ _

theorem runContext (slot : Nat) (op : ContextOp) : NeverFailsInit (runContext native slot op) := by
  refine .bind fun t => ?_
  cases occupant t.contexts slot with
  | none => exact .pure rfl
  | some c =>
    cases op with
    | drop | windowId | unknown => exact fun _ => rfl
    | makeCurrent | swapBuffers => exact answering _ _

theorem runPump (slot : Nat) (kind : PumpKind) (handler : Handler) :
    NeverFailsInit (runPump native slot kind handler) := by
  refine .bind fun t => .ite (.pure rfl) (.bind fun _ => .bind fun outcome => .bind fun _ => ?_)
  rcases outcome with message | (e | _) <;> exact .pure rfl

theorem runThread (body : M (Option String)) : NeverFailsInit (runThread native body) :=
  .bind fun _ => .ite (.pure rfl) (.bind fun _ => .bind fun _ => .bind fun _ => .bind fun _ =>
    .pure rfl)

end NeverFailsInit

theorem runOp_neverFailsInit {native : Backend} (op : Op) (h : op.initializes = false) :
    NeverFailsInit (runOp native op) := by
  cases op with
  | init | tryInit => cases h
  | getVersion | getVersionString | getTime | panic => exact fun _ => rfl
  | onThread steps => exact .runThread _
  | pump slot kind reactions => exact .runPump slot kind reactions
  | library slot op => exact .runLibrary slot op
  | window slot op => exact .runWindow slot op
  | monitor slot op => exact .runMonitor slot op
  | context slot op => exact .runContext slot op
  | _ => exact .answering _ _

end Windowing
