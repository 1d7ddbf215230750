import Windowing.Event

/-!
The handles that a client owns. The library, every window and every monitor hold the initialization;
a context belongs to its window and holds nothing.
-/

namespace Windowing

structure Library where
  deriving DecidableEq, Repr, Inhabited

/-- `key` is the window's own, also among windows that share a pointer one after the other. -/
structure Window where
  pointer : Pointer
  key : Nat
  deriving DecidableEq, Repr, Inhabited

structure Monitor where
  pointer : Pointer
  deriving DecidableEq, Repr, Inhabited

/-- The context of the window with the same pointer and key. -/
structure Context where
  pointer : Pointer
  key : Nat
  deriving DecidableEq, Repr, Inhabited

def Window.id (w : Window) : WindowId := ⟨w.pointer⟩
def Monitor.id (m : Monitor) : MonitorId := ⟨m.pointer⟩
def Context.windowId (c : Context) : WindowId := ⟨c.pointer⟩

inductive Handle where
  | library (handle : Library)
  | window (handle : Window)
  | monitor (handle : Monitor)
  | context (handle : Context)
  deriving DecidableEq, Repr

/-- Whether the handle keeps the native library initialized. -/
def Handle.holds : Handle → Bool
  | .context _ => false
  | _ => true

end Windowing
