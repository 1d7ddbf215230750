import Windowing.Process

/-!
The pending error of a thread. The native library reports errors through a callback, which keeps the
first one. A checked call sets aside what is pending, runs, fails with what was reported meanwhile,
and puts back what it had set aside, so the error of a call is never mistaken for another's.
-/

namespace Windowing

open Native

/-- What the native library does when it is called. -/
abbrev Backend := Call → M Reply

abbrev Attempt := ExceptT Error M

def takeError : M (Option Error) := do
  let pending := (← getLocals).pending
  modifyLocals fun s => { s with pending := none }
  return pending

def setPending (pending : Option Error) : M Unit :=
  modifyLocals fun s => { s with pending }

/-- The error callback. Only the first error of a call is kept. -/
def onError (code : Int32) (description : Option Text.Bytes) : M Unit := do
  let description := (description.map Text.read).getD ""
  log (.nativeError code description)
  modifyLocals fun s =>
    { s with pending := s.pending <|> some (.reported code description) }

/-- Fails with the first error that is reported while the body runs. -/
def checked {α : Type} (body : M α) : Attempt α := ExceptT.mk do
  let outer ← takeError
  let a ← body
  let inner ← takeError
  setPending outer
  return match inner with
    | some e => .error e
    | none => .ok a

/-- A checked call of which only its success matters. -/
def perform (native : Backend) (call : Call) : Attempt Unit := do
  let _ ← checked (native call)

/-- A text that may be handed over, as its bytes. -/
def terminated (s : String) : Except Error Text.Bytes :=
  (Text.terminable? s).mapError .containsNul

/-- The member of an enumeration with the given code. -/
def expectCode (α : Type) [Coded α] (subject : String) (value : Int32) : Except Error α :=
  match Coded.ofCode? α value with
  | some a => .ok a
  | none => .error (.unexpectedValue value subject)

/-- A returned pointer or text that must not be null. -/
def expectSome {α : Type} (function : String) : Option α → Except Error α
  | some a => .ok a
  | none => .error (.unreported function)

end Windowing
