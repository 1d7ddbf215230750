import Windowing.Process

/-!
A run's history as a tree. Each step has its outcome, the reports of a thread's steps if it ran one,
and its trace: the calls and log lines of the step itself and the events that its handler received,
each with the reports of the handler's steps.
-/

namespace Windowing

open Native Client

mutual

inductive Report where
  | mk (outcome : Outcome) (steps : List Report) (trace : List Item)

/-- An event is given with whether it is the same as the previous one of its pump. -/
inductive Item where
  | call (call : Call)
  | log (log : Log)
  | event (event : Event) (time : Float) (same : Bool) (steps : List Report)

end

/-- What is known of a step, or of the whole run, before it ends; the newest comes first. -/
structure Scope where
  reports : List Report := []
  items : List Item := []
  /-- The event being handled, and the one that was handled before it. -/
  handling : Option (Float × Event) := none
  lastEvent : Option Event := none
  panic : Option String := none
  deriving Inhabited

namespace Scope

def trace (s : Scope) : List Item := s.items.reverse

/-- Adds an entry that neither begins nor ends a step. -/
def add (s : Scope) : Happening → Scope
  | .called call => { s with items := .call call :: s.items }
  | .logged log => { s with items := .log log :: s.items }
  | .handling time event => { s with handling := some (time, event) }
  | .handled _ =>
    match s.handling with
    | none => s
    | some (time, event) =>
      let same := s.lastEvent.any event.same
      { s with
        items := .event event time same s.reports.reverse :: s.items
        reports := []
        handling := none
        lastEvent := some event }
  | .threadEnded panic => { s with panic }
  | _ => s

end Scope

namespace Report

/-- Reads one entry, given the scopes that are open, the innermost first. -/
def read : List Scope → Happening → List Scope
  | scopes, .stepStarted => {} :: scopes
  | inner :: outer :: rest, .stepEnded outcome =>
    { outer with reports := .mk outcome inner.reports.reverse inner.trace :: outer.reports } :: rest
  | scope :: rest, what => scope.add what :: rest
  | [], _ => []

/-- The scope of the whole run: the reports of its steps, and its own trace. -/
def ofHistory (history : List Entry) : Scope :=
  (history.foldl (fun scopes entry => read scopes entry.what) [{}]).headD {}

end Report

end Windowing
