import Windowing.Proofs.EventReception

/-!
Isolation of threads. Two threads that are alike and carry out the same operations do the same and
end alike, whatever other threads do meanwhile, until they are told apart by what the native library
does or by what threads share.
-/

namespace Windowing

open Native Client

variable {α : Type} {native native' : Backend} {p p' q q' : Process}

/-! ### Operations and steps -/

theorem runOp_concludes (h : ReliableLibrary native) (h' : ReliableLibrary native')
    (calls : ∀ call, Tied Eq (native call) (native' call)) (receives : Receives native native')
    {op op' : Op} (like : op.Like op') (paired : Paired p p') :
    Concludes (runOp native op) (runOp native' op') p p' := by
  cases like with
  | pump slot kind like => exact runPump_concludes h h' calls receives paired slot kind like
  | onThread steps steps' =>
    exact runThread_concludes h h' paired ((Confined.law h.libraryKeepsBooks.confined).runSteps steps)
      ((Confined.law h'.libraryKeepsBooks.confined).runSteps steps')
  | small small =>
    cases op with
    | pump | onThread => cases small
    | init => exact runInit_concludes h h' calls paired
    | tryInit => exact runTryInit_concludes h h' calls paired
    | library slot op => exact runLibrary_concludes h h' calls paired slot op
    | window slot op => exact runWindow_concludes h h' calls paired slot op
    | monitor slot op => exact runMonitor_concludes h h' calls paired slot op
    | context slot op => exact runContext_concludes h h' calls paired slot op
    | _ => exact (runOp_tied calls _ rfl).concludes paired.matched

/-- The process in which the operation of a step is carried out. -/
def Process.stepping (p : Process) (script : Script) : Process :=
  { p.note .stepStarted with scripts := script :: p.scripts }

theorem final_runStep (script : Script) (op : Op) (p : Process) :
    final (runStep native (.mk script op)) p =
      Process.note { final (runOp native op) (p.stepping script) with scripts := p.scripts }
        (.stepEnded (result (runOp native op) (p.stepping script))) := rfl

theorem ReadyToStep.stepping (h : ReadyToStep p) (script : Script) :
    ReadyToStep (p.stepping script) := by
  obtain ⟨w, o, calm, work, ho, standing⟩ := h.keepsBooks (.boundary (e := .stepStarted) rfl rfl)
  have pushed := alike_scripts (p.note .stepStarted) (script :: p.scripts)
  exact ⟨w, o, pushed.allCalm calm, (pushed.undisturbed _).atWork pushed.running work, ho,
    standing.same pushed.sameBooks⟩

theorem Passes.step {script : Script} {op : Op} {hs : List Happening}
    (h : Passes (p.stepping script) (final (runOp native op) (p.stepping script)) hs) :
    Passes p (final (runStep native (.mk script op)) p)
      (.stepStarted :: (hs ++ [.stepEnded (result (runOp native op) (p.stepping script))])) := by
  have started : Passes p (p.stepping script) [.stepStarted] := ⟨rfl, entriesOf_note_self p _⟩
  rw [final_runStep]
  exact started.trans (h.trans ((Passes.of_sameThreads (alike_scripts _ _).toSameThreads).trans
    (.note _ _)))

theorem runStep_isolates (h : ReliableLibrary native) (h' : ReliableLibrary native')
    {op op' : Op} (script script' : Script)
    (hop : ∀ p p', Paired p p' → Concludes (runOp native op) (runOp native' op') p p') :
    Isolates (runStep native (.mk script op)) (runStep native' (.mk script' op')) := by
  intro p p' paired
  have begun : Paired (p.stepping script) (p'.stepping script') :=
    ⟨paired.readyToStep.stepping script, paired.readyToStep'.stepping script', paired.akin⟩
  obtain ⟨hs, hs', passes, passes', parted | ⟨same, ended, akin⟩⟩ := hop _ _ begun
  · exact ⟨_, _, passes.step, passes'.step, .inl parted⟩
  · refine ⟨_, _, passes.step, passes'.step, .inr ⟨?_, ended, ?_⟩⟩
    · rw [ended]
      exact (Same.refl [.stepStarted]).append (same.append (.refl _))
    · exact ⟨paired.readyToStep.keepsBooks ((OperationKeepsBooks.law h.libraryKeepsBooks).runStep _),
        paired.readyToStep'.keepsBooks ((OperationKeepsBooks.law h'.libraryKeepsBooks).runStep _),
          akin⟩

/-- Steps are carried out alike, one after the other. -/
theorem runSteps_isolates (h : ReliableLibrary native) (h' : ReliableLibrary native')
    (step : ∀ step step', Step.Like step step' →
      Isolates (runStep native step) (runStep native' step'))
    {steps steps' : List Step} (like : List.Forall₂ Step.Like steps steps') :
    Isolates (runSteps native steps) (runSteps native' steps') := by
  induction like with
  | nil => exact fun _ _ paired => .silent .refl .refl ⟨rfl, paired⟩
  | @cons first first' rest rest' head _ ih =>
    intro p p' paired
    refine (step _ _ head p p' paired).bind (fun outcome => ?_) (fun outcome => ?_)
      fun ⟨same, paired⟩ => ?_
    · cases outcome with
      | panicking message => exact .pure _
      | _ => exact h.growsConfined.law.runSteps rest
    · cases outcome with
      | panicking message => exact .pure _
      | _ => exact h'.growsConfined.law.runSteps rest'
    rw [← same]
    cases result (runStep native first) p with
    | panicking message => exact .silent .refl .refl ⟨rfl, paired⟩
    | _ => exact ih _ _ paired

/-- Native calls and programs of two sessions agree, however deep they nest: calls agree since the
handlers that they run are programs of one level less, and programs since their calls do. -/
theorem backend_isolates (depth depth' : Nat) : Receives (backend depth) (backend depth') ∧
    ∀ steps steps', List.Forall₂ Step.Like steps steps' →
      Isolates (runSteps (backend depth) steps) (runSteps (backend depth') steps') := by
  have programs : ∀ {depth depth' : Nat}, Receives (backend depth) (backend depth') →
      ∀ steps steps', List.Forall₂ Step.Like steps steps' →
        Isolates (runSteps (backend depth) steps) (runSteps (backend depth') steps') := by
    intro depth depth' receives steps steps' like
    have h := backend_reliableLibrary depth
    have h' := backend_reliableLibrary depth'
    refine runSteps_isolates h h' (fun _ _ hstep => ?_) like
    cases hstep with
    | mk script script' hop =>
      exact runStep_isolates h h' script script' fun _ _ paired =>
        runOp_concludes h h' (backend_tied depth depth') receives hop paired
  induction depth generalizing depth' with
  | zero =>
    have receives : Receives (backend 0) (backend depth') :=
      backend_receives fun _ _ hc => by cases hc
    exact ⟨receives, programs receives⟩
  | succ depth ih =>
    have receives : Receives (backend (depth + 1)) (backend depth') :=
      backend_receives fun _ c _ _ _ hosting hosting' akin =>
        heed_agrees (backend_reliableLibrary _) (backend_reliableLibrary _) (ih _).1
          (ih _).2 c hosting hosting'
          akin
    exact ⟨receives, programs receives⟩

end Windowing
