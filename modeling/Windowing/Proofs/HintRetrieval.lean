import Windowing.Proofs.CallDialogues
import Windowing.Proofs.CreationPlan

/-!
Retrieval of hints. No two hints are the same to the native library, and hints have the same target
exactly if they are of one variant. Some attributes that are set by hints can be read as parameters of
a window; if the native library answers with what was last set, the payload of the hint is read.
-/

namespace Windowing

open Native Client

variable {α : Type} {p : Process} {w : Window} {table : HintTable}

namespace WindowHint

/-! ### Encoding -/

/-- A hint can be told from its target and its value. -/
theorem ofParts?_parts (h : WindowHint) :
    ofParts? h.target.name (Flag.isSet h.value) h.value = some h := by
  cases h with
  | clientApi a => cases a <;> rfl
  | contextRobustness a => cases a <;> rfl
  | openGlProfile a => cases a <;> rfl
  | resizable flag | visible flag | decorated flag | stereo flag | srgbCapable flag
  | openGlForwardCompat flag | openGlDebugContext flag => cases flag <;> rfl
  | _ => rfl

theorem target_eq_of_raw {h₁ h₂ : WindowHint} (same : h₁.raw.1 = h₂.raw.1) :
    h₁.target = h₂.target := Coded.code_injective same

theorem raw_injective {h₁ h₂ : WindowHint} (same : h₁.raw = h₂.raw) : h₁ = h₂ := by
  have target : h₁.target = h₂.target := target_eq_of_raw (congrArg Prod.fst same)
  have value : h₁.value = h₂.value := congrArg Prod.snd same
  have told := ofParts?_parts h₁
  rw [target, value, ofParts?_parts] at told
  exact (Option.some.inj told).symm

/-- The targets of the variants, in their order. -/
def targets : List Attribute :=
  [.resizable, .visible, .decorated, .redBits, .greenBits, .blueBits, .alphaBits, .depthBits,
    .stencilBits, .accumRedBits, .accumGreenBits, .accumBlueBits, .accumAlphaBits, .auxBuffers,
    .samples, .refreshRate, .stereo, .srgbCapable, .clientApi, .contextVersionMajor,
    .contextVersionMinor, .contextRobustness, .openGlForwardCompat, .openGlDebugContext,
    .openGlProfile]

theorem targets_nodup : targets.Nodup := by decide

theorem targets_get (h : WindowHint) : targets[h.ctorIdx]? = some h.target := by
  cases h <;> rfl

/-- Hints have the same target exactly if they are of one variant. -/
theorem target_eq_iff (h₁ h₂ : WindowHint) :
    h₁.raw.1 = h₂.raw.1 ↔ h₁.ctorIdx = h₂.ctorIdx := by
  -- The list of targets stands for the cases of both hints at once.
  constructor
  · intro same
    have found : targets[h₁.ctorIdx]? = targets[h₂.ctorIdx]? := by
      rw [targets_get, targets_get, target_eq_of_raw same]
    have inside : h₁.ctorIdx < targets.length := by
      by_contra outside
      have found := targets_get h₁
      rw [List.getElem?_eq_none (by omega)] at found
      cases found
    exact (List.getElem?_inj inside targets_nodup).1 found
  · intro same
    have found := targets_get h₁
    rw [same, targets_get] at found
    exact congrArg Attribute.code (Option.some.inj found).symm

end WindowHint

/-- What the native library has for the hints once the given ones are set, the last one last. -/
def HintTable.setAll (table : HintTable) (hints : List WindowHint) : HintTable :=
  hints.foldl (fun table hint => Function.update table hint.raw.1 hint.raw.2) table

theorem HintTable.setAll_of_ne {target : Int32} {hints : List WindowHint}
    (h : ∀ hint ∈ hints, hint.raw.1 ≠ target) (table : HintTable) :
    table.setAll hints target = table target := by
  induction hints generalizing table with
  | nil => rfl
  | cons first rest ih =>
    have kept := ih (fun hint hh => h hint (List.mem_cons_of_mem _ hh))
      (Function.update table first.raw.1 first.raw.2)
    have other : target ≠ first.raw.1 := (h first List.mem_cons_self).symm
    exact kept.trans (Function.update_of_ne other _ _)

/-- The value of a target is that of the last hint for it. -/
theorem HintTable.setAll_last {h : WindowHint} {before after : List WindowHint}
    (last : ∀ later ∈ after, later.raw.1 ≠ h.raw.1) (table : HintTable) :
    table.setAll (before ++ h :: after) h.raw.1 = h.raw.2 := by
  have split : table.setAll (before ++ h :: after) =
      HintTable.setAll (Function.update (table.setAll before) h.raw.1 h.raw.2) after := by
    simp [setAll]
  rw [split, setAll_of_ne last, Function.update_self]

/-! ### Reading -/

/-- A hint whose attribute can be read as a parameter of a window, by the type of its payload. -/
inductive Readable : Type → Type where
  | resizable : Readable Bool
  | visible : Readable Bool
  | decorated : Readable Bool
  | clientApi : Readable ClientApi
  | contextVersionMajor : Readable Int32
  | contextVersionMinor : Readable Int32
  | contextRobustness : Readable ContextRobustness
  | openGlForwardCompat : Readable Bool
  | openGlDebugContext : Readable Bool
  | openGlProfile : Readable OpenGlProfile

namespace Readable

def hint : Readable α → α → WindowHint
  | .resizable => .resizable
  | .visible => .visible
  | .decorated => .decorated
  | .clientApi => .clientApi
  | .contextVersionMajor => .contextVersionMajor
  | .contextVersionMinor => .contextVersionMinor
  | .contextRobustness => .contextRobustness
  | .openGlForwardCompat => .openGlForwardCompat
  | .openGlDebugContext => .openGlDebugContext
  | .openGlProfile => .openGlProfile

def read (native : Backend) (w : Window) : Readable α → Attempt α
  | .resizable => w.isResizable native
  | .visible => w.isVisible native
  | .decorated => w.isDecorated native
  | .clientApi => w.clientApi native
  | .contextVersionMajor => (·.1) <$> w.contextVersion native
  | .contextVersionMinor => (·.2.1) <$> w.contextVersion native
  | .contextRobustness => w.contextRobustness native
  | .openGlForwardCompat => w.isForwardCompat native
  | .openGlDebugContext => w.isDebugContext native
  | .openGlProfile => w.openGlProfile native

end Readable

namespace Window

/-- Asks for a parameter. -/
def param (w : Window) (a : Attribute) (next : Int32 → Dialogue α) : Dialogue α :=
  .ask (.getWindowParam w.pointer a.code) fun reply => next reply.value

def flagParam (w : Window) (a : Attribute) : Dialogue Bool :=
  w.param a fun value => .done (.ok (Flag.isSet value))

def memberParam [Coded α] (w : Window) (a : Attribute) (subject : String) : Dialogue α :=
  w.param a fun value => .done (expectCode α subject value)

/-- Asks for a version, of which one number is wanted. -/
def versionParam (w : Window) (part : Int32 × Int32 × Int32 → Int32) : Dialogue Int32 :=
  w.param .contextVersionMajor fun major =>
  w.param .contextVersionMinor fun minor =>
  w.param .contextRevision fun revision =>
  .done (.ok (part (major, minor, revision)))

/-- The parameters of the window are the values in the table. -/
def Expects (w : Window) (table : HintTable) (call : Call) (reply : Reply) : Prop :=
  ∀ target, call = .getWindowParam w.pointer target → reply.value = table target

theorem param_yields {a : Attribute} {next : Int32 → Dialogue α} {outcome : Except Error α}
    (h : (next (table a.code)).Yields (w.Expects table) outcome) :
    (w.param a next).Yields (w.Expects table) outcome := by
  intro reply given
  have answered : reply.value = table a.code := given _ rfl
  rw [← answered] at h
  exact h

theorem flagParam_run (native : Backend) (w : Window) (a : Attribute) :
    (w.flagParam a).run native = w.getFlag native a := by
  simp only [getFlag, getParam, bind_assoc, pure_bind]
  rfl

theorem memberParam_run [Coded α] (native : Backend) (w : Window) (a : Attribute)
    (subject : String) : (w.memberParam a subject).run native =
      w.getParam native a >>= fun value => liftExcept (expectCode α subject value) := by
  simp only [getParam, bind_assoc, pure_bind]
  rfl

theorem versionParam_run (native : Backend) (w : Window) (part : Int32 × Int32 × Int32 → Int32) :
    (w.versionParam part).run native = part <$> w.contextVersion native := by
  simp only [contextVersion, getParam, bind_assoc, pure_bind, map_bind, map_pure]
  rfl

theorem flagParam_yields {a : Attribute} {flag : Bool} (h : table a.code = Flag.code flag) :
    (w.flagParam a).Yields (w.Expects table) (.ok flag) := by
  refine param_yields ?_
  rw [h, Flag.isSet_code]
  rfl

theorem memberParam_yields [Coded α] {a : Attribute} {subject : String} {member : α}
    (h : table a.code = Coded.code member) :
    (w.memberParam a subject).Yields (w.Expects table) (.ok member) := by
  refine param_yields ?_
  rw [h, expectCode, Coded.ofCode?_eq_some_iff.2 rfl]
  rfl

theorem versionParam_yields (part : Int32 × Int32 × Int32 → Int32) :
    (w.versionParam part).Yields (w.Expects table)
    (.ok (part (table Attribute.contextVersionMajor.code,
      table Attribute.contextVersionMinor.code, table Attribute.contextRevision.code))) :=
  param_yields (param_yields (param_yields rfl))

end Window

namespace Readable

def dialogue (w : Window) : Readable α → Dialogue α
  | .resizable => w.flagParam .resizable
  | .visible => w.flagParam .visible
  | .decorated => w.flagParam .decorated
  | .clientApi => w.memberParam .clientApi "GLFW_CLIENT_API"
  | .contextVersionMajor => w.versionParam (·.1)
  | .contextVersionMinor => w.versionParam (·.2.1)
  | .contextRobustness => w.memberParam .contextRobustness "GLFW_CONTEXT_ROBUSTNESS"
  | .openGlForwardCompat => w.flagParam .openGlForwardCompat
  | .openGlDebugContext => w.flagParam .openGlDebugContext
  | .openGlProfile => w.memberParam .openGlProfile "GLFW_OPENGL_PROFILE"

theorem read_eq (native : Backend) (w : Window) (r : Readable α) :
    r.read native w = (r.dialogue w).run native := by
  cases r with
  | clientApi | contextRobustness | openGlProfile => exact (w.memberParam_run native _ _).symm
  | contextVersionMajor | contextVersionMinor => exact (w.versionParam_run native _).symm
  | _ => exact (w.flagParam_run native _).symm

/-- What was set is what is read. -/
theorem yields (r : Readable α) {payload : α}
    (h : table (r.hint payload).raw.1 = (r.hint payload).raw.2) :
    (r.dialogue w).Yields (w.Expects table) (.ok payload) := by
  cases r with
  | clientApi | contextRobustness | openGlProfile => exact Window.memberParam_yields h
  | contextVersionMajor =>
    obtain rfl : table Attribute.contextVersionMajor.code = payload := h
    exact Window.versionParam_yields (·.1)
  | contextVersionMinor =>
    obtain rfl : table Attribute.contextVersionMinor.code = payload := h
    exact Window.versionParam_yields (·.2.1)
  | _ => exact Window.flagParam_yields h

end Readable

/-- Hints with the same encoding are the same, and those with the same target are of one variant. Client
code runs while no handler waits for events. If a parameter that a hint sets is read, the native
library reports no error and answers for each target with the value that was last set for it, then
what is read is the payload of the last hint for the target. -/
theorem hint_retrieval (depth : Nat) (p : Process) (hr : p.current ∈ p.running) (hd : Deaf p) :
    (∀ h₁ h₂ : WindowHint, h₁.raw = h₂.raw → h₁ = h₂) ∧
    (∀ h₁ h₂ : WindowHint, h₁.raw.1 = h₂.raw.1 ↔ h₁.ctorIdx = h₂.ctorIdx) ∧
    ∀ {α : Type} (r : Readable α) (payload : α) (w : Window) (initial : HintTable)
      (before after : List WindowHint),
      let h := r.hint payload
      let table := initial.setAll (before ++ h :: after)
      let m := (r.read (backend depth) w).run
      (∀ later ∈ after, later.raw.1 ≠ h.raw.1) →
      reports (during m p) = [] →
      (∀ target reply, .returned (.getWindowParam w.pointer target) reply ∈ during m p →
        reply.value = table target) →
      result m p = .ok payload := by
  refine ⟨fun _ _ => WindowHint.raw_injective, WindowHint.target_eq_iff, ?_⟩
  intro α r payload w initial before after h table m last silent answers
  have set : table h.raw.1 = h.raw.2 := initial.setAll_last last
  refine Dialogue.result_of_yields (r.read_eq _ w) (r.yields set) hr hd silent ?_
  rintro call reply returned target rfl
  exact answers target reply returned

/-- A thread whose window has a context of version 0.3, as the second of two hints for it said. -/
def rehinted : Process where
  running := [0]
  errorCallback := true
  scripts := [⟨[("glfwGetWindowParam", [{}, { value := 3 }, {}])]⟩]

theorem hint_retrieval_rehinted : rehinted.current ∈ rehinted.running ∧ Deaf rehinted ∧
    result ((Readable.contextVersionMinor.read (backend 1) ⟨9, 0⟩).run) rehinted = .ok 3 := by
  have asked : during ((Readable.contextVersionMinor.read (backend 1) ⟨9, 0⟩).run) rehinted =
      [.called (.getWindowParam 9 0x22002), .returned (.getWindowParam 9 0x22002) {},
        .called (.getWindowParam 9 0x22003), .returned (.getWindowParam 9 0x22003) { value := 3 },
        .called (.getWindowParam 9 0x22004), .returned (.getWindowParam 9 0x22004) {}] := rfl
  obtain ⟨-, -, reads⟩ := hint_retrieval 1 rehinted (by decide) rfl
  refine ⟨by decide, rfl, reads .contextVersionMinor 3 ⟨9, 0⟩ (fun _ => 0)
    [.contextVersionMinor 2, .visible false] [.samples 4] (by decide) ?_ fun target reply => ?_⟩
  · rw [asked]
    rfl
  · rw [asked]
    simp only [List.mem_cons, reduceCtorEq, Happening.returned.injEq, Call.getWindowParam.injEq,
      List.not_mem_nil, or_false, false_or, true_and]
    rintro (⟨rfl, rfl⟩ | ⟨rfl, rfl⟩ | ⟨rfl, rfl⟩) <;> decide

end Windowing
