import Windowing.Constant
import Windowing.Dispatch
import Windowing.GammaRamp
import Windowing.Hint
import Windowing.Input
import Windowing.Key
import Windowing.Window.Query

/-!
The codes of the enumerations are constants of the header. There the constants for the members of an
enumeration stand one after the other, in the order of the members, so the name of the first one
tells where all of its codes come from.
-/

namespace Windowing.Constant

variable {α : Type} [Coded α] {first : String} {members : List α} {a : α}

/-- The header gives the name to a constant of the value. -/
def Defines (name : String) (value : Int) : Prop :=
  (name, value) ∈ table

theorem defines_of_place {name : String} {value : Int} (place : Nat)
    (h : table[place]? = some (name, value)) : Defines name value :=
  List.mem_of_getElem? h

/-- The members take their codes, one after the other, from the constants from the named one on. -/
def Supplies (first : String) (members : List α) : Prop :=
  ∃ place, (table[place]?).map (·.1) = some first ∧
    members.map (fun a => (Coded.code a).toInt) <+: (table.drop place).map (·.2)

/-- All codes of the enumeration are constants of the header. -/
def Named (α : Type) [Coded α] : Prop :=
  ∀ a : α, ∃ name, Defines name (Coded.code a).toInt

theorem Supplies.named (h : Supplies first members) (ha : a ∈ members) :
    ∃ name, Defines name (Coded.code a).toInt := by
  obtain ⟨place, -, run⟩ := h
  obtain ⟨⟨name, value⟩, there, same⟩ :=
    List.mem_map.1 (run.subset (List.mem_map_of_mem ha))
  exact ⟨name, same ▸ List.mem_of_mem_drop there⟩

/-- Every enumeration is supplied by the header; a key without a code of its own has the constant for
unknown keys, and three mouse buttons have names of their own besides. -/
theorem enumerations_supplied :
    Supplies "GLFW_KEY_SPACE" (Key.all.filter (· ≠ .unknown)) ∧
    Supplies "GLFW_KEY_UNKNOWN" [Key.unknown] ∧
    Supplies "GLFW_RELEASE" (Coded.all : List Action) ∧
    Supplies "GLFW_MOUSE_BUTTON_1" (Coded.all : List MouseButton) ∧
    Supplies "GLFW_MOUSE_BUTTON_LEFT" [MouseButton.left, .right, .middle] ∧
    Supplies "GLFW_JOYSTICK_1" (Coded.all : List Joystick) ∧
    Supplies "GLFW_NOT_INITIALIZED" (Coded.all : List ErrorKind) ∧
    Supplies "GLFW_FOCUSED" (Coded.all : List Attribute) ∧
    Supplies "GLFW_OPENGL_API" (Coded.all : List ClientApi) ∧
    Supplies "GLFW_NO_ROBUSTNESS" (Coded.all : List ContextRobustness) ∧
    Supplies "GLFW_OPENGL_NO_PROFILE" (Coded.all : List OpenGlProfile) ∧
    Supplies "GLFW_CURSOR_NORMAL" (Coded.all : List CursorMode) :=
  ⟨⟨9, rfl, by decide +kernel⟩, ⟨8, rfl, by decide +kernel⟩, ⟨5, rfl, by decide +kernel⟩,
    ⟨130, rfl, by decide +kernel⟩, ⟨139, rfl, by decide +kernel⟩, ⟨142, rfl, by decide +kernel⟩,
    ⟨159, rfl, by decide +kernel⟩, ⟨168, rfl, by decide +kernel⟩, ⟨196, rfl, by decide +kernel⟩,
    ⟨198, rfl, by decide +kernel⟩, ⟨201, rfl, by decide +kernel⟩, ⟨207, rfl, by decide +kernel⟩⟩

/-- Every code of every enumeration is a constant of the header. -/
theorem enumerations_named :
    Named Key ∧ Named Action ∧ Named MouseButton ∧ Named Joystick ∧ Named ErrorKind ∧
    Named Attribute ∧ Named ClientApi ∧ Named ContextRobustness ∧ Named OpenGlProfile ∧
    Named CursorMode := by
  obtain ⟨keys, unknown, actions, buttons, -, joysticks, kinds, attributes, apis, robustness,
    profiles, modes⟩ := enumerations_supplied
  have named {α : Type} [Coded α] {first : String} (h : Supplies first (Coded.all : List α)) :
      Named α := fun a => h.named (Coded.mem_all a)
  refine ⟨fun key => ?_, named actions, named buttons, named joysticks, named kinds,
    named attributes, named apis, named robustness, named profiles, named modes⟩
  by_cases known : key = .unknown
  · exact unknown.named (by simp [known])
  · exact keys.named (List.mem_filter.2 ⟨Coded.mem_all key, by simpa using known⟩)

/-- The codes outside the enumerations: flags, input modes, monitor events and the size of a ramp. -/
theorem codes_defined :
    Defines "GL_TRUE" (Flag.code true).toInt ∧
    Defines "GL_FALSE" (Flag.code false).toInt ∧
    Defines "GLFW_CURSOR_MODE" Window.InputMode.cursor.code.toInt ∧
    Defines "GLFW_STICKY_KEYS" Window.InputMode.stickyKeys.code.toInt ∧
    Defines "GLFW_STICKY_MOUSE_BUTTONS" Window.InputMode.stickyMouseButtons.code.toInt ∧
    Defines "GLFW_CONNECTED" MonitorEvent.connectedCode.toInt ∧
    Defines "GLFW_DISCONNECTED" MonitorEvent.disconnectedCode.toInt ∧
    Defines "GLFW_GAMMA_RAMP_SIZE" rampSize :=
  ⟨defines_of_place 0 rfl, defines_of_place 1 rfl, defines_of_place 204 rfl,
    defines_of_place 205 rfl, defines_of_place 206 rfl, defines_of_place 213 rfl,
    defines_of_place 214 rfl, defines_of_place 215 rfl⟩

end Windowing.Constant
