import Windowing.Proofs.CallDialogues

/-!
Room for the arrays of joysticks. A joystick is asked how long an array is, room is made for as many
entries, the array is written there, and what was not written is cut off. Both lengths are the native
library's, and neither need make sense: they may be negative, and one may exceed the other. Making room
and cutting off are given here as steps that can panic, which they never do in this order.
-/

namespace Windowing

open Native Client

variable {raw α : Type} {p : Process}

namespace Joystick

/-! ### Steps that may panic -/

/-- An array of blank entries; there is none of negative length. -/
def room? (blank : raw) (capacity : Int32) : Option (List raw) :=
  if capacity < 0 then none else some (.replicate capacity.toNatClampNeg blank)

/-- An array whose first entries are written, within its room. -/
def overwritten (out room : List raw) : List raw :=
  out.take room.length ++ room.drop out.length

/-- The nearest value between bounds, which must be in order. -/
def clamped? (low high value : Int32) : Option Int32 :=
  if high < low then none
  else some (if value < low then low else if high < value then high else value)

/-- The array as far as it is said to be written. -/
def cut? (array : List raw) (written : Int32) : Option (List raw) :=
  (clamped? 0 (.ofNat array.length) written).map fun length => array.take length.toNatClampNeg

/-- Makes room, lets the array be written and cuts off the rest. -/
def filled? (blank : raw) (out : List raw) (capacity written : Int32) : Option (List raw) := do
  cut? (overwritten out (← room? blank capacity)) written

theorem length_overwritten (out room : List raw) :
    (overwritten out room).length = room.length := by
  simp only [overwritten, List.length_append, List.length_take, List.length_drop]
  omega

/-- Where nothing was written, an array still has its blank entries. -/
theorem getElem?_overwritten (blank : raw) (out : List raw) {room i : ℕ} (hi : i < room) :
    (overwritten out (.replicate room blank))[i]? = some (out.getD i blank) := by
  have written : (out.take room).length = min room out.length := List.length_take
  by_cases h : i < out.length
  · have before : i < (out.take room).length := by omega
    rw [overwritten, List.length_replicate, List.getElem?_append_left before,
      List.getElem?_take_of_lt hi, List.getD_eq_getElem?_getD, List.getElem?_eq_getElem h]
    rfl
  · have after : (out.take room).length ≤ i := by omega
    have within : i - (out.take room).length < room - out.length := by omega
    rw [overwritten, List.length_replicate, List.getElem?_append_right after, List.drop_replicate,
      List.getElem?_replicate, if_pos within, List.getD_eq_getElem?_getD,
      List.getElem?_eq_none (by omega)]
    rfl

theorem not_negative {capacity : Int32} (h : 0 ≤ capacity.toInt) : ¬capacity < 0 := by
  rw [Int32.lt_iff_toInt_lt]
  exact Int.not_lt.2 h

theorem cut?_eq {array : List raw} {capacity : Int32} (written : Int32)
    (length : (array.length : Int) = capacity.toInt) :
    cut? array written =
      some (array.take (min written.toNatClampNeg capacity.toNatClampNeg)) := by
  -- The array is no longer than native lengths go, so its length does not wrap.
  have high : Int32.ofNat array.length = capacity := by
    rw [← Int32.ofInt_eq_ofNat, length, Int32.ofInt_toInt]
  have zero : (0 : Int32).toInt = 0 := rfl
  have kept : (if written < 0 then 0
      else if capacity < written then capacity else written).toNatClampNeg =
      min written.toNatClampNeg capacity.toNatClampNeg := by
    simp only [Int32.lt_iff_toInt_lt, Int32.toNatClampNeg]
    split_ifs <;> omega
  rw [cut?, clamped?, high, if_neg (not_negative (by omega)), Option.map_some, kept]

/-- In a room that is not negative nothing panics. -/
theorem filled?_eq (blank : raw) (out : List raw) {capacity : Int32} (written : Int32)
    (h : 0 ≤ capacity.toInt) :
    filled? blank out capacity written = some (filled blank out capacity written) := by
  have made : room? blank capacity = some (.replicate capacity.toNatClampNeg blank) :=
    if_neg (not_negative h)
  have length : ((overwritten out (.replicate capacity.toNatClampNeg blank)).length : Int) =
      capacity.toInt := by
    rw [length_overwritten, List.length_replicate, Int32.toNatClampNeg]
    omega
  have kept : (overwritten out (.replicate capacity.toNatClampNeg blank)).take
      (min written.toNatClampNeg capacity.toNatClampNeg) = filled blank out capacity written := by
    refine List.ext_getElem? fun i => ?_
    by_cases hi : i < min written.toNatClampNeg capacity.toNatClampNeg
    · rw [List.getElem?_take_of_lt hi, getElem?_overwritten blank out (by omega), filled,
        List.getElem?_map, List.getElem?_range hi]
      rfl
    · rw [List.getElem?_take_eq_none (by omega), filled, List.getElem?_eq_none (by simp; omega)]
  calc filled? blank out capacity written
      = cut? (overwritten out (.replicate capacity.toNatClampNeg blank)) written := by
        rw [filled?, made]
        rfl
    _ = some (filled blank out capacity written) := by rw [cut?_eq written length, kept]

/-- More is said to be written than there is room for, and less was. -/
example : filled? 0 [1, 2] 3 7 = some [1, 2, 0] := rfl

theorem length_filled (blank : raw) (out : List raw) {capacity : Int32} (written : Int32)
    (h : 0 ≤ capacity.toInt) :
    ((filled blank out capacity written).length : Int) =
      max 0 (min written.toInt capacity.toInt) := by
  simp only [filled, List.length_map, List.length_range, Int32.toNatClampNeg]
  omega

theorem get_filled (blank : raw) (out : List raw) (capacity written : Int32) (i : ℕ)
    (hi : i < (filled blank out capacity written).length) :
    (filled blank out capacity written).get ⟨i, hi⟩ = out.getD i blank := by
  simp [filled]

/-! ### Reading an array -/

/-- An array that a joystick has, by the type of its entries and that of their values. -/
inductive Feature : Type → Type → Type where
  | axes : Feature Float32 Float32
  | buttons : Feature UInt8 Action

namespace Feature

def run (native : Backend) (j : Joystick) : Feature raw α → Attempt (List α)
  | .axes => j.axes native
  | .buttons => j.buttons native

def op (code : Int32) : Feature raw α → LibraryOp
  | .axes => .joystickAxes code
  | .buttons => .joystickButtons code

def answer : Feature raw α → List α → Answer
  | .axes => .singles
  | .buttons => .names ∘ List.map Action.name

/-- The call that asks for the length. -/
def lengthCall (j : Joystick) : Feature raw α → Call
  | .axes => .getJoystickParam j.code Param.axes.code
  | .buttons => .getJoystickParam j.code Param.buttons.code

/-- The call that writes the array. -/
def arrayCall (j : Joystick) (capacity : Int32) : Feature raw α → Call
  | .axes => .getJoystickAxes j.code capacity
  | .buttons => .getJoystickButtons j.code capacity

def blank : Feature raw α → raw
  | .axes | .buttons => 0

/-- What was written to the array. -/
def content (reply : Reply) : Feature raw α → List raw
  | .axes => reply.outAxes
  | .buttons => reply.outBytes

def value : Feature raw α → raw → α
  | .axes => id
  | .buttons => Action.ofButtonByte

/-- The value that an entry of the array stands for. An axis at which nothing was written is at 0, and
such a button is released. -/
def Holds (reply : Reply) (i : ℕ) : Feature raw α → α → Prop
  | .axes, position => position = reply.outAxes[i]?.getD 0
  | .buttons, action =>
    (action = .press ↔ reply.outBytes[i]? = some 1) ∧
    (action = .release ↔ reply.outBytes[i]? ≠ some 1)

variable {f : Feature raw α} {j : Joystick}

theorem holds_value (f : Feature raw α) (reply : Reply) (i : ℕ) :
    f.Holds reply i (f.value ((f.content reply).getD i f.blank)) := by
  cases f with
  | axes => exact List.getD_eq_getElem?_getD
  | buttons =>
    have zero : (0 : UInt8) ≠ 1 := by decide
    simp only [Holds, value, content, blank, List.getD_eq_getElem?_getD]
    cases reply.outBytes[i]? with
    | none => simp [Action.ofButtonByte, zero]
    | some byte => by_cases one : byte = 1 <;> simp [Action.ofButtonByte, one]

/-- The length to make room for. -/
def roomFor (count : Int32) : Int32 :=
  if count < 0 then 0 else count

theorem toInt_roomFor (count : Int32) : (roomFor count).toInt = max count.toInt 0 := by
  have zero : (0 : Int32).toInt = 0 := rfl
  simp only [roomFor, Int32.lt_iff_toInt_lt]
  split_ifs <;> omega

/-- The length is asked for before the array is, with room for as many entries. -/
def dialogue (f : Feature raw α) (j : Joystick) : Dialogue (List α) :=
  .ask (f.lengthCall j) fun count =>
  .ask (f.arrayCall j (roomFor count.value)) fun array =>
  .done (.ok ((filled f.blank (f.content array) (roomFor count.value) array.value).map f.value))

theorem run_eq (native : Backend) (f : Feature raw α) (j : Joystick) :
    f.run native j = (f.dialogue j).run native := by
  cases f with
  | axes =>
    simp only [run, Joystick.axes, capacity, getParam, dialogue, Dialogue.run, bind_assoc, pure_bind,
      value, List.map_id]
    rfl
  | buttons =>
    simp only [run, Joystick.buttons, capacity, getParam, dialogue, Dialogue.run, bind_assoc,
      pure_bind]
    rfl

/-- The calls that come of reading an array, and the outcome: an error ends it with the call that
reported it, and otherwise the entries are those within the room that are said to be written. -/
inductive Fetches (f : Feature raw α) (j : Joystick) :
    List Exchange → Except Error (List α) → Prop where
  | unknown {count : Exchange} {e : Error} (asked : count.call = f.lengthCall j)
      (reported : count.error? = some e) : Fetches f j [count] (.error e)
  | unread {count array : Exchange} {capacity : Int32} {e : Error}
      (asked : count.call = f.lengthCall j) (known : count.error? = none)
      (room : capacity.toInt = max count.reply.value.toInt 0)
      (fetched : array.call = f.arrayCall j capacity)
      (reported : array.error? = some e) : Fetches f j [count, array] (.error e)
  | read {count array : Exchange} {capacity : Int32} {entries : List raw} {values : List α}
      (asked : count.call = f.lengthCall j) (known : count.error? = none)
      (room : capacity.toInt = max count.reply.value.toInt 0)
      (fetched : array.call = f.arrayCall j capacity) (silent : array.error? = none)
      (kept : filled? f.blank (f.content array.reply) capacity array.reply.value = some entries)
      (valued : values = entries.map f.value)
      (length : (values.length : Int) = max 0 (min array.reply.value.toInt capacity.toInt))
      (holds : ∀ i (hi : i < values.length), f.Holds array.reply i (values.get ⟨i, hi⟩)) :
      Fetches f j [count, array] (.ok values)

theorem Fetches.of_unfolds {xs : List Exchange} {outcome : Except Error (List α)}
    (h : (f.dialogue j).Unfolds xs outcome) : f.Fetches j xs outcome := by
  rw [dialogue] at h
  cases h with
  | failed asked _ reported => exact .unknown asked reported
  | @went _ _ count _ _ asked _ known rest =>
    have room := toInt_roomFor count.reply.value
    cases rest with
    | failed fetched _ reported => exact .unread asked known room fetched reported
    | @went _ _ array _ _ fetched _ silent rest =>
      cases rest
      have positive : 0 ≤ (roomFor count.reply.value).toInt := by omega
      refine .read asked known room fetched silent (filled?_eq _ _ _ positive) rfl ?_ fun i hi => ?_
      · rw [List.length_map]
        exact length_filled _ _ _ positive
      · have same := get_filled f.blank (f.content array.reply) (roomFor count.reply.value)
          array.reply.value i (by simpa using hi)
        rw [List.get_eq_getElem] at same ⊢
        rw [List.getElem_map, same]
        exact f.holds_value array.reply i

/-- What a step that reads an array comes to. -/
def Reports (f : Feature raw α) (outcome : Except Error (List α)) (o : Outcome) : Prop :=
  match outcome with
  | .ok values => o = .answered (f.answer values)
  | .error e => o = .failed e

theorem reports_answering (f : Feature raw α) (m : Attempt (List α)) :
    f.Reports (result m.run p) (result (answering f.answer m) p) := by
  rw [answering, result_bind]
  cases result m.run p <;> rfl

theorem runOp_reports (native : Backend) {slot : ℕ} (h : (occupant p.tables.libraries slot).isSome)
    (f : Feature raw α) (j : Joystick) :
    f.Reports (result (f.run native j).run p)
      (result (runOp native (.library slot (f.op j.code))) p) := by
  have named : Coded.ofCode? Joystick j.code = some j := Coded.ofCode?_eq_some_iff.2 rfl
  obtain ⟨library, there⟩ := Option.isSome_iff_exists.1 h
  have answers : result (runOp native (.library slot (f.op j.code))) p =
      result (answering f.answer (f.run native j)) p := by
    cases f <;> simp [runOp, runLibrary, there, op, operateLibrary, withJoystick, named, answer, run]
  rw [answers]
  exact f.reports_answering _

end Feature

end Joystick

/-- Client code runs while no handler waits for events. To read the axes or the buttons of a joystick,
room is made for as many as there are said to be, none if that is negative, and the array is only asked
for if the length was told without an error. Whatever lengths the native library gives and whatever it
writes, nothing panics; without an error there are as many values as were said to be written, but no
more than there is room for, and each is what was written in its place. -/
theorem joystick_array_within_room (depth : Nat) (p : Process) (hr : p.current ∈ p.running)
    (hd : Deaf p) {raw α : Type} (f : Joystick.Feature raw α) (j : Joystick) :
    let m := (f.run (backend depth) j).run
    (∃ xs : List Exchange, (∀ x ∈ xs, x.Plain) ∧ during m p = xs.flatMap Exchange.entries ∧
      f.Fetches j xs (result m p)) ∧
    ∀ slot, (occupant p.tables.libraries slot).isSome →
      f.Reports (result m p) (result (runOp (backend depth) (.library slot (f.op j.code))) p) := by
  intro m
  obtain ⟨xs, unfolds, left⟩ := (f.dialogue j).run_unfolds depth hr hd
  rw [← Joystick.Feature.run_eq] at unfolds left
  refine ⟨⟨xs, unfolds.plain, left.during_eq, .of_unfolds unfolds⟩, fun slot h =>
    f.runOp_reports _ h j⟩

/-- A thread whose next joystick says that it wrote more buttons than it did, and than it has. -/
def overstated : Process where
  running := [0]
  errorCallback := true
  threads := ⟨[(0, { tables := { libraries := [some {}] } })]⟩
  scripts := [⟨[("glfwGetJoystickParam", [{ value := 3 }]),
    ("glfwGetJoystickButtons", [{ value := 7, outBytes := [1, 2] }])]⟩]

theorem joystick_array_within_room_overstated : overstated.current ∈ overstated.running ∧
    Deaf overstated ∧
    (∃ xs, Joystick.Feature.buttons.Fetches .joystick1 xs (.ok [.press, .release, .release])) ∧
    result (runOp (backend 1) (.library 0 (.joystickButtons 0))) overstated =
      .answered (.names ["Press", "Release", "Release"]) := by
  have read : result ((Joystick.buttons (backend 1) .joystick1).run) overstated =
      .ok [.press, .release, .release] := by decide +kernel
  obtain ⟨⟨xs, -, -, fetches⟩, reports⟩ :=
    joystick_array_within_room 1 overstated (by decide) rfl .buttons .joystick1
  have answers := reports 0 rfl
  simp only [Joystick.Feature.run, read] at fetches answers
  exact ⟨by decide, rfl, ⟨xs, fetches⟩, answers⟩

end Windowing
