import Windowing.PendingError

/-!
Terminators in text. The bytes of a text contain the terminator exactly when the text contains the
character U+0000, and the first of them comes after the bytes of the characters before it. So whether
a text may be handed over, and which offset is named if not, can be said of its characters.
-/

namespace Windowing.Text

theorem mem_utf8EncodeChar_iff (c : Char) : 0 ∈ String.utf8EncodeChar c ↔ c = '\x00' := by
  have code : c = '\x00' ↔ c.val.toNat = 0 := by
    rw [Char.ext_iff, ← UInt32.toNat_inj]
    rfl
  rw [code]
  unfold String.utf8EncodeChar
  dsimp only
  -- Of more than one byte each is at least 128.
  repeat' split
  all_goals
    simp only [List.mem_cons, List.not_mem_nil, or_false, ← UInt8.toNat_inj, UInt8.toNat_ofNat',
      UInt8.toNat_zero]
    omega

theorem utf8EncodeChar_nul : String.utf8EncodeChar '\x00' = [0] := rfl

/-- The bytes before the first terminator are those of the characters before it. -/
theorem takeWhile_flatMap_utf8EncodeChar (cs : List Char) :
    (cs.flatMap String.utf8EncodeChar).takeWhile (· ≠ 0) =
      (cs.takeWhile (· ≠ '\x00')).flatMap String.utf8EncodeChar := by
  induction cs with
  | nil => rfl
  | cons c cs ih =>
    rw [List.flatMap_cons, List.takeWhile_cons]
    by_cases nul : c = '\x00'
    · subst nul
      simp [utf8EncodeChar_nul]
    · have plain : ∀ b ∈ String.utf8EncodeChar c, decide (b ≠ 0) = true := fun b hb => by
        rw [decide_eq_true_iff]
        rintro rfl
        exact nul ((mem_utf8EncodeChar_iff c).1 hb)
      rw [List.takeWhile_append_of_pos plain, ih]
      simp [nul]

theorem zero_mem_encode_iff (s : String) : 0 ∈ encode s ↔ '\x00' ∈ s.toList := by
  simp [encode, mem_utf8EncodeChar_iff]

/-- The bytes to hand over are those of the text. -/
theorem encode_eq (s : String) : encode s = s.toUTF8.data.toList := by
  have bytes : (String.ofList s.toList).toByteArray =
      (s.toList.flatMap String.utf8EncodeChar).toByteArray := rfl
  rw [String.ofList_toList] at bytes
  rw [String.toUTF8_eq_toByteArray, bytes, List.data_toByteArray, encode]

/-- At which byte the first character U+0000 of a text begins. -/
def nulOffset? (s : String) : Option Nat :=
  if '\x00' ∈ s.toList then some (String.ofList (s.toList.takeWhile (· ≠ '\x00'))).utf8ByteSize
  else none

theorem length_takeWhile_encode (s : String) : ((encode s).takeWhile (· ≠ 0)).length =
    (String.ofList (s.toList.takeWhile (· ≠ '\x00'))).utf8ByteSize := by
  have size (cs : List Char) : (String.ofList cs).utf8ByteSize =
      (cs.flatMap String.utf8EncodeChar).length := by
    have bytes := encode_eq (String.ofList cs)
    rw [encode, String.toList_ofList] at bytes
    rw [bytes]
    rfl
  rw [size, encode, takeWhile_flatMap_utf8EncodeChar]

/-- Only a text with the character U+0000 cannot be handed over. -/
theorem terminable?_eq (s : String) : terminable? s =
    match nulOffset? s with
    | some offset => .error offset
    | none => .ok s.toUTF8.data.toList := by
  unfold terminable? nulOffset?
  by_cases nul : '\x00' ∈ s.toList
  · have found : (encode s).contains 0 = true := by
      simpa using (zero_mem_encode_iff s).2 nul
    simp only [found, nul, if_true, length_takeWhile_encode]
  · have absent : ¬(encode s).contains 0 = true := by
      simpa using mt (zero_mem_encode_iff s).1 nul
    simp only [absent, nul, if_false, ← encode_eq]
    rfl

end Windowing.Text
