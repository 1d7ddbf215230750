/-!
Text that crosses the native boundary. It goes out as UTF-8 bytes and must not contain the
terminator; it comes back as bytes that end at the first terminator and need not be well formed, so
each maximal ill-formed part is read as one replacement character.
-/

namespace Windowing.Text

abbrev Bytes := List UInt8

def encode (s : String) : Bytes :=
  s.toList.flatMap String.utf8EncodeChar

def replacement : Char := '\uFFFD'

/-- The bytes that may follow a leading byte of a three- or four-byte sequence. -/
def secondAllowed (lead second : UInt8) : Bool :=
  if lead = 0xE0 then 0xA0 ≤ second && second ≤ 0xBF
  else if lead = 0xED then 0x80 ≤ second && second ≤ 0x9F
  else if lead = 0xF0 then 0x90 ≤ second && second ≤ 0xBF
  else if lead = 0xF4 then 0x80 ≤ second && second ≤ 0x8F
  else 0xE1 ≤ lead && lead ≤ 0xF3 && 0x80 ≤ second && second ≤ 0xBF

/-- How many bytes after the leading one still belong to an ill-formed sequence: those that begin
some well-formed one. -/
def truncatedTail (lead : UInt8) : Bytes → Nat
  | [] => 0
  | [second] => if secondAllowed lead second then 1 else 0
  | second :: third :: _ =>
    if secondAllowed lead second then
      if 0xF0 ≤ lead && 0x80 ≤ third && third ≤ 0xBF then 2 else 1
    else 0

def decodeChars : Bytes → List Char
  | [] => []
  | lead :: rest =>
    match (lead :: rest.take 3).toByteArray.utf8DecodeChar? 0 with
    | some c => c :: decodeChars (rest.drop (c.utf8Size - 1))
    | none => replacement :: decodeChars (rest.drop (truncatedTail lead rest))
  termination_by bytes => bytes.length
  decreasing_by all_goals simp only [List.length_drop, List.length_cons]; omega

def decode (bytes : Bytes) : String :=
  String.ofList (decodeChars bytes)

theorem decodeChars_utf8EncodeChar_append (c : Char) (rest : Bytes) :
    decodeChars (String.utf8EncodeChar c ++ rest) = c :: decodeChars rest := by
  have hlen : (String.utf8EncodeChar c).length = c.utf8Size := String.length_utf8EncodeChar c
  have hpos := c.utf8Size_pos
  have hle := c.utf8Size_le_four
  cases he : String.utf8EncodeChar c with
  | nil =>
    simp only [he, List.length_nil] at hlen
    omega
  | cons lead tail =>
    have htail : tail.length = c.utf8Size - 1 := by
      simp only [he, List.length_cons] at hlen
      omega
    have hdecode : (lead :: (tail ++ rest).take 3).toByteArray.utf8DecodeChar? 0 = some c := by
      have hsplit : lead :: (tail ++ rest).take 3
          = String.utf8EncodeChar c ++ rest.take (3 - tail.length) := by
        rw [he, List.take_append, List.take_of_length_le (by omega), List.cons_append]
      rw [hsplit, List.toByteArray_append]
      exact ByteArray.utf8DecodeChar?_utf8EncodeChar_append
    rw [List.cons_append, decodeChars, hdecode]
    simp [← htail]

@[simp] theorem decode_encode (s : String) : decode (encode s) = s := by
  have h : ∀ cs : List Char, decodeChars (cs.flatMap String.utf8EncodeChar) = cs := by
    intro cs
    induction cs with
    | nil => simp [decodeChars]
    | cons c cs ih => rw [List.flatMap_cons, decodeChars_utf8EncodeChar_append, ih]
  simp [decode, encode, h]

/-- What a reader of terminated text sees of the bytes. -/
def untilNul (bytes : Bytes) : Bytes :=
  bytes.takeWhile (· ≠ 0)

def read (bytes : Bytes) : String :=
  decode (untilNul bytes)

/-- The bytes to hand over, or the offset of the first terminator among them. -/
def terminable? (s : String) : Except Nat Bytes :=
  let bytes := encode s
  if bytes.contains 0 then .error (bytes.takeWhile (· ≠ 0)).length else .ok bytes

end Windowing.Text
