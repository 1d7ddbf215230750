/-!
Lower-case hexadecimal text of machine words: `0x` and the digits without leading zeros. A signed
word is written by its two's complement, so `-1` is `0xffffffff`.
-/

namespace Windowing.Number

def hexDigits (n : Nat) : String :=
  String.ofList (Nat.toDigits 16 n)

def hex (n : Nat) : String :=
  "0x" ++ hexDigits n

def hexWord (v : Int32) : String :=
  hex v.toUInt32.toNat

end Windowing.Number
