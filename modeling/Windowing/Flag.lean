/-!
Native booleans: 1 is true and 0 is false when written, and only 1 is true when read.
-/

namespace Windowing.Flag

def code (b : Bool) : Int32 :=
  if b then 1 else 0

def isSet (v : Int32) : Bool :=
  v == 1

@[simp] theorem isSet_code (b : Bool) : isSet (code b) = b := by
  cases b <;> rfl

end Windowing.Flag
