import Windowing.Attribute
import Windowing.Number.Hex

/-!
Sets of window state flags, one bit each. A set may hold bits that belong to no flag; they are kept
by the set operations and appear as a number in its text.
-/

namespace Windowing

inductive StateFlag where
  | focused | iconified | visible | resizable | decorated
  deriving DecidableEq, Repr, Inhabited

namespace StateFlag

def all : List StateFlag :=
  [.focused, .iconified, .visible, .resizable, .decorated]

def bit : StateFlag → UInt8
  | .focused => 1
  | .iconified => 2
  | .visible => 4
  | .resizable => 8
  | .decorated => 16

def name : StateFlag → String
  | .focused => "FOCUSED"
  | .iconified => "ICONIFIED"
  | .visible => "VISIBLE"
  | .resizable => "RESIZABLE"
  | .decorated => "DECORATED"

/-- The attribute from which the flag is read. -/
def attr : StateFlag → Attribute
  | .focused => .focused
  | .iconified => .iconified
  | .visible => .visible
  | .resizable => .resizable
  | .decorated => .decorated

end StateFlag

structure WindowState where
  bits : UInt8
  deriving DecidableEq, Repr, Inhabited

namespace WindowState

def empty : WindowState := ⟨0⟩

/-- Every flag, and no other bit. -/
def full : WindowState := ⟨31⟩

def union (a b : WindowState) : WindowState := ⟨a.bits ||| b.bits⟩
def inter (a b : WindowState) : WindowState := ⟨a.bits &&& b.bits⟩
def symmDiff (a b : WindowState) : WindowState := ⟨a.bits ^^^ b.bits⟩
def diff (a b : WindowState) : WindowState := ⟨a.bits &&& ~~~b.bits⟩

/-- The set without the bits that belong to no flag. -/
def truncate (s : WindowState) : WindowState := s.inter full

/-- The flags that are not in the set. -/
def compl (s : WindowState) : WindowState := truncate ⟨~~~s.bits⟩

def ofBits? (bits : UInt8) : Option WindowState :=
  if (truncate ⟨bits⟩).bits = bits then some ⟨bits⟩ else none

def contains (a b : WindowState) : Bool := (a.inter b).bits == b.bits
def intersects (a b : WindowState) : Bool := (a.inter b).bits != 0
def isEmpty (s : WindowState) : Bool := s.bits == 0

/-- Whether every flag is in the set. -/
def isFull (s : WindowState) : Bool := s.contains full

def has (s : WindowState) (f : StateFlag) : Bool := s.contains ⟨f.bit⟩

def insert (s : WindowState) (f : StateFlag) : WindowState := s.union ⟨f.bit⟩
def erase (s : WindowState) (f : StateFlag) : WindowState := s.diff ⟨f.bit⟩

def set (s : WindowState) (f : StateFlag) (on : Bool) : WindowState :=
  if on then s.insert f else s.erase f

def flags (s : WindowState) : List StateFlag :=
  StateFlag.all.filter s.has

/-- The names of the flags, then the remaining bits as a number; the empty set is a zero. -/
def text (s : WindowState) : String :=
  let rest := s.diff full
  let parts := s.flags.map StateFlag.name ++
    if rest.isEmpty then [] else [Number.hex rest.bits.toNat]
  "WindowState(" ++ (if parts.isEmpty then "0x0" else String.intercalate " | " parts) ++ ")"

end WindowState

end Windowing
