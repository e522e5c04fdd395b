/-! Places in a text: byte offsets, half-open ranges of them, and lines and columns.
Offsets held in a range fit in 32 bits; larger ones become the largest. -/
namespace Packrat

def maxOffset : Nat := 4294967295

def clampOffset (n : Nat) : Nat := min n maxOffset

theorem clampOffsetWithin {n : Nat} (h : n ≤ maxOffset) : clampOffset n = n :=
  Nat.min_eq_left h

structure TextRange where
  start : Nat
  stop : Nat
  deriving DecidableEq, Repr, Inhabited

namespace TextRange

def ofOffsets (start stop : Nat) : TextRange := ⟨clampOffset start, clampOffset stop⟩

def point (offset : Nat) : TextRange := ⟨clampOffset offset, clampOffset offset⟩

def length (r : TextRange) : Nat := r.stop - r.start

def isEmpty (r : TextRange) : Bool := r.start == r.stop

def contains (r : TextRange) (offset : Nat) : Bool := r.start ≤ offset && offset < r.stop

def cover (r s : TextRange) : TextRange := ⟨min r.start s.start, max r.stop s.stop⟩

def render (r : TextRange) : String := toString r.start ++ ".." ++ toString r.stop

end TextRange

structure LineCol where
  line : Nat
  column : Nat
  deriving DecidableEq, Repr

namespace LineCol

def first : LineCol := ⟨1, 0⟩

instance : Inhabited LineCol := ⟨first⟩

def render (p : LineCol) : String := toString p.line ++ ":" ++ toString p.column

end LineCol

structure Location where
  start : LineCol
  stop : LineCol
  deriving DecidableEq, Repr, Inhabited

def Location.point (p : LineCol) : Location := ⟨p, p⟩

end Packrat
