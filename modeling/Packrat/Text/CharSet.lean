/-! Sets of characters as sorted code point ranges that neither overlap nor touch.
Every operation keeps that form, so equal sets have equal ranges. -/
namespace Packrat

structure CharSet where
  ranges : List (Nat × Nat)
  deriving DecidableEq, Repr, Inhabited

namespace CharSet

def top : Nat := 0x10FFFF

def empty : CharSet := ⟨[]⟩

def all : CharSet := ⟨[(0, top)]⟩

def pairs : List Nat → List (Nat × Nat)
  | a :: b :: rest => (a, b - 1) :: pairs rest
  | _ => []

def ofBounds (bounds : List Nat) : CharSet := ⟨pairs bounds⟩

def hasCode (s : CharSet) (n : Nat) : Bool :=
  s.ranges.any fun r => r.1 ≤ n && n ≤ r.2

def contains (s : CharSet) (c : Char) : Bool := s.hasCode c.toNat

def insertRange : List (Nat × Nat) → Nat → Nat → List (Nat × Nat)
  | [], lo, hi => [(lo, hi)]
  | (a, b) :: rest, lo, hi =>
    if hi + 1 < a then (lo, hi) :: (a, b) :: rest
    else if b + 1 < lo then (a, b) :: insertRange rest lo hi
    else insertRange rest (min a lo) (max b hi)

def addRange (s : CharSet) (lo hi : Nat) : CharSet := ⟨insertRange s.ranges lo hi⟩

def single (c : Char) : CharSet := ⟨[(c.toNat, c.toNat)]⟩

def coalesce (lo hi : Nat) : List (Nat × Nat) → List (Nat × Nat)
  | [] => [(lo, hi)]
  | (a, b) :: rest =>
    if a ≤ hi + 1 then coalesce lo (max hi b) rest else (lo, hi) :: coalesce a b rest

def ofSorted : List (Nat × Nat) → CharSet
  | [] => empty
  | (a, b) :: rest => ⟨coalesce a b rest⟩

def ofRanges (ranges : List (Nat × Nat)) : CharSet :=
  ofSorted (ranges.mergeSort fun r q => r.1 ≤ q.1)

def union (s t : CharSet) : CharSet :=
  ofSorted (s.ranges.merge t.ranges fun r q => r.1 ≤ q.1)

def unions (sets : List CharSet) : CharSet := ofRanges (sets.flatMap ranges)

def after (n : Nat) : Nat := if n = 0xD7FF then 0xE000 else n + 1

def before (n : Nat) : Nat := if n = 0xE000 then 0xD7FF else n - 1

def gaps : Nat → List (Nat × Nat) → List (Nat × Nat)
  | next, [] => if next ≤ top then [(next, top)] else []
  | next, (a, b) :: rest =>
    if next < a then (next, before a) :: gaps (after b) rest else gaps (after b) rest

def compl (s : CharSet) : CharSet := ⟨gaps 0 s.ranges⟩

def inter (s t : CharSet) : CharSet := (s.compl.union t.compl).compl

def diff (s t : CharSet) : CharSet := s.inter t.compl

def symmDiff (s t : CharSet) : CharSet := (s.diff t).union (t.diff s)

def only? (s : CharSet) : Option Char :=
  match s.ranges with
  | [(a, b)] => if a = b then some (Char.ofNat a) else none
  | _ => none

end CharSet
end Packrat
