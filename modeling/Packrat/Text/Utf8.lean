import Packrat.Text.CharSet

/-! Sets of characters as byte sequences. A sequence of byte ranges stands for the byte
strings that take one byte from each range in turn; the sequences of a set are in order,
no two of them overlap, and together they are the encoded members of the set. -/
namespace Packrat.Utf8

abbrev Span := Nat × Nat

/-- The numbers from `lo` to `hi`, written as one leading digit and `k` further ones in
base 64, as digit ranges. Whole blocks in the middle are one sequence; what is cut off
a block at either end is written out on its own. -/
def digitSpans : Nat → Nat → Nat → List (List Span)
  | 0, lo, hi => [[(lo, hi)]]
  | k + 1, lo, hi =>
    let block := 64 ^ (k + 1)
    let a := lo / block
    let b := hi / block
    if a = b then (digitSpans k (lo % block) (hi % block)).map ((a, a) :: ·)
    else
      let whole := if lo % block = 0 then a else a + 1
      let stop := if hi % block = block - 1 then b else b - 1
      let front :=
        if whole = a then [] else (digitSpans k (lo % block) (block - 1)).map ((a, a) :: ·)
      let back := if stop = b then [] else (digitSpans k 0 (hi % block)).map ((b, b) :: ·)
      let middle := if whole ≤ stop then [(whole, stop) :: List.replicate (k + 1) (0, 63)] else []
      front ++ middle ++ back

structure Zone where
  first : Nat
  last : Nat
  following : Nat
  mark : Nat
  deriving DecidableEq, Repr

def zones : List Zone :=
  [⟨0, 0x7F, 0, 0⟩, ⟨0x80, 0x7FF, 1, 0xC0⟩, ⟨0x800, 0xD7FF, 2, 0xE0⟩, ⟨0xE000, 0xFFFF, 2, 0xE0⟩,
    ⟨0x10000, 0x10FFFF, 3, 0xF0⟩]

def Zone.bytes (z : Zone) : List Span → List Span
  | [] => []
  | (a, b) :: rest => (z.mark + a, z.mark + b) :: rest.map fun r => (0x80 + r.1, 0x80 + r.2)

def Zone.sequences (z : Zone) (lo hi : Nat) : List (List Span) :=
  if max lo z.first ≤ min hi z.last then
    (digitSpans z.following (max lo z.first) (min hi z.last)).map z.bytes
  else []

def sequences (s : CharSet) : List (List Span) :=
  s.ranges.flatMap fun r => zones.flatMap fun z => z.sequences r.1 r.2

end Packrat.Utf8
