import Packrat.Text.Alphabet
import Packrat.Text.Letter

/-! Hints for syntax errors: a missing closing delimiter, or the expected text that is
closest to what was found. Closeness is edit distance relative to the longer text. -/
namespace Packrat

/-- The two rows that are kept of the edit distance table. A row has a cell for each beginning of the second
text, of `width` characters. `above` is finished; `under` is written over what is left of the row before it. -/
structure EditRows (width : Nat) where
  above : Vector Nat (width + 1)
  under : Vector Nat (width + 1)
  deriving DecidableEq, Repr

namespace EditRows

def first (width : Nat) : EditRows width := ⟨.range (width + 1), .replicate (width + 1) 0⟩

def fill {width : Nat} (a : Char) : (rest : List Char) → (column : Nat) → column + rest.length = width →
    EditRows width → EditRows width
  | [], _, _, rows => rows
  | b :: rest, column, fits, rows =>
    have fits : column + 1 + rest.length = width := by simp only [List.length_cons] at fits; omega
    let cell := min (min (rows.above[column + 1] + 1) (rows.under[column] + 1))
      (rows.above[column] + if a = b then 0 else 1)
    fill a rest (column + 1) fits { rows with under := rows.under.set (column + 1) cell }

def pass (target : List Char) (i : Nat) (a : Char) (rows : EditRows target.length) : EditRows target.length :=
  let filled := fill a target 0 (Nat.zero_add _) { rows with under := rows.under.set 0 (i + 1) }
  ⟨filled.under, filled.above⟩

def passAll (target : List Char) : List Char → Nat → EditRows target.length → EditRows target.length
  | [], _, rows => rows
  | a :: rest, i, rows => passAll target rest (i + 1) (pass target i a rows)

end EditRows

def editDistance (source target : List Char) : Nat :=
  (EditRows.passAll target source 0 (.first target.length)).above[target.length]

structure Distance where
  edits : Nat
  outOf : Nat
  deriving DecidableEq, Repr

namespace Distance

def between (a b : List Char) : Distance :=
  let longer := max a.length b.length
  if longer = 0 then ⟨0, 1⟩ else ⟨editDistance a b, longer⟩

def isClose (d : Distance) : Bool := 5 * d.edits ≤ 2 * d.outOf

def closerThan (d e : Distance) : Bool := d.edits * e.outOf < e.edits * d.outOf

end Distance

def closest (actual : String) (candidates : List String) : Option String :=
  let plain := Letter.lower actual.toList
  let measured := candidates.map fun c => (c, Distance.between plain (Letter.lower c.toList))
  let close := measured.filter fun m => m.2.isClose && m.1 != actual
  let best := close.foldl (fun (best : Option (String × Distance)) m =>
    match best with
    | some b => if m.2.closerThan b.2 then some m else some b
    | none => some m) none
  best.map (·.1)

def closers : List (String × String) :=
  [("\x7d", "missing closing brace '\x7d'"),
    (")", "missing closing parenthesis ')'"),
    ("]", "missing closing bracket ']'"),
    (";", "missing semicolon ';'")]

def suggestFix (expected : List String) (found : Option String) : Option String :=
  match closers.find? fun c => expected.contains c.1 && found != some c.1 with
  | some c => some c.2
  | none =>
    found.bind fun text =>
      if text.toList.any Alphabet.isAlphanumeric then
        (closest text expected).map fun s => "did you mean '" ++ s ++ "'?"
      else none

end Packrat
