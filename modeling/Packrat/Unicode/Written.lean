import Packrat.Text.CharSet
import Packrat.Text.Hex

/-! Character sets in writing: hexadecimal code points and ranges of them, parted by
blanks or line ends. A range that ends in `/2` has every second code point only, as rows
of capital and small letters do. -/
namespace Packrat.CharSet

def ofEntry (entry : List Char) : List (Nat × Nat) :=
  let range := entry.takeWhile (· != '/')
  let number := fun digits => (Hex.number? digits).getD 0
  let first := number (range.takeWhile (· != '-'))
  let last :=
    match range.dropWhile (· != '-') with
    | [] => first
    | _ :: digits => number digits
  if range.length = entry.length then [(first, last)]
  else (List.range ((last - first) / 2 + 1)).map fun i => (first + 2 * i, first + 2 * i)

def words (text : List Char) : List (List Char) :=
  let parts := text.foldr (fun c parts =>
    match parts with
    | part :: rest => if c == ' ' || c == '\n' then [] :: part :: rest else (c :: part) :: rest
    | [] => [[c]]) [[]]
  parts.filter (!·.isEmpty)

def ofWritten (text : String) : CharSet :=
  ofRanges ((words text.toList).flatMap ofEntry)

end Packrat.CharSet
