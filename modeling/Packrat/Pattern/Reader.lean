import Packrat.Pattern.Class
import Packrat.Pattern.Footprint

/-! Reading a written pattern. Groups are kept on a stack while the text is read once
from left to right; a directive such as `(?i)` lasts to the end of its group. -/
namespace Packrat.Pattern

def readCount (f : Flags) (text : List Char) : Except Fault (Option Nat × List Char) :=
  let (digits, rest) := f.takeWhile isDigit (text.dropWhile Alphabet.blank.contains)
  let rest := rest.dropWhile Alphabet.blank.contains
  if digits.isEmpty then .ok (none, rest)
  else
    let n := digits.foldl (fun n c => n * 10 + (c.toNat - 48)) 0
    if n < 4294967296 then .ok (some n, rest) else .error .count

def readBounds (f : Flags) (text : List Char) : Except Fault (Nat × Option Nat × List Char) := do
  let (least, rest) ← readCount f text
  let (least, most, rest) ←
    match least, rest with
    | some n, ',' :: tail =>
      match f.skip tail with
      | '\x7d' :: tail => pure (n, none, '\x7d' :: tail)
      | tail => do
        let (most, tail) ← readCount f tail
        match most with
        | some m => pure (n, some m, tail)
        | none => throw Fault.count
    | some n, tail => pure (n, some n, tail)
    | none, _ => throw Fault.count
  match rest with
  | '\x7d' :: tail =>
    if most.all (least ≤ ·) then pure (least, most, f.skip tail) else throw Fault.count
  | _ => throw Fault.count

def readFlags : List Char → Bool → List Char → Flags → Except Fault (Flags × List Char)
  | [], _, _, _ => .error .flag
  | c :: rest, off, seen, f =>
    if c == ':' || c == ')' then
      if seen.head? == some '-' then .error .flag else .ok (f, c :: rest)
    else if seen.contains c then .error .flag
    else if c == '-' then readFlags rest true ('-' :: seen) f
    else if c == 'i' then readFlags rest off (c :: seen) { f with caseless := !off }
    else if c == 'm' then readFlags rest off (c :: seen) { f with multiLine := !off }
    else if c == 's' then readFlags rest off (c :: seen) { f with dotAll := !off }
    else if c == 'U' then readFlags rest off (c :: seen) { f with lazyFirst := !off }
    else if c == 'x' then readFlags rest off (c :: seen) { f with spaced := !off }
    else if c == 'R' then readFlags rest off (c :: seen) { f with returns := !off }
    else if c == 'u' then readFlags rest off (c :: seen) { f with ascii := off }
    else .error .flag

structure Item where
  expr : Option Expr
  depth : Nat
  deriving Repr

structure Group where
  index : Option Nat
  outer : Flags
  branches : List (Expr × Nat) := []
  items : List Item := []
  deriving Repr

def deepest (depths : List Nat) : Nat := depths.foldl max 0

def Group.current (g : Group) : Expr × Nat :=
  let depth := deepest (g.items.map Item.depth)
  (.sequence (g.items.reverse.filterMap Item.expr), if 1 < g.items.length then depth + 1 else depth)

def Group.expr (g : Group) : Expr :=
  let body := Expr.choice ((g.current :: g.branches).reverse.map Prod.fst)
  match g.index with
  | some i => .capture i body
  | none => body

def Group.depth (g : Group) : Nat :=
  match g.branches with
  | [] => g.current.2
  | branches => deepest (g.current.2 :: branches.map Prod.snd) + 1

def Group.push (g : Group) (e : Expr) (depth : Nat) : Group :=
  { g with items := ⟨some e, depth⟩ :: g.items }

def Group.nextBranch (g : Group) : Group :=
  { g with branches := g.current :: g.branches, items := [] }

def Group.repeatLast (g : Group) (least : Nat) (most : Option Nat) (greedy : Bool) :
    Except Fault Group :=
  match g.items with
  | ⟨some e, depth⟩ :: rest =>
    .ok { g with items := ⟨some (.repetition least most greedy e), depth + 1⟩ :: rest }
  | _ => .error .nothingToRepeat

structure Reading where
  flags : Flags := {}
  group : Group := ⟨none, {}, [], []⟩
  around : List Group := []
  captures : Nat := 0
  names : List String := []

def Reading.push (r : Reading) (e : Expr) (depth : Nat) : Reading :=
  { r with group := r.group.push e depth }

def Reading.openGroup (r : Reading) (index : Option Nat) (inner : Flags) : Reading :=
  { r with flags := inner, group := ⟨index, r.flags, [], []⟩, around := r.group :: r.around }

def Reading.openCapture (r : Reading) : Reading :=
  let r := { r with captures := r.captures + 1 }
  r.openGroup (some r.captures) r.flags

def Reading.repeatLast (r : Reading) (least : Nat) (most : Option Nat) (rest : List Char) :
    Except Fault (Reading × List Char) := do
  let (turned, rest) := match rest with | '?' :: tail => (true, tail) | _ => (false, rest)
  let group ← r.group.repeatLast least most (turned == r.flags.lazyFirst)
  pure ({ r with group := group }, rest)

def isNameStart (c : Char) : Bool := c == '_' || Alphabet.alphabetic.contains c

def isNamePart (c : Char) : Bool :=
  c == '_' || c == '.' || c == '[' || c == ']' || Alphabet.isAlphanumeric c

def Reading.openNamed (r : Reading) (text : List Char) : Except Fault (Reading × List Char) :=
  let name := text.takeWhile (· != '>')
  match name, text.dropWhile (· != '>') with
  | c :: more, _ :: rest =>
    let s := String.ofList name
    if isNameStart c && more.all isNamePart && !r.names.contains s then
      .ok (({ r with names := s :: r.names } : Reading).openCapture, rest)
    else .error .groupName
  | _, _ => .error .groupName

def Reading.openSpecial (r : Reading) (text : List Char) : Except Fault (Reading × List Char) :=
  match text with
  | '=' :: _ => .error .lookAround
  | '!' :: _ => .error .lookAround
  | '<' :: '=' :: _ => .error .lookAround
  | '<' :: '!' :: _ => .error .lookAround
  | 'P' :: '<' :: rest => r.openNamed rest
  | '<' :: rest => r.openNamed rest
  | [] => .error .groupUnclosed
  | _ => do
    let (flags, rest) ← readFlags text false [] r.flags
    match rest with
    | ':' :: tail => pure (r.openGroup none flags, tail)
    | _ :: tail =>
      if rest.length = text.length then throw Fault.nothingToRepeat
      else
        let group := { r.group with items := ⟨none, 0⟩ :: r.group.items }
        pure ({ r with flags := flags, group := group }, tail)
    | [] => throw Fault.flag

def Reading.closeGroup (r : Reading) : Except Fault Reading :=
  match r.around with
  | [] => .error .groupUnopened
  | outer :: around =>
    let group := outer.push r.group.expr (r.group.depth + 1)
    .ok { r with flags := r.group.outer, group := group, around := around }

def Flags.dot (f : Flags) : CharSet :=
  if f.dotAll then .all
  else if f.returns then ((CharSet.single '\n').union (.single '\r')).compl
  else (CharSet.single '\n').compl

def Flags.start (f : Flags) : Look :=
  if !f.multiLine then .textStart else if f.returns then .lineStartReturn else .lineStart

def Flags.stop (f : Flags) : Look :=
  if !f.multiLine then .textEnd else if f.returns then .lineEndReturn else .lineEnd

def Reading.step (r : Reading) (c : Char) (rest : List Char) : Except Fault (Reading × List Char) :=
  if c == '(' then
    match r.flags.skip rest with
    | '?' :: tail => r.openSpecial tail
    | rest => .ok (r.openCapture, rest)
  else if c == ')' then r.closeGroup.map (·, rest)
  else if c == '|' then .ok ({ r with group := r.group.nextBranch }, rest)
  else if c == '[' then
    (readClass r.flags (rest.length + 1) rest).map fun ((chars, depth), rest) =>
      (r.push (.ofSet chars) depth, rest)
  else if c == '?' then r.repeatLast 0 (some 1) rest
  else if c == '*' then r.repeatLast 0 none rest
  else if c == '+' then r.repeatLast 1 none rest
  else if c == '\x7b' then
    match r.group.items with
    | ⟨some _, _⟩ :: _ => do
      let (least, most, tail) ← readBounds r.flags rest
      r.repeatLast least most tail
    | _ => .error .nothingToRepeat
  else if c == '\x5c' then do
    let (escaped, tail) ← readEscape r.flags rest
    match escaped with
    | .char d => pure (r.push (r.flags.char d) 0, tail)
    | .set s => pure (r.push (.ofSet s) 0, tail)
    | .look what => pure (r.push (.look what) 0, tail)
  else if c == '.' then
    if r.flags.ascii then .error .asciiOnly else .ok (r.push (.ofSet r.flags.dot) 0, rest)
  else if c == '^' then
    .ok (r.push (.look r.flags.start) 0, rest)
  else if c == '$' then
    .ok (r.push (.look r.flags.stop) 0, rest)
  else .ok (r.push (r.flags.char c) 0, rest)

def readSteps : Nat → Reading → List Char → Except Fault Reading
  | 0, r, _ => .ok r
  | fuel + 1, r, text =>
    match r.flags.skip text with
    | [] => .ok r
    | c :: rest => do
      let (r, rest) ← r.step c rest
      readSteps fuel r rest

def maxDepth : Nat := 250

def read (text : List Char) : Except Fault Expr := do
  let r ← readSteps text.length {} text
  let e := r.group.expr
  if !r.around.isEmpty then throw Fault.groupUnclosed
  else if maxDepth < r.group.depth then throw Fault.tooDeep
  else if e.fits then pure e
  else throw Fault.tooLarge

end Packrat.Pattern
