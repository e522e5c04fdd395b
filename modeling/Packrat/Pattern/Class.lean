import Packrat.Pattern.Escape

/-! Reading a class in brackets: ranges, named sets and classes within it, with the set
operators between them. Besides its characters a class has a depth, the number of
brackets, unions and operators that lie within each other. -/
namespace Packrat.Pattern

def readItem (f : Flags) (text : List Char) : Except Fault (Escaped × List Char) := do
  let (item, rest) ←
    match text with
    | [] => throw Fault.classUnclosed
    | '\x5c' :: rest => readEscape f rest
    | c :: rest => pure (Escaped.char c, rest)
  match item with
  | .char c => if f.ascii && 127 < c.toNat then throw Fault.asciiOnly else pure (item, rest)
  | _ => pure (item, rest)

def readClassPart (f : Flags) (text : List Char) : Except Fault (CharSet × List Char) := do
  let (first, rest) ← readItem f text
  let rest := f.skip rest
  let alone : Except Fault (CharSet × List Char) :=
    match first with
    | .char c => .ok (.single c, rest)
    | .set s => .ok (s, rest)
    | .look _ => .error .classItem
  match rest with
  | [] => .error .classUnclosed
  | '-' :: tail =>
    if f.peek tail == some ']' || f.peek tail == some '-' then alone
    else
      let (last, rest) ← readItem f (f.skip tail)
      match first, last with
      | .char a, .char b =>
        if a ≤ b then .ok (⟨[(a.toNat, b.toNat)]⟩, rest) else .error .classRange
      | _, _ => .error .classRange
  | _ => alone

def asciiClasses : List (String × List Nat) :=
  [("alnum", [48, 58, 65, 91, 97, 123]),
    ("alpha", [65, 91, 97, 123]),
    ("ascii", [0, 128]),
    ("blank", [9, 10, 32, 33]),
    ("cntrl", [0, 32, 127, 128]),
    ("digit", [48, 58]),
    ("graph", [33, 127]),
    ("lower", [97, 123]),
    ("print", [32, 127]),
    ("punct", [33, 48, 58, 65, 91, 97, 123, 127]),
    ("space", [9, 14, 32, 33]),
    ("upper", [65, 91]),
    ("word", [48, 58, 65, 91, 95, 96, 97, 123]),
    ("xdigit", [48, 58, 65, 71, 97, 103])]

def readNamed? (f : Flags) : List Char → Option (Except Fault CharSet × List Char)
  | ':' :: rest =>
    let (negated, rest) := match rest with | '^' :: tail => (true, tail) | _ => (false, rest)
    let name := String.ofList (rest.takeWhile (· != ':'))
    match rest.dropWhile (· != ':') with
    | ':' :: ']' :: tail =>
      (asciiClasses.find? (·.1 == name)).map fun entry =>
        (f.negate negated (f.apply (.ofBounds entry.2)), tail)
    | _ => none
  | _ => none

inductive SetOp where
  | intersection
  | difference
  | symmetric
  deriving DecidableEq, Repr

def SetOp.join : SetOp → CharSet → CharSet → CharSet
  | .intersection, s, t => s.inter t
  | .difference, s, t => s.diff t
  | .symmetric, s, t => s.symmDiff t

structure Members where
  chars : CharSet := .empty
  count : Nat := 0
  depth : Nat := 0
  deriving Repr

def Members.add (m : Members) (s : CharSet) (depth : Nat) : Members :=
  ⟨m.chars.union s, m.count + 1, max m.depth depth⟩

def Members.union (m : Members) : CharSet × Nat :=
  (m.chars, if 1 < m.count then m.depth + 1 else m.depth)

abbrev Pending := Option (SetOp × CharSet × Nat)

def settlePending (f : Flags) (pending : Pending) (m : Members) : CharSet × Nat :=
  let (chars, depth) := m.union
  match pending with
  | none => (f.apply chars, depth)
  | some (op, left, leftDepth) => (op.join left (f.apply chars), max leftDepth depth + 1)

def leadingMembers (f : Flags) (text : List Char) : Members × List Char :=
  match f.takeWhile (· == '-') text with
  | ([], ']' :: rest) => (({} : Members).add (.single ']') 0, rest)
  | (hyphens, rest) => (hyphens.foldl (fun m c => m.add (.single c) 0) {}, rest)

mutual

def readClass (f : Flags) : Nat → List Char → Except Fault ((CharSet × Nat) × List Char)
  | 0, _ => .error .classUnclosed
  | fuel + 1, text =>
    let (negated, rest) :=
      match f.skip text with
      | '^' :: tail => (true, tail)
      | text => (false, text)
    let (m, rest) := leadingMembers f rest
    do
      let ((chars, depth), rest) ← readClassRest f fuel m none rest
      pure ((← f.negate negated chars, depth + 1), rest)

def readClassRest (f : Flags) : Nat → Members → Pending → List Char →
    Except Fault ((CharSet × Nat) × List Char)
  | 0, _, _, _ => .error .classUnclosed
  | fuel + 1, m, pending, text =>
    match f.skip text with
    | [] => .error .classUnclosed
    | ']' :: rest => .ok (settlePending f pending m, rest)
    | '[' :: rest =>
      match readNamed? f rest with
      | some (named, tail) => do
        let s ← named
        readClassRest f fuel (m.add s 0) pending tail
      | none => do
        let ((s, depth), tail) ← readClass f fuel rest
        readClassRest f fuel (m.add s depth) pending tail
    | '&' :: '&' :: rest =>
      readClassRest f fuel {} (some (.intersection, settlePending f pending m)) rest
    | '-' :: '-' :: rest =>
      readClassRest f fuel {} (some (.difference, settlePending f pending m)) rest
    | '~' :: '~' :: rest =>
      readClassRest f fuel {} (some (.symmetric, settlePending f pending m)) rest
    | text => do
      let (s, tail) ← readClassPart f text
      readClassRest f fuel (m.add s 0) pending tail

end

end Packrat.Pattern
