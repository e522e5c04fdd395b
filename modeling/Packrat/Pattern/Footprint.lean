import Packrat.Pattern.Expr
import Packrat.Text.Utf8
import Std.Data.TreeMap

/-! The room a pattern takes as a program over bytes. The states of the program are laid
out one after the other, once for reading forward and once for reading backward, and a
pattern that takes more than `Footprint.limit` in either direction is refused. -/
namespace Packrat.Pattern

structure Footprint where
  states : Nat := 0
  extra : Nat := 0
  deriving DecidableEq, Repr

namespace Footprint

def bytes (f : Footprint) : Nat := 32 * f.states + f.extra

def limit : Nat := 10 * 1024 * 1024

def fits (f : Footprint) : Bool := f.bytes ≤ limit

def state (f : Footprint) : Footprint := { f with states := f.states + 1 }

def way (f : Footprint) : Footprint := { f with extra := f.extra + 4 }

def table (n : Nat) (f : Footprint) : Footprint := ⟨f.states + 1, f.extra + 8 * n⟩

end Footprint

inductive Direction where
  | forward
  | backward
  deriving DecidableEq, Repr

structure Laid where
  room : Footprint
  fork : Bool := false
  deriving DecidableEq, Repr

def Laid.join (l : Laid) : Footprint := if l.fork then l.room.way else l.room

inductive ByteTree where
  | stop
  | last
  | edge (span : Utf8.Span) (below beside : ByteTree)
  deriving Repr

namespace ByteTree

def path : List Utf8.Span → ByteTree
  | [] => .stop
  | span :: rest => .edge span (path rest) .last

def add : List Utf8.Span → ByteTree → ByteTree
  | span :: rest, .edge first below beside =>
    if span = first then .edge first (add rest below) beside
    else .edge span (path rest) (.edge first below beside)
  | sequence, _ => path sequence

def ofSequences (sequences : List (List Utf8.Span)) : ByteTree := sequences.foldr add .last

end ByteTree

structure Shared where
  room : Footprint
  slots : Std.TreeMap Nat (List Nat × Nat) := {}

namespace Shared

def tableSlots : Nat := 10000

def rangeSlots : Nat := 1000

def slot (slots : Nat) (key : List Nat) : Nat :=
  let mixed := key.foldl (fun (h : UInt64) n => (h ^^^ n.toUInt64) * 1099511628211)
    14695981039346656037
  mixed.toNat % slots

def get (slots : Nat) (key : List Nat) (entries : Nat) (s : Shared) : Nat × Shared :=
  let i := slot slots key
  let fresh := (s.room.states, ⟨s.room.table entries, s.slots.insert i (key, s.room.states)⟩)
  match s.slots[i]? with
  | some (known, state) => if known = key then (state, s) else fresh
  | none => fresh

def node (edges : List Nat) (s : Shared) : Nat × Shared := s.get tableSlots edges (edges.length / 3)

def edges (goal : Nat) : ByteTree → Shared → List Nat × Shared
  | .edge span below beside, s =>
    let (target, s) :=
      match below with
      | .stop => (goal, s)
      | below =>
        let (inner, s) := edges goal below s
        s.node inner
    let (rest, s) := edges goal beside s
    (span.1 :: span.2 :: target :: rest, s)
  | _, s => ([], s)

def chain : List Utf8.Span → Nat → Shared → Shared
  | [], _, s => s
  | span :: rest, next, s =>
    let (state, s) := s.get rangeSlots [next, span.1, span.2] 0
    chain rest state s

end Shared

/-- A set of characters. Ranges of ASCII are read by one state. Otherwise equal tails of
the byte sequences are shared forward and equal beginnings backward, where every
sequence is a way out of one fork. -/
def laySet (d : Direction) (chars : CharSet) (room : Footprint) : Footprint :=
  if chars.ranges.all (·.2 < 128) then room.state.table chars.ranges.length
  else
    let sequences := Utf8.sequences chars
    match d with
    | .forward =>
      let goal := room.states
      let (outer, s) := Shared.edges goal (.ofSequences sequences) ⟨room.state, {}⟩
      (s.node outer).2.room
    | .backward =>
      let goal := room.states + 1
      let s := sequences.foldl (fun s sequence => s.chain sequence goal)
        (⟨room.state.state, {}⟩ : Shared)
      { s.room with extra := s.room.extra + 4 * sequences.length }

def byHead : List (List UInt8) → List (UInt8 × List (List UInt8))
  | [] => []
  | [] :: rest => byHead rest
  | (b :: tail) :: rest => insert b tail (byHead rest)
where
  insert (b : UInt8) (tail : List UInt8) :
      List (UInt8 × List (List UInt8)) → List (UInt8 × List (List UInt8))
    | [] => [(b, [tail])]
    | (c, tails) :: rest =>
      if b = c then (c, tail :: tails) :: rest else (c, tails) :: insert b tail rest

def betweenEmpty : List (List UInt8) → List (List (List UInt8))
  | [] => [[]]
  | [] :: rest => [] :: betweenEmpty rest
  | s :: rest =>
    match betweenEmpty rest with
    | part :: parts => (s :: part) :: parts
    | [] => [[s]]

def layLiterals : Nat → List (List UInt8) → Footprint → Footprint
  | 0, _, room => room
  | depth + 1, strings, room =>
    if strings.all List.isEmpty then room
    else
      let strings :=
        match strings with
        | [] :: rest => [] :: rest.dropWhile List.isEmpty
        | strings => strings
      let parts := betweenEmpty strings
      parts.foldl (fun room part =>
        match byHead part with
        | [] => room
        | heads =>
          let below := heads.foldl (fun room head => layLiterals depth head.2 room) room
          (below.table (if heads.length = 1 then 0 else heads.length)).way)
        { room.state with extra := room.extra + 4 * (parts.length - 1) }

def Expr.literal? : Expr → Option (List UInt8)
  | .literal text => some (text.flatMap String.utf8EncodeChar)
  | _ => none

def layTimes (body : Footprint → Laid) : Nat → Laid → Laid
  | 0, l => l
  | n + 1, l => if l.room.fits then layTimes body n (body l.join) else l

def layOptional (body : Footprint → Laid) : Nat → Laid → Laid
  | 0, l => l
  | n + 1, l => if l.room.fits then layOptional body n (body l.join.state.way.way) else l

def layExactly (body : Footprint → Laid) (n : Nat) (room : Footprint) : Laid :=
  if n = 0 then ⟨room.state, false⟩ else layTimes body n ⟨room, false⟩

def layRepeated (least : Nat) (most : Option Nat) (consumes : Bool) (body : Footprint → Laid)
    (room : Footprint) : Laid :=
  match least, most with
  | 0, some 1 => ⟨(body room.state.way.way).join.state, false⟩
  | 0, none =>
    if consumes then ⟨(body room.state.way).join, true⟩
    else ⟨(body room).join.state.way.way.state.way.way.state, false⟩
  | n + 1, none =>
    let before := if n = 0 then room else (layExactly body n room).join
    ⟨(body before).join.state.way, true⟩
  | least, some most =>
    let exact := layExactly body least room
    if least = most then exact
    else ⟨(layOptional body (most - least) ⟨exact.join.state, false⟩).join, false⟩

mutual

def lay (d : Direction) : Expr → Footprint → Laid
  | .empty, room => ⟨room.state, false⟩
  | .literal text, room =>
    ⟨{ room with states := room.states + (text.map Char.utf8Size).sum }, false⟩
  | .set chars, room => ⟨laySet d chars room, false⟩
  | .look _, room => ⟨room.state, false⟩
  | .capture _ body, room =>
    match d with
    | .forward => ⟨(lay d body room.state).join.state, false⟩
    | .backward => lay d body room
  | .repeated least most _ body, room => layRepeated least most body.consumes (lay d body) room
  | .inOrder parts, room =>
    match d with
    | .forward => layForward parts ⟨room, false⟩
    | .backward => layBackward parts ⟨room, false⟩
  | .firstOf branches, room =>
    match branches.mapM Expr.literal? with
    | some strings =>
      let strings := match d with | .forward => strings | .backward => strings.map List.reverse
      let depth := strings.foldl (fun n s => max n s.length) 0
      ⟨layLiterals (depth + 1) strings room.state, false⟩
    | none => ⟨layBranches d 0 branches room, false⟩

def layForward : List Expr → Laid → Laid
  | [], l => l
  | e :: rest, l => layForward rest (lay .forward e l.join)

def layBackward : List Expr → Laid → Laid
  | [], l => l
  | e :: rest, l => lay .backward e (layBackward rest l).join

/-- Branches after the first `n`. The fork and the state where the branches meet are
laid out after the second one. -/
def layBranches (d : Direction) : Nat → List Expr → Footprint → Footprint
  | _, [], room => room
  | n, e :: rest, room =>
    let room := (lay d e room).join.way
    layBranches d (n + 1) rest (if n = 1 then room.state.state else room)

end

def Expr.footprint (e : Expr) : Direction → Footprint
  | .forward =>
    let entry := if e.leads .textStart then ⟨1, 0⟩ else ⟨3, 16⟩
    (lay .forward e (Footprint.state entry)).join.state.state
  | .backward =>
    let entry := if e.trails .textEnd then ⟨1, 0⟩ else ⟨3, 16⟩
    (lay .backward e entry).join.state

def Expr.fits (e : Expr) : Bool := (e.footprint .forward).fits && (e.footprint .backward).fits

end Packrat.Pattern
