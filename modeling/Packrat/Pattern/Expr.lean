import Packrat.Text.CharSet

/-! Pattern expressions in normal form: literals are joined, sequences and
alternatives are flat, and a beginning shared by all alternatives stands before
them. The order of alternatives is their order of preference. -/
namespace Packrat.Pattern

inductive WordEdge where
  | boundary
  | notBoundary
  | start
  | stop
  | startHalf
  | stopHalf
  deriving DecidableEq, Repr

inductive Look where
  | textStart
  | textEnd
  | lineStart
  | lineEnd
  | lineStartReturn
  | lineEndReturn
  | word (edge : WordEdge) (ascii : Bool)
  deriving DecidableEq, Repr

inductive Expr where
  | empty
  | literal (text : List Char)
  | set (chars : CharSet)
  | look (what : Look)
  | capture (index : Nat) (body : Expr)
  | repeated (least : Nat) (most : Option Nat) (greedy : Bool) (body : Expr)
  | inOrder (parts : List Expr)
  | firstOf (branches : List Expr)
  deriving BEq, Repr, Inhabited

namespace Expr

def joinParts : List Expr → List Expr
  | [] => []
  | .empty :: rest => joinParts rest
  | .literal a :: rest =>
    match joinParts rest with
    | .literal b :: tail => .literal (a ++ b) :: tail
    | tail => .literal a :: tail
  | e :: rest => e :: joinParts rest

def openParts (parts : List Expr) : List Expr :=
  parts.flatMap fun
    | .inOrder inner => inner
    | e => [e]

def sequence (parts : List Expr) : Expr :=
  match joinParts (openParts parts) with
  | [] => .empty
  | [one] => one
  | many => .inOrder many

def ofSet (s : CharSet) : Expr :=
  match s.only? with
  | some c => .literal [c]
  | none => .set s

def letter? : Expr → Option CharSet
  | .literal [c] => some (.single c)
  | _ => none

def set? : Expr → Option CharSet
  | .set s => some s
  | _ => none

def openBranches (branches : List Expr) : List Expr :=
  branches.flatMap fun
    | .firstOf inner => inner
    | e => [e]

def sequenceParts? : Expr → Option (List Expr)
  | .inOrder parts => some parts
  | _ => none

def sharedLength : List Expr → List Expr → Nat
  | a :: as, b :: bs => if a == b then sharedLength as bs + 1 else 0
  | _, _ => 0

def plainChoice (branches : List Expr) : Expr :=
  match branches with
  | [] => .set .empty
  | [one] => one
  | many =>
    match (many.mapM letter?).or (many.mapM set?) with
    | some sets => ofSet (sets.foldl CharSet.union .empty)
    | none => .firstOf many

def choice (branches : List Expr) : Expr :=
  let opened := openBranches branches
  match opened.mapM sequenceParts? with
  | some (first :: second :: rest) =>
    let shared := (second :: rest).foldl (fun n parts => min n (sharedLength first parts)) first.length
    if shared = 0 then plainChoice opened
    else
      let tails := (first :: second :: rest).map fun parts => sequence (parts.drop shared)
      sequence (first.take shared ++ [plainChoice (openBranches tails)])
  | _ => plainChoice opened

mutual

def minLength? : Expr → Option Nat
  | .empty => some 0
  | .literal text => some text.length
  | .set s => if s.ranges.isEmpty then none else some 1
  | .look _ => some 0
  | .capture _ body => body.minLength?
  | .repeated least _ _ body => body.minLength?.map (least * ·)
  | .inOrder parts => minLengthSum? parts
  | .firstOf branches => minLengthLeast? branches

def minLengthSum? : List Expr → Option Nat
  | [] => some 0
  | e :: rest => do
    let n ← e.minLength?
    let m ← minLengthSum? rest
    pure (n + m)

def minLengthLeast? : List Expr → Option Nat
  | [] => none
  | [e] => e.minLength?
  | e :: rest => do
    let n ← e.minLength?
    let m ← minLengthLeast? rest
    pure (min n m)

end

def consumes (e : Expr) : Bool := e.minLength?.any (0 < ·)

mutual

def onlyEmpty : Expr → Bool
  | .empty => true
  | .literal text => text.isEmpty
  | .set _ => false
  | .look _ => true
  | .capture _ body => body.onlyEmpty
  | .repeated _ most _ body => most == some 0 || body.onlyEmpty
  | .inOrder parts => onlyEmptyAll parts
  | .firstOf branches => onlyEmptyAll branches

def onlyEmptyAll : List Expr → Bool
  | [] => true
  | e :: rest => e.onlyEmpty && onlyEmptyAll rest

end

def repetition (least : Nat) (most : Option Nat) (greedy : Bool) (body : Expr) : Expr :=
  let (least, most) :=
    if body.onlyEmpty then (min least 1, some (match most with | some n => min n 1 | none => 1))
    else (least, most)
  if most = some 0 then .empty
  else if least = 1 ∧ most = some 1 then body
  else .repeated least most greedy body

mutual

def leads (what : Look) : Expr → Bool
  | .look other => other == what
  | .capture _ body => body.leads what
  | .repeated least _ _ body => 0 < least && body.leads what
  | .inOrder parts => leadsParts what parts
  | .firstOf branches => leadsAll what branches
  | .empty | .literal _ | .set _ => false

def leadsParts (what : Look) : List Expr → Bool
  | [] => false
  | e :: rest => e.leads what || (e.onlyEmpty && leadsParts what rest)

def leadsAll (what : Look) : List Expr → Bool
  | [] => true
  | e :: rest => e.leads what && leadsAll what rest

end

mutual

def trails (what : Look) : Expr → Bool
  | .look other => other == what
  | .capture _ body => body.trails what
  | .repeated least _ _ body => 0 < least && body.trails what
  | .inOrder parts => trailsParts what parts
  | .firstOf branches => trailsAll what branches
  | .empty | .literal _ | .set _ => false

def trailsParts (what : Look) : List Expr → Bool
  | [] => false
  | e :: rest => trailsParts what rest || (onlyEmptyAll rest && e.trails what)

def trailsAll (what : Look) : List Expr → Bool
  | [] => true
  | e :: rest => e.trails what && trailsAll what rest

end

end Expr
end Packrat.Pattern
