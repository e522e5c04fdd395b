import Packrat.Pattern.Expr
import Packrat.Unicode.Property

/-! Patterns as programs of small steps, run over the text one character at a time
with the threads in order of preference. A step that a better thread has already
reached at this position is not run again. -/
namespace Packrat.Pattern

inductive Step where
  | take (chars : CharSet) (next : Nat)
  | either (first second : Nat)
  | test (what : Look) (next : Nat)
  | accept
  deriving Repr, Inhabited

structure Program where
  steps : Array Step
  entry : Nat
  anchored : Bool
  deriving Repr, Inhabited

namespace Program

abbrev Build := Array Step

def emit (step : Step) (code : Build) : Nat × Build := (code.size, code.push step)

def fork (greedy : Bool) (again out : Nat) : Step :=
  if greedy then .either again out else .either out again

abbrev Fragment := Nat → Build → Nat × Build

def emitLiteral : List Char → Fragment
  | [], next, code => (next, code)
  | c :: rest, next, code =>
    let (tail, code) := emitLiteral rest next code
    emit (.take (.single c) tail) code

def emitTimes (body : Fragment) : Nat → Fragment
  | 0, next, code => (next, code)
  | n + 1, next, code =>
    let (tail, code) := emitTimes body n next code
    body tail code

def emitOptional (greedy : Bool) (body : Fragment) (out : Nat) : Nat → Fragment
  | 0, next, code => (next, code)
  | n + 1, next, code =>
    let (tail, code) := emitOptional greedy body out n next code
    let (start, code) := body tail code
    emit (fork greedy start out) code

def emitPlus (greedy : Bool) (body : Fragment) : Fragment := fun next code =>
  let loop := code.size
  let (start, code) := body loop (code.push .accept)
  (start, code.set! loop (fork greedy start next))

/-- Any number of copies. A body that can match nothing is taken as an optional
one-or-more, which keeps the preference among empty iterations. -/
def emitStar (greedy consumes : Bool) (body : Fragment) : Fragment := fun next code =>
  if consumes then
    let loop := code.size
    let (start, code) := body loop (code.push .accept)
    (loop, code.set! loop (fork greedy start next))
  else
    let (start, code) := emitPlus greedy body next code
    emit (fork greedy start next) code

mutual

def emitExpr : Expr → Fragment
  | .empty, next, code => (next, code)
  | .literal text, next, code => emitLiteral text next code
  | .set chars, next, code => emit (.take chars next) code
  | .look what, next, code => emit (.test what next) code
  | .capture _ body, next, code => emitExpr body next code
  | .repeated least most greedy body, next, code =>
    match most with
    | some n =>
      let (tail, code) := emitOptional greedy (emitExpr body) next (n - least) next code
      emitTimes (emitExpr body) least tail code
    | none =>
      match least with
      | 0 => emitStar greedy body.consumes (emitExpr body) next code
      | n + 1 =>
        let (tail, code) := emitPlus greedy (emitExpr body) next code
        emitTimes (emitExpr body) n tail code
  | .inOrder parts, next, code => emitParts parts next code
  | .firstOf branches, next, code => emitBranches branches next code

def emitParts : List Expr → Fragment
  | [], next, code => (next, code)
  | e :: rest, next, code =>
    let (tail, code) := emitParts rest next code
    emitExpr e tail code

def emitBranches : List Expr → Fragment
  | [], _, code => emit (.take .empty 0) code
  | [e], next, code => emitExpr e next code
  | e :: rest, next, code =>
    let (other, code) := emitBranches rest next code
    let (start, code) := emitExpr e next code
    emit (.either start other) code

end

def ofExpr (e : Expr) : Program :=
  let (last, code) := emit .accept #[]
  let (entry, code) := emitExpr e last code
  { steps := code, entry := entry, anchored := e.leads .textStart }

structure Place where
  before : Option Char
  after : Option Char
  deriving Repr

def isWordChar (ascii : Bool) (c : Char) : Bool :=
  if ascii then c.isAlphanum || c == '_' else Unicode.Property.isWord c

def edgeHolds (before after : Bool) : WordEdge → Bool
  | .boundary => before != after
  | .notBoundary => before == after
  | .start => !before && after
  | .stop => before && !after
  | .startHalf => !before
  | .stopHalf => !after

def Place.holds (p : Place) : Look → Bool
  | .textStart => p.before.isNone
  | .textEnd => p.after.isNone
  | .lineStart => p.before.isNone || p.before == some '\n'
  | .lineEnd => p.after.isNone || p.after == some '\n'
  | .lineStartReturn =>
    p.before.isNone || p.before == some '\n' || (p.before == some '\r' && p.after != some '\n')
  | .lineEndReturn =>
    p.after.isNone || p.after == some '\r' || (p.after == some '\n' && p.before != some '\r')
  | .word edge ascii => edgeHolds (p.before.any (isWordChar ascii)) (p.after.any (isWordChar ascii)) edge

def settle (p : Program) (place : Place) :
    Nat → List Nat → Array Bool → List Nat → List Nat
  | 0, _, _, done => done.reverse
  | _ + 1, [], _, done => done.reverse
  | fuel + 1, i :: waiting, seen, done =>
    if seen.getD i true then settle p place fuel waiting seen done
    else
      let seen := seen.set! i true
      match p.steps.getD i .accept with
      | .either first second => settle p place fuel (first :: second :: waiting) seen done
      | .test what next =>
        if place.holds what then settle p place fuel (next :: waiting) seen done
        else settle p place fuel waiting seen done
      | .take _ _ => settle p place fuel waiting seen (i :: done)
      | .accept => settle p place fuel waiting seen (i :: done)

def advance (p : Program) (next : Option Char) : List Nat → Bool × List Nat
  | [] => (false, [])
  | i :: rest =>
    match p.steps.getD i .accept with
    | .take chars target =>
      let (accepted, going) := advance p next rest
      if next.any chars.contains then (accepted, target :: going) else (accepted, going)
    | _ => (true, [])

/-- Runs the threads over the text; `found` is the best end so far. Threads for a
later start are worse than all others and are added until something is found. -/
def runFrom (p : Program) : Nat → Option Char → List Char → List Nat → Option Nat → Option Nat
  | pos, before, text, threads, found =>
    let fresh := found.isNone && (before.isNone || !p.anchored)
    let waiting := if fresh then threads ++ [p.entry] else threads
    let place : Place := ⟨before, text.head?⟩
    let settled := p.settle place (waiting.length + 2 * p.steps.size) waiting
      (Array.replicate p.steps.size false) []
    let (accepted, going) := p.advance text.head? settled
    let found := if accepted then some pos else found
    match text with
    | [] => found
    | c :: rest =>
      if going.isEmpty && (found.isSome || p.anchored) then found
      else runFrom p (pos + 1) (some c) rest going found

def matchEnd? (p : Program) (text : List Char) : Option Nat :=
  p.runFrom 0 none text [] none

end Program
end Packrat.Pattern
