/-! Paths: sequences of tokens and unexpanded rules with which a piece of grammar can
begin. Sets of paths are kept sorted and without repetitions, so equal sets are equal
lists. -/
namespace Packrat

inductive Symbol where
  | token (name : String)
  | rule (name : String)
  deriving DecidableEq, Repr

namespace Symbol

def order : Symbol → Symbol → Ordering
  | .token a, .token b => compare a b
  | .token _, .rule _ => .lt
  | .rule _, .token _ => .gt
  | .rule a, .rule b => compare a b

def isRule : Symbol → Bool
  | .rule _ => true
  | .token _ => false

def render : Symbol → String
  | .token name => name
  | .rule name => "<" ++ name ++ ">"

end Symbol

abbrev Path := List Symbol

namespace Path

def order : Path → Path → Ordering
  | [], [] => .eq
  | [], _ :: _ => .lt
  | _ :: _, [] => .gt
  | a :: p, b :: q =>
    match a.order b with
    | .eq => order p q
    | decided => decided

def concat (p q : Path) (limit : Nat) : Path := (p ++ q).take limit

def startsStrictly (p q : Path) : Bool := p.length < q.length && p.isPrefixOf q

def hasRules (p : Path) : Bool := p.any Symbol.isRule

def render (p : Path) : String :=
  match p with
  | [] => "ε"
  | _ => String.intercalate "," (p.map Symbol.render)

end Path

abbrev PathSet := List Path

namespace PathSet

def place (p : Path) (rest : PathSet → PathSet) : PathSet → PathSet
  | [] => p :: rest []
  | q :: paths =>
    match p.order q with
    | .lt => p :: rest (q :: paths)
    | .eq => p :: rest paths
    | .gt => q :: place p rest paths

def insert (p : Path) (paths : PathSet) : PathSet := place p id paths

def ofList (paths : List Path) : PathSet := paths.foldr insert []

def union : PathSet → PathSet → PathSet
  | [], b => b
  | p :: a, b => place p (union a) b

def append (a b : PathSet) : PathSet :=
  a.foldr (fun p acc => union (b.map (p ++ ·)) acc) []

def product (a b : PathSet) (limit : Nat) : PathSet :=
  a.foldr (fun p acc =>
    if limit ≤ p.length then insert p acc
    else b.foldr (fun q acc => insert (p.concat q limit) acc) acc) []

end PathSet
end Packrat
