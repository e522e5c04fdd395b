import Packrat.Token.Definition

/-! Grammars as data: for each rule the structure of its body, without lookahead. -/
namespace Packrat

inductive Node where
  | consume (token : String)
  | inOrder (parts : List Node) (rule : Option String)
  | firstOf (branches : List Node)
  | optional (body : Node)
  | many (body : Node)
  | some (body : Node)
  | call (rule : String)
  deriving Repr, Inhabited

namespace Node

mutual

def nodes : Node → List Node
  | .consume token => [.consume token]
  | .inOrder parts rule => .inOrder parts rule :: nodesAll parts
  | .firstOf branches => .firstOf branches :: nodesAll branches
  | .optional body => .optional body :: body.nodes
  | .many body => .many body :: body.nodes
  | .some body => .some body :: body.nodes
  | .call rule => [.call rule]

def nodesAll : List Node → List Node
  | [] => []
  | n :: rest => n.nodes ++ nodesAll rest

end

def choices (n : Node) : List (List Node) :=
  n.nodes.filterMap fun
    | .firstOf branches => Option.some branches
    | _ => Option.none

def calls (n : Node) : List String :=
  n.nodes.filterMap fun
    | .call rule => Option.some rule
    | _ => Option.none

def tokens (n : Node) : List String :=
  n.nodes.filterMap fun
    | .consume token => Option.some token
    | _ => Option.none

mutual

def isNullable (nullable : String → Bool) : Node → Bool
  | .consume _ => false
  | .call rule => nullable rule
  | .inOrder parts _ => allNullable nullable parts
  | .firstOf branches => anyNullable nullable branches
  | .optional _ => true
  | .many _ => true
  | .some body => isNullable nullable body

def allNullable (nullable : String → Bool) : List Node → Bool
  | [] => true
  | n :: rest => isNullable nullable n && allNullable nullable rest

def anyNullable (nullable : String → Bool) : List Node → Bool
  | [] => false
  | n :: rest => isNullable nullable n || anyNullable nullable rest

end

mutual

def render : Node → String
  | .consume token => token
  | .call rule => "<" ++ rule ++ ">"
  | .inOrder parts _ => String.intercalate " " (renderAll parts)
  | .firstOf branches => "(" ++ String.intercalate " | " (renderAll branches) ++ ")"
  | .optional body => "[" ++ body.render ++ "]"
  | .many body => "\x7b" ++ body.render ++ "\x7d"
  | .some body => "\x7b" ++ body.render ++ "\x7d+"

def renderAll : List Node → List String
  | [] => []
  | n :: rest => n.render :: renderAll rest

end

end Node

structure Grammar where
  entry : String
  rules : List (String × Node) := []
  tokens : List Definition := []
  deriving Repr

namespace Grammar

def insertInto (name : String) (body : Node) : List (String × Node) → List (String × Node)
  | [] => [(name, body)]
  | (n, b) :: rest => if n = name then (n, body) :: rest else (n, b) :: insertInto name body rest

def insert (g : Grammar) (name : String) (body : Node) : Grammar :=
  { g with rules := insertInto name body g.rules }

def rule? (g : Grammar) (name : String) : Option Node := List.lookup name g.rules

def hasToken (g : Grammar) (name : String) : Bool := g.tokens.any (·.name == name)

def render (g : Grammar) : String :=
  String.join (g.rules.map fun r => r.1 ++ " := " ++ r.2.render ++ "\n")

def choiceCount (g : Grammar) : Nat := (g.rules.map fun r => r.2.choices.length).foldr Nat.add 0

def nullablePass : List (String × Node) → List String → List String
  | [], found => found
  | (name, body) :: rest, found =>
    if !found.contains name && body.isNullable found.contains then nullablePass rest (found ++ [name])
    else nullablePass rest found

def nullableFrom (g : Grammar) : Nat → List String → List String
  | 0, found => found
  | fuel + 1, found =>
    let next := nullablePass g.rules found
    if next.length = found.length then found else nullableFrom g fuel next

def nullable (g : Grammar) : List String := g.nullableFrom (g.rules.length + 1) []

end Grammar
end Packrat
