import Packrat.Token

/-! Syntax trees. Rule nodes and error nodes span their children; error nodes hold what
recovery skipped, and the message of the error. -/
namespace Packrat

inductive Tree where
  | token (name text : String) (range : TextRange) (location : Location)
  | rule (name : String) (children : List Tree) (range : TextRange) (location : Location)
  | error (message : String) (children : List Tree) (range : TextRange) (location : Location)
  deriving BEq, Repr, Inhabited

namespace Tree

def errorName : String := "#error"

def name : Tree → String
  | .token name _ _ _ => name
  | .rule name _ _ _ => name
  | .error _ _ _ _ => errorName

def range : Tree → TextRange
  | .token _ _ range _ => range
  | .rule _ _ range _ => range
  | .error _ _ range _ => range

def location : Tree → Location
  | .token _ _ _ location => location
  | .rule _ _ _ location => location
  | .error _ _ _ location => location

def children : Tree → List Tree
  | .token _ _ _ _ => []
  | .rule _ children _ _ => children
  | .error _ children _ _ => children

def value : Tree → Option String
  | .token _ text _ _ => some text
  | .rule _ _ _ _ => none
  | .error message _ _ _ => some message

def isToken : Tree → Bool
  | .token _ _ _ _ => true
  | _ => false

def isError : Tree → Bool
  | .error _ _ _ _ => true
  | _ => false

def ofToken (t : Token) : Tree := .token t.name t.text t.range ⟨t.start, t.stop⟩

/-- From the start of the first child to the end of the last; without children the empty
range at the given place. -/
def spanOf (children : List Tree) (offset : Nat) (position : LineCol) : TextRange × Location :=
  match children.head?, children.getLast? with
  | some a, some b => (a.range.cover b.range, ⟨a.location.start, b.location.stop⟩)
  | _, _ => (.point offset, .point position)

def ofRule (name : String) (children : List Tree) (offset : Nat) (position : LineCol) : Tree :=
  let span := spanOf children offset position
  .rule name children span.1 span.2

def ofError (message : String) (children : List Tree) (offset : Nat) (position : LineCol) : Tree :=
  let span := spanOf children offset position
  .error message children span.1 span.2

mutual

def nodes : Tree → List Tree
  | .token name text range location => [.token name text range location]
  | .rule name children range location => .rule name children range location :: nodesAll children
  | .error message children range location =>
    .error message children range location :: nodesAll children

def nodesAll : List Tree → List Tree
  | [] => []
  | t :: rest => t.nodes ++ nodesAll rest

end

def leaves (t : Tree) : List Tree := t.nodes.filter isToken

def errors (t : Tree) : List Tree := t.nodes.filter isError

def findAll (t : Tree) (name : String) : List Tree := t.nodes.filter (·.name == name)

def childNames (t : Tree) : List String := t.children.map Tree.name

mutual

def topErrors : Tree → List Tree
  | .token _ _ _ _ => []
  | .rule _ children _ _ => topErrorsAll children
  | .error message children range location => [.error message children range location]

def topErrorsAll : List Tree → List Tree
  | [] => []
  | t :: rest => t.topErrors ++ topErrorsAll rest

end

mutual

def walk (depth : Nat) : Tree → List (Nat × Tree)
  | .token name text range location => [(depth, .token name text range location)]
  | .rule name children range location =>
    (depth, .rule name children range location) :: walkAll (depth + 1) children
  | .error message children range location =>
    (depth, .error message children range location) :: walkAll (depth + 1) children

def walkAll (depth : Nat) : List Tree → List (Nat × Tree)
  | [] => []
  | t :: rest => walk depth t ++ walkAll depth rest

end

def outlineLine (t : Tree) : String :=
  let head := t.name ++ "@" ++ t.range.render
  match t with
  | .token _ text _ _ => head ++ " " ++ Quoted.text text
  | .error message _ _ _ => head ++ " " ++ message
  | .rule _ _ _ _ => head

def outline (t : Tree) : String :=
  String.join ((t.walk 0).map fun entry =>
    String.ofList (List.replicate (2 * entry.1) ' ') ++ entry.2.outlineLine ++ "\n")

end Tree
end Packrat
