/-! Declarations of tokens. -/
namespace Packrat

abbrev Goal := String

def defaultGoal : Goal := "Default"

inductive Shape where
  | literal (text : String)
  | pattern (written : String)
  deriving DecidableEq, Repr

def Shape.literal? : Shape → Option String
  | .literal text => some text
  | .pattern _ => none

inductive Nesting where
  | none
  | opens
  | continues
  | closes
  deriving DecidableEq, Repr

structure Definition where
  name : String
  shape : Shape
  keyword : Bool := false
  skip : Bool := false
  /-- Absent: available in every goal. -/
  goals : Option (List Goal) := none
  lineStart : Bool := false
  onlyAfter : Option (List String) := none
  notAfter : List String := []
  notFollowedBy : Option String := none
  nesting : Nesting := .none
  deriving DecidableEq, Repr

namespace Definition

def availableIn (d : Definition) (goal : Goal) : Bool :=
  match d.goals with
  | some goals => goals.contains goal
  | none => true

def displayName (d : Definition) : String :=
  match d.shape with
  | .literal text => if d.keyword then d.name else "'" ++ text ++ "'"
  | .pattern _ => d.name

end Definition
end Packrat
