import Packrat.Token

/-! The furthest place at which a token was expected and not found, with everything that
was expected there. -/
namespace Packrat

inductive Found where
  | nothing
  | token (name text : String) (range : TextRange)
  | unrecognized (c : Char)
  | ended
  deriving DecidableEq, Repr, Inhabited

def Scan.found : Scan → Found
  | .token t _ => .token t.name t.text t.range
  | .ended _ => .ended
  | .unrecognized _ c => .unrecognized c

structure Failure where
  offset : Option Nat := none
  position : LineCol := .first
  expected : List String := []
  found : Found := .nothing
  path : List String := []
  deriving DecidableEq, Repr, Inhabited

def addNames (names : List String) (more : List String) : List String :=
  more.foldl (fun acc name => if acc.contains name then acc else acc ++ [name]) names

namespace Failure

def merge (f later : Failure) : Failure :=
  match later.offset with
  | none => f
  | some there =>
    match f.offset with
    | none => later
    | some here =>
      if there < here then f
      else if there = here then { f with expected := addNames f.expected later.expected }
      else later

def relativeTo (f : Failure) (depth : Nat) : Failure := { f with path := f.path.drop depth }

def rootedAt (f : Failure) (stack : List String) : Failure :=
  if f.offset.isSome then { f with path := stack ++ f.path } else f

def expecting (f : Failure) (name : String) (scan : Scan) (stack : List String) : Failure :=
  f.merge
    { offset := some scan.offset, position := scan.position, expected := [name],
      found := scan.found, path := stack }

end Failure
end Packrat
