import Packrat.Grammar.Path

/-! Problems found in a grammar, with their wording. -/
namespace Packrat

inductive Severity where
  | error
  | fatal
  deriving DecidableEq, Repr

def Severity.label : Severity → String
  | .error => "ERROR"
  | .fatal => "FATAL"

inductive FindingKind where
  | leftRecursion
  | identicalBranches
  | prefixConflict
  | emptyPath
  | undefinedToken
  | disagreement
  | tooComplex
  deriving DecidableEq, Repr

def FindingKind.label : FindingKind → String
  | .leftRecursion => "left-recursion"
  | .identicalBranches => "or-identical-branches"
  | .prefixConflict => "prefix-conflict"
  | .emptyPath => "empty-path"
  | .undefinedToken => "undefined-token"
  | .disagreement => "analyzer-disagreement"
  | .tooComplex => "too-complex"

structure Finding where
  severity : Severity
  kind : FindingKind
  rule : String
  choice : Option Nat := none
  branches : List Nat := []
  paths : List Path := []
  message : String
  suggestion : Option String := none
  deriving DecidableEq, Repr

namespace Finding

def place (f : Finding) : String :=
  match f.choice with
  | none => ""
  | some choice =>
    let which := match f.branches with
      | [] => ""
      | [one] => ", branch " ++ toString one
      | first :: second :: _ => ", branches " ++ toString first ++ " and " ++ toString second
    " (choice " ++ toString choice ++ which ++ ")"

def render (f : Finding) : String :=
  let help := match f.suggestion with
    | some s => "\n  help: " ++ s
    | none => ""
  f.severity.label ++ " " ++ f.kind.label ++ " in `" ++ f.rule ++ "`" ++ f.place ++ ": "
    ++ f.message ++ help

def sameAs (f g : Finding) : Bool :=
  f.kind == g.kind && f.rule == g.rule && f.choice == g.choice && f.branches == g.branches
    && f.paths == g.paths

def distinct (findings : List Finding) : List Finding :=
  findings.foldl (fun kept f => if kept.any (sameAs · f) then kept else kept ++ [f]) []

end Finding
end Packrat
