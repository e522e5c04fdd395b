import Packrat.Grammar.Analyzer
import Packrat.Grammar.Finding

/-! Conflicts between the branches of an ordered choice: a branch that can match nothing
shadows all later ones, a branch with the same beginnings as a later one hides it, and a
branch that matches the beginning of a later one commits too early. -/
namespace Packrat

/-- Why a later branch is never reached: a complete match of the earlier branch is one of
its own, or both begin alike as far as is compared. -/
inductive Shadow where
  | complete (path : Path)
  | sameStart (path : Path)
  deriving DecidableEq, Repr

def Shadow.path : Shadow → Path
  | .complete path => path
  | .sameStart path => path

namespace Conflict

def shadow? (first later : PathSet) (k : Nat) : Option Shadow :=
  match first.find? fun p => p.length < k && !p.hasRules && later.contains p with
  | some p => some (.complete p)
  | none => if first ≠ later then none else first.head?.map .sameStart

def early? (earlier later : PathSet) : Option (Path × Path) :=
  (earlier.filter (!·.isEmpty)).findSome? fun p =>
    (later.find? p.startsStrictly).map (p, ·)

def refersTo (rules : List String) (node : Node) : Bool := node.calls.any rules.contains

def reachingPass : List (String × Node) → List String → List String
  | [], found => found
  | (name, body) :: rest, found =>
    if !found.contains name && refersTo found body then reachingPass rest (name :: found)
    else reachingPass rest found

def reachingFrom (g : Grammar) : Nat → List String → List String
  | 0, found => found
  | fuel + 1, found =>
    let next := reachingPass g.rules found
    if next.length = found.length then found else reachingFrom g fuel next

def reaching (g : Grammar) (targets : List String) : List String :=
  reachingFrom g (g.rules.length + 1) targets

def emptyPath (rule : String) (choice i : Nat) : Finding :=
  { severity := .error, kind := .emptyPath, rule := rule, choice := some choice, branches := [i],
    paths := [[]],
    message := "branch " ++ toString i ++ " can match empty input, so no later branch is ever tried",
    suggestion := some "move the branch last or make it consume at least one token" }

def identical (rule : String) (choice i j k : Nat) (s : Shadow) : Finding :=
  let unreachable := "branch " ++ toString j ++ " is unreachable: "
  let message := match s with
    | .complete p => unreachable ++ "branch " ++ toString i ++ " already matches `" ++ p.render ++ "`"
    | .sameStart p => unreachable ++ "branches " ++ toString i ++ " and " ++ toString j
        ++ " have the same first " ++ toString k ++ " tokens (`" ++ p.render ++ "`)"
  { severity := .fatal, kind := .identicalBranches, rule := rule, choice := some choice,
    branches := [i, j], paths := [s.path], message := message,
    suggestion := some
      ("remove branch " ++ toString j ++ " or merge it into branch " ++ toString i) }

def commitsEarly (rule : String) (choice i j : Nat) (shorter longer : Path) : Finding :=
  let (a, b, p) := (toString i, toString j, shorter.render)
  { severity := .error, kind := .prefixConflict, rule := rule, choice := some choice,
    branches := [i, j], paths := [shorter, longer, shorter],
    message := "branch " ++ a ++ " matches `" ++ p ++ "` and commits before branch " ++ b
      ++ " can match `" ++ longer.render ++ "` (shared prefix `" ++ p ++ "`)",
    suggestion := some
      ("move branch " ++ b ++ " before branch " ++ a ++ ", factor the common prefix `" ++ p
        ++ "` out of both, or guard branch " ++ a ++ " with a lookahead") }

structure Start where
  first : PathSet
  levels : PathSet
  deriving Repr

def startOf (a : Analyzer) (branch : Node) : Query Start := do
  let first ← a.firstOfNode branch
  let e ← a.levelOfNode branch a.config.maxDepth
  pure ⟨first, e.paths⟩

def between (rule : String) (choice k i j : Nat) (a b : Start) : Option Finding :=
  match shadow? a.first b.first k with
  | some s => some (identical rule choice i j k s)
  | none => (early? a.levels b.levels).map fun p => commitsEarly rule choice i j p.1 p.2

def againstLater (rule : String) (choice k i : Nat) (a : Start) : Nat → List Start → List Finding
  | _, [] => []
  | j, b :: rest => (between rule choice k i j a b).toList ++ againstLater rule choice k i a (j + 1) rest

def betweenAll (rule : String) (choice k : Nat) : Nat → List Start → List Finding
  | _, [] => []
  | i, a :: rest => againstLater rule choice k i a (i + 1) rest ++ betweenAll rule choice k (i + 1) rest

def emptyPaths (a : Analyzer) (rule : String) (choice : Nat) (branches : List Node) : List Finding :=
  (branches.dropLast.zipIdx.filter fun b => b.1.isNullable a.isNullable).map fun b =>
    emptyPath rule choice b.2

def checkChoice (a : Analyzer) (rule : String) (choice : Nat) (branches : List Node) :
    Query (List Finding) := do
  if branches.length < 2 then pure []
  else
    let starts ← branches.mapM (startOf a)
    pure (emptyPaths a rule choice branches ++ betweenAll rule choice a.config.firstK 0 starts)

def noteSkipped (rule : String) (choice : Nat) : Query Unit :=
  modify fun f => { f with log := ⟨.debug, "skipping choice " ++ toString choice ++ " of `" ++ rule
    ++ "`: it reaches a left-recursive rule"⟩ :: f.log }

def checkRule (a : Analyzer) (recursive : List String) (rule : String) :
    List (List Node × Nat) → Query (List Finding)
  | [] => pure []
  | (branches, choice) :: rest => do
    let here ←
      if branches.any (refersTo recursive) then do
        noteSkipped rule choice
        pure []
      else checkChoice a rule choice branches
    let more ← checkRule a recursive rule rest
    pure (here ++ more)

def checkRules (a : Analyzer) (recursive : List String) :
    List (String × Node) → Query (List Finding)
  | [] => pure []
  | (rule, body) :: rest => do
    let here ← checkRule a recursive rule body.choices.zipIdx
    let more ← checkRules a recursive rest
    pure (here ++ more)

def detect (a : Analyzer) (skipped : List String) : Query (List Finding) :=
  checkRules a (reaching a.grammar skipped) a.grammar.rules

end Conflict
end Packrat
