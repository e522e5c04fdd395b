import Packrat.Config
import Packrat.Grammar
import Packrat.Grammar.Path
import Packrat.Log

/-! Which token sequences a rule can begin with, computed in two ways. Depth first, every
path is cut to the first K tokens and repetitions are closed to a fixpoint. Level by level,
references are replaced once a level and paths are not cut. Both find left recursion. -/
namespace Packrat

structure Timeout where
  elapsed : Duration
  limit : Duration
  deriving DecidableEq, Repr

structure Cycle where
  rules : List String
  deriving DecidableEq, Repr

namespace Cycle

def head (c : Cycle) : String := c.rules.head?.getD ""

def isDirect (c : Cycle) : Bool := c.rules.length == 2

def render (c : Cycle) : String := String.intercalate " -> " c.rules

end Cycle

structure Expansion where
  paths : PathSet := []
  truncated : Bool := false
  deriving DecidableEq, Repr, Inhabited

structure CacheStats where
  hits : Nat := 0
  misses : Nat := 0
  entries : Nat := 0
  deriving DecidableEq, Repr

structure DepthKey where
  rule : String
  k : Nat
  budget : Nat
  deriving DecidableEq, Repr

structure Findings where
  depthCache : List (DepthKey × PathSet) := []
  levelCache : List ((String × Nat) × Expansion) := []
  leftStack : List String := []
  cuts : Nat := 0
  cycles : List Cycle := []
  depthHits : Nat := 0
  depthMisses : Nat := 0
  levelHits : Nat := 0
  levelMisses : Nat := 0
  steps : Nat := 0
  log : List Message := []

abbrev Query (α : Type) := EStateM Timeout Findings α

structure Analyzer where
  grammar : Grammar
  config : AnalyzerConfig
  nullable : List String
  clock : Nat → Nat

namespace Analyzer

def ofGrammar (g : Grammar) (config : AnalyzerConfig) (clock : Nat → Nat) : Analyzer :=
  ⟨g, config.normalized, g.nullable, clock⟩

def isNullable (a : Analyzer) (rule : String) : Bool := a.nullable.contains rule

def tick (a : Analyzer) : Query Unit := fun f =>
  let f := { f with steps := f.steps + 1 }
  let elapsed := a.clock f.steps
  if f.steps % 256 = 1 ∧ a.config.timeout.toNanos < elapsed then
    .error ⟨⟨elapsed / Duration.perSecond, elapsed % Duration.perSecond⟩, a.config.timeout⟩ f
  else .ok () f

def putEntry {κ ν : Type} [DecidableEq κ] (key : κ) (value : ν) : List (κ × ν) → List (κ × ν)
  | [] => [(key, value)]
  | (k, v) :: rest => if k = key then (k, value) :: rest else (k, v) :: putEntry key value rest

def placeholder (a : Analyzer) (rule : String) : PathSet :=
  if a.isNullable rule then [[], [.rule rule]] else [[.rule rule]]

def closure (a : Analyzer) (once : PathSet) (k : Nat) : Nat → PathSet → Query PathSet
  | 0, acc => pure acc
  | rounds + 1, acc => do
    a.tick
    let next := PathSet.union (PathSet.product acc once k) acc
    if next = acc then pure acc else closure a once k rounds next

def shortestBelow (k : Nat) (paths : PathSet) : Option Nat :=
  ((paths.map List.length).filter (· < k)).min?

mutual

/-- First-K paths of a node, given those of rules. `leading` tells that nothing stands
before the node in the rule that is being expanded. -/
def nodePaths (a : Analyzer) (rulePaths : String → Nat → Bool → Query PathSet) :
    Node → Nat → Bool → Query PathSet
  | .consume token, _, _ => pure [[.token token]]
  | .call rule, k, leading => rulePaths rule k leading
  | .inOrder parts _, k, leading => partsPaths a rulePaths parts k leading [[]]
  | .firstOf branches, k, leading => branchesPaths a rulePaths branches k leading []
  | .optional body, k, leading => do
    let paths ← nodePaths a rulePaths body k leading
    pure (PathSet.insert [] paths)
  | .many body, k, leading => do
    let once ← nodePaths a rulePaths body k leading
    let paths ← a.closure once k k once
    pure (PathSet.insert [] paths)
  | .some body, k, leading => do
    let once ← nodePaths a rulePaths body k leading
    a.closure once k k once

def partsPaths (a : Analyzer) (rulePaths : String → Nat → Bool → Query PathSet) :
    List Node → Nat → Bool → PathSet → Query PathSet
  | [], _, _, acc => pure acc
  | part :: rest, k, leading, acc =>
    match shortestBelow k acc with
    | none => pure acc
    | some shortest => do
      let tail ← nodePaths a rulePaths part (k - shortest) (leading && shortest == 0)
      partsPaths a rulePaths rest k leading (PathSet.product acc tail k)

def branchesPaths (a : Analyzer) (rulePaths : String → Nat → Bool → Query PathSet) :
    List Node → Nat → Bool → PathSet → Query PathSet
  | [], _, _, acc => pure acc
  | branch :: rest, k, leading, acc => do
    let paths ← nodePaths a rulePaths branch k leading
    branchesPaths a rulePaths rest k leading (PathSet.union acc paths)

end

def cutOff (rule : String) : Query PathSet := fun f =>
  let cycle : Cycle := ⟨f.leftStack.dropWhile (· != rule) ++ [rule]⟩
  let f := { f with cuts := f.cuts + 1 }
  if f.cycles.contains cycle then .ok [] f
  else .ok [] { f with
    cycles := f.cycles ++ [cycle]
    log := ⟨.debug, "left recursion: " ++ cycle.render⟩ :: f.log }

def withStack {α : Type} (enter leave : List String → List String) (query : Query α) : Query α := fun f =>
  match query { f with leftStack := enter f.leftStack } with
  | .ok value g => .ok value { g with leftStack := leave g.leftStack }
  | .error e g => .error e { g with leftStack := leave g.leftStack }

/-- Keeps a result unless something was cut off while it was made. -/
def keepUncut (key : DepthKey) (before : Nat) (paths : PathSet) : Query PathSet := fun f =>
  if f.cuts = before then .ok paths { f with depthCache := putEntry key paths f.depthCache }
  else .ok paths f

def expandBody (a : Analyzer) (rulePaths : String → Nat → Bool → Query PathSet) (rule : String)
    (body : Node) (k : Nat) (leading : Bool) : Query PathSet := fun f =>
  let enter := fun stack => if leading then stack ++ [rule] else [rule]
  let leave := fun stack => if leading then stack.dropLast else f.leftStack
  withStack enter leave (nodePaths a rulePaths body k true) f

def rulePaths (a : Analyzer) : Nat → String → Nat → Bool → Query PathSet
  | budget, rule, k, leading => do
    a.tick
    let f ← get
    if leading && f.leftStack.contains rule then cutOff rule
    else match a.grammar.rule? rule, budget with
      | some body, budget + 1 =>
        let key : DepthKey := ⟨rule, k, budget + 1⟩
        match f.depthCache.lookup key with
        | some hit => do
          set { f with depthHits := f.depthHits + 1 }
          pure hit
        | none => do
          set { f with depthMisses := f.depthMisses + 1 }
          let paths ← expandBody a (rulePaths a budget) rule body k leading
          keepUncut key f.cuts paths
      | _, _ => pure (a.placeholder rule)

def expand (a : Analyzer) (rule : String) (k depth : Nat) : Query PathSet := do
  modify ({ · with leftStack := [] })
  a.rulePaths depth rule k true

def firstOfNode (a : Analyzer) (node : Node) : Query PathSet := do
  modify ({ · with leftStack := [] })
  a.nodePaths (a.rulePaths (a.config.maxDepth - 1)) node a.config.firstK false

def recursionByDepth (a : Analyzer) (rule : String) : Query (Option Cycle) := do
  modify ({ · with cycles := [] })
  let _ ← a.expand rule a.config.firstK a.config.maxDepth
  let f ← get
  pure (f.cycles.find? (·.head == rule))

def capped (limit : Nat) (e : Expansion) : Expansion :=
  ⟨e.paths.take limit, e.truncated || decide (limit < e.paths.length)⟩

mutual

def structural (a : Analyzer) : Node → Query Expansion
  | .consume token => do
    a.tick
    pure ⟨[[.token token]], false⟩
  | .call rule => do
    a.tick
    pure ⟨[[.rule rule]], false⟩
  | .inOrder parts _ => do
    a.tick
    structuralParts a parts ⟨[[]], false⟩
  | .firstOf branches => do
    a.tick
    structuralBranches a branches {}
  | .optional body => do
    a.tick
    let e ← structural a body
    pure (capped a.config.maxPaths ⟨PathSet.insert [] e.paths, e.truncated⟩)
  | .many body => do
    a.tick
    let e ← structural a body
    pure (capped a.config.maxPaths ⟨PathSet.insert [] e.paths, e.truncated⟩)
  | .some body => do
    a.tick
    structural a body

def structuralParts (a : Analyzer) : List Node → Expansion → Query Expansion
  | [], acc => pure acc
  | part :: rest, acc => do
    let tail ← structural a part
    structuralParts a rest
      (capped a.config.maxPaths ⟨PathSet.append acc.paths tail.paths, acc.truncated || tail.truncated⟩)

def structuralBranches (a : Analyzer) : List Node → Expansion → Query Expansion
  | [], acc => pure acc
  | branch :: rest, acc => do
    let other ← structural a branch
    structuralBranches a rest
      (capped a.config.maxPaths ⟨PathSet.union acc.paths other.paths, acc.truncated || other.truncated⟩)

end

def substitutePath (a : Analyzer) (level : String → Query Expansion) :
    Path → Expansion → Query Expansion
  | [], acc => pure acc
  | .token name :: rest, acc =>
    substitutePath a level rest
      (capped a.config.maxPaths ⟨PathSet.append acc.paths [[.token name]], acc.truncated⟩)
  | .rule name :: rest, acc => do
    let e ← level name
    substitutePath a level rest
      (capped a.config.maxPaths ⟨PathSet.append acc.paths e.paths, acc.truncated || e.truncated⟩)

def substituteAll (a : Analyzer) (level : String → Query Expansion) :
    List Path → Expansion → Query Expansion
  | [], out => pure out
  | p :: rest, out => do
    let e ← substitutePath a level p ⟨[[]], out.truncated⟩
    let joined := PathSet.union e.paths out.paths
    let next := capped a.config.maxPaths ⟨joined, e.truncated⟩
    if a.config.maxPaths < joined.length then pure next else substituteAll a level rest next

def substitute (a : Analyzer) (level : String → Query Expansion) (base : Expansion) : Query Expansion :=
  substituteAll a level base.paths ⟨[], base.truncated⟩

def keepLevel (rule : String) (depth : Nat) (e : Expansion) : Query Unit :=
  modify fun f => { f with levelCache := putEntry (rule, depth) e f.levelCache }

def nearestLevel (rule : String) (depth : Nat) (f : Findings) : Option (Nat × Expansion) :=
  f.levelCache.foldl (fun best entry =>
    if entry.1.1 = rule ∧ entry.1.2 < depth then
      match best with
      | some b => if b.1 < entry.1.2 then some (entry.1.2, entry.2) else best
      | none => some (entry.1.2, entry.2)
    else best) none

def baseLevel (a : Analyzer) (rule : String) (body : Node) (depth : Nat) : Query (Nat × Expansion) := do
  let f ← get
  match nearestLevel rule depth f with
  | some base => pure base
  | none =>
    let e ← a.structural body
    keepLevel rule 1 e
    pure (1, e)

/-- Level `depth` of a rule. References are replaced by shallower levels, so a bound as large
as the depth is never used up. -/
def levelWithin (a : Analyzer) : Nat → String → Nat → Query Expansion
  | 0, rule, _ => pure ⟨[[.rule rule]], false⟩
  | bound + 1, rule, depth => do
    let f ← get
    match f.levelCache.lookup (rule, depth) with
    | some hit => do
      set { f with levelHits := f.levelHits + 1 }
      pure hit
    | none => do
      set { f with levelMisses := f.levelMisses + 1 }
      a.tick
      match a.grammar.rule? rule with
      | none => pure ⟨[[.rule rule]], false⟩
      | some body => do
        let (level, base) ← a.baseLevel rule body depth
        let e ← if level = depth then pure base
          else a.substitute (fun name => levelWithin a bound name (depth - level)) base
        keepLevel rule depth e
        pure e

def level (a : Analyzer) (rule : String) (depth : Nat) : Query Expansion :=
  a.levelWithin (max depth 1) rule (max depth 1)

def levelOfNode (a : Analyzer) (node : Node) (depth : Nat) : Query Expansion := do
  let base ← a.structural node
  if depth ≤ 1 then pure base else a.substitute (fun name => a.level name (depth - 1)) base

def startsWithRule (a : Analyzer) (rule : String) : Path → Bool
  | [] => false
  | .token _ :: _ => false
  | .rule name :: rest =>
    if name = rule then true else if a.isNullable name then startsWithRule a rule rest else false

def recursionInLevels (a : Analyzer) (rule : String) : Nat → Nat → Bool → Query (Option Bool)
  | 0, _, truncated => pure (if truncated then none else some false)
  | count + 1, depth, truncated => do
    let e ← a.level rule depth
    if e.paths.any (a.startsWithRule rule) then pure (some true)
    else recursionInLevels a rule count (depth + 1) (truncated || e.truncated)

def recursionByLevel (a : Analyzer) (rule : String) : Query (Option Bool) :=
  a.recursionInLevels rule (max a.config.maxDepth 1) 1 false

def depthStats (f : Findings) : CacheStats := ⟨f.depthHits, f.depthMisses, f.depthCache.length⟩

def levelStats (f : Findings) : CacheStats := ⟨f.levelHits, f.levelMisses, f.levelCache.length⟩

end Analyzer
end Packrat
