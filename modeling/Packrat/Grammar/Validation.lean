import Packrat.Error.Excerpt
import Packrat.Grammar.Conflict

/-! Validation of a grammar: undefined tokens, left recursion as both strategies see it, and
conflicts. Every problem is reported at once. -/
namespace Packrat

structure ValidationStats where
  rules : Nat
  choices : Nat
  tokens : Nat
  nullableRules : Nat
  depthFirst : CacheStats
  levels : CacheStats
  deriving DecidableEq, Repr

structure Report where
  entry : String
  findings : List Finding
  stats : ValidationStats
  deriving DecidableEq, Repr

namespace Report

def accepts (r : Report) : Bool := r.findings.isEmpty

def hasFatal (r : Report) : Bool := r.findings.any (·.severity == .fatal)

def message (r : Report) : String :=
  "grammar `" ++ r.entry ++ "` failed validation with " ++ toString r.findings.length
    ++ " finding(s):\n" ++ String.intercalate "\n" (r.findings.map Finding.render)

def diagnostic (_ : Report) : Diagnostic :=
  ⟨"grammar::validation", some "fix FATAL findings first; later findings may depend on them", []⟩

end Report

namespace Validation

def undefinedToken (rule token : String) : Finding :=
  { severity := .error, kind := .undefinedToken, rule := rule, paths := [[.token token]],
    message := "token `" ++ token ++ "` has no definition" }

def undefinedTokens (g : Grammar) : List Finding :=
  if g.tokens.isEmpty then []
  else g.rules.flatMap fun r =>
    (r.2.tokens.filter (!g.hasToken ·)).map (undefinedToken r.1)

def recursive (rule : String) (c : Cycle) : Finding :=
  { severity := .fatal, kind := .leftRecursion, rule := rule,
    message := "rule `" ++ rule ++ "` can re-enter itself without consuming input: " ++ c.render,
    suggestion := some
      (if c.isDirect then "rewrite as `" ++ rule ++ " := <base> \x7b<operator> <base>\x7d`"
      else "make one rule of `" ++ c.render ++ "` consume a token before the recursive reference") }

def disagreement (rule : String) (byDepth byLevel : Bool) : Finding :=
  { severity := .fatal, kind := .disagreement, rule := rule,
    message := "internal error: depth-first expansion says left-recursive = " ++ toString byDepth
      ++ ", breadth-first says " ++ toString byLevel }

def tooComplex (rule : String) (t : Timeout) : Finding :=
  { severity := .fatal, kind := .tooComplex, rule := rule,
    message := "grammar too complex to validate in bounded time (" ++ t.elapsed.render ++ " > "
      ++ t.limit.render ++ ")",
    suggestion := some "raise the analyzer timeout or lower `max_depth`/`first_k`" }

def recursions (a : Analyzer) :
    List String → List (String × Cycle) → Query (Except Finding (List (String × Cycle)))
  | [], found => pure (.ok found)
  | rule :: rest, found => do
    let byDepth ← a.recursionByDepth rule
    let byLevel ← a.recursionByLevel rule
    match byLevel with
    | some answer =>
      if answer != byDepth.isSome then pure (.error (disagreement rule byDepth.isSome answer))
      else recursions a rest (found ++ (byDepth.map (rule, ·)).toList)
    | none => recursions a rest (found ++ (byDepth.map (rule, ·)).toList)

def analyze (a : Analyzer) : Query (List Finding) := do
  match ← recursions a (a.grammar.rules.map (·.1)) [] with
  | .error f => pure [f]
  | .ok found =>
    let conflicts ← Conflict.detect a (found.flatMap (·.2.rules))
    pure (found.map (fun r => recursive r.1 r.2) ++ conflicts)

def validate (g : Grammar) (config : AnalyzerConfig) (clock : Nat → Nat) : Report × List Message :=
  let a := Analyzer.ofGrammar g config clock
  let (found, f) := match analyze a {} with
    | .ok found f => (found, f)
    | .error t f => ([tooComplex g.entry t], f)
  let findings := Finding.distinct (undefinedTokens g ++ found)
  let stats : ValidationStats :=
    { rules := g.rules.length, choices := g.choiceCount, tokens := g.tokens.length,
      nullableRules := a.nullable.length, depthFirst := Analyzer.depthStats f,
      levels := Analyzer.levelStats f }
  (⟨g.entry, findings, stats⟩, f.log.reverse ++ findings.map fun x => ⟨.debug, x.render⟩)

end Validation
end Packrat
