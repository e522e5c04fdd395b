import Packrat.Session.Combinators

/-! Running rule bodies. Bodies are followed by their structure; a rule invocation is
followed as long as the limit on nesting allows, which makes every run finite. -/
namespace Packrat.Session

mutual

def exec (env : Setup) (call : String → String → Action) : Body → Action
  | .consume token goal => consume env token goal
  | .inOrder parts => inOrder (execAll env call parts)
  | .call name rule => call name rule
  | .firstOf branches => firstOf (execAll env call branches)
  | .many body => many env (exec env call body)
  | .some body => some env (exec env call body)
  | .optional body => optional (exec env call body)
  | .notAhead token goal => notAhead env token goal
  | .sameLine => sameLine env
  | .mismatch => fun s => (.mismatch, s)
  | .raise error => fun s => (.fatal error, s)
  | .whenRecording _ parsed => exec env call parsed
  | .attempt body => attempt (exec env call body)

def execAll (env : Setup) (call : String → String → Action) : List Body → List Action
  | [] => []
  | b :: rest => exec env call b :: execAll env call rest

end

/-- Invokes a rule with `depth` levels of nesting left. With none left the limit on nesting
has been reached, so the body of the last level is never run. -/
def invoke (env : Setup) (rules : Rules) : Nat → String → String → Action
  | 0, name, _ => subrule env name fun s => (.mismatch, s)
  | depth + 1, name, rule =>
    subrule env name (exec env (invoke env rules depth) (rules.body rule))

def run (env : Setup) (rules : Rules) (body : Body) : Action :=
  exec env (invoke env rules env.config.maxRuleDepth) body

end Packrat.Session
