import Packrat.Proofs.Session.View

/-! A recursive evaluator of rule bodies without a state to go back to: what it has built is its value. Two
bounds make it a function, on the rules that are open and on the rounds of a repetition. -/
namespace Packrat.Peg

inductive Result where
  | ok (stop : Place) (nodes : List Tree) (tokens : List Token)
  | mismatch
  | fatal (error : ParseError)

def Result.behind (nodes : List Tree) (tokens : List Token) : Result → Result
  | .ok stop more others => .ok stop (nodes ++ more) (tokens ++ others)
  | .mismatch => .mismatch
  | .fatal error => .fatal error

abbrev Eval := Place → Result

abbrev Stack := List (String × Nat)

def leftRecursion (stack : Stack) (name : String) (p : Place) : ParseError :=
  let entered := stack.reverse
  let cycle := match entered.dropWhile (· != (name, p.offset)) with
    | [] => entered
    | found => found
  .leftRecursion (.point p.offset) p.position name (cycle.map (·.1) ++ [name])

def tooDeep (env : Setup) (name : String) (p : Place) : ParseError :=
  .recursionLimit (.point p.offset) p.position name env.config.maxRuleDepth

def noProgress (stack : Stack) (p : Place) (nodes : List Tree) (attempts : Nat) : ParseError :=
  let rule := match stack with
    | [] => "<root>"
    | (rule, _) :: _ => rule
  let empty := (Tree.nodesAll nodes).filter fun t => !t.isToken && t.range.isEmpty
  .infiniteLoop (.point p.offset) p.position rule attempts (addNames [] (empty.map Tree.name))

def consume (env : Setup) (token : String) (goal : Goal) : Eval := fun p =>
  match env.lexer.readToken env.source p.cursor goal p.prev with
  | .token t next => if t.name = token then .ok ⟨next, some t.kind⟩ [.ofToken t] [t] else .mismatch
  | _ => .mismatch

def notAhead (env : Setup) (token : String) (goal : Goal) : Eval := fun p =>
  match env.lexer.readToken env.source p.cursor goal p.prev with
  | .token t _ => if t.name = token then .mismatch else .ok p [] []
  | _ => .ok p [] []

def sameLine (env : Setup) : Eval := fun p =>
  match env.lexer.readToken env.source p.cursor defaultGoal p.prev with
  | .token t _ => if t.breakBefore then .mismatch else .ok p [] []
  | _ => .ok p [] []

def inOrder : List Eval → Eval
  | [], p => .ok p [] []
  | first :: rest, p =>
    match first p with
    | .ok q nodes tokens => (inOrder rest q).behind nodes tokens
    | failed => failed

def firstOf : List Eval → Eval
  | [], _ => .mismatch
  | first :: rest, p =>
    match first p with
    | .mismatch => firstOf rest p
    | done => done

def optional (body : Eval) : Eval := fun p =>
  match body p with
  | .mismatch => .ok p [] []
  | done => done

def rounds (stack : Stack) (body : Eval) : Nat → Nat → Eval
  | 0, done, p => .fatal (noProgress stack p [] done)
  | fuel + 1, done, p =>
    match body p with
    | .ok q nodes tokens =>
      if q.offset = p.offset ∧ tokens = [] then .fatal (noProgress stack q nodes (done + 1))
      else (rounds stack body fuel (done + 1) q).behind nodes tokens
    | .mismatch => .ok p [] []
    | .fatal error => .fatal error

def some (stack : Stack) (body : Eval) (bound : Nat) : Eval := fun p =>
  match body p with
  | .ok q nodes tokens =>
    if q.offset = p.offset ∧ tokens = [] then .fatal (noProgress stack q nodes 1)
    else (rounds stack body bound 1 q).behind nodes tokens
  | failed => failed

mutual

def eval (env : Setup) (bound : Nat) (stack : Stack) (call : String → String → Eval) : Body → Eval
  | .consume token goal => consume env token goal
  | .inOrder parts => inOrder (evalAll env bound stack call parts)
  | .call name rule => call name rule
  | .firstOf branches => firstOf (evalAll env bound stack call branches)
  | .many body => rounds stack (eval env bound stack call body) bound 0
  | .some body => some stack (eval env bound stack call body) bound
  | .optional body => optional (eval env bound stack call body)
  | .notAhead token goal => notAhead env token goal
  | .sameLine => sameLine env
  | .mismatch => fun _ => .mismatch
  | .raise error => fun _ => .fatal error
  | .whenRecording _ parsed => eval env bound stack call parsed
  -- not a body of the kind that is evaluated here: it goes on after any failure
  | .attempt _ => fun _ => .mismatch

def evalAll (env : Setup) (bound : Nat) (stack : Stack) (call : String → String → Eval) :
    List Body → List Eval
  | [] => []
  | b :: rest => eval env bound stack call b :: evalAll env bound stack call rest

end

theorem evalAllAsMap (env : Setup) (bound : Nat) (stack : Stack) (call : String → String → Eval)
    (bodies : List Body) : evalAll env bound stack call bodies = bodies.map (eval env bound stack call) := by
  induction bodies with
  | nil => rfl
  | cons b rest ih => simp [evalAll, ih]

def entering (env : Setup) (stack : Stack) (name : String) (body : Eval) : Eval := fun p =>
  if stack.contains (name, p.offset) then .fatal (leftRecursion stack name p)
  else if env.config.maxRuleDepth ≤ stack.length then .fatal (tooDeep env name p)
  else
    match body p with
    | .ok stop nodes tokens => .ok stop [Tree.ofRule name nodes p.offset p.position] tokens
    | failed => failed

def call (env : Setup) (rules : Rules) (bound : Nat) : Nat → Stack → String → String → Eval
  | 0, stack, name, _ => entering env stack name fun _ => .mismatch
  | levels + 1, stack, name, rule => entering env stack name fun p =>
    eval env bound ((name, p.offset) :: stack) (call env rules bound levels ((name, p.offset) :: stack))
      (rules.body rule) p

def run (env : Setup) (rules : Rules) (levels bound : Nat) (stack : Stack) (b : Body) : Eval :=
  eval env bound stack (call env rules bound levels stack) b

end Packrat.Peg
