import Packrat.Text.Position

/-! What can go wrong in a parse, with its wording. Syntax errors are about the input;
left recursion, loops that do not advance and runaway nesting are defects of the grammar. -/
namespace Packrat

inductive ParseError where
  | syntaxError (span : TextRange) (position : LineCol) (expected : List String) (found : String)
      (path : List String) (suggestion : Option String)
  | unexpectedEnd (span : TextRange) (position : LineCol) (expected : List String)
      (path : List String) (suggestion : Option String)
  | leftRecursion (span : TextRange) (position : LineCol) (rule : String) (cycle : List String)
  | infiniteLoop (span : TextRange) (position : LineCol) (rule : String) (attempts : Nat)
      (suspects : List String)
  | recursionLimit (span : TextRange) (position : LineCol) (rule : String) (depth : Nat)
  | custom (span : TextRange) (message : String)
  deriving DecidableEq, Repr

def inWords : List String → String
  | [] => "nothing"
  | [a] => a
  | [a, b] => a ++ " or " ++ b
  | many => String.intercalate ", " many.dropLast ++ ", or " ++ many.getLastD ""

def arrows (path : List String) : String := String.intercalate " -> " path

namespace ParseError

def span : ParseError → TextRange
  | .syntaxError span .. => span
  | .unexpectedEnd span .. => span
  | .leftRecursion span .. => span
  | .infiniteLoop span .. => span
  | .recursionLimit span .. => span
  | .custom span _ => span

def position? : ParseError → Option LineCol
  | .syntaxError _ position .. => some position
  | .unexpectedEnd _ position .. => some position
  | .leftRecursion _ position .. => some position
  | .infiniteLoop _ position .. => some position
  | .recursionLimit _ position .. => some position
  | .custom _ _ => none

def expected? : ParseError → Option (List String)
  | .syntaxError _ _ expected .. => some expected
  | .unexpectedEnd _ _ expected .. => some expected
  | _ => none

def suggestion? : ParseError → Option String
  | .syntaxError _ _ _ _ _ suggestion => suggestion
  | .unexpectedEnd _ _ _ _ suggestion => suggestion
  | _ => none

def isDefect : ParseError → Bool
  | .leftRecursion .. => true
  | .infiniteLoop .. => true
  | .recursionLimit .. => true
  | _ => false

def message : ParseError → String
  | .syntaxError _ position expected found _ _ =>
    "syntax error at " ++ position.render ++ ": expected " ++ inWords expected ++ ", found " ++ found
  | .unexpectedEnd _ position expected _ _ =>
    "unexpected end of input at " ++ position.render ++ ": expected " ++ inWords expected
  | .leftRecursion _ position rule cycle =>
    "left recursion in rule `" ++ rule ++ "` at " ++ position.render ++ ": " ++ arrows cycle
  | .infiniteLoop _ position rule attempts _ =>
    "infinite loop in rule `" ++ rule ++ "` at " ++ position.render
      ++ ": repetition body succeeded without consuming input after " ++ toString attempts
      ++ " attempt(s)"
  | .recursionLimit _ position rule depth =>
    "rule nesting deeper than " ++ toString depth ++ " in `" ++ rule ++ "` at " ++ position.render
  | .custom _ message => message

end ParseError
end Packrat
