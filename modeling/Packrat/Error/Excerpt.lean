import Packrat.Error
import Packrat.Text.Slice

/-! Errors shown with the source line they point at, and as labelled diagnostics. -/
namespace Packrat

def cutAt : List Char → Nat → List Char × List Char
  | [], _ => ([], [])
  | c :: rest, n =>
    if c.utf8Size ≤ n then
      let r := cutAt rest (n - c.utf8Size)
      (c :: r.1, r.2)
    else ([], c :: rest)

def lastLine (text : List Char) : List Char :=
  (text.reverse.takeWhile (· != '\n')).reverse

def ParseError.excerpt (e : ParseError) (source : List Char) : String :=
  let cut := cutAt source e.span.start
  let before := lastLine cut.1
  let line := before ++ cut.2.takeWhile (· != '\n')
  let width := max (e.span.slice source).length 1
  let help := match e.suggestion? with
    | some s => "\n  = help: " ++ s
    | none => ""
  "error: " ++ e.message ++ "\n  | " ++ String.ofList line ++ "\n  | "
    ++ String.ofList (List.replicate before.length ' ' ++ List.replicate width '^') ++ help

structure Diagnostic where
  code : String
  help : Option String
  labels : List (Option String × Nat × Nat)
  deriving DecidableEq, Repr

def ParseError.label : ParseError → Option String
  | .syntaxError _ _ _ found _ _ => some ("unexpected " ++ found)
  | .unexpectedEnd .. => some "input ends here"
  | .leftRecursion .. => some "rule re-entered here"
  | .infiniteLoop .. => some "loop does not advance"
  | .recursionLimit .. => none
  | .custom .. => none

def ParseError.code : ParseError → String
  | .syntaxError .. => "parser::syntax"
  | .unexpectedEnd .. => "parser::unexpected_eof"
  | .leftRecursion .. => "parser::left_recursion"
  | .infiniteLoop .. => "parser::infinite_loop"
  | .recursionLimit .. => "parser::recursion_limit"
  | .custom .. => "parser::custom"

def ParseError.help : ParseError → Option String
  | .leftRecursion .. => some "rewrite the rule as a repetition: `A := B (op B)*`"
  | .infiniteLoop .. =>
    some "a repeated body must consume at least one token; check its optional parts"
  | e => e.suggestion?

def ParseError.diagnostic (e : ParseError) : Diagnostic :=
  ⟨e.code, e.help, [(e.label, e.span.start, e.span.length)]⟩

end Packrat
