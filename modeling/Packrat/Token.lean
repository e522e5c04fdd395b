import Packrat.Text.Quoted
import Packrat.Token.Cursor

/-! Tokens and what reading one of them can come to. -/
namespace Packrat

abbrev Kind := Nat

structure Token where
  name : String
  kind : Kind
  text : String
  range : TextRange
  start : LineCol
  stop : LineCol
  breakBefore : Bool
  index : Nat
  deriving DecidableEq, Repr, Inhabited

def Token.render (t : Token) : String :=
  t.name ++ "(" ++ Quoted.text t.text ++ ")@" ++ t.start.render

inductive Scan where
  | token (found : Token) (next : Cursor)
  | ended (cursor : Cursor)
  | unrecognized (cursor : Cursor) (found : Char)
  deriving DecidableEq, Repr, Inhabited

namespace Scan

def offset : Scan → Nat
  | .token t _ => t.range.start
  | .ended cursor => cursor.offset
  | .unrecognized cursor _ => cursor.offset

def position : Scan → LineCol
  | .token t _ => t.start
  | .ended cursor => cursor.position
  | .unrecognized cursor _ => cursor.position

end Scan
end Packrat
