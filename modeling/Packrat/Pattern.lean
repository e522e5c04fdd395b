import Packrat.Pattern.Program
import Packrat.Pattern.Reader

/-! Compiled patterns. A pattern is tried at the start of a text and reports where its
preferred match ends. -/
namespace Packrat

structure Pattern where
  written : String
  program : Pattern.Program
  deriving Repr, Inhabited

namespace Pattern

/-- The written pattern is put into a group behind the start of the text and the whole
is read, so a group closed early in it leaves its later branches free to match further on. -/
def compile (written : String) : Except Fault Pattern := do
  let anchored := "\\A(?:".toList ++ written.toList ++ [')']
  let e ← read anchored
  pure ⟨written, .ofExpr e⟩

def matchLength? (p : Pattern) (text : List Char) : Option Nat := p.program.matchEnd? text

def matches? (p : Pattern) (text : List Char) : Bool := (p.matchLength? text).isSome

end Pattern
end Packrat
