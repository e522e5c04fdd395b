/-! Messages that operations leave behind, in the order in which they arise. -/
namespace Packrat

inductive Level where
  | warn
  | debug
  | trace
  deriving DecidableEq, Repr

namespace Level

def rank : Level → Nat
  | .warn => 0
  | .debug => 1
  | .trace => 2

def label : Level → String
  | .warn => "WARN"
  | .debug => "DEBUG"
  | .trace => "TRACE"

end Level

structure Message where
  level : Level
  text : String
  deriving DecidableEq, Repr

def Message.render (m : Message) : String := m.level.label ++ " " ++ m.text

def messagesUpTo (level : Level) (log : List Message) : List Message :=
  log.filter fun m => m.level.rank ≤ level.rank

end Packrat
