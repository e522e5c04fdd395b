/-! Settings of the parser and of the grammar analyzer. -/
namespace Packrat

structure Duration where
  secs : Nat
  nanos : Nat
  deriving DecidableEq, Repr

namespace Duration

def perSecond : Nat := 1000000000

def ofMillis (n : Nat) : Duration := ⟨n / 1000, n % 1000 * 1000000⟩

def toNanos (d : Duration) : Nat := d.secs * perSecond + d.nanos

def fraction (part whole : Nat) : String :=
  let padded := (Nat.toDigits 10 (whole + part)).drop 1
  match (padded.reverse.dropWhile (· == '0')).reverse with
  | [] => ""
  | digits => "." ++ String.ofList digits

def render (d : Duration) : String :=
  if 0 < d.secs then toString d.secs ++ fraction d.nanos perSecond ++ "s"
  else if 1000000 ≤ d.nanos then
    toString (d.nanos / 1000000) ++ fraction (d.nanos % 1000000) 1000000 ++ "ms"
  else if 1000 ≤ d.nanos then
    toString (d.nanos / 1000) ++ fraction (d.nanos % 1000) 1000 ++ "µs"
  else toString d.nanos ++ "ns"

end Duration

structure AnalyzerConfig where
  firstK : Nat := 3
  maxDepth : Nat := 6
  maxPaths : Nat := 2048
  timeout : Duration := ⟨10, 0⟩
  deriving DecidableEq, Repr

namespace AnalyzerConfig

def withFirstK (c : AnalyzerConfig) (k : Nat) : AnalyzerConfig := { c with firstK := max k 1 }

def withMaxDepth (c : AnalyzerConfig) (d : Nat) : AnalyzerConfig := { c with maxDepth := max d 1 }

def normalized (c : AnalyzerConfig) : AnalyzerConfig := (c.withFirstK c.firstK).withMaxDepth c.maxDepth

end AnalyzerConfig

structure ParserConfig where
  memoize : Bool := true
  maxMemo : Nat := 10000
  recover : Bool := false
  syncTokens : List String := []
  maxErrors : Nat := 100
  maxRuleDepth : Nat := 1000
  debug : Bool := false
  showPath : Bool := false
  analyzer : AnalyzerConfig := {}
  deriving DecidableEq, Repr

def ParserConfig.isSync (c : ParserConfig) (name : String) : Bool := c.syncTokens.contains name

end Packrat
