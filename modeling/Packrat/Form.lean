import Packrat.Config
import Packrat.Tree

/-! The serial form of settings and trees: plain values with named fields. Reading is
strict about types; fields of settings that are left out take their defaults, and fields
that are not known are passed over. -/
namespace Packrat

inductive Form where
  | null
  | flag (b : Bool)
  | number (digits : Int) (places : Nat)
  | text (s : String)
  | list (items : List Form)
  | record (fields : List (String × Form))
  deriving Repr, Inhabited

namespace Form

def ofNat (n : Nat) : Form := .number n 0

def flag? : Form → Option Bool
  | .flag b => some b
  | _ => none

def text? : Form → Option String
  | .text s => some s
  | _ => none

def natBelow? (bound : Nat) : Form → Option Nat
  | .number (.ofNat n) 0 => if n < bound then some n else none
  | _ => none

def size? : Form → Option Nat := natBelow? (Nat.pow 2 64)

def list? : Form → Option (List Form)
  | .list items => some items
  | _ => none

def texts? (f : Form) : Option (List String) := f.list?.bind (·.mapM text?)

/-- The fields of a record. A list gives the fields in order, as far as it goes. -/
def fields? (names : List String) : Form → Option (List (String × Form))
  | .record fields => some fields
  | .list items => if items.length ≤ names.length then some (names.zip items) else none
  | _ => none

def fieldOr {α : Type} (fields : List (String × Form)) (name : String) (read : Form → Option α)
    (default : α) : Option α :=
  match fields.lookup name with
  | some value => read value
  | none => some default

end Form

namespace Duration

def toForm (d : Duration) : Form := .record [("secs", .ofNat d.secs), ("nanos", .ofNat d.nanos)]

def ofForm? (f : Form) : Option Duration := do
  let fields ← f.fields? ["secs", "nanos"]
  if fields.all fun field => field.1 == "secs" || field.1 == "nanos" then
    let secs ← (fields.lookup "secs").bind Form.size?
    let nanos ← (fields.lookup "nanos").bind (Form.natBelow? (Nat.pow 2 32))
    let total := secs + nanos / perSecond
    if total < Nat.pow 2 64 then pure ⟨total, nanos % perSecond⟩ else none
  else none

end Duration

namespace AnalyzerConfig

def toForm (c : AnalyzerConfig) : Form :=
  .record [("first_k", .ofNat c.firstK), ("max_depth", .ofNat c.maxDepth),
    ("max_paths", .ofNat c.maxPaths), ("timeout", c.timeout.toForm)]

def ofForm? (f : Form) : Option AnalyzerConfig := do
  let fields ← f.fields? ["first_k", "max_depth", "max_paths", "timeout"]
  let d : AnalyzerConfig := {}
  let firstK ← Form.fieldOr fields "first_k" Form.size? d.firstK
  let maxDepth ← Form.fieldOr fields "max_depth" Form.size? d.maxDepth
  let maxPaths ← Form.fieldOr fields "max_paths" Form.size? d.maxPaths
  let timeout ← Form.fieldOr fields "timeout" Duration.ofForm? d.timeout
  pure ⟨firstK, maxDepth, maxPaths, timeout⟩

end AnalyzerConfig

namespace ParserConfig

def toForm (c : ParserConfig) : Form :=
  .record [("enable_memoization", .flag c.memoize), ("max_memo_size", .ofNat c.maxMemo),
    ("error_recovery", .flag c.recover), ("sync_tokens", .list (c.syncTokens.map .text)),
    ("max_errors", .ofNat c.maxErrors), ("max_rule_depth", .ofNat c.maxRuleDepth),
    ("debug", .flag c.debug), ("show_path", .flag c.showPath), ("analyzer", c.analyzer.toForm)]

def ofForm? (f : Form) : Option ParserConfig := do
  let fields ← f.fields? ["enable_memoization", "max_memo_size", "error_recovery", "sync_tokens",
    "max_errors", "max_rule_depth", "debug", "show_path", "analyzer"]
  let d : ParserConfig := {}
  let memoize ← Form.fieldOr fields "enable_memoization" Form.flag? d.memoize
  let maxMemo ← Form.fieldOr fields "max_memo_size" Form.size? d.maxMemo
  let recover ← Form.fieldOr fields "error_recovery" Form.flag? d.recover
  let syncTokens ← Form.fieldOr fields "sync_tokens" Form.texts? d.syncTokens
  let maxErrors ← Form.fieldOr fields "max_errors" Form.size? d.maxErrors
  let maxRuleDepth ← Form.fieldOr fields "max_rule_depth" Form.size? d.maxRuleDepth
  let debug ← Form.fieldOr fields "debug" Form.flag? d.debug
  let showPath ← Form.fieldOr fields "show_path" Form.flag? d.showPath
  let analyzer ← Form.fieldOr fields "analyzer" AnalyzerConfig.ofForm? d.analyzer
  pure ⟨memoize, maxMemo, recover, syncTokens, maxErrors, maxRuleDepth, debug, showPath, analyzer⟩

end ParserConfig

def TextRange.toForm (r : TextRange) : Form :=
  .record [("start", .ofNat r.start), ("end", .ofNat r.stop)]

def LineCol.toForm (p : LineCol) : Form :=
  .record [("line", .ofNat p.line), ("column", .ofNat p.column)]

def Location.toForm (l : Location) : Form :=
  .record [("start", l.start.toForm), ("end", l.stop.toForm)]

namespace Tree

def formOf (name kind : String) (children : List Form) (range : TextRange) (location : Location)
    (value : Form) : Form :=
  .record [("name", .text name), ("kind", .text kind), ("children", .list children),
    ("range", range.toForm), ("location", location.toForm), ("value", value)]

mutual

def toForm : Tree → Form
  | .token name text range location => formOf name "Token" [] range location (.text text)
  | .rule name children range location =>
    formOf name "Rule" (toForms children) range location .null
  | .error message children range location =>
    formOf errorName "Error" (toForms children) range location (.text message)

def toForms : List Tree → List Form
  | [] => []
  | t :: rest => t.toForm :: toForms rest

end

end Tree

def TextRange.ofForm? (f : Form) : Option TextRange := do
  let fields ← f.fields? ["start", "end"]
  let start ← (fields.lookup "start").bind (Form.natBelow? (Nat.pow 2 32))
  let stop ← (fields.lookup "end").bind (Form.natBelow? (Nat.pow 2 32))
  pure ⟨start, stop⟩

def LineCol.ofForm? (f : Form) : Option LineCol := do
  let fields ← f.fields? ["line", "column"]
  let line ← (fields.lookup "line").bind (Form.natBelow? (Nat.pow 2 32))
  let column ← (fields.lookup "column").bind (Form.natBelow? (Nat.pow 2 32))
  pure ⟨line, column⟩

def Location.ofForm? (f : Form) : Option Location := do
  let fields ← f.fields? ["start", "end"]
  let start ← (fields.lookup "start").bind LineCol.ofForm?
  let stop ← (fields.lookup "end").bind LineCol.ofForm?
  pure ⟨start, stop⟩

namespace Tree

mutual

def ofForm? : Nat → Form → Option Tree
  | 0, _ => none
  | depth + 1, f => do
    let fields ← f.fields? ["name", "kind", "children", "range", "location", "value"]
    let name ← (fields.lookup "name").bind Form.text?
    let kind ← (fields.lookup "kind").bind Form.text?
    let items ← (fields.lookup "children").bind Form.list?
    let children ← ofForms? depth items
    let range ← (fields.lookup "range").bind TextRange.ofForm?
    let location ← (fields.lookup "location").bind Location.ofForm?
    if kind = "Token" then
      let text ← (fields.lookup "value").bind Form.text?
      pure (.token name text range location)
    else if kind = "Rule" then pure (.rule name children range location)
    else if kind = "Error" then
      let message ← (fields.lookup "value").bind Form.text?
      pure (.error message children range location)
    else none

def ofForms? : Nat → List Form → Option (List Tree)
  | _, [] => some []
  | depth, f :: rest => do
    let t ← ofForm? depth f
    let ts ← ofForms? depth rest
    pure (t :: ts)

end

end Tree
end Packrat
