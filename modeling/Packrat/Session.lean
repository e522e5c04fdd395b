import Packrat.Cache
import Packrat.Config
import Packrat.Error.Hint
import Packrat.Failure
import Packrat.Lexer.Reading
import Packrat.Log
import Packrat.Rule
import Packrat.Tree

/-! The state of a parse: the position, the children of the rules that are open, committed
tokens, remembered results, and the furthest failure. Backtracking restores the position
and cuts back what was added since. -/
namespace Packrat

structure State where
  offset : Nat
  line : Nat
  column : Nat
  prev : Option Kind
  depth : Nat
  tokenIndex : Nat
  deriving DecidableEq, Repr

namespace State

def first : State := ⟨0, 1, 0, none, 0, 0⟩

instance : Inhabited State := ⟨first⟩

def cursor (s : State) : Cursor := ⟨s.offset, s.line, s.column, s.depth⟩

def position (s : State) : LineCol := ⟨s.line, s.column⟩

def after (s : State) (t : Token) (next : Cursor) : State :=
  ⟨next.offset, next.line, next.column, some t.kind, next.depth, s.tokenIndex + 1⟩

end State

/-- What a rule result depends on: the rule and what decides the tokens from here. -/
structure MemoKey where
  rule : String
  offset : Nat
  prev : Option Kind
  depth : Nat
  deriving DecidableEq, Repr

def MemoKey.of (rule : String) (s : State) : MemoKey := ⟨rule, s.offset, s.prev, s.depth⟩

abbrev Recovery := TextRange × ParseError

structure Attempt where
  /-- Furthest offset at which a token was committed, abandoned paths included. -/
  reached : Nat := 0
  failure : Failure := {}
  recoveries : List Recovery := []
  deriving Repr, Inhabited

inductive Memo where
  | success (stop : State) (node : Tree) (tokens : List Token) (attempt : Attempt)
  | failure (attempt : Attempt)
  deriving Repr, Inhabited

structure ScanKey where
  offset : Nat
  goal : Goal
  prev : Option Kind
  depth : Nat
  deriving DecidableEq, Repr

structure Stats where
  tokensConsumed : Nat := 0
  nodesCreated : Nat := 0
  backtracks : Nat := 0
  cacheHits : Nat := 0
  cacheMisses : Nat := 0
  cacheEvictions : Nat := 0
  errorsRecovered : Nat := 0
  deriving DecidableEq, Repr, Inhabited

structure Setup where
  source : List Char
  lexer : Lexer
  config : ParserConfig

structure Session where
  state : State := .first
  root : List Tree := []
  frames : List (List Tree) := []
  memo : Cache MemoKey Memo
  scans : List (ScanKey × Scan) := []
  active : List (String × Nat) := []
  ruleStack : List (String × Nat) := []
  tokens : List Token := []
  furthest : Failure := {}
  highWater : Nat := 0
  stats : Stats := {}
  recoveries : List Recovery := []
  log : List Message := []

structure Mark where
  state : State
  children : Nat
  recoveries : Nat
  deriving DecidableEq, Repr

abbrev Action := Session → Verdict × Session

namespace Session

def children (s : Session) : List Tree :=
  match s.frames with
  | [] => s.root
  | frame :: _ => frame

def setChildren (s : Session) (children : List Tree) : Session :=
  match s.frames with
  | [] => { s with root := children }
  | _ :: outer => { s with frames := children :: outer }

def pushChild (s : Session) (node : Tree) : Session := s.setChildren (s.children ++ [node])

def mark (s : Session) : Mark := ⟨s.state, s.children.length, s.recoveries.length⟩

def rewind (s : Session) (m : Mark) : Session :=
  let s := if s.state = m.state then s
    else { s with state := m.state, stats := { s.stats with backtracks := s.stats.backtracks + 1 } }
  let s := s.setChildren (s.children.take m.children)
  { s with recoveries := s.recoveries.take m.recoveries }

def note (s : Session) (level : Level) (text : String) : Session :=
  { s with log := ⟨level, text⟩ :: s.log }

def path (s : Session) : List String := (s.ruleStack.map (·.1)).reverse

def scanKey (s : Session) (goal : Goal) : ScanKey :=
  ⟨s.state.offset, goal, s.state.prev, s.state.depth⟩

def scan (env : Setup) (goal : Goal) (s : Session) : Scan × Session :=
  match s.scans.lookup (s.scanKey goal) with
  | some found => (found, s)
  | none =>
    let found := env.lexer.readToken env.source s.state.cursor goal s.state.prev
    (found, { s with scans := (s.scanKey goal, found) :: s.scans })

def commit (s : Session) (t : Token) (next : Cursor) : Session :=
  let t := { t with index := s.state.tokenIndex }
  { s with
    state := s.state.after t next
    highWater := max s.highWater next.offset
    stats := { s.stats with tokensConsumed := s.stats.tokensConsumed + 1 }
    tokens := s.tokens.take t.index ++ [t] }

def expect (s : Session) (name : String) (found : Scan) : Session :=
  { s with furthest := s.furthest.expecting name found s.path }

def errorFrom (env : Setup) (s : Session) (f : Failure) : ParseError :=
  let offset := f.offset.getD s.state.offset
  let expected := f.expected.map env.lexer.displayName
  let texts := f.expected.map fun name => (env.lexer.literalText name).getD name
  match f.found with
  | .ended => .unexpectedEnd (.point offset) f.position expected f.path (suggestFix texts none)
  | .token name text range =>
    .syntaxError range f.position expected (name ++ " '" ++ text ++ "'") f.path
      (suggestFix texts (some text))
  | .unrecognized c =>
    .syntaxError (.ofOffsets offset (offset + c.utf8Size)) f.position expected
      ("unrecognized character " ++ Quoted.char c) f.path none
  | .nothing => .syntaxError (.point offset) s.state.position expected "no match" f.path none

def currentRule (s : Session) : String :=
  match s.ruleStack with
  | [] => "<root>"
  | (rule, _) :: _ => rule

def leftRecursion (s : Session) (name : String) : ParseError :=
  let entered := s.ruleStack.reverse
  let cycle := match entered.dropWhile (· != (name, s.state.offset)) with
    | [] => entered
    | found => found
  .leftRecursion (.point s.state.offset) s.state.position name (cycle.map (·.1) ++ [name])

def infiniteLoop (s : Session) (m : Mark) (attempts : Nat) : ParseError :=
  let nodes := Tree.nodesAll (s.children.drop m.children)
  let empty := nodes.filter fun t => !t.isToken && t.range.isEmpty
  .infiniteLoop (.point s.state.offset) s.state.position s.currentRule attempts
    (addNames [] (empty.map Tree.name))

def recursionLimit (env : Setup) (s : Session) (name : String) : ParseError :=
  .recursionLimit (.point s.state.offset) s.state.position name env.config.maxRuleDepth

def trace (env : Setup) (event name : String) (s : Session) : Session :=
  if env.config.debug then
    let line := event ++ " " ++ name ++ " @" ++ s.state.position.render
    s.note .debug
      (if env.config.showPath then line ++ " [" ++ String.intercalate " > " s.path ++ "]" else line)
  else s

end Session
end Packrat
