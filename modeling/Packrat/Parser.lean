import Packrat.Grammar.Recording
import Packrat.Grammar.Validation
import Packrat.Session.Run

/-! Parsers: a source with its token definitions and settings, and the session in which it
is parsed. Scans stay from one parse to the next; everything else starts afresh. -/
namespace Packrat

structure Output where
  root : Tree
  tokens : List Token
  errors : List ParseError
  fragments : List Tree
  stats : Stats

namespace Session

def endOfInput : String := "end of input"

def reset (s : Session) : Session :=
  { memo := s.memo.clear, scans := s.scans, log := s.log }

def finish (env : Setup) (s : Session) : Except ParseError Output × Session :=
  match s.scan env defaultGoal with
  | (.ended _, s) =>
    match s.root.getLast? with
    | none => (.error (.custom ⟨0, 0⟩ "entry rule produced no syntax tree"), s)
    | .some root =>
      let t := { s with root := s.root.dropLast, tokens := s.tokens.take s.state.tokenIndex }
      let fragments := root.topErrors
      let errors := fragments.filterMap fun node =>
        (t.recoveries.find? (·.1 == node.range)).map (·.2)
      (.ok ⟨root, t.tokens, errors, fragments, {}⟩, t)
  | (found, s) =>
    let t := s.expect endOfInput found
    (.error (t.errorFrom env t.furthest), t)

def closeStats (s : Session) : Session :=
  { s with stats := { s.stats with
    cacheHits := s.memo.hits
    cacheMisses := s.memo.misses
    cacheEvictions := s.memo.evictions
    errorsRecovered := s.recoveries.length } }

def parseRule (env : Setup) (rules : Rules) (name rule : String) (s : Session) :
    Except ParseError Output × Session :=
  let (outcome, t) :=
    match invoke env rules env.config.maxRuleDepth name rule s.reset with
    | (.ok, t) => finish env t
    | (.mismatch, t) => (.error (t.errorFrom env t.furthest), t)
    | (.fatal error, t) => (.error error, t)
  let t := t.closeStats
  match outcome with
  | .ok output =>
    (.ok { output with stats := t.stats }, t.note .debug
      ("parsed `" ++ name ++ "`: " ++ toString output.tokens.length ++ " tokens, "
        ++ toString t.stats.backtracks ++ " backtracks, " ++ toString t.stats.cacheHits
        ++ " cache hits"))
  | .error error =>
    (.error error, t.note .debug ("parse of `" ++ name ++ "` failed: " ++ error.message))

end Session

structure Parser where
  setup : Setup
  session : Session

namespace Parser

def ofDefinitions (source : String) (definitions : List Definition) :
    Except DefinitionError Parser := do
  let lexer ← Lexer.ofDefinitions definitions
  let config : ParserConfig := {}
  pure ⟨⟨source.toList, lexer, config⟩, { memo := .ofCapacity config.maxMemo }⟩

def config (p : Parser) : ParserConfig := p.setup.config

def mapConfig (p : Parser) (f : ParserConfig → ParserConfig) : Parser :=
  { p with setup := { p.setup with config := f p.config } }

def withConfig (p : Parser) (config : ParserConfig) : Parser :=
  let session := { p.session with memo := p.session.memo.resize config.maxMemo }
  ({ p with session := session } : Parser).mapConfig fun _ => config

def setCache (p : Parser) (on : Bool) : Parser := p.mapConfig ({ · with memoize := on })

def setRecovery (p : Parser) (on : Bool) : Parser := p.mapConfig ({ · with recover := on })

def setDebug (p : Parser) (showPath : Bool) : Parser :=
  p.mapConfig ({ · with debug := true, showPath := showPath })

def stats (p : Parser) : Stats := p.session.stats

def parse (p : Parser) (rules : Rules) (name rule : String) : Except ParseError Output × Parser :=
  let (outcome, session) := p.session.parseRule p.setup rules name rule
  (outcome, { p with session := session })

def run (p : Parser) (rules : Rules) (body : Body) : Verdict × Parser :=
  let (verdict, session) := Session.run p.setup rules body p.session
  (verdict, { p with session := session })

def validate (p : Parser) (rules : Rules) (name rule : String) (clock : Nat → Nat) :
    Report × Parser :=
  let (g, recorded) := Grammar.collect rules name rule p.setup.lexer.definitions
  let (report, found) := Validation.validate g p.config.analyzer clock
  let closing : List Message :=
    if report.accepts then
      [⟨.debug, "grammar `" ++ report.entry ++ "` validated: " ++ toString report.stats.rules
        ++ " rules, " ++ toString report.stats.choices ++ " choices"⟩]
    else []
  let log := (recorded ++ found ++ closing).reverse ++ p.session.log
  (report, { p with session := { p.session with log := log } })

def takeLog (p : Parser) : List Message × Parser :=
  (p.session.log.reverse, { p with session := { p.session with log := [] } })

end Parser
end Packrat
