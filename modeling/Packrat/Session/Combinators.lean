import Packrat.Session.Recovery

/-! The combinators from which rule bodies are made, as actions on a session. A mismatch
is undone by the nearest alternative, option or repetition; a fatal verdict ends the parse. -/
namespace Packrat.Session

def consume (env : Setup) (token : String) (goal : Goal) : Action := fun s =>
  match s.scan env goal with
  | (.token t next, s) =>
    if t.name = token then (.ok, (s.commit t next).pushChild (.ofToken t))
    else (.mismatch, s.expect token (.token t next))
  | (found, s) => (.mismatch, s.expect token found)

def notAhead (env : Setup) (token : String) (goal : Goal) : Action := fun s =>
  match s.scan env goal with
  | (.token t _, s) => (if t.name = token then .mismatch else .ok, s)
  | (_, s) => (.ok, s)

def sameLine (env : Setup) : Action := fun s =>
  match s.scan env defaultGoal with
  | (.token t _, s) => (if t.breakBefore then .mismatch else .ok, s)
  | (_, s) => (.ok, s)

def inOrder : List Action → Action
  | [], s => (.ok, s)
  | first :: rest, s =>
    match first s with
    | (.ok, s) => inOrder rest s
    | failed => failed

def firstOf : List Action → Action
  | [], s => (.mismatch, s)
  | first :: rest, s =>
    match first s with
    | (.mismatch, t) => firstOf rest (t.rewind s.mark)
    | done => done

def optional (body : Action) : Action := fun s =>
  match body s with
  | (.mismatch, t) => (.ok, t.rewind s.mark)
  | done => done

def stoodStill (m : Mark) (s : Session) : Bool :=
  s.state.offset == m.state.offset && s.state.tokenIndex == m.state.tokenIndex

def round (body : Action) (s : Session) : Verdict × Failure × Nat × Session :=
  let (verdict, t) := body { s with highWater := s.state.offset, furthest := {} }
  (verdict, t.furthest, t.highWater,
    { t with highWater := max s.highWater t.highWater, furthest := s.furthest.merge t.furthest })

/-- Repeats the body until it does not match. A round that matches without moving is an
error. A round that fails after moving may be recovered from. Every round that goes on
moves the offset, so the rounds are bounded by the bytes of the source. -/
def repeatFrom (env : Setup) (body : Action) : Nat → Nat → Action
  | 0, done, s => (.fatal (s.infiniteLoop s.mark done), s)
  | fuel + 1, done, s =>
    match round body s with
    | (.ok, _, _, t) =>
      if stoodStill s.mark t then (.fatal (t.infiniteLoop s.mark (done + 1)), t)
      else repeatFrom env body fuel (done + 1) t
    | (.mismatch, failure, reached, t) =>
      let t := t.rewind s.mark
      if env.config.recover && s.state.offset < reached then
        match t.recover env failure with
        | (true, t) => repeatFrom env body fuel (done + 1) t
        | (false, t) => (.ok, t)
      else (.ok, t)
    | (.fatal error, _, _, t) => (.fatal error, t)

def roundLimit (env : Setup) : Nat := byteLength env.source + 1

def many (env : Setup) (body : Action) : Action := repeatFrom env body (roundLimit env) 0

def some (env : Setup) (body : Action) : Action := fun s =>
  match body s with
  | (.ok, t) =>
    if stoodStill s.mark t then (.fatal (t.infiniteLoop s.mark 1), t)
    else repeatFrom env body (roundLimit env) 1 t
  | (.mismatch, t) => (.mismatch, t.rewind s.mark)
  | fatal => fatal

def attempt (body : Action) : Action := fun s => (.ok, (body s).2)

def replayAttempt (s : Session) (a : Attempt) : Session :=
  { s with
    highWater := max s.highWater a.reached
    furthest := s.furthest.merge (a.failure.rootedAt s.path)
    recoveries := s.recoveries ++ a.recoveries }

def renumber (first : Nat) (tokens : List Token) : List Token :=
  tokens.mapIdx fun i t => { t with index := first + i }

def replay (s : Session) : Memo → Verdict × Session
  | .success stop node tokens attempt =>
    let first := s.state.tokenIndex
    let t := { s with
      tokens := s.tokens.take first ++ renumber first tokens
      state := { stop with tokenIndex := first + tokens.length } }
    (.ok, (t.replayAttempt attempt).pushChild node)
  | .failure attempt => (.mismatch, s.replayAttempt attempt)

def remember (env : Setup) (key : MemoKey) (memo : Memo) (s : Session) : Session :=
  if env.config.memoize then { s with memo := s.memo.insert key memo } else s

def openRule (env : Setup) (name : String) (s : Session) : Session :=
  ({ s with
    highWater := s.state.offset
    furthest := {}
    ruleStack := (name, s.state.offset) :: s.ruleStack
    frames := [] :: s.frames } : Session).trace env "enter" name

def closeRule (env : Setup) (name : String) (outer : Session) (verdict : Verdict) (s : Session) :
    List Tree × Nat × Failure × Session :=
  let children := s.frames.head?.getD []
  let event := if verdict = .ok then "match" else "fail"
  let t := ({ s with frames := s.frames.tail } : Session).trace env event name
  (children, t.highWater, t.furthest,
    { t with
      ruleStack := t.ruleStack.tail
      highWater := max outer.highWater t.highWater
      furthest := outer.furthest.merge t.furthest })

def runFresh (env : Setup) (name : String) (body : Action) : Action := fun s =>
  let key := MemoKey.of name s.state
  let (verdict, t) := body (s.openRule env name)
  let (children, reached, failure, t) := closeRule env name s verdict t
  let attempt : Attempt := ⟨reached, failure.relativeTo s.ruleStack.length, []⟩
  match verdict with
  | .ok =>
    let node := Tree.ofRule name children s.state.offset s.state.position
    let tokens := (t.tokens.take t.state.tokenIndex).drop s.state.tokenIndex
    let recovered := t.recoveries.drop s.recoveries.length
    let t := { t with stats := { t.stats with nodesCreated := t.stats.nodesCreated + 1 } }
    let t := t.remember env key (.success t.state node tokens { attempt with recoveries := recovered })
    (.ok, t.pushChild node)
  | .mismatch =>
    let t := { t with state := s.state, recoveries := t.recoveries.take s.recoveries.length }
    (.mismatch, t.remember env key (.failure attempt))
  | .fatal error =>
    (.fatal error, { t with state := s.state, recoveries := t.recoveries.take s.recoveries.length })

def runRule (env : Setup) (name : String) (body : Action) : Action := fun s =>
  if env.config.memoize then
    match s.memo.get (MemoKey.of name s.state) with
    | (.some memo, cache) =>
      (({ s with memo := cache } : Session).note .trace
        ("memo hit " ++ name ++ " @" ++ toString s.state.offset)).replay memo
    | (.none, cache) => runFresh env name body { s with memo := cache }
  else runFresh env name body s

def subrule (env : Setup) (name : String) (body : Action) : Action := fun s =>
  let here := (name, s.state.offset)
  if s.active.contains here then (.fatal (s.leftRecursion name), s)
  else if env.config.maxRuleDepth ≤ s.ruleStack.length then (.fatal (s.recursionLimit env name), s)
  else
    let (verdict, t) := runRule env name body { s with active := here :: s.active }
    (verdict, { t with active := t.active.erase here })

end Packrat.Session
