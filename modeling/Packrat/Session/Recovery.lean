import Packrat.Session

/-! Error recovery inside repetitions: tokens are skipped up to and including the next
synchronization token and kept in an error node. -/
namespace Packrat

def unrecognizedName : String := "#unrecognized"

def unrecognizedKind : Kind := 65535

def unrecognizedToken (cursor : Cursor) (c : Char) : Token × Cursor :=
  let next := cursor.advance [c]
  ({ name := unrecognizedName, kind := unrecognizedKind, text := String.ofList [c],
     range := .ofOffsets cursor.offset next.offset, start := cursor.position,
     stop := next.position, breakBefore := false, index := 0 }, next)

namespace Session

/-- Commits tokens of the default goal up to the first synchronization token or the end,
and returns them as nodes. Each is at least one character, so the length of the source
bounds their number. -/
def skip (env : Setup) : Nat → Session → List Tree × Session
  | 0, s => ([], s)
  | fuel + 1, s =>
    match s.scan env defaultGoal with
    | (.token t next, s) =>
      if env.config.isSync t.name then ([.ofToken t], s.commit t next)
      else
        let rest := skip env fuel (s.commit t next)
        (.ofToken t :: rest.1, rest.2)
    | (.unrecognized cursor c, s) =>
      let made := unrecognizedToken cursor c
      let rest := skip env fuel (s.commit made.1 made.2)
      (.ofToken made.1 :: rest.1, rest.2)
    | (.ended _, s) => ([], s)

def recover (env : Setup) (failure : Failure) (s : Session) : Bool × Session :=
  if env.config.maxErrors ≤ s.recoveries.length then (false, s)
  else
    let error := s.errorFrom env failure
    let (skipped, t) := s.skip env (env.source.length + 1)
    if skipped.isEmpty then (false, t)
    else
      let node := Tree.ofError error.message skipped s.state.offset s.state.position
      let t := t.note .debug
        ("recovered from `" ++ error.message ++ "` by skipping " ++ node.range.render)
      (true, ({ t with recoveries := t.recoveries ++ [(node.range, error)] } : Session).pushChild node)

end Session
end Packrat
