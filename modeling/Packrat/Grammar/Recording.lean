import Packrat.Grammar
import Packrat.Log
import Packrat.Rule

/-! Recording: running rule bodies without input to learn their structure. Every
alternative and every loop body is run once; an invoked rule is queued for its own
recording. -/
namespace Packrat

structure Recorder where
  pending : List (String × String) := []
  seen : List String := []
  log : List Message := []

namespace Recorder

def note (r : Recorder) (level : Level) (text : String) : Recorder :=
  { r with log := ⟨level, text⟩ :: r.log }

def queue (r : Recorder) (name rule : String) : Recorder :=
  if r.seen.contains name then r
  else { r with pending := r.pending ++ [(name, rule)], seen := name :: r.seen }

def close (r : Recorder) (rule : Option String) (verdict : Verdict) (parts : List Node) :
    Node × Recorder :=
  let r := match verdict with
    | .fatal error =>
      if error.isDefect then r
      else r.note .warn ("rule `" ++ rule.getD "<anonymous>"
        ++ "` raised an error while recording, keeping partial structure: " ++ error.message)
    | .mismatch => r
    | .ok => r
  (.inOrder parts rule, r)

mutual

def record : Body → Recorder → Verdict × List Node × Recorder
  | .consume token _, r => (.ok, [.consume token], r)
  | .inOrder parts, r => recordParts parts r
  | .call name rule, r => (.ok, [.call name], r.queue name rule)
  | .firstOf branches, r =>
    let (nodes, r) := recordBranches branches r
    (.ok, [.firstOf nodes], r)
  | .many body, r =>
    let (verdict, parts, r) := record body r
    let (node, r) := r.close none verdict parts
    (.ok, [.many node], r)
  | .some body, r =>
    let (verdict, parts, r) := record body r
    let (node, r) := r.close none verdict parts
    (.ok, [.some node], r)
  | .optional body, r =>
    let (verdict, parts, r) := record body r
    let (node, r) := r.close none verdict parts
    (.ok, [.optional node], r)
  | .notAhead _ _, r => (.ok, [], r)
  | .sameLine, r => (.ok, [], r)
  | .mismatch, r => (.mismatch, [], r)
  | .raise error, r => (.fatal error, [], r)
  | .whenRecording recorded _, r => record recorded r
  | .attempt body, r =>
    let (_, parts, r) := record body r
    (.ok, parts, r)

def recordParts : List Body → Recorder → Verdict × List Node × Recorder
  | [], r => (.ok, [], r)
  | b :: rest, r =>
    match record b r with
    | (.ok, parts, r) =>
      let (verdict, more, r) := recordParts rest r
      (verdict, parts ++ more, r)
    | failed => failed

def recordBranches : List Body → Recorder → List Node × Recorder
  | [], r => ([], r)
  | b :: rest, r =>
    let (verdict, parts, r) := record b r
    let (node, r) := r.close none verdict parts
    let (nodes, r) := recordBranches rest r
    (node :: nodes, r)

end

/-- Records queued rules until none is left. A name is queued once, so the invocations
written in the rules bound the number of turns. -/
def drain (rules : Rules) : Nat → Grammar → Recorder → Grammar × Recorder
  | 0, g, r => (g, r)
  | fuel + 1, g, r =>
    match r.pending with
    | [] => (g, r)
    | (name, rule) :: rest =>
      let (verdict, parts, r) := record (rules.body rule) { r with pending := rest }
      let (body, r) := r.close (some name) verdict parts
      drain rules fuel (g.insert name body) (r.note .trace ("recorded " ++ name ++ " := " ++ body.render))

end Recorder

def Grammar.collect (rules : Rules) (name entry : String) (tokens : List Definition) :
    Grammar × List Message :=
  let start : Recorder := { pending := [(name, entry)], seen := [name] }
  let (g, r) := Recorder.drain rules (rules.callCount + 1) { entry := name, tokens := tokens } start
  let r := r.note .debug ("collected " ++ toString g.rules.length ++ " rules from `" ++ name ++ "`")
  (g, r.log.reverse)

end Packrat
