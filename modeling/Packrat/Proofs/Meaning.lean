import Packrat.Proofs.Failure
import Packrat.Proofs.Semantics
import Packrat.Proofs.Session.View

/-! What a body means at a place: where it ends, the nodes and tokens it adds, the errors it recovers from, and
the trail it leaves behind even where it is given up. -/
namespace Packrat

def Place.below (p : Place) (stack : List (String × Nat)) (nodes : List Tree) : Session :=
  { state := p.state 0, ruleStack := stack, root := nodes, memo := { capacity := 1 } }

structure Repair where
  place : Place
  range : TextRange
  failure : Failure

namespace Repair

def under (stack : List String) (r : Repair) : Repair := { r with failure := r.failure.rootedAt stack }

def recovery (env : Setup) (r : Repair) : Recovery :=
  (r.range, (r.place.below [] []).errorFrom env r.failure)

end Repair

structure Match where
  stop : Place
  nodes : List Tree := []
  tokens : List Token := []
  repairs : List Repair := []

def Match.append (m more : Match) : Match :=
  ⟨more.stop, m.nodes ++ more.nodes, m.tokens ++ more.tokens, m.repairs ++ more.repairs⟩

@[ext]
structure Trail where
  reached : Nat := 0
  failure : Failure := {}
  proper : failure.Proper := by exact Failure.emptyProper

namespace Trail

def append (a b : Trail) : Trail :=
  ⟨max a.reached b.reached, a.failure.merge b.failure, a.proper.mergeProper b.failure⟩

theorem appendEmpty (a : Trail) : a.append {} = a := by
  ext1
  · exact Nat.max_zero _
  · exact Failure.mergeEmpty _

theorem appendAssoc (a b c : Trail) : (a.append b).append c = a.append (b.append c) := by
  ext1
  · exact Nat.max_assoc _ _ _
  · exact Failure.mergeAssoc _ _ _

def startingAt (p : Place) (a : Trail) : Trail := { a with reached := max p.offset a.reached }

def inRule (name : String) (p : Place) (a : Trail) : Trail :=
  ⟨max p.offset a.reached, a.failure.rootedAt [name], a.proper.rootedAt [name]⟩

def expecting (token : String) (found : Scan) : Trail :=
  ⟨0, ({} : Failure).expecting token found [], Failure.expectingProper token found []⟩

end Trail

abbrev Outcome := Result Match Trail ParseError

abbrev Meaning := Eval Place Match Trail ParseError

def Place.loop (p : Place) (stack : List (String × Nat)) (nodes : List Tree) (attempts : Nat) : ParseError :=
  (p.below stack nodes).infiniteLoop ⟨p.state 0, 0, 0⟩ attempts

namespace Meaning

def taking (t : Token) (next : Cursor) : Match × Trail :=
  (⟨⟨next, some t.kind⟩, [.ofToken t], [t], []⟩, { reached := next.offset })

def skipped (env : Setup) : Nat → Place → Match × Trail
  | 0, p => ({ stop := p }, {})
  | fuel + 1, p =>
    match p.read env defaultGoal with
    | .token t next =>
      let first := taking t next
      if env.config.isSync t.name then first
      else
        let rest := skipped env fuel first.1.stop
        (first.1.append rest.1, first.2.append rest.2)
    | .unrecognized cursor c =>
      let made := unrecognizedToken cursor c
      let first := taking made.1 made.2
      let rest := skipped env fuel first.1.stop
      (first.1.append rest.1, first.2.append rest.2)
    | .ended _ => ({ stop := p }, {})

def recovered (env : Setup) (failure : Failure) (p : Place) : Option (Match × Trail) :=
  let passed := skipped env (env.source.length + 1) p
  if passed.1.nodes.isEmpty then none
  else
    let error := (p.below [] []).errorFrom env failure
    let node := Tree.ofError error.message passed.1.nodes p.offset p.position
    some ({ passed.1 with nodes := [node], repairs := [⟨p, node.range, failure⟩] }, passed.2)

end Meaning

def Match.inRule (name : String) (p : Place) (m : Match) : Match :=
  { m with nodes := [Tree.ofRule name m.nodes p.offset p.position], repairs := m.repairs.map (·.under [name]) }

def Scan.glimpse : Scan → Option (Glimpse Match Trail)
  | .token t next => some ⟨t.name, t.breakBefore, (Meaning.taking t next).1, (Meaning.taking t next).2⟩
  | _ => none

def Setup.meaning (env : Setup) : Semantics Place Match Trail ParseError where
  offset := Place.offset
  levels := env.config.maxRuleDepth
  rounds := Session.roundLimit env
  here p := { stop := p }
  stop := Match.stop
  append := Match.append
  repairs m := m.repairs.length
  blank := {}
  join := Trail.append
  since := Trail.startingAt
  look goal p := (p.read env goal).glimpse
  missing token goal p := .expecting token (p.read env goal)
  stood p m := m.stop.offset = p.offset ∧ m.tokens = []
  mends p trail := env.config.recover && p.offset < trail.reached
  mended p trail := Meaning.recovered env trail.failure p
  closed := Match.inRule
  closedTrail := Trail.inRule
  raised error := error
  looping stack m done := m.stop.loop stack m.nodes done
  reentered stack name p := (p.below stack []).leftRecursion name
  tooDeep stack name p := (p.below stack []).recursionLimit env name

namespace Setup

variable (env : Setup)

@[simp] theorem meaningStood (p : Place) (m : Match) :
    env.meaning.stood p m ↔ m.stop.offset = p.offset ∧ m.tokens = [] := decide_eq_true_iff

theorem meaningPrepends (o : Outcome) (m : Match) (first trail : Trail) (p : Place) :
    env.meaning.prepend { stop := p } first (env.meaning.prepend m trail o) =
      env.meaning.prepend m (first.append trail) o := by
  cases o with
  | ok more later => exact congrArg (Result.ok _) (Trail.appendAssoc _ _ _).symm
  | mismatch later => exact congrArg Result.mismatch (Trail.appendAssoc _ _ _).symm
  | fatal error => rfl
  | cut => rfl

end Setup
end Packrat
