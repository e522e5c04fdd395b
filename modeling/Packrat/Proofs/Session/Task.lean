import Packrat.Proofs.Session.Invocation

/-! The states of a run. While a body runs, other bodies, rounds and recoveries are started
from sessions in between; following which task starts which gives every state the parser
passes, inside rules that are later given up too. -/
namespace Packrat

inductive Task where
  | body (b : Body)
  | rounds (b : Body) (fuel done : Nat)
  | recover (failure : Failure)
  | skip (fuel : Nat)

def Task.Whole : Task → Prop
  | .skip _ => False
  | _ => True

namespace Session

def isolated (s : Session) : Session := { s with highWater := s.state.offset, furthest := {} }

def rejoined (s t : Session) : Session :=
  { t with highWater := max s.highWater t.highWater, furthest := s.furthest.merge t.furthest }

theorem roundAsIsolated (body : Action) (s : Session) :
    round body s = ((body s.isolated).1, (body s.isolated).2.furthest, (body s.isolated).2.highWater,
      s.rejoined (body s.isolated).2) := rfl

def finishing (env : Setup) (call : String → String → Action) : Task → Session → Session
  | .body b, s => (exec env call b s).2
  | .rounds b fuel done, s => (repeatFrom env (exec env call b) fuel done s).2
  | .recover failure, s => (s.recover env failure).2
  | .skip fuel, s => (s.skip env fuel).2

inductive Starts (env : Setup) (call : String → String → Action) :
    Task → Session → Task → Session → Prop where
  | first {s b rest} : Starts env call (.body (.inOrder (b :: rest))) s (.body b) s
  | next {s t b rest} (matched : exec env call b s = (.ok, t)) :
      Starts env call (.body (.inOrder (b :: rest))) s (.body (.inOrder rest)) t
  | branch {s b rest} : Starts env call (.body (.firstOf (b :: rest))) s (.body b) s
  | other {s t b rest} (failed : exec env call b s = (.mismatch, t)) :
      Starts env call (.body (.firstOf (b :: rest))) s (.body (.firstOf rest)) (t.rewind s.mark)
  | optional {s b} : Starts env call (.body (.optional b)) s (.body b) s
  | many {s b} : Starts env call (.body (.many b)) s (.rounds b (roundLimit env) 0) s
  | once {s b} : Starts env call (.body (.some b)) s (.body b) s
  | more {s t b} (matched : exec env call b s = (.ok, t)) (moved : stoodStill s.mark t = false) :
      Starts env call (.body (.some b)) s (.rounds b (roundLimit env) 1) t
  | parsed {s recorded b} : Starts env call (.body (.whenRecording recorded b)) s (.body b) s
  | attempt {s b} : Starts env call (.body (.attempt b)) s (.body b) s
  | round {s b fuel done} : Starts env call (.rounds b (fuel + 1) done) s (.body b) s.isolated
  | again {s t b fuel done} (matched : exec env call b s.isolated = (.ok, t))
      (moved : stoodStill s.mark (s.rejoined t) = false) :
      Starts env call (.rounds b (fuel + 1) done) s (.rounds b fuel (done + 1)) (s.rejoined t)
  | recover {s t b fuel done} (failed : exec env call b s.isolated = (.mismatch, t))
      (moved : env.config.recover && s.state.offset < t.highWater) :
      Starts env call (.rounds b (fuel + 1) done) s (.recover t.furthest)
        ((s.rejoined t).rewind s.mark)
  | recovered {s t u b fuel done} (failed : exec env call b s.isolated = (.mismatch, t))
      (moved : env.config.recover && s.state.offset < t.highWater)
      (done' : ((s.rejoined t).rewind s.mark).recover env t.furthest = (true, u)) :
      Starts env call (.rounds b (fuel + 1) done) s (.rounds b fuel (done + 1)) u
  | skip {s failure} (budget : s.recoveries.length < env.config.maxErrors) :
      Starts env call (.recover failure) s (.skip (env.source.length + 1)) s
  | skipToken {s t token next fuel} (found : s.scan env defaultGoal = (.token token next, t))
      (on : env.config.isSync token.name = false) :
      Starts env call (.skip (fuel + 1)) s (.skip fuel) (t.commit token next)
  | skipUnknown {s t cursor c fuel} (found : s.scan env defaultGoal = (.unrecognized cursor c, t)) :
      Starts env call (.skip (fuel + 1)) s (.skip fuel)
        (t.commit (unrecognizedToken cursor c).1 (unrecognizedToken cursor c).2)

theorem Starts.wholeBefore {env : Setup} {call : String → String → Action} {k k' : Task} {s t : Session}
    (starts : Starts env call k s k' t) (whole : k'.Whole) : k.Whole := by
  cases starts with
  | skip _ => exact whole.elim
  | skipToken _ _ => exact whole.elim
  | skipUnknown _ => exact whole.elim
  | _ => trivial

/- Everything the parser comes to do from one task on. Below an invocation that is neither
refused nor answered from the cache, the body of its rule runs one level deeper. -/
inductive Reached (env : Setup) (rules : Rules) (depth : Nat) (task : Task) (s : Session) :
    Nat → Task → Session → Prop where
  | start : Reached env rules depth task s depth task s
  | within {d k t k' t'} (before : Reached env rules depth task s d k t)
      (starts : Starts env (invoke env rules d) k t k' t') : Reached env rules depth task s d k' t'
  | enter {d name rule t} (before : Reached env rules depth task s (d + 1) (.body (.call name rule)) t)
      (enters : t.Enters env name) (miss : t.remembered env name = none) :
      Reached env rules depth task s d (.body (rules.body rule)) (opened env name t (t.asked env name))

def Passes (env : Setup) (rules : Rules) (depth : Nat) (task : Task) (s t : Session) : Prop :=
  ∃ d k u, Reached env rules depth task s d k u ∧ (t = u ∨ t = finishing env (invoke env rules d) k u)

def Pauses (env : Setup) (rules : Rules) (depth : Nat) (task : Task) (s t : Session) : Prop :=
  ∃ d k u, Reached env rules depth task s d k u ∧ k.Whole ∧
    (t = u ∨ t = finishing env (invoke env rules d) k u)

def Runs (env : Setup) (rules : Rules) (depth : Nat) (task : Task) (s : Session) (name : String)
    (t : Session) : Prop :=
  ∃ d rule, Reached env rules depth task s d (.body (.call name rule)) t ∧ t.Enters env name ∧
    t.remembered env name = none

def Answers (env : Setup) (rules : Rules) (depth : Nat) (task : Task) (s : Session) (name : String)
    (t : Session) (memo : Memo) : Prop :=
  ∃ d rule, Reached env rules depth task s d (.body (.call name rule)) t ∧ t.Enters env name ∧
    t.remembered env name = Option.some memo

theorem Answers.memoStored {env : Setup} {rules : Rules} {depth : Nat} {task : Task} {s t : Session} {name : String}
    {memo : Memo} (answers : Answers env rules depth task s name t memo) :
    (MemoKey.of name t.state, memo) ∈ t.memo.entries := by
  obtain ⟨_, _, _, _, found⟩ := answers
  exact (rememberedMem found).2

end Session
end Packrat
