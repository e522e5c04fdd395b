import Packrat.Proofs.Session.Invocation
import Packrat.Proofs.Session.Task

/-! What a run comes to, told without counting: rounds follow one another as long as they go on, tokens
are skipped up to where skipping ends, and rules are opened inside one another as deep as the settings
allow. No run comes to two things. -/
namespace Packrat.Session

inductive SkipEnds (env : Setup) : Session → List Tree → Session → Prop where
  | sync {s t token next} (found : s.scan env defaultGoal = (.token token next, t))
      (on : env.config.isSync token.name = true) : SkipEnds env s [.ofToken token] (t.commit token next)
  | token {s t u token next nodes} (found : s.scan env defaultGoal = (.token token next, t))
      (off : env.config.isSync token.name = false) (later : SkipEnds env (t.commit token next) nodes u) :
      SkipEnds env s (.ofToken token :: nodes) u
  | unrecognized {s t u cursor c nodes} (found : s.scan env defaultGoal = (.unrecognized cursor c, t))
      (later : SkipEnds env (t.commit (unrecognizedToken cursor c).1 (unrecognizedToken cursor c).2) nodes u) :
      SkipEnds env s (.ofToken (unrecognizedToken cursor c).1 :: nodes) u
  | ended {s t cursor} (found : s.scan env defaultGoal = (.ended cursor, t)) : SkipEnds env s [] t

def mended (env : Setup) (failure : Failure) (s : Session) (skipped : List Tree) (t : Session) : Bool × Session :=
  if skipped.isEmpty then (false, t)
  else
    let error := s.errorFrom env failure
    let node := Tree.ofError error.message skipped s.state.offset s.state.position
    let t := t.note .debug
      ("recovered from `" ++ error.message ++ "` by skipping " ++ node.range.render)
    (true, ({ t with recoveries := t.recoveries ++ [(node.range, error)] } : Session).pushChild node)

inductive RecoverEnds (env : Setup) (failure : Failure) (s : Session) : Bool × Session → Prop where
  | spent (budget : env.config.maxErrors ≤ s.recoveries.length) : RecoverEnds env failure s (false, s)
  | skipped {nodes t} (budget : s.recoveries.length < env.config.maxErrors) (skips : SkipEnds env s nodes t) :
      RecoverEnds env failure s (s.mended env failure nodes t)

inductive Turn where
  | goOn (t : Session)
  | stop (r : Verdict × Session)

inductive Turns (env : Setup) (s : Session) (done : Nat) : Verdict × Session → Turn → Prop where
  | again {t} (moved : stoodStill s.mark (s.rejoined t) = false) : Turns env s done (.ok, t) (.goOn (s.rejoined t))
  | stuck {t} (still : stoodStill s.mark (s.rejoined t) = true) :
      Turns env s done (.ok, t)
        (.stop (.fatal ((s.rejoined t).infiniteLoop s.mark (done + 1)), s.rejoined t))
  | enough {t} (off : (env.config.recover && s.state.offset < t.highWater) = false) :
      Turns env s done (.mismatch, t) (.stop (.ok, (s.rejoined t).rewind s.mark))
  | resumed {t u} (on : (env.config.recover && s.state.offset < t.highWater) = true)
      (recovers : RecoverEnds env t.furthest ((s.rejoined t).rewind s.mark) (true, u)) :
      Turns env s done (.mismatch, t) (.goOn u)
  | givenUp {t u} (on : (env.config.recover && s.state.offset < t.highWater) = true)
      (recovers : RecoverEnds env t.furthest ((s.rejoined t).rewind s.mark) (false, u)) :
      Turns env s done (.mismatch, t) (.stop (.ok, u))
  | failed {t error} : Turns env s done (.fatal error, t) (.stop (.fatal error, s.rejoined t))

inductive Work where
  | body (b : Body)
  | rounds (b : Body) (done : Nat)

/-- `Ends work s r`: started from `s`, the work comes to an end, with the verdict and the session `r`. -/
inductive Ends (env : Setup) (rules : Rules) : Work → Session → Verdict × Session → Prop where
  | consume {s token goal} : Ends env rules (.body (.consume token goal)) s (consume env token goal s)
  | notAhead {s token goal} : Ends env rules (.body (.notAhead token goal)) s (notAhead env token goal s)
  | sameLine {s} : Ends env rules (.body .sameLine) s (sameLine env s)
  | mismatch {s} : Ends env rules (.body .mismatch) s (.mismatch, s)
  | raise {s error} : Ends env rules (.body (.raise error)) s (.fatal error, s)
  | parsed {s recorded b r} (ran : Ends env rules (.body b) s r) :
      Ends env rules (.body (.whenRecording recorded b)) s r
  | attempt {s b r} (ran : Ends env rules (.body b) s r) : Ends env rules (.body (.attempt b)) s (.ok, r.2)
  | nothing {s} : Ends env rules (.body (.inOrder [])) s (.ok, s)
  | next {s t b rest r} (ran : Ends env rules (.body b) s (.ok, t))
      (later : Ends env rules (.body (.inOrder rest)) t r) : Ends env rules (.body (.inOrder (b :: rest))) s r
  | broken {s b rest r} (ran : Ends env rules (.body b) s r) (failed : r.1 ≠ .ok) :
      Ends env rules (.body (.inOrder (b :: rest))) s r
  | exhausted {s} : Ends env rules (.body (.firstOf [])) s (.mismatch, s)
  | other {s t b rest r} (ran : Ends env rules (.body b) s (.mismatch, t))
      (later : Ends env rules (.body (.firstOf rest)) (t.rewind s.mark) r) :
      Ends env rules (.body (.firstOf (b :: rest))) s r
  | branch {s b rest r} (ran : Ends env rules (.body b) s r) (decided : r.1 ≠ .mismatch) :
      Ends env rules (.body (.firstOf (b :: rest))) s r
  | absent {s t b} (ran : Ends env rules (.body b) s (.mismatch, t)) :
      Ends env rules (.body (.optional b)) s (.ok, t.rewind s.mark)
  | present {s b r} (ran : Ends env rules (.body b) s r) (decided : r.1 ≠ .mismatch) :
      Ends env rules (.body (.optional b)) s r
  | many {s b r} (rounds : Ends env rules (.rounds b 0) s r) : Ends env rules (.body (.many b)) s r
  | more {s t b r} (ran : Ends env rules (.body b) s (.ok, t)) (moved : stoodStill s.mark t = false)
      (rounds : Ends env rules (.rounds b 1) t r) : Ends env rules (.body (.some b)) s r
  | unmoved {s t b} (ran : Ends env rules (.body b) s (.ok, t)) (still : stoodStill s.mark t = true) :
      Ends env rules (.body (.some b)) s (.fatal (t.infiniteLoop s.mark 1), t)
  | never {s t b} (ran : Ends env rules (.body b) s (.mismatch, t)) :
      Ends env rules (.body (.some b)) s (.mismatch, t.rewind s.mark)
  | stopped {s t b error} (ran : Ends env rules (.body b) s (.fatal error, t)) :
      Ends env rules (.body (.some b)) s (.fatal error, t)
  | goOn {s t b done r r'} (ran : Ends env rules (.body b) s.isolated r) (turns : Turns env s done r (.goOn t))
      (later : Ends env rules (.rounds b (done + 1)) t r') : Ends env rules (.rounds b done) s r'
  | stop {s b done r r'} (ran : Ends env rules (.body b) s.isolated r) (turns : Turns env s done r (.stop r')) :
      Ends env rules (.rounds b done) s r'
  | reentered {s name rule} (isOpen : s.active.contains (s.here name)) :
      Ends env rules (.body (.call name rule)) s (.fatal (s.leftRecursion name), s)
  | deep {s name rule} (notOpen : ¬ s.active.contains (s.here name))
      (levels : env.config.maxRuleDepth ≤ s.ruleStack.length) :
      Ends env rules (.body (.call name rule)) s (.fatal (s.recursionLimit env name), s)
  | answered {s name rule memo} (enters : s.Enters env name) (hit : s.remembered env name = Option.some memo) :
      Ends env rules (.body (.call name rule)) s ((s.answering env name).replay memo)
  | entered {s name rule r} (enters : s.Enters env name) (miss : s.remembered env name = none)
      (ran : Ends env rules (.body (rules.body rule)) (opened env name s (s.asked env name)) r) :
      Ends env rules (.body (.call name rule)) s (closed env name s r)

variable {env : Setup} {rules : Rules} {s t u : Session}

theorem SkipEnds.oneEnd {nodes others : List Tree} (skips : SkipEnds env s nodes t) (again : SkipEnds env s others u) :
    nodes = others ∧ t = u := by
  induction skips generalizing others u with
  | sync found on =>
    cases again with
    | sync found' _ =>
      cases found.symm.trans found'
      exact ⟨rfl, rfl⟩
    | token found' off _ =>
      cases found.symm.trans found'
      exact nomatch on.symm.trans off
    | unrecognized found' _ => exact nomatch found.symm.trans found'
    | ended found' => exact nomatch found.symm.trans found'
  | token found off _ ih =>
    cases again with
    | sync found' on =>
      cases found.symm.trans found'
      exact nomatch on.symm.trans off
    | token found' _ later =>
      cases found.symm.trans found'
      exact (ih later).imp_left (congrArg _)
    | unrecognized found' _ => exact nomatch found.symm.trans found'
    | ended found' => exact nomatch found.symm.trans found'
  | unrecognized found _ ih =>
    cases again with
    | sync found' _ => exact nomatch found.symm.trans found'
    | token found' _ _ => exact nomatch found.symm.trans found'
    | unrecognized found' later =>
      cases found.symm.trans found'
      exact (ih later).imp_left (congrArg _)
    | ended found' => exact nomatch found.symm.trans found'
  | ended found =>
    cases again with
    | sync found' _ => exact nomatch found.symm.trans found'
    | token found' _ _ => exact nomatch found.symm.trans found'
    | unrecognized found' _ => exact nomatch found.symm.trans found'
    | ended found' =>
      cases found.symm.trans found'
      exact ⟨rfl, rfl⟩

theorem RecoverEnds.oneEnd {failure : Failure} {r r' : Bool × Session} (recovers : RecoverEnds env failure s r)
    (again : RecoverEnds env failure s r') : r = r' := by
  cases recovers with
  | spent spent =>
    cases again with
    | spent _ => rfl
    | skipped budget _ => exact absurd spent (Nat.not_le.mpr budget)
  | skipped budget skips =>
    cases again with
    | spent spent => exact absurd spent (Nat.not_le.mpr budget)
    | skipped _ skips' =>
      obtain ⟨rfl, rfl⟩ := skips.oneEnd skips'
      rfl

theorem Turns.oneTurn {done : Nat} {r : Verdict × Session} {turn other : Turn} (turns : Turns env s done r turn)
    (again : Turns env s done r other) : turn = other := by
  cases turns with
  | again moved =>
    cases again with
    | again _ => rfl
    | stuck still => exact nomatch moved.symm.trans still
  | stuck still =>
    cases again with
    | again moved => exact nomatch moved.symm.trans still
    | stuck _ => rfl
  | enough off =>
    cases again with
    | enough _ => rfl
    | resumed on _ => exact nomatch off.symm.trans on
    | givenUp on _ => exact nomatch off.symm.trans on
  | resumed on recovers =>
    cases again with
    | enough off => exact nomatch off.symm.trans on
    | resumed _ recovers' =>
      cases recovers.oneEnd recovers'
      rfl
    | givenUp _ recovers' => exact nomatch recovers.oneEnd recovers'
  | givenUp on recovers =>
    cases again with
    | enough off => exact nomatch off.symm.trans on
    | resumed _ recovers' => exact nomatch recovers.oneEnd recovers'
    | givenUp _ recovers' =>
      cases recovers.oneEnd recovers'
      rfl
  | failed =>
    cases again
    rfl

theorem Ends.oneEnd {work : Work} {r r' : Verdict × Session} (ends : Ends env rules work s r)
    (again : Ends env rules work s r') : r = r' := by
  induction ends generalizing r' with
  | consume => cases again; rfl
  | notAhead => cases again; rfl
  | sameLine => cases again; rfl
  | mismatch => cases again; rfl
  | raise => cases again; rfl
  | parsed _ ih =>
    cases again with
    | parsed ran => exact ih ran
  | attempt _ ih =>
    cases again with
    | attempt ran => rw [ih ran]
  | nothing => cases again; rfl
  | next _ _ ih ih' =>
    cases again with
    | next ran later =>
      cases ih ran
      exact ih' later
    | broken ran failed => exact absurd (congrArg Prod.fst (ih ran)).symm failed
  | broken _ failed ih =>
    cases again with
    | next ran _ => exact absurd (congrArg Prod.fst (ih ran)) failed
    | broken ran _ => exact ih ran
  | exhausted => cases again; rfl
  | other _ _ ih ih' =>
    cases again with
    | other ran later =>
      cases ih ran
      exact ih' later
    | branch ran decided => exact absurd (congrArg Prod.fst (ih ran)).symm decided
  | branch _ decided ih =>
    cases again with
    | other ran _ => exact absurd (congrArg Prod.fst (ih ran)) decided
    | branch ran _ => exact ih ran
  | absent _ ih =>
    cases again with
    | absent ran =>
      cases ih ran
      rfl
    | present ran decided => exact absurd (congrArg Prod.fst (ih ran)).symm decided
  | present _ decided ih =>
    cases again with
    | absent ran => exact absurd (congrArg Prod.fst (ih ran)) decided
    | present ran _ => exact ih ran
  | many _ ih =>
    cases again with
    | many rounds => exact ih rounds
  | more _ moved _ ih ih' =>
    cases again with
    | more ran _ rounds =>
      cases ih ran
      exact ih' rounds
    | unmoved ran still =>
      cases ih ran
      exact nomatch moved.symm.trans still
    | never ran => exact nomatch ih ran
    | stopped ran => exact nomatch ih ran
  | unmoved _ still ih =>
    cases again with
    | more ran moved _ =>
      cases ih ran
      exact nomatch moved.symm.trans still
    | unmoved ran _ =>
      cases ih ran
      rfl
    | never ran => exact nomatch ih ran
    | stopped ran => exact nomatch ih ran
  | never _ ih =>
    cases again with
    | more ran _ _ => exact nomatch ih ran
    | unmoved ran _ => exact nomatch ih ran
    | never ran =>
      cases ih ran
      rfl
    | stopped ran => exact nomatch ih ran
  | stopped _ ih =>
    cases again with
    | more ran _ _ => exact nomatch ih ran
    | unmoved ran _ => exact nomatch ih ran
    | never ran => exact nomatch ih ran
    | stopped ran => exact ih ran
  | goOn _ turns _ ih ih' =>
    cases again with
    | goOn ran turns' later =>
      cases ih ran
      cases turns.oneTurn turns'
      exact ih' later
    | stop ran turns' =>
      cases ih ran
      exact nomatch turns.oneTurn turns'
  | stop _ turns ih =>
    cases again with
    | goOn ran turns' _ =>
      cases ih ran
      exact nomatch turns.oneTurn turns'
    | stop ran turns' =>
      cases ih ran
      cases turns.oneTurn turns'
      rfl
  | reentered isOpen =>
    cases again with
    | reentered _ => rfl
    | deep notOpen _ => exact absurd isOpen notOpen
    | answered enters _ => exact absurd isOpen enters.1
    | entered enters _ _ => exact absurd isOpen enters.1
  | deep notOpen levels =>
    cases again with
    | reentered isOpen => exact absurd isOpen notOpen
    | deep _ _ => rfl
    | answered enters _ => exact absurd levels (Nat.not_le.mpr enters.2)
    | entered enters _ _ => exact absurd levels (Nat.not_le.mpr enters.2)
  | answered enters hit =>
    cases again with
    | reentered isOpen => exact absurd isOpen enters.1
    | deep _ levels => exact absurd levels (Nat.not_le.mpr enters.2)
    | answered _ hit' =>
      cases hit.symm.trans hit'
      rfl
    | entered _ miss _ => exact nomatch hit.symm.trans miss
  | entered enters miss _ ih =>
    cases again with
    | reentered isOpen => exact absurd isOpen enters.1
    | deep _ levels => exact absurd levels (Nat.not_le.mpr enters.2)
    | answered _ hit => exact nomatch hit.symm.trans miss
    | entered _ _ ran => rw [ih ran]

end Packrat.Session
