import Packrat.Proofs.Meaning.Forward
import Packrat.Proofs.Semantics.Guard
import Packrat.Proofs.Session.Following
import Packrat.Proofs.Session.Running

/-! Bodies do in a session what they mean, for any way of invoking rules that does what the
invocations mean. Two things may keep a session from it: an outcome that is allowed to be missed, and
then only one that ends the parse. -/
namespace Packrat

def Task.meaning (env : Setup) (stack : List (String × Nat))
    (call : String → String → Meaning) : Task → Meaning
  | .body b => env.meaning.eval (some env.config.maxErrors) stack call b
  | .rounds b fuel done =>
    let limit := some env.config.maxErrors
    env.meaning.repeated limit stack (env.meaning.eval limit stack call b) fuel done
  | .recover _ => fun _ _ => .cut
  | .skip _ => fun _ _ => .cut

namespace Session

structure Scheme where
  see : Recovery → Recovery
  valid : MemoKey → Memo → Prop

section
variable (env : Setup) (scheme : Scheme)

def Known (s : Session) : Prop := env.config.memoize → ∀ e ∈ s.memo.entries, scheme.valid e.1 e.2

def Realized (s : Session) : Outcome → Verdict × Session → Prop
  | .ok m trail, r => r.1 = .ok ∧ Follows env scheme.see s m trail r.2 ∧ r.2.Known env scheme
  | .mismatch trail, r => r.1 = .mismatch ∧ Trailed s trail r.2 ∧ r.2.Known env scheme
  | .fatal error, r => r.1 = .fatal error
  | .cut, _ => False

def Simulates (missed : Outcome → Prop) (s : Session) (o : Outcome) (r : Verdict × Session) : Prop :=
  o.Halts ∧ missed o ∨ s.Realized env scheme o r

structure Ready (around : Semantics.Around Place) (s : Session) : Prop where
  settled : s.Settled env
  stack : s.ruleStack = env.meaning.stack around
  inside : ∀ e ∈ around, e.2.Leads s.place
  known : s.Known env scheme

end

variable {env : Setup} {scheme : Scheme} {missed : Outcome → Prop} {around : Semantics.Around Place}

theorem Ready.afterExtension {s t : Session} (h : s.Ready env scheme around) (settled : t.Settled env)
    (onward : s.Extends t) (known : t.Known env scheme) : t.Ready env scheme around where
  settled := settled
  stack := onward.stack.trans h.stack
  inside := fun e member => (h.inside e member).trans onward.ahead.placeLeads
  known := known

theorem Ready.whenIsolated {s : Session} (h : s.Ready env scheme around) :
    s.isolated.Ready env scheme around :=
  ⟨h.settled.whenIsolated, h.stack, h.inside, h.known⟩

theorem Realized.whenPrepended {s t : Session} {m : Match} {trail : Trail} {o : Outcome} {r : Verdict × Session}
    (follows : Follows env scheme.see s m trail t) (path : t.path = s.path)
    (rest : t.Realized env scheme o r) : s.Realized env scheme (env.meaning.prepend m trail o) r := by
  cases o with
  | ok more later => exact ⟨rest.1, follows.trans rest.2.1 path, rest.2.2⟩
  | mismatch later => exact ⟨rest.1, follows.toTrailed.trans rest.2.1 path, rest.2.2⟩
  | fatal error => exact rest
  | cut => exact rest

namespace Simulates

variable {s t u : Session} {o : Outcome} {r r' : Verdict × Session} {found : Match → Trail → Outcome}
  {failed : Trail → Outcome}

theorem whenPrepended {m : Match} {trail : Trail} (rest : t.Simulates env scheme missed o r)
    (follows : Follows env scheme.see s m trail t) (path : t.path = s.path) :
    s.Simulates env scheme missed (env.meaning.prepend m trail o) r := by
  rcases rest with ⟨halts, excused⟩ | realized
  · rw [Semantics.prependHalts halts]
    exact .inl ⟨halts, excused⟩
  · exact .inr (realized.whenPrepended follows path)

theorem afterMatch (h : s.Simulates env scheme missed o (.ok, t))
    (ok : ∀ m trail, Follows env scheme.see s m trail t → t.Known env scheme →
      u.Simulates env scheme missed (found m trail) r') : u.Simulates env scheme missed (o.elim found failed) r' := by
  rcases h with ⟨halts, excused⟩ | realized
  · rw [Result.elimHalts halts]
    exact .inl ⟨halts, excused⟩
  · cases o with
    | ok m trail => exact ok m trail realized.2.1 realized.2.2
    | mismatch trail => exact nomatch realized.1
    | fatal error => exact nomatch realized
    | cut => exact realized.elim

theorem afterMismatch (h : s.Simulates env scheme missed o (.mismatch, t))
    (no : ∀ trail, Trailed s trail t → t.Known env scheme → u.Simulates env scheme missed (failed trail) r') :
    u.Simulates env scheme missed (o.elim found failed) r' := by
  rcases h with ⟨halts, excused⟩ | realized
  · rw [Result.elimHalts halts]
    exact .inl ⟨halts, excused⟩
  · cases o with
    | ok m trail => exact nomatch realized.1
    | mismatch trail => exact no trail realized.2.1 realized.2.2
    | fatal error => exact nomatch realized
    | cut => exact realized.elim

theorem afterError {error : ParseError} (h : s.Simulates env scheme missed o (.fatal error, t)) (s' u : Session) :
    s'.Simulates env scheme missed (o.elim found failed) (.fatal error, u) := by
  rcases h with ⟨halts, excused⟩ | realized
  · rw [Result.elimHalts halts]
    exact .inl ⟨halts, excused⟩
  · cases o with
    | ok m trail => exact nomatch realized.1
    | mismatch trail => exact nomatch realized.1
    | fatal _ => exact .inr realized
    | cut => exact realized.elim

theorem unlessMatched (h : s.Simulates env scheme missed o r) (wrong : r.1 ≠ .ok) :
    s.Simulates env scheme missed (o.elim found .mismatch) r := by
  rcases h with ⟨halts, excused⟩ | realized
  · rw [Result.elimHalts halts]
    exact .inl ⟨halts, excused⟩
  · cases o with
    | ok m trail => exact absurd realized.1 wrong
    | mismatch trail => exact .inr realized
    | fatal error => exact .inr realized
    | cut => exact realized.elim

theorem whenDecided (h : s.Simulates env scheme missed o r) (decided : r.1 ≠ .mismatch) :
    s.Simulates env scheme missed (o.elim .ok failed) r := by
  rcases h with ⟨halts, excused⟩ | realized
  · rw [Result.elimHalts halts]
    exact .inl ⟨halts, excused⟩
  · cases o with
    | ok m trail => exact .inr realized
    | mismatch trail => exact absurd realized.1 decided
    | fatal error => exact .inr realized
    | cut => exact realized.elim

end Simulates

theorem Ready.simulatesConsume {s : Session} (ready : s.Ready env scheme around) (token : String) (goal : Goal)
    (n : Nat) :
    s.Simulates env scheme missed (env.meaning.consume token goal s.place n) (consume env token goal s) := by
  obtain ⟨scans, scan, _⟩ := ready.settled.afterScan goal
  have seen : env.meaning.look goal s.place = (s.place.read env goal).glimpse := rfl
  have missing : env.meaning.missing token goal s.place = .expecting token (s.place.read env goal) := rfl
  simp only [consume, scan, Semantics.consume, seen, missing]
  have expected : ∀ found, s.Simulates env scheme missed (.mismatch (.expecting token found))
      (.mismatch, ({ s with scans := scans } : Session).expect token found) := fun found =>
    .inr ⟨rfl, ⟨(Nat.max_zero _).symm, Failure.expectingAsMerge _ _ _ _⟩, ready.known⟩
  cases found : s.place.read env goal with
  | token t next =>
    simp only [Scan.glimpse]
    by_cases same : t.name = token
    · rw [if_pos same, if_pos same]
      refine .inr ⟨rfl, ((commitFollows { s with scans := scans } t next).pushChild _).withoutScans, ?_⟩
      unfold Known
      rw [pushChildMemo]
      exact ready.known
    · rw [if_neg same, if_neg same]
      exact expected _
  | ended cursor => exact expected _
  | unrecognized cursor c => exact expected _

theorem Ready.simulatesLook {s : Session} (ready : s.Ready env scheme around) (scans : List (ScanKey × Scan))
    (matched : Bool) :
    s.Simulates env scheme missed (if matched then .ok { stop := s.place } {} else .mismatch {})
      (if matched then .ok else .mismatch, { s with scans := scans }) := by
  cases matched with
  | true =>
    have still : Follows env scheme.see { s with scans := scans } { stop := s.place } {}
      { s with scans := scans } := Follows.refl _
    exact .inr ⟨rfl, still.withoutScans, ready.known⟩
  | false => exact .inr ⟨rfl, Trailed.emptyTrail rfl rfl, ready.known⟩

theorem Ready.looksAhead {s : Session} (ready : s.Ready env scheme around) (token : String) (goal : Goal) (n : Nat) :
    s.Simulates env scheme missed (env.meaning.notAhead token goal s.place n) (notAhead env token goal s) := by
  obtain ⟨scans, scan, _⟩ := ready.settled.afterScan goal
  have seen : env.meaning.look goal s.place = (s.place.read env goal).glimpse := rfl
  simp only [notAhead, scan, Semantics.notAhead, seen]
  cases found : s.place.read env goal with
  | token t next =>
    simp only [Scan.glimpse]
    by_cases same : t.name = token
    · simp only [if_pos same]
      exact ready.simulatesLook scans false
    · simp only [if_neg same]
      exact ready.simulatesLook scans true
  | ended cursor => exact ready.simulatesLook scans true
  | unrecognized cursor c => exact ready.simulatesLook scans true

theorem Ready.looksBehind {s : Session} (ready : s.Ready env scheme around) (n : Nat) :
    s.Simulates env scheme missed (env.meaning.sameLine s.place n) (sameLine env s) := by
  obtain ⟨scans, scan, _⟩ := ready.settled.afterScan defaultGoal
  have seen : env.meaning.look defaultGoal s.place = (s.place.read env defaultGoal).glimpse := rfl
  simp only [sameLine, scan, Semantics.sameLine, seen]
  cases found : s.place.read env defaultGoal with
  | token t next =>
    cases broken : t.breakBefore with
    | true =>
      simp only [Scan.glimpse, broken, if_true]
      exact ready.simulatesLook scans false
    | false =>
      simp only [Scan.glimpse, broken, Bool.false_eq_true, if_false]
      exact ready.simulatesLook scans true
  | ended cursor => exact ready.simulatesLook scans true
  | unrecognized cursor c => exact ready.simulatesLook scans true

theorem Ready.recoversAlike (whole : NoPairs env.source) {s : Session} (ready : s.Ready env scheme around)
    (budget : s.recoveries.length < env.config.maxErrors) (failure : Failure) :
    Recovers env scheme.see s (Meaning.recovered env failure s.place)
      (s.recover env (failure.rootedAt s.path)) ∧
    (s.recover env (failure.rootedAt s.path)).2.Ready env scheme around := by
  have recovers : Recovers env scheme.see s _ _ := recoverFollows whole ready.settled budget failure
  obtain ⟨settled, onward⟩ := keepsRecover whole (failure.rootedAt s.path) ready.settled
  refine ⟨recovers, ready.afterExtension settled onward ?_⟩
  unfold Known
  rw [recovers.memo]
  exact ready.known

section
variable {s t : Session} {trail : Trail}

theorem Ready.afterKept (ready : s.Ready env scheme around) (kept : t.Settled env ∧ s.Extends t)
    (known : t.Known env scheme) : t.Ready env scheme around :=
  ready.afterExtension kept.1 kept.2 known

theorem Ready.afterRewind (ready : s.Ready env scheme around) (kept : t.Settled env ∧ s.Extends t)
    (known : t.Known env scheme) : (t.rewind s.mark).Ready env scheme around := by
  refine ready.afterExtension (ready.settled.afterRewind kept.1 kept.2) kept.2.returnedByRewind.extendsByNothing ?_
  unfold Known
  rw [rewindMemo]
  exact known

end

section
variable {call : String → String → Action} {mcall : String → String → Meaning}
  {met : Task → Session → Prop} {invoked : String × String → Prop} (whole : NoPairs env.source)
  (keeps : ∀ name rule, Keeps env (call name rule))
  (starts : ∀ {k s k' t}, met k s → Starts env call k s k' t → met k' t)
  (refused : ∀ {failure s}, met (.recover failure) s → env.config.maxErrors ≤ s.recoveries.length → missed .cut)

section
variable {s t : Session} {b : Body} {fuel done : Nat} {trail : Trail}
  (ready : s.Ready env scheme around) (side : met (.rounds b (fuel + 1) done) s)
  (ran : Ran env call (.body b) s.isolated (.mismatch, t)) (trailed : Trailed s.isolated trail t)
  (known : t.Known env scheme)
include whole keeps ready ran

theorem Ready.givenUp (trailed : Trailed s.isolated trail t) (known : t.Known env scheme) :
    ((s.rejoined t).rewind s.mark).Ready env scheme around ∧
      s.Returned ((s.rejoined t).rewind s.mark) ∧
      Follows env scheme.see s { stop := s.place } (trail.startingAt s.place) ((s.rejoined t).rewind s.mark) := by
  have kept : (s.rejoined t).Settled env ∧ s.Extends (s.rejoined t) := by
    have round := keepsRound (keepsExec whole keeps b) ready.settled
    rwa [ran.execResult] at round
  exact ⟨ready.afterRewind kept known, kept.2.returnedByRewind, trailed.whenRejoined.followsRewound kept.2⟩

omit whole keeps ready ran in
theorem Trailed.mendsWhenAhead (trailed : Trailed s.isolated trail t) :
    env.meaning.mends s.place trail = (env.config.recover && decide (s.state.offset < t.highWater)) := by
  have water : s.state.offset < t.highWater ↔ s.place.offset < trail.reached := by
    rw [trailed.highWater]
    show s.state.offset < max s.state.offset trail.reached ↔ s.state.offset < trail.reached
    omega
  simp only [water]
  rfl

include starts refused side trailed known in
theorem Ready.simulatesMending (on : (env.config.recover && s.state.offset < t.highWater) = true) {success : Bool}
    {u : Session} (recovered : ((s.rejoined t).rewind s.mark).recover env t.furthest = (success, u))
    {again : Meaning} {r : Verdict × Session}
    (later : success = true → u.Ready env scheme around →
      u.Simulates env scheme missed (again u.place u.recoveries.length) r)
    (otherwise : success = false → r = (.ok, u)) :
    s.Simulates env scheme missed
      (env.meaning.mending (Option.some env.config.maxErrors) again s.place s.recoveries.length trail) r := by
  obtain ⟨readyBack, returned, back⟩ := ready.givenUp whole keeps ran trailed known
  have path := returned.extendsByNothing.pathKept
  have mended : env.meaning.mended s.place trail = Meaning.recovered env trail.failure s.place := rfl
  rw [Semantics.mending, if_pos (trailed.mendsWhenAhead.trans on), mended]
  by_cases spent : Exhausted (Option.some env.config.maxErrors) s.recoveries.length
  · rw [if_pos spent]
    obtain ⟨most, same, le⟩ := spent
    cases same
    exact .inl ⟨trivial, refused (starts side (.recover ran.execResult on)) (by rw [returned.recoveries]; exact le)⟩
  · rw [if_neg spent]
    have budget : ((s.rejoined t).rewind s.mark).recoveries.length < env.config.maxErrors := by
      rw [returned.recoveries]
      exact Nat.not_le.mp fun le => spent ⟨_, rfl, le⟩
    have failure : t.furthest = trail.failure.rootedAt ((s.rejoined t).rewind s.mark).path := by
      rw [trailed.isolatedFurthest, path]
    obtain ⟨recovers, ready'⟩ := readyBack.recoversAlike whole budget trail.failure
    obtain ⟨_, onward⟩ := keepsRecover whole (trail.failure.rootedAt ((s.rejoined t).rewind s.mark).path)
      readyBack.settled
    rw [← failure, recovered, back.endsAtPlace] at recovers
    rw [← failure, recovered] at ready' onward
    have success' := recovers.success
    cases passed : Meaning.recovered env trail.failure s.place with
    | none =>
      rw [passed] at recovers success'
      rw [otherwise success']
      have follows : Follows env scheme.see _ { stop := _ } {} u := recovers.follows
      rw [back.endsAtPlace] at follows
      have joined := back.trans follows path
      rw [Trail.appendEmpty] at joined
      exact .inr ⟨rfl, joined, ready'.known⟩
    | some skipped =>
      rw [passed] at recovers success'
      have rest := later success' ready'
      rw [recovers.follows.endsAtPlace, recovers.follows.recoveryCount, returned.recoveries] at rest
      have joined := (rest.whenPrepended recovers.follows onward.pathKept).whenPrepended back path
      rw [env.meaningPrepends] at joined
      exact joined

end

include whole keeps starts refused

theorem simulatesRan (calls : ∀ {name rule s}, invoked (name, rule) → s.Ready env scheme around →
      met (.body (.call name rule)) s →
      s.Simulates env scheme missed (mcall name rule s.place s.recoveries.length) (call name rule s))
    {k : Task} {s : Session} {r : Verdict × Session} (ran : Ran env call k s r) (plain : k.Plain invoked)
    (ready : s.Ready env scheme around) (side : met k s) :
    s.Simulates env scheme missed
      (k.meaning env (env.meaning.stack around) mcall s.place s.recoveries.length) r := by
  have kept : ∀ {b} {s : Session} {r}, Ran env call (.body b) s r → s.Ready env scheme around → r.2.Settled env ∧
      s.Extends r.2 :=
    fun ran ready => ran.execResult ▸ keepsExec whole keeps _ _ ready.settled
  have rejoined : ∀ {b} {s : Session} {verdict t}, Ran env call (.body b) s.isolated (verdict, t) →
      s.Ready env scheme around →
      (s.rejoined t).Settled env ∧ s.Extends (s.rejoined t) := by
    intro b s verdict t ran ready
    have round := keepsRound (keepsExec whole keeps b) ready.settled
    rwa [ran.execResult] at round
  induction ran with
  | @consume s token goal => exact ready.simulatesConsume token goal s.recoveries.length
  | @notAhead s token goal => exact ready.looksAhead token goal s.recoveries.length
  | @sameLine s => exact ready.looksBehind s.recoveries.length
  | mismatch => exact .inr ⟨rfl, Trailed.emptyTrail rfl rfl, ready.known⟩
  | raise => exact .inr rfl
  | call => exact calls (plain.2 _ List.mem_cons_self) ready side
  | parsed _ inner => exact inner plain ready (starts side .parsed)
  | attempt _ _ => exact Bool.noConfusion plain.1
  | nothing => exact .inr ⟨rfl, Follows.refl _, ready.known⟩
  | next ran _ first later =>
    refine (first (Task.plainParts plain).1 ready (starts side .first)).afterMatch fun m trail follows known => ?_
    have rest := later (Task.plainParts plain).2 (ready.afterKept (kept ran ready) known)
      (starts side (.next ran.execResult))
    rw [follows.endsAtPlace, follows.recoveryCount] at rest
    exact rest.whenPrepended follows (kept ran ready).2.pathKept
  | broken _ failed first => exact (first (Task.plainParts plain).1 ready (starts side .first)).unlessMatched failed
  | exhausted => exact .inr ⟨rfl, Trailed.emptyTrail rfl rfl, ready.known⟩
  | branch _ decided first => exact (first (Task.plainParts plain).1 ready (starts side .branch)).whenDecided decided
  | other ran _ first later =>
    refine (first (Task.plainParts plain).1 ready (starts side .branch)).afterMismatch fun trail trailed known => ?_
    have onward := (kept ran ready).2
    have back : Follows env scheme.see _ { stop := Session.place _ } trail _ := trailed.followsRewound onward
    have rest := later (Task.plainParts plain).2 (ready.afterRewind (kept ran ready) known)
      (starts side (.other ran.execResult))
    rw [back.endsAtPlace, back.recoveryCount] at rest
    exact rest.whenPrepended back onward.returnedByRewind.extendsByNothing.pathKept
  | present _ decided inner => exact (inner plain ready (starts side .optional)).whenDecided decided
  | absent ran inner =>
    refine (inner plain ready (starts side .optional)).afterMismatch fun trail trailed known => ?_
    exact .inr ⟨rfl, trailed.followsRewound (kept ran ready).2, (ready.afterRewind (kept ran ready) known).known⟩
  | many _ rounds => exact rounds plain ready (starts side .many)
  | more ran moved _ first rounds =>
    refine (first plain ready (starts side .once)).afterMatch fun m trail follows known => ?_
    rw [if_neg fun still => ?_]
    · have rest := rounds plain (ready.afterKept (kept ran ready) known) (starts side (.more ran.execResult moved))
      rw [follows.endsAtPlace, follows.recoveryCount] at rest
      exact rest.whenPrepended follows (kept ran ready).2.pathKept
    · rw [follows.stoodStill.mpr ((env.meaningStood _ _).mp still)] at moved
      exact nomatch moved
  | unmoved ran still first =>
    refine (first plain ready (starts side .once)).afterMatch fun m trail follows known => ?_
    rw [if_pos ((env.meaningStood _ _).mpr (follows.stoodStill.mp still)), ← ready.stack]
    exact .inr (congrArg Verdict.fatal (follows.infiniteLoopAgrees (kept ran ready).2.stack 1))
  | never ran first =>
    refine (first plain ready (starts side .once)).afterMismatch fun trail trailed known => ?_
    have back : Follows env scheme.see _ _ trail _ := trailed.followsRewound (kept ran ready).2
    exact .inr ⟨rfl, back.toTrailed, (ready.afterRewind (kept ran ready) known).known⟩
  | stopped _ first => exact (first plain ready (starts side .once)).afterError _ _
  | @spent s b done =>
    have here : Follows env scheme.see s { stop := s.place } {} s := Follows.refl s
    refine .inr (congrArg Verdict.fatal ?_)
    rw [← ready.stack]
    exact here.infiniteLoopAgrees rfl done
  | again ran moved _ round later =>
    refine (round plain ready.whenIsolated (starts side .round)).afterMatch fun m trail follows known => ?_
    have onward := rejoined ran ready
    rw [if_neg fun still => ?_]
    · have rest := later plain (ready.afterKept onward known) (starts side (.again ran.execResult moved))
      rw [follows.whenRejoined.endsAtPlace, follows.whenRejoined.recoveryCount] at rest
      exact rest.whenPrepended follows.whenRejoined onward.2.pathKept
    · rw [follows.whenRejoined.stoodStill.mpr ((env.meaningStood _ _).mp still)] at moved
      exact nomatch moved
  | stuck ran still round =>
    refine (round plain ready.whenIsolated (starts side .round)).afterMatch fun m trail follows known => ?_
    rw [if_pos ((env.meaningStood _ _).mpr (follows.whenRejoined.stoodStill.mp still)), ← ready.stack]
    exact .inr (congrArg Verdict.fatal (follows.whenRejoined.infiniteLoopAgrees (rejoined ran ready).2.stack _))
  | enough ran off round =>
    refine (round plain ready.whenIsolated (starts side .round)).afterMismatch fun trail trailed known => ?_
    obtain ⟨readyBack, _, back⟩ := ready.givenUp whole keeps ran trailed known
    rw [Semantics.mending, if_neg (by rw [trailed.mendsWhenAhead, off]; exact Bool.false_ne_true)]
    exact .inr ⟨rfl, back, readyBack.known⟩
  | resumed ran on recovered _ round later =>
    refine (round plain ready.whenIsolated (starts side .round)).afterMismatch fun trail trailed known => ?_
    exact ready.simulatesMending whole keeps starts refused side ran trailed known on recovered
      (fun _ ready' => later plain ready' (starts side (.recovered ran.execResult on recovered))) nofun
  | givenUp ran on failed round =>
    refine (round plain ready.whenIsolated (starts side .round)).afterMismatch fun trail trailed known => ?_
    exact ready.simulatesMending whole keeps starts refused side ran trailed known on failed nofun fun _ => rfl
  | failed _ round => exact (round plain ready.whenIsolated (starts side .round)).afterError _ _

end

end Session
end Packrat
