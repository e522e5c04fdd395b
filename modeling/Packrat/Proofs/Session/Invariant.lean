import Packrat.Proofs.Session.Running

/-! What holds all along a run. If each operation on a session keeps an invariant, so does every body and every
invocation, in the rounds and rules that are given up too. -/
namespace Packrat.Session

structure Invariant where
  holds : Session → Prop
  along : Session → Session → Prop

namespace Invariant

def Step (inv : Invariant) (s t : Session) : Prop := inv.holds t ∧ inv.along s t

def Obeys (inv : Invariant) (met : Task → Session → Prop) (k : Task) (a : Action) : Prop :=
  ∀ s, met k s → inv.holds s → inv.Step s (a s).2

def Anywhere (_ : Task) (_ : Session) : Prop := True

structure Quiet (inv : Invariant) (env : Setup) : Prop where
  refl : ∀ s, inv.along s s
  trans : ∀ {s t u}, inv.along s t → inv.along t u → inv.along s u
  scan : ∀ {s} goal, inv.holds s → inv.Step s (s.scan env goal).2
  rewound : ∀ {s t}, inv.holds s → inv.Step s t → inv.Step s (t.rewind s.mark)
  isolated : ∀ {s}, inv.holds s → inv.holds s.isolated
  rejoined : ∀ {s t}, inv.holds s → inv.Step s.isolated t → inv.Step s (s.rejoined t)

structure Taking (inv : Invariant) (env : Setup) (met : Task → Session → Prop) : Prop where
  consume : ∀ {s} token goal, met (.body (.consume token goal)) s → inv.holds s →
    inv.Step s (Session.consume env token goal s).2
  recover : ∀ {s} failure, met (.recover failure) s → inv.holds s → inv.Step s (s.recover env failure).2

structure Steady (inv : Invariant) (env : Setup) : Prop extends inv.Quiet env where
  consume : ∀ {s} token goal, inv.holds s → inv.Step s (Session.consume env token goal s).2
  recover : ∀ {s} failure, inv.holds s → inv.Step s (s.recover env failure).2

structure Nested (inv : Invariant) (env : Setup) : Prop extends inv.Quiet env where
  opened : ∀ {s name}, inv.holds s → s.remembered env name = none →
    inv.holds (Session.opened env name s (s.asked env name))
  closed : ∀ {s t name} verdict, inv.holds s → inv.Step (Session.opened env name s (s.asked env name)) t →
    inv.Step s (Session.closed env name s (verdict, t)).2

structure Upheld (inv : Invariant) (env : Setup) : Prop extends inv.Steady env, inv.Nested env

structure Kept (inv : Invariant) (env : Setup) : Prop extends inv.Upheld env where
  skipToken : ∀ {s t token next}, inv.holds s → s.scan env defaultGoal = (.token token next, t) →
    inv.Step s (t.commit token next)
  skipUnknown : ∀ {s t cursor c}, inv.holds s → s.scan env defaultGoal = (.unrecognized cursor c, t) →
    inv.Step s (t.commit (unrecognizedToken cursor c).1 (unrecognizedToken cursor c).2)

namespace Quiet

variable {inv : Invariant} {env : Setup} (kept : inv.Quiet env)
include kept

theorem stepToItself {s : Session} (holds : inv.holds s) : inv.Step s s := ⟨holds, kept.refl s⟩

theorem stepOnward {s t u : Session} (first : inv.Step s t) (later : inv.Step t u) : inv.Step s u :=
  ⟨later.1, kept.trans first.2 later.2⟩

section
variable {call : String → String → Action} {met : Task → Session → Prop}
  (starts : ∀ {k s k' t}, met k s → Starts env call k s k' t → met k' t)

theorem notAhead (token : String) (goal : Goal) (k : Task) : inv.Obeys met k (notAhead env token goal) := by
  intro s _ holds
  obtain ⟨verdict, _, eq⟩ := notAheadLooks env token goal s
  rw [eq]
  exact kept.scan goal holds

theorem sameLine (k : Task) : inv.Obeys met k (sameLine env) := by
  intro s _ holds
  obtain ⟨verdict, _, eq⟩ := sameLineLooks env s
  rw [eq]
  exact kept.scan defaultGoal holds

include starts

section
variable (taking : inv.Taking env met)
  (calls : ∀ name rule, inv.Obeys met (.body (.call name rule)) (call name rule))
include taking calls

theorem runSteps {k : Task} {s : Session} {r : Verdict × Session} (ran : Ran env call k s r) (side : met k s)
    (holds : inv.holds s) : inv.Step s r.2 := by
  induction ran with
  | consume => exact taking.consume _ _ side holds
  | notAhead => exact kept.notAhead _ _ _ _ side holds
  | sameLine => exact kept.sameLine _ _ side holds
  | call => exact calls _ _ _ side holds
  | parsed _ inner => exact inner (starts side .parsed) holds
  | attempt _ inner => exact inner (starts side .attempt) holds
  | next first _ step later =>
    have step := step (starts side .first) holds
    exact kept.stepOnward step (later (starts side (.next first.execResult)) step.1)
  | broken _ _ step => exact step (starts side .first) holds
  | branch _ _ step => exact step (starts side .branch) holds
  | other first _ step later =>
    have back := kept.rewound holds (step (starts side .branch) holds)
    exact kept.stepOnward back (later (starts side (.other first.execResult)) back.1)
  | present _ _ step => exact step (starts side .optional) holds
  | absent _ step => exact kept.rewound holds (step (starts side .optional) holds)
  | many _ rounds => exact rounds (starts side .many) holds
  | more first moved _ step rounds =>
    have step := step (starts side .once) holds
    exact kept.stepOnward step (rounds (starts side (.more first.execResult moved)) step.1)
  | unmoved _ _ step => exact step (starts side .once) holds
  | never _ step => exact kept.rewound holds (step (starts side .once) holds)
  | stopped _ step => exact step (starts side .once) holds
  | again round moved _ step later =>
    have joined := kept.rejoined holds (step (starts side .round) (kept.isolated holds))
    exact kept.stepOnward joined (later (starts side (.again round.execResult moved)) joined.1)
  | stuck _ _ step => exact kept.rejoined holds (step (starts side .round) (kept.isolated holds))
  | enough _ _ step =>
    exact kept.rewound holds (kept.rejoined holds (step (starts side .round) (kept.isolated holds)))
  | @resumed _ t _ _ _ _ _ round on recovered _ step later =>
    have back := kept.rewound holds (kept.rejoined holds (step (starts side .round) (kept.isolated holds)))
    have resumed := taking.recover t.furthest (starts side (.recover round.execResult on)) back.1
    rw [recovered] at resumed
    have onward := kept.stepOnward back resumed
    exact kept.stepOnward onward (later (starts side (.recovered round.execResult on recovered)) onward.1)
  | @givenUp _ t _ _ _ _ round on refused step =>
    have back := kept.rewound holds (kept.rejoined holds (step (starts side .round) (kept.isolated holds)))
    have resumed := taking.recover t.furthest (starts side (.recover round.execResult on)) back.1
    rw [refused] at resumed
    exact kept.stepOnward back resumed
  | failed _ step => exact kept.rejoined holds (step (starts side .round) (kept.isolated holds))
  | _ => exact kept.stepToItself holds

theorem execObeys (b : Body) : inv.Obeys met (.body b) (exec env call b) :=
  fun s side holds => kept.runSteps starts taking calls (execRan env call b s) side holds

theorem finishingSteps {k : Task} (whole : k.Whole) {s : Session} (side : met k s) (holds : inv.holds s) :
    inv.Step s (finishing env call k s) := by
  cases k with
  | body b => exact kept.execObeys starts taking calls b s side holds
  | rounds b fuel done => exact kept.runSteps starts taking calls (repeatRan env call b fuel done s) side holds
  | recover failure => exact taking.recover failure side holds
  | skip fuel => exact whole.elim

theorem startingHolds {k k' : Task} (whole : k.Whole) {s t : Session} (side : met k s) (holds : inv.holds s)
    (start : Starts env call k s k' t) : inv.holds t ∧ (t = s.isolated ∨ inv.along s t) := by
  have ran : ∀ {b u r}, met (.body b) u → inv.holds u → Session.exec env call b u = r → inv.Step u r.2 :=
    fun side holds eq => eq ▸ kept.execObeys starts taking calls _ _ side holds
  have onward : ∀ {t}, inv.Step s t → inv.holds t ∧ (t = s.isolated ∨ inv.along s t) :=
    fun step => ⟨step.1, .inr step.2⟩
  have round : ∀ {b fuel done verdict t}, met (.rounds b (fuel + 1) done) s →
      Session.exec env call b s.isolated = (verdict, t) → inv.Step s (s.rejoined t) :=
    fun side eq => kept.rejoined holds (ran (starts side .round) (kept.isolated holds) eq)
  cases start with
  | first => exact onward (kept.stepToItself holds)
  | next matched => exact onward (ran (starts side .first) holds matched)
  | branch => exact onward (kept.stepToItself holds)
  | other failed => exact onward (kept.rewound holds (ran (starts side .branch) holds failed))
  | optional => exact onward (kept.stepToItself holds)
  | many => exact onward (kept.stepToItself holds)
  | once => exact onward (kept.stepToItself holds)
  | more matched _ => exact onward (ran (starts side .once) holds matched)
  | parsed => exact onward (kept.stepToItself holds)
  | attempt => exact onward (kept.stepToItself holds)
  | round => exact ⟨kept.isolated holds, .inl rfl⟩
  | again matched _ => exact onward (round side matched)
  | recover failed _ => exact onward (kept.rewound holds (round side failed))
  | @recovered _ t _ _ _ _ failed moved done =>
    have back := kept.rewound holds (round side failed)
    have recovered := taking.recover t.furthest (starts side (.recover failed moved)) back.1
    rw [done] at recovered
    exact onward (kept.stepOnward back recovered)
  | skip _ => exact onward (kept.stepToItself holds)
  | skipToken _ _ => exact whole.elim
  | skipUnknown _ => exact whole.elim

end
end

end Quiet

namespace Steady

variable {inv : Invariant} {env : Setup} (kept : inv.Steady env)
include kept

theorem takingKept (met : Task → Session → Prop) : inv.Taking env met where
  consume := fun token goal _ holds => kept.consume token goal holds
  recover := fun failure _ holds => kept.recover failure holds

section
variable {call : String → String → Action} {met : Task → Session → Prop}
  (starts : ∀ {k s k' t}, met k s → Starts env call k s k' t → met k' t)
  (calls : ∀ name rule, inv.Obeys met (.body (.call name rule)) (call name rule))
include starts calls

theorem execObeys (b : Body) : inv.Obeys met (.body b) (exec env call b) :=
  kept.toQuiet.execObeys starts (kept.takingKept met) calls b

theorem finishingSteps {k : Task} (whole : k.Whole) {s : Session} (side : met k s) (holds : inv.holds s) :
    inv.Step s (finishing env call k s) :=
  kept.toQuiet.finishingSteps starts (kept.takingKept met) calls whole side holds

theorem startingHolds {k k' : Task} (whole : k.Whole) {s t : Session} (side : met k s) (holds : inv.holds s)
    (start : Starts env call k s k' t) : inv.holds t ∧ (t = s.isolated ∨ inv.along s t) :=
  kept.toQuiet.startingHolds starts (kept.takingKept met) calls whole side holds start

end
end Steady

namespace Nested

variable {inv : Invariant} {env : Setup} (kept : inv.Nested env)
include kept

theorem subruleSteps {name : String} {body : Action} {s : Session} (holds : inv.holds s)
    (fresh : s.Enters env name → s.remembered env name = none →
      inv.Step (Session.opened env name s (s.asked env name)) (body (Session.opened env name s (s.asked env name))).2)
    (hit : s.Enters env name → ∀ memo, s.remembered env name = Option.some memo →
      ∀ cache log, (∀ e ∈ cache.entries, e ∈ s.memo.entries) →
      inv.Step s (({ s with memo := cache, log := log } : Session).replay memo).2) :
    inv.Step s (subrule env name body s).2 := by
  rcases subruleCases env name body s with ⟨_, eq⟩ | ⟨_, _, eq⟩ | ⟨memo, enters, found, eq⟩ | ⟨enters, miss, eq⟩
  · rw [eq]
    exact kept.stepToItself holds
  · rw [eq]
    exact kept.stepToItself holds
  · rw [eq]
    exact hit enters memo found _ _ askedSubset
  · rw [eq]
    exact kept.closed _ holds (fresh enters miss)

section
variable {rules : Rules} {origin : Nat} {task : Task} {first : Session}
  (hits : ∀ {s name memo}, Answers env rules origin task first name s memo → inv.holds s →
    ∀ cache log, (∀ e ∈ cache.entries, e ∈ s.memo.entries) →
      inv.Step s (({ s with memo := cache, log := log } : Session).replay memo).2)
  (taking : ∀ d, inv.Taking env (Reached env rules origin task first d))
include hits taking

theorem invokeObeys (depth : Nat) (name rule : String) :
    inv.Obeys (Reached env rules origin task first depth) (.body (.call name rule))
      (invoke env rules depth name rule) := by
  induction depth generalizing name rule with
  | zero =>
    intro s reached holds
    exact kept.subruleSteps holds (fun _ miss => kept.stepToItself (kept.opened holds miss))
      fun enters memo found => hits ⟨0, rule, reached, enters, found⟩ holds
  | succ depth ih =>
    intro s reached holds
    refine kept.subruleSteps holds (fun enters miss => ?_)
      fun enters memo found => hits ⟨depth + 1, rule, reached, enters, found⟩ holds
    exact kept.execObeys Reached.within (taking depth) ih (rules.body rule) _ (.enter reached enters miss)
      (kept.opened holds miss)

theorem holdsWhenReached (holds : inv.holds first) {d : Nat} {k : Task} {t : Session}
    (reached : Reached env rules origin task first d k t) (whole : k.Whole) : inv.holds t := by
  induction reached with
  | start => exact holds
  | @within d _ _ _ _ before starts ih =>
    have whole' := starts.wholeBefore whole
    exact (kept.startingHolds Reached.within (taking d) (kept.invokeObeys hits taking d) whole' before
      (ih whole') starts).1
  | enter _ _ miss ih => exact kept.opened (ih trivial) miss

theorem holdsAtPauses (holds : inv.holds first) {t : Session} (pauses : Pauses env rules origin task first t) :
    inv.holds t := by
  obtain ⟨d, k, u, reached, whole, rfl | rfl⟩ := pauses
  · exact kept.holdsWhenReached hits taking holds reached whole
  · have here := kept.holdsWhenReached hits taking holds reached whole
    exact (kept.finishingSteps Reached.within (taking d) (kept.invokeObeys hits taking d) whole reached here).1

end
end Nested

namespace Upheld

variable {inv : Invariant} {env : Setup} (kept : inv.Upheld env) {rules : Rules} {origin : Nat} {task : Task}
  {first : Session}
  (hits : ∀ {s name memo}, Answers env rules origin task first name s memo → inv.holds s →
    ∀ cache log, (∀ e ∈ cache.entries, e ∈ s.memo.entries) →
      inv.Step s (({ s with memo := cache, log := log } : Session).replay memo).2)
include kept hits

theorem invokeObeys (depth : Nat) (name rule : String) :
    inv.Obeys (Reached env rules origin task first depth) (.body (.call name rule))
      (invoke env rules depth name rule) :=
  kept.toNested.invokeObeys hits (fun _ => kept.takingKept _) depth name rule

theorem holdsAtPauses (holds : inv.holds first) {t : Session} (pauses : Pauses env rules origin task first t) :
    inv.holds t :=
  kept.toNested.holdsAtPauses hits (fun _ => kept.takingKept _) holds pauses

end Upheld

namespace Kept

variable {inv : Invariant} {env : Setup} (kept : inv.Kept env)
include kept

theorem skipSteps (fuel : Nat) {s : Session} (holds : inv.holds s) : inv.Step s (s.skip env fuel).2 := by
  induction fuel generalizing s with
  | zero => exact kept.stepToItself holds
  | succ fuel ih =>
    have step := kept.scan defaultGoal holds
    unfold Session.skip
    cases scan : s.scan env defaultGoal with
    | mk found t =>
      rw [scan] at step
      cases found with
      | token token next =>
        have taken := kept.skipToken holds scan
        simp only
        split
        · exact taken
        · exact kept.stepOnward taken (ih taken.1)
      | ended cursor => exact step
      | unrecognized cursor c =>
        have taken := kept.skipUnknown holds scan
        exact kept.stepOnward taken (ih taken.1)

section
variable {call : String → String → Action} {met : Task → Session → Prop}
  (starts : ∀ {k s k' t}, met k s → Starts env call k s k' t → met k' t)
  (calls : ∀ name rule, inv.Obeys met (.body (.call name rule)) (call name rule))
include starts calls

theorem finishingSteps (k : Task) {s : Session} (side : met k s) (holds : inv.holds s) :
    inv.Step s (finishing env call k s) := by
  by_cases whole : k.Whole
  · exact kept.toUpheld.finishingSteps starts calls whole side holds
  · cases k with
    | skip fuel => exact kept.skipSteps fuel holds
    | _ => exact absurd trivial whole

theorem startingHolds {k k' : Task} {s t : Session} (side : met k s) (holds : inv.holds s)
    (start : Starts env call k s k' t) : inv.holds t ∧ (t = s.isolated ∨ inv.along s t) := by
  by_cases whole : k.Whole
  · exact kept.toUpheld.startingHolds starts calls whole side holds start
  · cases start with
    | skipToken found _ => exact (kept.skipToken holds found).imp_right .inr
    | skipUnknown found => exact (kept.skipUnknown holds found).imp_right .inr
    | _ => exact absurd trivial whole

end

section
variable {rules : Rules} {origin : Nat} {task : Task} {first : Session}
  (hits : ∀ {s name memo}, Answers env rules origin task first name s memo → inv.holds s →
    ∀ cache log, (∀ e ∈ cache.entries, e ∈ s.memo.entries) →
      inv.Step s (({ s with memo := cache, log := log } : Session).replay memo).2)
include hits

theorem holdsWhenReached (holds : inv.holds first) {d : Nat} {k : Task} {t : Session}
    (reached : Reached env rules origin task first d k t) : inv.holds t := by
  induction reached with
  | start => exact holds
  | @within d _ _ _ _ before starts ih =>
    exact (kept.startingHolds Reached.within (kept.invokeObeys hits d) before ih starts).1
  | enter _ _ miss ih => exact kept.opened ih miss

theorem holdsInPasses (holds : inv.holds first) {t : Session} (passes : Passes env rules origin task first t) :
    inv.holds t := by
  obtain ⟨d, k, u, reached, rfl | rfl⟩ := passes
  · exact kept.holdsWhenReached hits holds reached
  · exact (kept.finishingSteps Reached.within (kept.invokeObeys hits d) k reached
      (kept.holdsWhenReached hits holds reached)).1

end
end Kept
end Invariant
end Packrat.Session
