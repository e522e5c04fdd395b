import Packrat.Proofs.Session.Coursing

/-! Invocations take the course of their rules: the induction over the nesting of rules, for runs
with a cache and without one, and along all that a run comes to. -/
namespace Packrat.Session

section
variable {env : Setup} {valid : MemoKey → Memo → Prop} {s t : Session} {name : String} {o : Course}

theorem closedArrives {memo : Cache MemoKey Memo} {verdict : Verdict}
    (step : (growing env).Step (opened env name s memo) t) (h : Arrives env valid o (verdict, t))
    (store : ∀ m : Memo, m.Tells o → valid (MemoKey.of name s.state) m) :
    Arrives env valid o (closed env name s (verdict, t)) := by
  have remembers : ∀ m : Memo, m.Tells o → t.Trusts env valid →
      env.config.memoize → ∀ e ∈ (remembering env t.memo (MemoKey.of name s.state) m).entries, valid e.1 e.2 := by
    intro m tells trusts memoize e member
    rcases memRemembering member with rfl | old
    · exact store m tells
    · exact trusts memoize e old
  obtain ⟨_, g, grows⟩ := step
  cases verdict with
  | ok =>
    obtain ⟨course, trusts⟩ := h.courseOfMatch
    obtain ⟨stats, log, eq⟩ := closedOk env name s t grows.framedByRule.inFrame
    have recalls := remembers (successOf name s t) course trusts
    rw [eq, course]
    refine ⟨rfl, ?_, ?_⟩
    · rw [pushChildState]
    · unfold Trusts
      rw [pushChildMemo]
      exact recalls
  | mismatch =>
    obtain ⟨course, trusts⟩ := h.courseOfMismatch
    obtain ⟨log, eq⟩ := closedMismatch env name s t
    have recalls := remembers (failureOf s t) course trusts
    rw [eq, course]
    exact ⟨rfl, recalls⟩
  | fatal error =>
    obtain ⟨log, eq⟩ := closedFatal env name s t error
    rw [eq, h.courseOfError]
    exact ⟨error, rfl, rfl⟩

theorem replayArrives {memo : Memo} (tells : memo.Tells o) (trusts : s.Trusts env valid) :
    Arrives env valid o (s.replay memo) := by
  cases memo with
  | success stop node tokens attempt =>
    rw [show o = .ok stop.spot () from tells]
    refine ⟨rfl, ?_, ?_⟩
    · simp only [replay, replayAttempt, pushChildState]
      rfl
    · unfold Trusts
      simp only [replay, replayAttempt, pushChildMemo]
      exact trusts
  | failure attempt =>
    rw [show o = .mismatch () from tells]
    exact ⟨rfl, trusts⟩

end

namespace Pursuit

structure Calling (x : Pursuit) (invoked : String × String → Prop) (around : Semantics.Around Spot) (d : Nat)
    (c : String × String) (s : Session) : Prop where
  due : x.Due around d (.body (.call c.1 c.2)) s
  called : invoked c
  deep : x.env.config.maxRuleDepth ≤ d + around.length

structure Honest (x : Pursuit) (invoked : String × String → Prop) : Prop where
  off : x.env.config.recover = false
  strict : x.rules.Strict
  within : ∀ r, ∀ c ∈ (x.rules.body r).calls, invoked c
  inside : ∀ {around d c s}, x.Calling invoked around d c s →
    Course.Fair (x.stops ((c.1, s.state.spot) :: around)) (x.walk around d (.body (.call c.1 c.2)) s.state.spot)
  store : ∀ {around d c s}, x.Calling invoked around d c s → ∀ memo : Memo,
    memo.Tells (x.walk around d (.body (.call c.1 c.2)) s.state.spot) → x.valid (MemoKey.of c.1 s.state) memo
  hit : ∀ {around d c s}, x.Calling invoked around d c s → s.Enters x.env c.1 → ∀ memo : Memo,
    s.remembered x.env c.1 = Option.some memo → memo.Tells (x.walk around d (.body (.call c.1 c.2)) s.state.spot)

variable {x : Pursuit} {invoked : String × String → Prop} {around : Semantics.Around Spot} {d : Nat}
  {c : String × String} {s t : Session}

theorem isOpenIff (h : s.Underway x.env x.valid around) (name : String) :
    s.active.contains (s.here name) = (x.env.course.stack around).contains (name, s.state.spot.offset) := by
  rw [h.sound.active, h.stack]
  rfl

theorem Due.refusedArrives {name rule : String} (due : x.Due around d (.body (.call name rule)) s)
    (refused : ¬ s.Enters x.env name) (body : Action) :
    Arrives x.env x.valid (x.walk around d (.body (.call name rule)) s.state.spot) (subrule x.env name body s) := by
  have guard := isOpenIff due.underway name
  obtain ⟨inner, entering⟩ : ∃ inner, x.env.course.guarded none x.rules d (x.env.course.stack around) name rule =
      x.env.course.entering (x.env.course.stack around) name inner := by
    cases d <;> exact ⟨_, rfl⟩
  show Arrives x.env x.valid (x.env.course.guarded none x.rules d (x.env.course.stack around) name rule _ 0) _
  rw [entering, Semantics.entering]
  by_cases isOpen : s.active.contains (s.here name)
  · rw [subruleOpen body isOpen, if_pos (guard ▸ isOpen)]
    exact ⟨_, rfl, rfl⟩
  · have deep : x.env.config.maxRuleDepth ≤ s.ruleStack.length := by
      by_contra room
      exact refused ⟨isOpen, Nat.not_le.mp room⟩
    have levels : x.env.course.levels ≤ (x.env.course.stack around).length := by
      rw [← due.underway.stack]
      exact deep
    rw [subruleDeep body isOpen deep, if_neg (guard ▸ isOpen), if_pos levels]
    exact ⟨_, rfl, rfl⟩

theorem Calling.dueInside (calling : x.Calling invoked around (d + 1) c s) (honest : x.Honest invoked)
    (enters : s.Enters x.env c.1) (miss : s.remembered x.env c.1 = none) :
    x.Due ((c.1, s.state.spot) :: around) d (.body (x.rules.body c.2)) (opened x.env c.1 s (s.asked x.env c.1)) ∧
      x.walk around (d + 1) (.body (.call c.1 c.2)) s.state.spot =
        x.walk ((c.1, s.state.spot) :: around) d (.body (x.rules.body c.2)) s.state.spot := by
  have underway := calling.due.underway
  have view := openedView x.env c.1 s (s.asked x.env c.1)
  simp only [Session.view, View.mk.injEq] at view
  obtain ⟨state, _, stack, _, _, _⟩ := view
  have shut : ¬ (x.env.course.stack around).contains (c.1, s.state.spot.offset) := by
    rw [← isOpenIff underway]
    exact enters.1
  have room : ¬ x.env.course.levels ≤ (x.env.course.stack around).length := by
    rw [← underway.stack]
    exact Nat.not_le.mpr enters.2
  have same : x.walk around (d + 1) (.body (.call c.1 c.2)) s.state.spot =
      x.walk ((c.1, s.state.spot) :: around) d (.body (x.rules.body c.2)) s.state.spot :=
    (if_neg shut).trans ((if_neg room).trans (x.env.courseInRule _ _ _))
  refine ⟨⟨⟨underway.sound.whenOpened miss, ?_, ?_, ?_⟩, calling.due.reached.enter enters miss, ?_⟩, same⟩
  · rw [stack, underway.stack]
    rfl
  · rw [state]
    exact Ahead.allEntered underway.inside c.1 (.refl _)
  · obtain ⟨log, eq⟩ := openedAsUpdate x.env c.1 s (s.asked x.env c.1)
    intro memoize e member
    rw [eq] at member
    exact underway.trusts memoize e (askedEntries miss ▸ member)
  · rw [state, ← same]
    exact honest.inside calling

theorem followsInvoke (honest : x.Honest invoked) (d : Nat) {around : Semantics.Around Spot}
    (deep : x.env.config.maxRuleDepth ≤ d + around.length) {c : String × String} (called : invoked c) {s : Session}
    (due : x.Due around d (.body (.call c.1 c.2)) s) :
    x.Follows around d (.body (.call c.1 c.2)) s (x.call d c.1 c.2 s) := by
  induction d generalizing around c s with
  | zero =>
    refine due.refusedArrives (fun enters => ?_) _
    have room := enters.2
    rw [due.underway.stack, Semantics.stack, List.length_map] at room
    omega
  | succ d ih =>
    have calling : x.Calling invoked around (d + 1) c s := ⟨due, called, deep⟩
    by_cases enters : s.Enters x.env c.1
    · cases asked : s.remembered x.env c.1 with
      | some memo =>
        obtain ⟨log, cache, subset, eq⟩ := subruleHit (exec x.env (x.call d) (x.rules.body c.2)) enters asked
        have trusts : ({ s with memo := cache, log := log } : Session).Trusts x.env x.valid :=
          fun memoize e member => due.underway.trusts memoize e (subset e member)
        rw [show x.call (d + 1) c.1 c.2 s = _ from eq]
        exact replayArrives (honest.hit calling enters memo asked) trusts
      | none =>
        obtain ⟨inner, same⟩ := calling.dueInside honest enters asked
        have deeper : x.env.config.maxRuleDepth ≤ d + ((c.1, s.state.spot) :: around).length := by
          rw [List.length_cons]
          omega
        have plain : (Task.body (x.rules.body c.2)).Plain invoked := ⟨honest.strict c.2, honest.within c.2⟩
        have state := openedState x.env c.1 s (s.asked x.env c.1)
        have ran := execRan x.env (x.call d) (x.rules.body c.2) (opened x.env c.1 s (s.asked x.env c.1))
        have arrives := followsRan honest.off (fun called due => ih deeper called due) ran plain inner
        rw [Follows, state, ← same] at arrives
        rw [show x.call (d + 1) c.1 c.2 s = _ from subruleFresh (exec x.env (x.call d) (x.rules.body c.2)) enters asked]
        exact closedArrives (inner.runGrows ran) arrives (honest.store calling)
    · exact due.refusedArrives enters _

theorem followsPlain (honest : x.Honest invoked) (deep : x.env.config.maxRuleDepth ≤ d + around.length) {k : Task}
    {r : Verdict × Session} (ran : Ran x.env (x.call d) k s r) (plain : k.Plain invoked)
    (due : x.Due around d k s) : x.Follows around d k s r :=
  followsRan honest.off (fun called due => followsInvoke honest d deep called due) ran plain due

theorem Due.dueOnward (honest : x.Honest invoked) (deep : x.env.config.maxRuleDepth ≤ d + around.length) {k k' : Task}
    (due : x.Due around d k s) (plain : k.Plain invoked) (starts : Starts x.env (x.call d) k s k' t) :
    x.Due around d k' t := by
  have follow : ∀ {b u r}, x.Due around d (.body b) u → (Task.body b).Plain invoked →
      exec x.env (x.call d) b u = r → Ran x.env (x.call d) (.body b) u r ∧ x.Follows around d (.body b) u r := by
    intro b u r due plain came
    have ran := execRan x.env (x.call d) b u
    rw [came] at ran
    exact ⟨ran, followsPlain honest deep ran plain due⟩
  cases starts with
  | first => exact due.firstPart
  | next matched =>
    obtain ⟨ran, follows⟩ := follow due.firstPart (Task.plainParts plain).1 matched
    exact (due.laterParts ran follows).1
  | branch => exact due.firstBranch
  | other failed =>
    obtain ⟨ran, follows⟩ := follow due.firstBranch (Task.plainParts plain).1 failed
    exact (due.laterBranches ran follows).1
  | optional => exact due.insideOptional
  | many => exact due.insideMany.1
  | once => exact due.onceInSome
  | more matched moved =>
    obtain ⟨ran, follows⟩ := follow due.onceInSome plain matched
    exact (due.moreInSome ran follows moved).1
  | parsed => exact due.whenParsing.1
  | attempt => exact nomatch plain.1
  | round => exact due.insideRound
  | again matched moved =>
    obtain ⟨ran, follows⟩ := follow due.insideRound plain matched
    exact (due.nextRound ran follows moved).1
  | recover _ moved =>
    rw [honest.off] at moved
    exact nomatch moved
  | recovered _ moved _ =>
    rw [honest.off] at moved
    exact nomatch moved
  | skip _ => exact False.elim plain
  | skipToken _ _ => exact False.elim plain
  | skipUnknown _ => exact False.elim plain

theorem dueReached (honest : x.Honest invoked) (start : x.Due around x.depth x.task x.first)
    (deep : x.env.config.maxRuleDepth ≤ x.depth + around.length) (plain : x.task.Plain invoked) {k : Task}
    (reached : Reached x.env x.rules x.depth x.task x.first d k t) :
    ∃ around, x.env.config.maxRuleDepth ≤ d + around.length ∧ k.Plain invoked ∧ x.Due around d k t := by
  induction reached with
  | start => exact ⟨around, deep, plain, start⟩
  | within _ starts ih =>
    obtain ⟨around, deep, plain, due⟩ := ih
    exact ⟨around, deep, starts.keepsPlain honest.off plain, due.dueOnward honest deep plain starts⟩
  | @enter d name rule u _ enters miss ih =>
    obtain ⟨around, deep, plain, due⟩ := ih
    have calling : x.Calling invoked around (d + 1) (name, rule) u := ⟨due, plain.2 _ List.mem_cons_self, deep⟩
    refine ⟨(name, u.state.spot) :: around, ?_, ⟨honest.strict rule, honest.within rule⟩,
      (calling.dueInside honest enters miss).1⟩
    rw [List.length_cons]
    omega

end Pursuit
end Packrat.Session
