import Packrat.Proofs.Session.Replaying

/-! A run does what it means: the induction over the nesting of rules, for runs with a cache
and without one. -/
namespace Packrat.Session

def NeverRefuses (env : Setup) (rules : Rules) (depth : Nat) (task : Task) (s : Session) : Prop :=
  ∀ d failure t, Reached env rules depth task s d (.recover failure) t →
    t.recoveries.length < env.config.maxErrors

def meant (env : Setup) (rules : Rules) (depth : Nat) (around : Semantics.Around Place) (c : String × String)
    (s : Session) : Outcome :=
  env.meaning.guarded (Option.some env.config.maxErrors) rules depth (env.meaning.stack around) c.1 c.2 s.place
    s.recoveries.length

section
variable {env : Setup} {rules : Rules} {origin : Nat} {task : Task} {first : Session} {scheme : Scheme}
  {missed : Semantics.Around Place → Outcome → Prop} {invoked : String × String → Prop}

structure Asks (env : Setup) (rules : Rules) (origin : Nat) (task : Task) (first : Session) (scheme : Scheme)
    (invoked : String × String → Prop) (around : Semantics.Around Place) (depth : Nat) (c : String × String)
    (s : Session) : Prop where
  ready : s.Ready env scheme around
  called : invoked c
  deep : env.config.maxRuleDepth ≤ depth + around.length
  reached : Reached env rules origin task first depth (.body (.call c.1 c.2)) s

def meantInside (env : Setup) (rules : Rules) (depth : Nat) (around : Semantics.Around Place) (c : String × String)
    (s : Session) : Outcome :=
  env.meaning.eval (Option.some env.config.maxErrors) (env.meaning.stack ((c.1, s.place) :: around))
    (env.meaning.guarded (Option.some env.config.maxErrors) rules depth
      (env.meaning.stack ((c.1, s.place) :: around))) (rules.body c.2) s.place s.recoveries.length

theorem meantEntered {around : Semantics.Around Place} {c : String × String} {s : Session}
    (ready : s.Ready env scheme around) (enters : s.Enters env c.1) (depth : Nat) :
    s.meant env rules (depth + 1) around c =
      env.meaning.inRule c.1 s.place (s.meantInside env rules depth around c) := by
  have shut : ¬ (env.meaning.stack around).contains (c.1, s.place.offset) := by
    rw [← ready.stack, ← ready.settled.active]
    exact enters.1
  have room : ¬ env.config.maxRuleDepth ≤ (env.meaning.stack around).length := by
    rw [← ready.stack]
    exact Nat.not_le.mpr enters.2
  exact (if_neg shut).trans (if_neg room)

structure Accounts (env : Setup) (rules : Rules) (origin : Nat) (task : Task) (first : Session)
    (scheme : Scheme) (missed : Semantics.Around Place → Outcome → Prop) (invoked : String × String → Prop) :
    Prop where
  within : ∀ r, ∀ c ∈ (rules.body r).calls, invoked c
  refused : ∀ around {d failure t}, Reached env rules origin task first d (.recover failure) t →
    env.config.maxErrors ≤ t.recoveries.length → missed around .cut
  outside : ∀ {around depth c s}, Asks env rules origin task first scheme invoked around depth c s →
    (s.meant env rules depth around c).Halts →
    missed ((c.1, s.place) :: around) (s.meant env rules depth around c) →
    missed around (s.meant env rules depth around c)
  store : ∀ {around depth c s}, Asks env rules origin task first scheme invoked around depth c s →
    s.Enters env c.1 → s.remembered env c.1 = none → ∀ memo,
    memo.Records env scheme.see s.path (s.meant env rules depth around c) →
    scheme.valid (MemoKey.of c.1 s.state) memo
  hit : ∀ {around depth c s}, Asks env rules origin task first scheme invoked around depth c s →
    s.Enters env c.1 → ∀ memo, s.remembered env c.1 = Option.some memo →
    (s.meant env rules depth around c).Halts ∧ missed around (s.meant env rules depth around c) ∨
    ∃ path, memo.Records env scheme.see path (s.meant env rules depth around c) ∧
      SeenAlike env scheme.see path s.path (s.meant env rules depth around c)

theorem simulatesInvoke (whole : NoPairs env.source) (strict : rules.Strict)
    (accounts : Accounts env rules origin task first scheme missed invoked)
    (depth : Nat) {around : Semantics.Around Place} (deep : env.config.maxRuleDepth ≤ depth + around.length)
    {c : String × String} (called : invoked c) {s : Session} (ready : s.Ready env scheme around)
    (reached : Reached env rules origin task first depth (.body (.call c.1 c.2)) s) :
    s.Simulates env scheme (missed around) (s.meant env rules depth around c) (invoke env rules depth c.1 c.2 s) := by
  induction depth generalizing around c s with
  | zero =>
    have shallow : ¬ s.Enters env c.1 := by
      intro enters
      have := enters.2
      rw [ready.stack, Semantics.stack, List.length_map] at this
      omega
    exact simulatesSubrule (m := fun _ _ => .mismatch {}) (missed around) (keepsStill .mismatch) ready rfl
      (fun enters => absurd enters shallow) (fun enters => absurd enters shallow)
      (fun enters => absurd enters shallow) (fun enters => absurd enters shallow)
  | succ depth ih =>
    have asks : Asks env rules origin task first scheme invoked around (depth + 1) c s :=
      ⟨ready, called, deep, reached⟩
    have keeps := keepsExec whole (keepsInvoke whole rules depth) (rules.body c.2)
    refine simulatesSubrule (o := s.meantInside env rules depth around c) (missed ((c.1, s.place) :: around))
      keeps ready rfl ?_ ?_ ?_ ?_
    · intro enters miss
      have deeper : env.config.maxRuleDepth ≤ depth + ((c.1, s.place) :: around).length := by
        rw [List.length_cons]
        omega
      have plain : (Task.body (rules.body c.2)).Plain invoked := ⟨strict c.2, accounts.within c.2⟩
      have ran := execRan env (invoke env rules depth) (rules.body c.2) (opened env c.1 s (s.asked env c.1))
      have body := simulatesRan whole (keepsInvoke whole rules depth)
        (fun met starts => Reached.within met starts) (accounts.refused _)
        (fun called ready reached => ih deeper called ready reached) ran plain (ready.whenOpened miss)
        (reached.enter enters miss)
      rw [openedPlace, openedRecoveries] at body
      exact body
    · intro enters halts excused
      have same : s.meant env rules (depth + 1) around c = _ := meantEntered ready enters depth
      rw [Semantics.inRule, Result.elimHalts halts] at same
      rw [← same] at halts excused ⊢
      exact accounts.outside asks halts excused
    · intro enters miss memo records
      rw [← meantEntered ready enters] at records
      exact accounts.store asks enters miss memo records
    · intro enters memo found
      rw [← meantEntered ready enters]
      exact accounts.hit asks enters memo found

theorem simulatesEntry (whole : NoPairs env.source) (strict : rules.Strict)
    (accounts : Accounts env rules origin task first scheme missed invoked) {name rule : String}
    (called : invoked (name, rule)) {s : Session} (ready : s.Ready env scheme [])
    (reached : Reached env rules origin task first env.config.maxRuleDepth (.body (.call name rule)) s) :
    s.Simulates env scheme (missed []) (s.meant env rules env.config.maxRuleDepth [] (name, rule))
      (invoke env rules env.config.maxRuleDepth name rule s) :=
  simulatesInvoke whole strict accounts env.config.maxRuleDepth (Nat.le_refl _) called ready reached

theorem directAccounts (off : env.config.memoize = false) (never : NeverRefuses env rules origin task first)
    (see : Recovery → Recovery) :
    Accounts env rules origin task first ⟨see, fun _ _ => True⟩ (fun _ _ => False) (fun _ => True) where
  within := fun _ _ _ => trivial
  refused := fun _ {_ _ _} reached spent => absurd (never _ _ _ reached) (Nat.not_lt.mpr spent)
  outside := fun _ _ none => none.elim
  store := fun _ _ _ _ _ => trivial
  hit := by
    intro _ _ _ _ _ _ memo found
    rw [remembered, off] at found
    exact nomatch found

end

theorem neverRefusesOff {env : Setup} (off : env.config.recover = false) (rules : Rules) (depth : Nat)
    (b : Body) (s : Session) : NeverRefuses env rules depth (.body b) s := by
  have none : ∀ {d k t}, Reached env rules depth (.body b) s d k t → ∀ failure, k ≠ .recover failure := by
    intro d k t reached
    induction reached with
    | start => exact fun _ eq => nomatch eq
    | within before starts ih =>
      cases starts with
      | recover failed moved =>
        rw [off] at moved
        exact nomatch moved
      | _ => exact fun _ eq => nomatch eq
    | enter _ _ _ _ => exact fun _ eq => nomatch eq
  exact fun d failure t reached => absurd rfl (none reached failure)

/- A budget that exceeds the bytes of the source is never spent: every recovery has skipped at
least one of them. -/
theorem neverRefusesAmple {env : Setup} (whole : NoPairs env.source)
    (ample : byteLength env.source < env.config.maxErrors) (rules : Rules) (depth : Nat) (task : Task)
    {s : Session} (settled : s.Settled env) (start : s.recoveries = []) :
    NeverRefuses env rules depth task s := by
  intro d failure t reached
  have paid := reached.recoveriesPaid whole settled
  have inSource : t.state.offset ≤ byteLength env.source := (reached.keepsSettled whole settled).stands.offsetLe
  rw [start, List.length_nil] at paid
  omega

end Packrat.Session
