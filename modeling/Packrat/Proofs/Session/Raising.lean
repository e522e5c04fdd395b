import Packrat.Proofs.Session.Deriving

/-! Where a fatal verdict comes from. No body makes another error of it, so it was raised by a body that does
nothing else, a repetition that stands still, or a rule that was refused. -/
namespace Packrat.Session

def FailsBy (met : Task → Session → Prop) (owned : ParseError → Prop) (k : Task) (a : Action) : Prop :=
  ∀ s error, met k s → (a s).1 = .fatal error → owned error

variable {env : Setup} {call : String → String → Action} {met : Task → Session → Prop}
  {owned : ParseError → Prop}

theorem consumeNotFatal (env : Setup) (token : String) (goal : Goal) (s : Session) (error : ParseError) :
    (consume env token goal s).1 ≠ .fatal error := by
  unfold consume
  split
  · split <;> exact nofun
  · exact nofun

theorem notAheadNotFatal (env : Setup) (token : String) (goal : Goal) (s : Session) (error : ParseError) :
    (notAhead env token goal s).1 ≠ .fatal error := by
  obtain ⟨verdict, quiet, eq⟩ := notAheadLooks env token goal s
  rw [eq]
  exact quiet error

theorem sameLineNotFatal (env : Setup) (s : Session) (error : ParseError) : (sameLine env s).1 ≠ .fatal error := by
  obtain ⟨verdict, quiet, eq⟩ := sameLineLooks env s
  rw [eq]
  exact quiet error

section
variable (starts : ∀ {k s k' t}, met k s → Starts env call k s k' t → met k' t)
  (loops : ∀ {k s} t m attempts, met k s → t = s ∨ t = finishing env call k s → owned (infiniteLoop t m attempts))
  (raises : ∀ s error, met (.body (.raise error)) s → owned error)
  (calls : ∀ name rule, FailsBy met owned (.body (.call name rule)) (call name rule))
include starts loops raises calls

theorem Ran.errorsOwned {k : Task} {s : Session} {r : Verdict × Session} (ran : Ran env call k s r) (side : met k s)
    {error : ParseError} (fatal : r.1 = .fatal error) : owned error := by
  induction ran with
  | consume => exact absurd fatal (consumeNotFatal env _ _ _ error)
  | notAhead => exact absurd fatal (notAheadNotFatal env _ _ _ error)
  | sameLine => exact absurd fatal (sameLineNotFatal env _ error)
  | raise =>
    cases fatal
    exact raises _ _ side
  | call => exact calls _ _ _ error side fatal
  | parsed _ inner => exact inner (starts side .parsed) fatal
  | next first _ _ later => exact later (starts side (.next first.execResult)) fatal
  | broken _ _ inner => exact inner (starts side .first) fatal
  | branch _ _ inner => exact inner (starts side .branch) fatal
  | other first _ _ later => exact later (starts side (.other first.execResult)) fatal
  | present _ _ inner => exact inner (starts side .optional) fatal
  | many _ rounds => exact rounds (starts side .many) fatal
  | more first moved _ _ rounds => exact rounds (starts side (.more first.execResult moved)) fatal
  | @unmoved s t _ first =>
    cases fatal
    exact loops t s.mark 1 (starts side .once) (.inr (congrArg Prod.snd first.execResult).symm)
  | stopped _ inner => exact inner (starts side .once) fatal
  | @spent s =>
    cases fatal
    exact loops s _ _ side (.inl rfl)
  | again round moved _ _ later => exact later (starts side (.again round.execResult moved)) fatal
  | @stuck s t _ _ done round =>
    cases fatal
    exact loops t s.mark (done + 1) (starts side .round) (.inr (congrArg Prod.snd round.execResult).symm)
  | resumed round on recovered _ _ later => exact later (starts side (.recovered round.execResult on recovered)) fatal
  | failed _ inner => exact inner (starts side .round) fatal
  | _ => cases fatal

theorem failsExec (b : Body) : FailsBy met owned (.body b) (exec env call b) :=
  fun s _ side fatal => (execRan env call b s).errorsOwned starts loops raises calls side fatal

end

variable {name : String} {s : Session}

theorem closedVerdict (env : Setup) (name : String) (s : Session) (r : Verdict × Session) :
    (closed env name s r).1 = r.1 := by
  obtain ⟨verdict, t⟩ := r
  cases verdict with
  | ok => rfl
  | mismatch => rfl
  | fatal error => rfl

theorem replayNotFatal (s : Session) (memo : Memo) (error : ParseError) : (s.replay memo).1 ≠ .fatal error := by
  cases memo <;> exact nofun

theorem subruleFatal {body : Action} {error : ParseError} (fatal : (subrule env name body s).1 = .fatal error) :
    (s.active.contains (s.here name) ∧ error = s.leftRecursion name) ∨ error = s.recursionLimit env name ∨
      (s.Enters env name ∧ s.remembered env name = none ∧
        (body (opened env name s (s.asked env name))).1 = .fatal error) := by
  rcases subruleCases env name body s with ⟨isOpen, eq⟩ | ⟨_, _, eq⟩ | ⟨memo, _, _, eq⟩ | ⟨enters, miss, eq⟩
  · rw [eq] at fatal
    exact .inl ⟨isOpen, (Verdict.fatal.inj fatal).symm⟩
  · rw [eq] at fatal
    exact .inr (.inl (Verdict.fatal.inj fatal).symm)
  · rw [eq] at fatal
    exact absurd fatal (replayNotFatal _ memo error)
  · rw [eq, closedVerdict] at fatal
    exact .inr (.inr ⟨enters, miss, fatal⟩)

inductive Raised (env : Setup) (rules : Rules) (depth : Nat) (task : Task) (first : Session) (error : ParseError) :
    Prop where
  | byBody {d t} (reached : Reached env rules depth task first d (.body (.raise error)) t) :
      Raised env rules depth task first error
  | reentered {d name rule t} (reached : Reached env rules depth task first d (.body (.call name rule)) t)
      (isOpen : t.active.contains (t.here name)) (told : error = t.leftRecursion name) :
      Raised env rules depth task first error

section
variable {rules : Rules} {origin : Nat} {task : Task} {first : Session}

abbrev Blames (env : Setup) (rules : Rules) (origin : Nat) (task : Task) (first : Session) (error : ParseError) :
    Prop :=
  error.isLeftRecursion → Raised env rules origin task first error

theorem failsSubrule {name rule : String} {d : Nat} {body : Action}
    (inside : ∀ s error, Reached env rules origin task first d (.body (.call name rule)) s → s.Enters env name →
      s.remembered env name = none → (body (opened env name s (s.asked env name))).1 = .fatal error →
      Blames env rules origin task first error) :
    FailsBy (Reached env rules origin task first d) (Blames env rules origin task first) (.body (.call name rule))
      (subrule env name body) := by
  intro s error reached fatal blamed
  rcases subruleFatal fatal with ⟨isOpen, told⟩ | told | ⟨enters, miss, ran⟩
  · exact .reentered reached isOpen told
  · rw [told] at blamed
    exact nomatch blamed
  · exact inside s error reached enters miss ran blamed

theorem failsInvoke (depth : Nat) (name rule : String) :
    FailsBy (Reached env rules origin task first depth) (Blames env rules origin task first)
      (.body (.call name rule)) (invoke env rules depth name rule) := by
  induction depth generalizing name rule with
  | zero => exact failsSubrule fun _ _ _ _ _ fatal => nomatch fatal
  | succ depth ih =>
    refine failsSubrule fun s error reached enters miss fatal => ?_
    exact failsExec Reached.within (fun _ _ _ _ _ blamed => nomatch blamed) (fun _ _ met _ => .byBody met) ih _ _ _
      (.enter reached enters miss) fatal

theorem raisedExec {depth : Nat} {b : Body} {s : Session} {error : ParseError}
    (fatal : (exec env (invoke env rules depth) b s).1 = .fatal error) (blamed : error.isLeftRecursion) :
    Raised env rules depth (.body b) s error :=
  failsExec Reached.within (fun _ _ _ _ _ blamed => nomatch blamed) (fun _ _ met _ => .byBody met)
    (failsInvoke depth) b s error .start fatal blamed

end
end Packrat.Session
